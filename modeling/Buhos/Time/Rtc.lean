import Buhos.Time.Sleep

/-!
# Reading and setting the RTC

`time_load(t, buf)` copies the RTC's date-time bytes into `char buf[]` and from there into the
fields of `t`, and reads `REG_CENTURY` into the global `century`. `time_get(t)` loads, then keeps
`u8` copies of the fields and loads again until two loads in a row agree; it then decodes BCD
unless register B has `BINARY_MODE`, turns a 12-hour clock into a 24-hour one unless it has
`FORMAT_24HOURS`, and adds the century. `time_set(t)` writes the fields, the year modulo 100,
and `century = t->year / 100` as a `u8`, BCD-encoded when `BCD_to_binary(RegisterB)` says so.

`char` is signed: `t->year = buf[5]` sign-extends a year byte from `0x80` on, while `last_year`
keeps it as a `u8`. The two never agree again, so such a byte never ends the loop.

The environment: `rd k` is what the `k`-th `time_load` reads, after the wait on the
update-in-progress flag; `rb` is register B. `BINARY_MODE`, `FORMAT_24HOURS` and `BIN_TO_BCD`
are defined in `rtc.h`, which is not in the sources: they are parameters here.

* `timeGet_eq_some_iff`: **`time_get` returns exactly at the first load that repeats the one
  before it with a year byte below `0x80`**, and so never returns while the year byte stays at
  `0x80` or above (`timeGet_year_high`).
* `time_set_get`: **in binary mode, `time_get` after `time_set(t)` reads `t` back, the year modulo
  `25600`**: the century is kept in a `u8`.
* `time_set_get_bcd`: **in BCD mode it reads `t` back exactly** when the fields have two digits
  and the year's last two digits are below `80`; from `80` on the year byte hangs `time_get`.
-/

namespace Buhos.Time

/-- The registers `time_load` reads: the bytes of `fdrtc` (seconds, minutes, hours, day, month,
year) and `REG_CENTURY`. -/
structure RtcRegs where
  seconds : UInt8
  minutes : UInt8
  hours : UInt8
  day : UInt8
  month : UInt8
  year : UInt8
  century : UInt8
  deriving DecidableEq, Repr

/-- A `char` byte widened to `u32`: `char` is signed, so a byte from `0x80` on is sign-extended. -/
def charToU32 (b : UInt8) : UInt32 := if b.toNat < 128 then b.toUInt32 else b.toUInt32 + 0xFFFFFF00

/-- `time_load(t, buf)`: `t` from the bytes read, and the global `century`. -/
def timeLoad (r : RtcRegs) : Tm × UInt8 :=
  (⟨r.seconds, r.minutes, r.hours, r.day, r.month, charToU32 r.year⟩, r.century)

/-- The condition of the `do ... while` of `time_get`: a field of the load `l'` differs from its
`u8` copy `last_*` taken from the load `l`. `last_year` is the `u32` year cut to `u8`; the code
tests it twice. -/
def TimeGetChanged (l l' : Tm × UInt8) : Prop :=
  l.1.seconds ≠ l'.1.seconds ∨ l.1.minutes ≠ l'.1.minutes ∨ l.1.hours ≠ l'.1.hours ∨
    l.1.day ≠ l'.1.day ∨ l.1.month ≠ l'.1.month ∨ l.1.year.toUInt8.toUInt32 ≠ l'.1.year ∨
    l.1.year.toUInt8.toUInt32 ≠ l'.1.year ∨ l.2 ≠ l'.2

instance (l l' : Tm × UInt8) : Decidable (TimeGetChanged l l') := inferInstanceAs (Decidable (_ ∨ _))

/-- The loop of `time_get` from the load `l` of reading `i`, with at most `fuel` passes, each
loading the next reading: the index and the load it stops at. -/
def timeGetLoop (rd : Nat → RtcRegs) : Nat → Nat → Tm × UInt8 → Option (Nat × (Tm × UInt8))
  | 0, _, _ => none
  | fuel + 1, i, l =>
    if TimeGetChanged l (timeLoad (rd (i + 1))) then timeGetLoop rd fuel (i + 1) (timeLoad (rd (i + 1)))
    else some (i + 1, timeLoad (rd (i + 1)))

/-- The BCD decode of `time_get`, `(x & 0x0F) + ((x / 16) * 10)`, on a `u8` field. -/
def bcdToBin8 (x : UInt8) : UInt8 := (x &&& 0x0F) + x / 16 * 10

/-- The same decode on the `u32` year. -/
def bcdToBin32 (x : UInt32) : UInt32 := (x &&& 0x0F) + x / 16 * 10

section Masks

variable (binaryMode format24Hours : UInt8)

/-- The end of `time_get` on the load `(t, century)` it stopped at, register B being `rb`. -/
def timeGetFinish (rb : UInt8) (l : Tm × UInt8) : Tm :=
  let l : Tm × UInt8 :=
    if rb &&& binaryMode = 0 then
      (⟨bcdToBin8 l.1.seconds, bcdToBin8 l.1.minutes,
          ((l.1.hours &&& 0x0F) + (l.1.hours &&& 0x70) / 16 * 10) ||| (l.1.hours &&& 0x80),
          bcdToBin8 l.1.day, bcdToBin8 l.1.month, bcdToBin32 l.1.year⟩, bcdToBin8 l.2)
    else l
  let t := if rb &&& format24Hours = 0 ∧ l.1.hours &&& 0x80 ≠ 0 then
      { l.1 with hours := ((l.1.hours &&& 0x7F) + 12) % 24 } else l.1
  { t with year := t.year + l.2.toUInt32 * 100 }

/-- `time_get(t)` over the readings `rd`, register B being `rb`, with at most `fuel` passes. -/
def timeGet (rd : Nat → RtcRegs) (rb : UInt8) (fuel : Nat) : Option Tm :=
  (timeGetLoop rd fuel 0 (timeLoad (rd 0))).map fun r => timeGetFinish binaryMode format24Hours rb r.2

end Masks

/-- `BCD_to_binary(RegisterB)`: register B asks for BCD, bit `0x04` clear. -/
def bcdToBinary (registerB : UInt8) : Bool := registerB &&& 0x04 = 0

/-- `time_set(t)`: the registers it writes, `buf` through `fdrtc` and `century` to `REG_CENTURY`,
register B being `rb`; `binToBcd` is `BIN_TO_BCD`. -/
def timeSet (binToBcd : UInt8 → UInt8) (rb : UInt8) (t : Tm) : RtcRegs :=
  let r : RtcRegs :=
    ⟨t.seconds, t.minutes, t.hours, t.day, t.month, (t.year % 100).toUInt8, (t.year / 100).toUInt8⟩
  if bcdToBinary rb then
    ⟨binToBcd r.seconds, binToBcd r.minutes, binToBcd r.hours, binToBcd r.day, binToBcd r.month,
      binToBcd r.year, binToBcd r.century⟩
  else r

/-! ## The loop of `time_get` -/

theorem charToU32_toNat (b : UInt8) :
    (charToU32 b).toNat = if b.toNat < 128 then b.toNat else b.toNat + 4294967040 := by
  have hb : b.toNat < 256 := b.toBitVec.isLt
  unfold charToU32
  split
  · rfl
  · rw [show (b.toUInt32 + 0xFFFFFF00).toNat = (b.toNat + 4294967040) % 4294967296 from BitVec.toNat_add _ _]
    omega

/-- **`last_year` agrees with the next load's year exactly when that load's year byte is the same
and below `0x80`**: a byte from `0x80` on is sign-extended in `t->year` and not in `last_year`. -/
theorem lastYear_eq_iff {b b' : UInt8} :
    (charToU32 b).toUInt8.toUInt32 = charToU32 b' ↔ b' = b ∧ b'.toNat < 128 := by
  have hb : b.toNat < 256 := b.toBitVec.isLt
  have hb' : b'.toNat < 256 := b'.toBitVec.isLt
  have hlast : ((charToU32 b).toUInt8.toUInt32).toNat = b.toNat := by
    show (charToU32 b).toNat % 256 = _
    rw [charToU32_toNat]
    split <;> omega
  constructor
  · intro h
    have h' := congrArg UInt32.toNat h
    rw [hlast, charToU32_toNat] at h'
    split at h'
    · exact ⟨UInt8.toNat.inj (by omega), by assumption⟩
    · omega
  · rintro ⟨rfl, h⟩
    exact UInt32.toNat.inj (by rw [hlast, charToU32_toNat, if_pos h])

/-- The loop stops after the load of `r'` exactly when `r'` repeats the load before it, `r`, with
a year byte below `0x80`. -/
theorem timeGetChanged_timeLoad {r r' : RtcRegs} :
    TimeGetChanged (timeLoad r) (timeLoad r') ↔ ¬ (r' = r ∧ r'.year.toNat < 128) := by
  cases r
  cases r'
  simp only [TimeGetChanged, timeLoad, ne_eq, lastYear_eq_iff, RtcRegs.mk.injEq]
  constructor
  · rintro h ⟨⟨rfl, rfl, rfl, rfl, rfl, rfl, rfl⟩, hy⟩
    simp [hy] at h
  · intro h
    by_contra hc
    simp only [not_or, not_not] at hc
    obtain ⟨h1, h2, h3, h4, h5, ⟨h6, hy⟩, -, h7⟩ := hc
    exact h ⟨⟨h1.symm, h2.symm, h3.symm, h4.symm, h5.symm, h6, h7.symm⟩, hy⟩

/-- Reading `k` repeats reading `k - 1`, with a year byte below `0x80`: a load that ends the loop. -/
def Stable (rd : Nat → RtcRegs) (k : Nat) : Prop := rd k = rd (k - 1) ∧ (rd k).year.toNat < 128

/-- **The loop from reading `i` stops at the first later reading that is `Stable`**, given a pass
for each reading up to it. -/
theorem timeGetLoop_eq_some_iff {rd : Nat → RtcRegs} {fuel i k : Nat} {l : Tm × UInt8} :
    timeGetLoop rd fuel i (timeLoad (rd i)) = some (k, l) ↔
      i < k ∧ k ≤ i + fuel ∧ Stable rd k ∧ (∀ j, i < j → j < k → ¬ Stable rd j) ∧ l = timeLoad (rd k) := by
  induction fuel generalizing i with
  | zero => simp only [timeGetLoop, reduceCtorEq, false_iff]; omega
  | succ fuel ih =>
    have hs : Stable rd (i + 1) ↔ rd (i + 1) = rd i ∧ (rd (i + 1)).year.toNat < 128 := Iff.rfl
    rw [timeGetLoop]
    split_ifs with hc
    · rw [timeGetChanged_timeLoad, ← hs] at hc
      rw [ih]
      constructor
      · rintro ⟨hik, hkf, hk, hb, rfl⟩
        refine ⟨by omega, by omega, hk, fun j hij hjk => ?_, rfl⟩
        rcases Nat.eq_or_lt_of_le hij with rfl | hij
        exacts [hc, hb j hij hjk]
      · rintro ⟨hik, hkf, hk, hb, rfl⟩
        have hk1 : i + 1 ≠ k := fun h => hc (h ▸ hk)
        exact ⟨by omega, by omega, hk, fun j hij hjk => hb j (by omega) hjk, rfl⟩
    · rw [timeGetChanged_timeLoad, not_not, ← hs] at hc
      simp only [Option.some.injEq, Prod.mk.injEq]
      constructor
      · rintro ⟨rfl, rfl⟩
        exact ⟨by omega, by omega, hc, fun j hij hjk => absurd hjk (by omega), rfl⟩
      · rintro ⟨hik, -, hk, hb, rfl⟩
        obtain rfl : k = i + 1 := by
          by_contra hne
          exact hb (i + 1) (by omega) (by omega) hc
        exact ⟨rfl, rfl⟩

/-- **`time_get` returns exactly at the first load that repeats the load before it with a year
byte below `0x80`**: it returns the end of `time_get` on that load when `fuel` allows the passes,
and only then. -/
theorem timeGet_eq_some_iff (binaryMode format24Hours : UInt8) {rd : Nat → RtcRegs} {rb : UInt8}
    {fuel : Nat} {t : Tm} :
    timeGet binaryMode format24Hours rd rb fuel = some t ↔
      ∃ k, 0 < k ∧ k ≤ fuel ∧ Stable rd k ∧ (∀ j, 0 < j → j < k → ¬ Stable rd j) ∧
        t = timeGetFinish binaryMode format24Hours rb (timeLoad (rd k)) := by
  simp only [timeGet, Option.map_eq_some']
  constructor
  · rintro ⟨⟨k, l⟩, h, rfl⟩
    obtain ⟨hk, hkf, hs, hb, rfl⟩ := timeGetLoop_eq_some_iff.1 h
    exact ⟨k, hk, by omega, hs, hb, rfl⟩
  · rintro ⟨k, hk, hkf, hs, hb, rfl⟩
    exact ⟨(k, _), timeGetLoop_eq_some_iff.2 ⟨hk, by omega, hs, hb, rfl⟩, rfl⟩

/-- **While the year byte reads `0x80` or more, `time_get` never returns**, for any number of
passes: BCD years 80 to 99 hang it. -/
theorem timeGet_year_high (binaryMode format24Hours : UInt8) {rd : Nat → RtcRegs} {rb : UInt8}
    (hy : ∀ k, 128 ≤ (rd k).year.toNat) (fuel : Nat) : timeGet binaryMode format24Hours rd rb fuel = none := by
  rw [timeGet, Option.map_eq_none', Option.eq_none_iff_forall_not_mem]
  rintro ⟨k, l⟩ h
  exact absurd (timeGetLoop_eq_some_iff.1 (Option.mem_def.1 h)).2.2.1.2 (Nat.not_lt.2 (hy k))

/-- After `time_set` of 2085-12-31 18:59:59 in BCD mode (with the usual `BIN_TO_BCD`), the year
register holds `0x85`, and `time_get` never returns. -/
theorem timeGet_year_high_2085 :
    128 ≤ (timeSet (fun v => v / 10 * 16 + v % 10) 0x02 ⟨59, 59, 18, 31, 12, 2085⟩).year.toNat ∧
    timeGet 0x04 0x02 (fun _ => timeSet (fun v => v / 10 * 16 + v % 10) 0x02 ⟨59, 59, 18, 31, 12, 2085⟩)
      0x02 1000 = none :=
  ⟨by decide, timeGet_year_high 0x04 0x02 (fun _ => by decide) 1000⟩

/-! ## Setting the time and reading it back -/

theorem and_0x80_of_lt {h : UInt8} (hh : h.toNat < 128) : h &&& 0x80 = 0 := by
  apply UInt8.toNat.inj
  rw [show (h &&& 0x80).toNat = h.toNat &&& 128 from BitVec.toNat_and _ _,
    ← Nat.mod_eq_of_lt hh, ← Nat.and_pow_two_sub_one_eq_mod _ 7, Nat.and_assoc,
    show (2 ^ 7 - 1 &&& 128 : Nat) = 0 from rfl, Nat.and_zero]
  rfl

/-- The year byte `time_set` writes holds the year modulo `100`. -/
theorem toUInt8_mod_toNat (y : UInt32) : ((y % 100).toUInt8).toNat = y.toNat % 100 := by
  show (y % 100).toNat % 256 = _
  rw [UInt32.toNat_mod]
  show y.toNat % 100 % 256 = _
  omega

/-- The century byte holds the century when it fits. -/
theorem toUInt8_div_toNat {y : UInt32} (hc : y.toNat < 25600) : ((y / 100).toUInt8).toNat = y.toNat / 100 := by
  show (y / 100).toNat % 256 = _
  rw [UInt32.toNat_div]
  show y.toNat / 100 % 256 = _
  omega

/-- The year `time_get` rebuilds from what `time_set` wrote: the year modulo `100`, read back
through `char`, plus the `u8` century times `100`. -/
theorem charToU32_year_add_century (y : UInt32) :
    charToU32 (y % 100).toUInt8 + (y / 100).toUInt8.toUInt32 * 100 = y % 25600 := by
  have hadd : ∀ a b : UInt32, (a + b).toNat = (a.toNat + b.toNat) % 4294967296 := fun a b =>
    BitVec.toNat_add a.toBitVec b.toBitVec
  have hmul : ∀ a b : UInt32, (a * b).toNat = a.toNat * b.toNat % 4294967296 := fun a b =>
    BitVec.toNat_mul a.toBitVec b.toBitVec
  have hmod : ∀ a b : UInt32, (a % b).toNat = a.toNat % b.toNat := fun _ _ => BitVec.toNat_umod
  have hdiv : ∀ a b : UInt32, (a / b).toNat = a.toNat / b.toNat := fun _ _ => BitVec.toNat_udiv
  have hc : (charToU32 (y % 100).toUInt8).toNat = y.toNat % 100 := by
    rw [charToU32_toNat, toUInt8_mod_toNat, if_pos (by omega)]
  have hy : y.toNat < 4294967296 := y.toBitVec.isLt
  have hcent : y.toNat / 100 / 256 = y.toNat / 25600 := Nat.div_div_eq_div_mul _ _ _
  apply UInt32.toNat.inj
  rw [hadd, hmul, hc, hmod, show ((y / 100).toUInt8.toUInt32).toNat = (y / 100).toNat % 256 from rfl, hdiv]
  simp only [show (100 : UInt32).toNat = 100 from rfl, show (25600 : UInt32).toNat = 25600 from rfl]
  omega

/-- **In binary mode, `time_get` after `time_set(t)` reads `t` back, the year modulo `25600`**:
the century is stored as a `u8`. The RTC holds what `time_set` wrote, register B has the binary
bit for both functions (`BCD_to_binary` tests `0x04`, `time_get` tests `BINARY_MODE`), and an
hour with bit `0x80` set would be read as a 12-hour PM hour unless `FORMAT_24HOURS` is set. -/
theorem time_set_get (binaryMode format24Hours : UInt8) (binToBcd : UInt8 → UInt8) {rb : UInt8}
    (t : Tm) (hset : bcdToBinary rb = false) (hget : rb &&& binaryMode ≠ 0)
    (hh : t.hours.toNat < 128 ∨ rb &&& format24Hours ≠ 0) (fuel : Nat) :
    timeGet binaryMode format24Hours (fun _ => timeSet binToBcd rb t) rb (fuel + 1) =
      some { t with year := t.year % 25600 } := by
  have hy : ((t.year % 100).toUInt8).toNat < 128 := by
    rw [toUInt8_mod_toNat]
    omega
  have h80 : ¬ (rb &&& format24Hours = 0 ∧ t.hours &&& 0x80 ≠ 0) := by
    rintro ⟨h24, h8⟩
    rcases hh with hh | hh
    exacts [h8 (and_0x80_of_lt hh), hh h24]
  have hloop : timeGetLoop (fun _ => timeSet binToBcd rb t) (fuel + 1) 0 (timeLoad (timeSet binToBcd rb t)) =
      some (1, timeLoad (timeSet binToBcd rb t)) :=
    timeGetLoop_eq_some_iff.2 ⟨Nat.one_pos, by omega,
      ⟨rfl, by simpa only [timeSet, hset, Bool.false_eq_true, if_false] using hy⟩,
      fun j hj hj1 => absurd hj1 (by omega), rfl⟩
  rw [timeGet, hloop]
  simp only [Option.map_some', timeGetFinish, timeLoad, timeSet, hset, Bool.false_eq_true, if_false,
    if_neg hget, if_neg h80, charToU32_year_add_century]

/-- The date `kmain` sets, 2100-12-31 18:59:59, in binary 24-hour mode. -/
theorem time_set_get_2100 :
    bcdToBinary 0x06 = false ∧ (0x06 : UInt8) &&& 0x04 ≠ 0 ∧ ((18 : UInt8).toNat < 128 ∨ (0x06 : UInt8) &&& 0x02 ≠ 0) ∧
      timeGet 0x04 0x02 (fun _ => timeSet id 0x06 ⟨59, 59, 18, 31, 12, 2100⟩) 0x06 1 =
        some ⟨59, 59, 18, 31, 12, 2100 % 25600⟩ :=
  ⟨by decide, by decide, .inl (by decide),
    time_set_get 0x04 0x02 id ⟨59, 59, 18, 31, 12, 2100⟩ (by decide) (by decide) (.inl (by decide)) 0⟩


/-! ## Reading back in BCD mode -/

/-- `BIN_TO_BCD` of a two-digit value: the tens in the high nibble, the units in the low one. -/
theorem bcd_toNat {x : UInt8} (hx : x.toNat < 100) :
    (x / 10 * 16 + x % 10).toNat = x.toNat / 10 * 16 + x.toNat % 10 := by
  show ((x / 10).toNat * 16 % 256 + (x % 10).toNat) % 256 = _
  rw [UInt8.toNat_div, UInt8.toNat_mod]
  show (x.toNat / 10 * 16 % 256 + x.toNat % 10) % 256 = _
  omega

theorem bcdToBin8_toNat (y : UInt8) : (bcdToBin8 y).toNat = (y.toNat % 16 + y.toNat / 16 * 10 % 256) % 256 := by
  show ((y &&& 15).toNat + (y / 16).toNat * 10 % 256) % 256 = _
  rw [UInt8.and_toNat, UInt8.toNat_div, show (15 : UInt8).toNat = 2 ^ 4 - 1 from rfl,
    Nat.and_pow_two_sub_one_eq_mod]
  rfl

/-- The decode of `time_get` undoes the encoding on two-digit values. -/
theorem bcdToBin8_bcd {x : UInt8} (hx : x.toNat < 100) : bcdToBin8 (x / 10 * 16 + x % 10) = x :=
  UInt8.toNat.inj (by rw [bcdToBin8_toNat, bcd_toNat hx]; omega)

theorem and_0x70_div {h : Nat} (hh : h < 128) : (h &&& 112) / 16 = h / 16 := by
  revert h; decide

/-- The hour decode, which keeps bit `0x80` for the 12-hour flag, undoes the encoding on hours below
`80`. -/
theorem bcdHours_bcd {x : UInt8} (hx : x.toNat < 80) :
    (((x / 10 * 16 + x % 10) &&& 0x0F) + ((x / 10 * 16 + x % 10) &&& 0x70) / 16 * 10) |||
      ((x / 10 * 16 + x % 10) &&& 0x80) = x := by
  have hb := bcd_toNat (x := x) (by omega)
  rw [and_0x80_of_lt (by omega)]
  apply UInt8.toNat.inj
  show ((_ + _) ||| (0 : UInt8)).toNat = _
  rw [show ∀ a b : UInt8, (a ||| b).toNat = a.toNat ||| b.toNat from fun a b => BitVec.toNat_or _ _,
    show (0 : UInt8).toNat = 0 from rfl, Nat.or_zero]
  show ((_ &&& 15 : UInt8).toNat + ((_ &&& 112 : UInt8) / 16).toNat * 10 % 256) % 256 = _
  rw [UInt8.and_toNat, UInt8.toNat_div, UInt8.and_toNat, hb, show (15 : UInt8).toNat = 2 ^ 4 - 1 from rfl,
    Nat.and_pow_two_sub_one_eq_mod, show (112 : UInt8).toNat = 112 from rfl,
    show (16 : UInt8).toNat = 16 from rfl, and_0x70_div (by omega)]
  omega

theorem bcdToBin32_toNat (y : UInt32) :
    (bcdToBin32 y).toNat = (y.toNat % 16 + y.toNat / 16 * 10 % 4294967296) % 4294967296 := by
  show ((y &&& 15).toNat + (y / 16).toNat * 10 % 4294967296) % 4294967296 = _
  rw [UInt32.and_toNat, UInt32.toNat_div, show (15 : UInt32).toNat = 2 ^ 4 - 1 from rfl,
    Nat.and_pow_two_sub_one_eq_mod]
  rfl

/-- The year `time_get` rebuilds in BCD mode from what `time_set` wrote. -/
theorem bcd_year {y : UInt32} (hy : y.toNat % 100 < 80) (hc : y.toNat < 10000) :
    bcdToBin32 (charToU32 ((y % 100).toUInt8 / 10 * 16 + (y % 100).toUInt8 % 10)) +
      (bcdToBin8 ((y / 100).toUInt8 / 10 * 16 + (y / 100).toUInt8 % 10)).toUInt32 * 100 = y := by
  have h8 := toUInt8_mod_toNat y
  have hc8 := toUInt8_div_toNat (y := y) (by omega)
  have hY := bcd_toNat (x := (y % 100).toUInt8) (by omega)
  rw [bcdToBin8_bcd (by omega), charToU32, if_pos (by omega)]
  apply UInt32.toNat.inj
  rw [show ∀ a b : UInt32, (a + b).toNat = (a.toNat + b.toNat) % 4294967296 from fun a b => BitVec.toNat_add _ _,
    show ∀ a b : UInt32, (a * b).toNat = a.toNat * b.toNat % 4294967296 from fun a b => BitVec.toNat_mul _ _,
    bcdToBin32_toNat]
  show ((((y % 100).toUInt8 / 10 * 16 + (y % 100).toUInt8 % 10).toNat % 16 +
      ((y % 100).toUInt8 / 10 * 16 + (y % 100).toUInt8 % 10).toNat / 16 * 10 % 4294967296) % 4294967296 +
      ((y / 100).toUInt8).toNat * 100 % 4294967296) % 4294967296 = _
  rw [hY, h8, hc8]
  omega

/-- **In BCD mode, `time_get` after `time_set(t)` reads `t` back** when every field has two decimal
digits, the hour is below `80` and the year's last two digits are below `80`: then no register
byte reaches `0x80`, and the year byte in particular ends the loop (compare `timeGet_year_high`).
`BIN_TO_BCD` is the usual encoding on two-digit values. -/
theorem time_set_get_bcd (binaryMode format24Hours : UInt8) {binToBcd : UInt8 → UInt8}
    (hbcd : ∀ x : UInt8, x.toNat < 100 → binToBcd x = x / 10 * 16 + x % 10) {rb : UInt8} (t : Tm)
    (hset : bcdToBinary rb = true) (hget : rb &&& binaryMode = 0)
    (hf : t.seconds.toNat < 100 ∧ t.minutes.toNat < 100 ∧ t.hours.toNat < 80 ∧ t.day.toNat < 100 ∧
      t.month.toNat < 100)
    (hy : t.year.toNat % 100 < 80) (hc : t.year.toNat < 10000) (fuel : Nat) :
    timeGet binaryMode format24Hours (fun _ => timeSet binToBcd rb t) rb (fuel + 1) = some t := by
  obtain ⟨hs, hm, hh, hd, hmo⟩ := hf
  have h8 := toUInt8_mod_toNat t.year
  have hc8 : ((t.year / 100).toUInt8).toNat < 100 := by
    rw [toUInt8_div_toNat (by omega)]
    omega
  have hreg : timeSet binToBcd rb t =
      ⟨t.seconds / 10 * 16 + t.seconds % 10, t.minutes / 10 * 16 + t.minutes % 10,
        t.hours / 10 * 16 + t.hours % 10, t.day / 10 * 16 + t.day % 10, t.month / 10 * 16 + t.month % 10,
        (t.year % 100).toUInt8 / 10 * 16 + (t.year % 100).toUInt8 % 10,
        (t.year / 100).toUInt8 / 10 * 16 + (t.year / 100).toUInt8 % 10⟩ := by
    simp only [timeSet, hset, if_true, hbcd _ hs, hbcd _ hm, hbcd _ (Nat.lt_trans hh (by decide)),
      hbcd _ hd, hbcd _ hmo, hbcd _ (h8 ▸ Nat.mod_lt _ (by decide)), hbcd _ hc8]
  have hyb : (timeSet binToBcd rb t).year.toNat < 128 := by
    rw [hreg, bcd_toNat (by omega), h8]
    omega
  have hloop : timeGetLoop (fun _ => timeSet binToBcd rb t) (fuel + 1) 0 (timeLoad (timeSet binToBcd rb t)) =
      some (1, timeLoad (timeSet binToBcd rb t)) :=
    timeGetLoop_eq_some_iff.2 ⟨Nat.one_pos, by omega, ⟨rfl, hyb⟩, fun j hj hj1 => absurd hj1 (by omega), rfl⟩
  rw [timeGet, hloop, Option.map_some', hreg]
  simp only [timeGetFinish, timeLoad, if_pos hget, bcdToBin8_bcd hs, bcdToBin8_bcd hm, bcdToBin8_bcd hd,
    bcdToBin8_bcd hmo, bcdHours_bcd hh, and_0x80_of_lt (Nat.lt_trans hh (by decide)), ne_eq, not_true_eq_false,
    and_false, if_false, bcd_year hy hc]

/-- 2079-12-31 23:59:59 set and read back in BCD 24-hour mode. -/
theorem time_set_get_bcd_2079 :
    timeGet 0x04 0x02 (fun _ => timeSet (fun v => v / 10 * 16 + v % 10) 0x02 ⟨59, 59, 23, 31, 12, 2079⟩)
      0x02 1 = some ⟨59, 59, 23, 31, 12, 2079⟩ :=
  time_set_get_bcd 0x04 0x02 (fun _ _ => rfl) _ (by decide) (by decide) (by decide) (by decide) (by decide) 0

end Buhos.Time
