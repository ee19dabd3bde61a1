import Mathlib.Logic.Function.Iterate
import Mathlib.Algebra.Group.Int

/-!
# `get_seconds` and `time_sleep`

`get_seconds(t)` turns a date-time into seconds as if every month had 30 days and every year 365,
in the code's integer types: the `u8` fields are promoted to `int`, and the `u32` year makes the
year term and the sum `unsigned`, both modulo `2 ^ 32`. `time_sleep(s)` reads the clock once,
adds `s` to its `get_seconds`, and reads again until `get_seconds` reaches that end.

The readings are the environment: `rd 0` is the start reading and `rd i` the `i`-th one after it.
`time_get` itself reads the RTC and is not modelled; `Tm.next` is the real clock, one second on.

* `sleepLoop_some`, `sleepLoop_of_first`: the loop stops exactly at the first reading whose
  `get_seconds` reaches `seconds_end`.
* `timeSleep_eq_some_iff`: **`time_sleep(s)` returns exactly at the first reading to reach
  `get_seconds(start) + s`, and never when that sum is negative or at least `2 ^ 32`**: `s` is
  converted to `u64`, and `get_seconds` wraps modulo `2 ^ 32` while `seconds_end` does not.
* `getSeconds_month_end`: the 31st of a month and the 1st of the next, at the same time of day,
  have the same `get_seconds`, in every year.
-/

namespace Buhos.Time

/-- `struct tm`, as `time_get` fills it. -/
structure Tm where
  seconds : UInt8
  minutes : UInt8
  hours : UInt8
  day : UInt8
  month : UInt8
  year : UInt32
  deriving DecidableEq, Repr

/-- `get_seconds(t)`. The terms of the `u8` fields are `int` and stay below `2 ^ 31`; the `u32`
year makes its product and then the sum wrap modulo `2 ^ 32`; the result widens to `u64`. -/
def getSeconds (t : Tm) : Nat :=
  (t.seconds.toNat + t.minutes.toNat * 60 + t.hours.toNat * 60 * 60 + t.day.toNat * 24 * 60 * 60 +
      t.month.toNat * 30 * 24 * 60 * 60 + t.year.toNat * 365 * 24 * 60 * 60 % Nat.pow 2 32) % Nat.pow 2 32

/-- `seconds_end` of `time_sleep(s)`: `s` converted to `u64` and added modulo `2 ^ 64`. -/
def sleepEnd (start : Tm) (s : Int) : Nat :=
  (getSeconds start + (s % Int.ofNat (Nat.pow 2 64)).toNat) % Nat.pow 2 64

/-- The `do ... while` loop of `time_sleep` from the reading `rd i` on, with at most `fuel`
readings: the index of the reading it stops at. -/
def sleepLoop (rd : Nat → Tm) (secondsEnd : Nat) : Nat → Nat → Option Nat
  | 0, _ => none
  | fuel + 1, i => if getSeconds (rd i) < secondsEnd then sleepLoop rd secondsEnd fuel (i + 1) else some i

/-- `time_sleep(s)` over the readings `rd` of `time_get`, `rd 0` being the start reading. -/
def timeSleep (rd : Nat → Tm) (s : Int) (fuel : Nat) : Option Nat :=
  sleepLoop rd (sleepEnd (rd 0) s) fuel 1

/-! ## The real clock -/

/-- The days of `month` in `year` on the Gregorian calendar, which the RTC's real clock follows. -/
def daysInMonth (year month : Nat) : Nat :=
  if month = 2 then (if year % 4 = 0 ∧ (year % 100 ≠ 0 ∨ year % 400 = 0) then 29 else 28)
  else if month = 4 ∨ month = 6 ∨ month = 9 ∨ month = 11 then 30 else 31

/-- A calendar date-time, as the real clock shows it: the values `time_get` can read. -/
def Tm.Valid (t : Tm) : Prop :=
  1 ≤ t.month.toNat ∧ t.month.toNat ≤ 12 ∧ 1 ≤ t.day.toNat ∧
    t.day.toNat ≤ daysInMonth t.year.toNat t.month.toNat ∧ t.hours.toNat < 24 ∧ t.minutes.toNat < 60 ∧
    t.seconds.toNat < 60

instance (t : Tm) : Decidable t.Valid := inferInstanceAs (Decidable (_ ∧ _))

/-- The real clock one second later, on the Gregorian calendar. -/
def Tm.next (t : Tm) : Tm :=
  if t.seconds.toNat < 59 then { t with seconds := t.seconds + 1 }
  else if t.minutes.toNat < 59 then { t with seconds := 0, minutes := t.minutes + 1 }
  else if t.hours.toNat < 23 then { t with seconds := 0, minutes := 0, hours := t.hours + 1 }
  else if t.day.toNat < daysInMonth t.year.toNat t.month.toNat then
    { t with seconds := 0, minutes := 0, hours := 0, day := t.day + 1 }
  else if t.month.toNat < 12 then
    { t with seconds := 0, minutes := 0, hours := 0, day := 1, month := t.month + 1 }
  else ⟨0, 0, 0, 1, 1, t.year + 1⟩

/-! ## The loop -/

section Loop

variable {rd : Nat → Tm} {e : Nat}

/-- A reading the loop stops at is the first from `rd i` on to reach `e`. -/
theorem sleepLoop_some {fuel i k : Nat} (h : sleepLoop rd e fuel i = some k) :
    i ≤ k ∧ e ≤ getSeconds (rd k) ∧ ∀ j, i ≤ j → j < k → getSeconds (rd j) < e := by
  induction fuel generalizing i with
  | zero => cases h
  | succ fuel ih =>
    rw [sleepLoop] at h
    split_ifs at h with hlt
    · obtain ⟨hik, hk, hb⟩ := ih h
      refine ⟨by omega, hk, fun j hij hjk => ?_⟩
      rcases Nat.eq_or_lt_of_le hij with rfl | hij
      exacts [hlt, hb j hij hjk]
    · cases h
      exact ⟨Nat.le_refl _, Nat.not_lt.1 hlt, fun j hij hjk => absurd hjk (Nat.not_lt.2 hij)⟩

/-- **With a reading left for each one before it, the loop stops at the first reading from `rd i`
on to reach `e`.** -/
theorem sleepLoop_of_first {fuel i k : Nat} (hik : i ≤ k) (hf : k - i < fuel)
    (hk : e ≤ getSeconds (rd k)) (hb : ∀ j, i ≤ j → j < k → getSeconds (rd j) < e) :
    sleepLoop rd e fuel i = some k := by
  induction fuel generalizing i with
  | zero => omega
  | succ fuel ih =>
    rw [sleepLoop]
    rcases Nat.eq_or_lt_of_le hik with rfl | hik
    · rw [if_neg (Nat.not_lt.2 hk)]
    · rw [if_pos (hb i (Nat.le_refl _) hik)]
      exact ih hik (by omega) fun j hij hjk => hb j (by omega) hjk

/-- The loop reads at most `fuel` readings. -/
theorem sleepLoop_lt {fuel i k : Nat} (h : sleepLoop rd e fuel i = some k) : k < i + fuel := by
  induction fuel generalizing i with
  | zero => cases h
  | succ fuel ih =>
    rw [sleepLoop] at h
    split_ifs at h
    · have := ih h; omega
    · cases h; omega

end Loop

/-! ## Where `time_sleep` stops -/

/-- `get_seconds` is a sum modulo `2 ^ 32`. -/
theorem getSeconds_lt (t : Tm) : getSeconds t < 2 ^ 32 :=
  Nat.mod_lt _ (by decide)

/-- For an `int` argument, `seconds_end` is `get_seconds(start) + s`, unless that sum is negative:
then `s` converted to `u64` wraps it to at least `2 ^ 32`. -/
theorem sleepEnd_cases (t : Tm) {s : Int} (hs : -2 ^ 31 ≤ s ∧ s < 2 ^ 31) :
    (0 ≤ getSeconds t + s ∧ (sleepEnd t s : Int) = getSeconds t + s) ∨
      (getSeconds t + s < 0 ∧ 2 ^ 32 ≤ sleepEnd t s) := by
  have hg := getSeconds_lt t
  unfold sleepEnd
  rw [show Nat.pow 2 64 = 2 ^ 64 from rfl, show Int.ofNat (2 ^ 64) = 2 ^ 64 from rfl]
  have hm : ((s % 2 ^ 64).toNat : Int) = s % 2 ^ 64 := Int.toNat_of_nonneg (Int.emod_nonneg _ (by decide))
  omega

/-- **`time_sleep(s)` returns exactly at the first reading after the start whose `get_seconds`
reaches `get_seconds(start) + s`**, with a reading left for each one before it, and never when
that sum is negative or at least `2 ^ 32`: `get_seconds` wraps modulo `2 ^ 32`, `seconds_end` does
not. -/
theorem timeSleep_eq_some_iff {rd : Nat → Tm} {s : Int} (hs : -2 ^ 31 ≤ s ∧ s < 2 ^ 31) {fuel k : Nat} :
    timeSleep rd s fuel = some k ↔
      (0 ≤ (getSeconds (rd 0) : Int) + s ∧ (getSeconds (rd 0) : Int) + s < 2 ^ 32) ∧ 1 ≤ k ∧ k ≤ fuel ∧
        (getSeconds (rd 0) : Int) + s ≤ getSeconds (rd k) ∧
        ∀ j, 1 ≤ j → j < k → (getSeconds (rd j) : Int) < getSeconds (rd 0) + s := by
  rcases sleepEnd_cases (rd 0) hs with ⟨h0, he⟩ | ⟨hn, he⟩
  · constructor
    · intro h
      obtain ⟨h1, hk, hb⟩ := sleepLoop_some h
      have := sleepLoop_lt h
      have := getSeconds_lt (rd k)
      refine ⟨⟨h0, by omega⟩, h1, by omega, by omega, fun j hj hjk => ?_⟩
      have := hb j hj hjk
      omega
    · rintro ⟨-, h1, hf, hk, hb⟩
      exact sleepLoop_of_first h1 (by omega) (by omega) fun j hj hjk => by have := hb j hj hjk; omega
  · refine iff_of_false (fun h => ?_) fun h => absurd h.1.1 (by omega)
    have := (sleepLoop_some h).2.1
    have := getSeconds_lt (rd k)
    omega

/-- `time_sleep(INT_MAX)` on 2016-01-01 00:00:00 never returns, whatever the clock reads after. -/
theorem timeSleep_int_max_2016 :
    (-2 ^ 31 ≤ (2 ^ 31 - 1 : Int) ∧ (2 ^ 31 - 1 : Int) < 2 ^ 31) ∧
      ∀ rd fuel, rd 0 = ⟨0, 0, 0, 1, 1, 2016⟩ → timeSleep rd (2 ^ 31 - 1) fuel = none :=
  ⟨by decide, fun rd fuel h0 => Option.eq_none_iff_forall_not_mem.2 fun k hk =>
    absurd ((timeSleep_eq_some_iff (by decide)).1 hk).1.2 (by rw [h0]; decide)⟩

/-! ## Month ends -/

theorem toNat_add_one_of_lt {a : UInt8} (h : a.toNat < 255) : (a + 1).toNat = a.toNat + 1 := by
  have : (a + 1).toNat = (a.toNat + 1) % 256 := BitVec.toNat_add a.toBitVec 1
  omega

/-- **The 31st of a month and the 1st of the next have the same `get_seconds`** at every time of
day, in every year: `get_seconds` is not increasing along the calendar. -/
theorem getSeconds_month_end {t : Tm} (hd : t.day.toNat = 31) (hm : t.month.toNat < 12) :
    getSeconds t = getSeconds { t with day := 1, month := t.month + 1 } := by
  simp only [getSeconds, toNat_add_one_of_lt (show t.month.toNat < 255 by omega), hd]
  congr 1
  simp only [show (1 : UInt8).toNat = 1 from rfl]
  omega

/-- `time_sleep(1)` at 2016-01-31 23:59:59 does not stop at the reading one second later, and
`time_sleep(100000)` at 2017-02-28 23:59:59 stops at the reading one second later, the clock
reading once a second. -/
theorem time_sleep_month_ends :
    (⟨59, 59, 23, 31, 1, 2016⟩ : Tm).Valid ∧
      Tm.next ⟨59, 59, 23, 31, 1, 2016⟩ = ⟨0, 0, 0, 1, 2, 2016⟩ ∧
      (∀ fuel, timeSleep (fun i => Tm.next^[i] ⟨59, 59, 23, 31, 1, 2016⟩) 1 fuel ≠ some 1) ∧
    (⟨59, 59, 23, 28, 2, 2017⟩ : Tm).Valid ∧
      Tm.next ⟨59, 59, 23, 28, 2, 2017⟩ = ⟨0, 0, 0, 1, 3, 2017⟩ ∧
      ∀ fuel, timeSleep (fun i => Tm.next^[i] ⟨59, 59, 23, 28, 2, 2017⟩) 100000 (fuel + 1) = some 1 := by
  refine ⟨by decide, by decide, fun fuel => ?_, by decide, by decide, fun fuel => ?_⟩
  · -- 2016-02-01 00:00:00 counts as a day before 2016-01-31 23:59:59
    cases fuel with
    | zero => nofun
    | succ fuel =>
      rw [timeSleep, sleepLoop, if_pos (by decide)]
      exact fun h => absurd (sleepLoop_some h).1 (by decide)
  · -- 2017-03-01 00:00:00 counts as three days after 2017-02-28
    rw [timeSleep, sleepLoop, if_neg (by decide)]

end Buhos.Time
