import Buhos.Vfs.Dentry
import Mathlib.Data.Finset.Max
import Mathlib.Data.Fintype.Basic
import Mathlib.Order.Fin.Basic

/-!
# What `vfs_dentry_get` returns, and which entry it evicts

One call of `vfs_dentry_get(parent, name)` over any table, and the `d_count` bookkeeping over
runs of such calls.

* `vfsDentryGet_hit_first`: a keyed slot makes the call a hit, on the first keyed slot.
* `vfsDentryGet_limit_iff`: with no keyed slot, `E_LIMIT` exactly when every slot is an occupied
  mount point.
* `vfsDentryGet_candidate`: otherwise the call empties one evictable slot and fills it unless the
  name's allocation fails: the last empty slot when no count is negative, the first least used
  slot that is not a mount point when no slot is empty.
* `countsHits_step`, `DentryRun.countsHits`: `d_count` is one more than the hits since the slot was
  filled, as long as no slot is hit `INT_MAX - 1` times.
* `DentryRun.evicts_least_hit`: so a miss that overwrites an entry overwrites one of least hits
  among those that are not mount points.
-/

namespace Buhos.Vfs

/-- `c` is the last empty slot. -/
def LastEmpty (t : DentryTable) (c : Slot) : Prop :=
  (t c).dName = none ∧ ∀ j, (t j).dName = none → j ≤ c

/-- `c` is the first slot of least `d_count` among those that are not mount points. -/
def FirstLeastUsed (t : DentryTable) (c : Slot) : Prop :=
  (t c).dMntSb = none ∧ (∀ j, (t j).dMntSb = none → (t c).dCount ≤ (t j).dCount) ∧
    ∀ j < c, (t j).dMntSb = none → (t c).dCount < (t j).dCount

theorem exists_lastEmpty {t : DentryTable} (h : ∃ j, (t j).dName = none) : ∃ c, LastEmpty t c := by
  obtain ⟨j, hj⟩ := h
  have hne : (Finset.univ.filter fun j => (t j).dName = none).Nonempty := ⟨j, by simpa using hj⟩
  exact ⟨_, (Finset.mem_filter.1 (Finset.max'_mem _ hne)).2,
    fun j hj => Finset.le_max' _ j (by simpa using hj)⟩

theorem exists_firstLeastUsed {t : DentryTable} (h : ∃ j, (t j).dMntSb = none) :
    ∃ c, FirstLeastUsed t c := by
  -- the least count among the slots that are not mount points, then the first slot holding it
  let S := Finset.univ.filter fun j => (t j).dMntSb = none
  have hS : ∀ {j}, j ∈ S ↔ (t j).dMntSb = none := by simp [S]
  obtain ⟨i, hi, hmin⟩ := Finset.exists_min_image S (fun j => (t j).dCount) (h.imp fun _ => hS.2)
  let T := S.filter fun j => (t j).dCount = (t i).dCount
  have hT : T.Nonempty := ⟨i, Finset.mem_filter.2 ⟨hi, rfl⟩⟩
  obtain ⟨hcS, hcm⟩ := Finset.mem_filter.1 (Finset.min'_mem T hT)
  refine ⟨T.min' hT, hS.1 hcS, fun j hj => hcm.trans_le (hmin j (hS.2 hj)), fun j hjc hj => ?_⟩
  refine hcm.trans_lt (lt_of_le_of_ne (hmin j (hS.2 hj)) fun heq => absurd hjc (not_lt.2 ?_))
  exact Finset.min'_le T j (Finset.mem_filter.2 ⟨hS.2 hj, heq.symm⟩)

theorem Dentry.Keyed.occupied {d : Dentry} {p : Option Slot} {n : String} (h : d.Keyed p n) :
    d.Occupied := by
  rw [Dentry.Occupied, h.1]; exact Option.some_ne_none n

section Scan

variable {t : DentryTable} {p : Option Slot} {n : String}

/-- An empty slot becomes the candidate, with count `0`. -/
theorem vfsDentryScan_empty_cons {j : Slot} {is : List Slot} {low : Lowest} (he : (t j).dName = none) :
    vfsDentryScan t p n (j :: is) low = vfsDentryScan t p n is ⟨some j, 0⟩ := by
  simp only [vfsDentryScan, he]

/-- The scan stops at the first keyed slot. -/
theorem vfsDentryScan_hit_le {i j : Slot} {is : List Slot} {low : Lowest}
    (hs : is.Pairwise (· < ·)) (h : vfsDentryScan t p n is low = .hit i) (hj : j ∈ is)
    (hk : (t j).Keyed p n) : i ≤ j := by
  induction is generalizing low with
  | nil => simp at hj
  | cons a is ih =>
    rw [List.pairwise_cons] at hs
    by_cases hka : (t a).Keyed p n
    · simp only [vfsDentryScan, hka.1, hka.2, and_self, if_true, Scan.hit.injEq] at h
      subst h
      rcases List.mem_cons.1 hj with rfl | hj'
      exacts [le_rfl, (hs.1 j hj').le]
    · obtain ⟨low', hl⟩ := vfsDentryScan_cons is low hka
      rw [hl] at h
      rcases List.mem_cons.1 hj with rfl | hj'
      exacts [absurd hk hka, ih hs.2 h hj']

end Scan

namespace VfsState

variable {o : Oracle} {s : VfsState} {p : Option Slot} {n : String}

/-- With no keyed slot, the scan finds no candidate exactly when every slot is an occupied mount
point. -/
theorem dentryScan_eq_full (hk : ∀ j, ¬ (s.dentries j).Keyed p n) :
    s.dentryScan p n = .miss none ↔ ∀ j, (s.dentries j).Occupied ∧ (s.dentries j).dMntSb ≠ none := by
  refine ⟨fun h j => ⟨fun he => dentryScan_full h j (.inl he), fun hm => dentryScan_full h j (.inr hm)⟩,
    fun h => ?_⟩
  cases hs : s.dentryScan p n with
  | hit i => exact absurd (dentryScan_hit hs) (hk i)
  | miss c =>
    cases c with
    | none => rfl
    | some c => exact ((dentryScan_evictable hs).elim (h c).1 (h c).2).elim

/-- **With no keyed slot and no negative count, the scan settles on the last empty slot.** -/
theorem dentryScan_lastEmpty (hk : ∀ j, ¬ (s.dentries j).Keyed p n)
    (hpos : ∀ j, (s.dentries j).Occupied → (s.dentries j).dMntSb = none → 0 ≤ (s.dentries j).dCount)
    {c : Slot} (hc : LastEmpty s.dentries c) : s.dentryScan p n = .miss (some c) :=
  vfsDentryScan_last_empty (List.pairwise_lt_finRange _) (List.mem_finRange c) hc.1 (fun j _ => hk j)
    fun j _ hcj =>
      have hocc : (s.dentries j).Occupied := fun he => absurd (hc.2 j he) (not_le.2 hcj)
      ⟨hocc, or_iff_not_imp_left.2 fun hm => hpos j hocc (not_not.1 hm)⟩

/-- **With no keyed and no empty slot, the scan settles on the first least used slot that is not a
mount point.** -/
theorem dentryScan_firstLeastUsed (hk : ∀ j, ¬ (s.dentries j).Keyed p n)
    (hocc : ∀ j, (s.dentries j).Occupied) {c : Slot} (hc : FirstLeastUsed s.dentries c) :
    s.dentryScan p n = .miss (some c) :=
  vfsDentryScan_first_min (List.pairwise_lt_finRange _) (List.mem_finRange c) hc.1 (fun j _ => hocc j)
    (fun j _ => hk j) (fun j _ => hc.2.1 j) (fun j _ => hc.2.2 j) (.inl rfl)

/-- A hit is the first keyed slot. -/
theorem dentryScan_hit_le {i j : Slot} (h : s.dentryScan p n = .hit i) (hk : (s.dentries j).Keyed p n) :
    i ≤ j := by
  unfold dentryScan at h
  exact vfsDentryScan_hit_le (List.pairwise_lt_finRange _) h (List.mem_finRange j) hk

/-- **A keyed slot makes the call a hit, on the first keyed slot**, whose count steps up by one
(wrapping at `INT_MAX`); nothing else changes. -/
theorem vfsDentryGet_hit_first (h : ∃ j, (s.dentries j).Keyed p n) :
    ∃ i, (s.dentries i).Keyed p n ∧ (∀ j, (s.dentries j).Keyed p n → i ≤ j) ∧
      s.vfsDentryGet o p n =
        (some i, s.setDentry i { s.dentries i with dCount := intSucc (s.dentries i).dCount }) := by
  obtain ⟨j, hj⟩ := h
  cases hs : s.dentryScan p n with
  | hit i =>
    exact ⟨i, dentryScan_hit hs, fun _ => dentryScan_hit_le hs, vfsDentryGet_of_hit hs⟩
  | miss c => exact absurd hj (dentryScan_miss hs j)

/-- With no keyed slot, `E_LIMIT` exactly when every slot is an occupied mount point. -/
theorem vfsDentryGet_limit_iff (hk : ∀ j, ¬ (s.dentries j).Keyed p n) :
    s.vfsDentryGet o p n = (none, s.setErrno .limit) ↔
      ∀ j, (s.dentries j).Occupied ∧ (s.dentries j).dMntSb ≠ none := by
  rw [← dentryScan_eq_full hk]
  refine ⟨fun h => ?_, vfsDentryGet_of_full⟩
  cases hs : s.dentryScan p n with
  | hit i => exact absurd (dentryScan_hit hs) (hk i)
  | miss c =>
    cases c with
    | none => rfl
    | some c =>
      rw [vfsDentryGet_of_miss hs] at h
      split at h
      · exact absurd (congrArg Prod.fst h) (by simp)
      · exact absurd (congrArg (·.2.errno) h) (by simp)

/-- **With no keyed slot and some evictable slot, the call empties one evictable slot `c`, then
fills it with `(parent, name)`, count `1`, unless the name's allocation fails.** The slot is the
last empty one when no count is negative, and the first least used slot that is not a mount
point when no slot is empty. -/
theorem vfsDentryGet_candidate (hk : ∀ j, ¬ (s.dentries j).Keyed p n)
    (he : ∃ j, (s.dentries j).Evictable) :
    ∃ c, (s.dentries c).Evictable ∧
      ((∃ j, (s.dentries j).dName = none) →
        (∀ j, (s.dentries j).Occupied → (s.dentries j).dMntSb = none → 0 ≤ (s.dentries j).dCount) →
        LastEmpty s.dentries c) ∧
      ((∀ j, (s.dentries j).Occupied) → FirstLeastUsed s.dentries c) ∧
      s.vfsDentryGet o p n =
        if o.kalloc s.calls then
          (some c, (s.vfsDentryReset c).tick.setDentry c
            ⟨some n, 0, p, inheritSb (s.vfsDentryReset c).dentries p, none, 1⟩)
        else (none, (s.vfsDentryReset c).tick.setErrno .nomem) := by
  obtain ⟨c, hs⟩ : ∃ c, s.dentryScan p n = .miss (some c) := by
    cases hs : s.dentryScan p n with
    | hit i => exact absurd (dentryScan_hit hs) (hk i)
    | miss c =>
      cases c with
      | none => exact he.elim fun j hj => absurd hj (dentryScan_full hs j)
      | some c => exact ⟨c, rfl⟩
  refine ⟨c, dentryScan_evictable hs, fun hne hpos => ?_, fun hocc => ?_, vfsDentryGet_of_miss hs⟩
  · obtain ⟨e, hle⟩ := exists_lastEmpty hne
    cases (dentryScan_lastEmpty hk hpos hle).symm.trans hs
    exact hle
  · obtain ⟨f, hf⟩ := exists_firstLeastUsed (he.imp fun j hj => hj.resolve_left (hocc j))
    cases (dentryScan_firstLeastUsed hk hocc hf).symm.trans hs
    exact hf

/-- The call writes at most one slot: the one its scan ends on. -/
theorem vfsDentryGet_writes {j : Slot} (hw : (s.vfsDentryGet o p n).2.dentries j ≠ s.dentries j) :
    s.dentryScan p n = .hit j ∨ s.dentryScan p n = .miss (some j) := by
  cases hs : s.dentryScan p n with
  | hit i =>
    rw [vfsDentryGet_of_hit hs] at hw
    by_cases hji : j = i
    · exact .inl (congrArg _ hji.symm)
    · exact absurd (by simp [Function.update_noteq hji]) hw
  | miss c =>
    cases c with
    | none => rw [vfsDentryGet_of_full hs] at hw; exact absurd rfl hw
    | some c =>
      rw [vfsDentryGet_of_miss hs] at hw
      by_cases hjc : j = c
      · exact .inr (congrArg _ (congrArg _ hjc.symm))
      · split at hw <;> exact absurd (by simp [vfsDentryReset, Function.update_noteq hjc]) hw

/-- The slot the call returns is the one its scan ends on, keyed `(p, n)` afterwards. -/
theorem vfsDentryGet_some {i : Slot} (h : (s.vfsDentryGet o p n).1 = some i) :
    (s.dentryScan p n = .hit i ∨ s.dentryScan p n = .miss (some i)) ∧
      ((s.vfsDentryGet o p n).2.dentries i).Keyed p n := by
  cases hs : s.dentryScan p n with
  | hit j =>
    rw [vfsDentryGet_of_hit hs] at h ⊢
    obtain rfl := Option.some.inj h
    exact ⟨.inl rfl, by simpa [Dentry.Keyed] using dentryScan_hit hs⟩
  | miss c =>
    cases c with
    | none => rw [vfsDentryGet_of_full hs] at h; cases h
    | some c =>
      rw [vfsDentryGet_of_miss hs] at h ⊢
      split at h
      · obtain rfl := Option.some.inj h
        rw [if_pos ‹_›]
        exact ⟨.inr rfl, by simp [Dentry.Keyed]⟩
      · cases h

end VfsState

/-! ## Hit counts over runs -/

/-- `d_count` of every occupied slot is one more than the hits `hits` records for it. -/
def CountsHits (t : DentryTable) (hits : Slot → Nat) : Prop :=
  ∀ i, (t i).Occupied → (t i).dCount = 1 + hits i

/-- No slot has been hit `INT_MAX` times since it was filled. -/
def HitsBounded (hits : Slot → Nat) : Prop := ∀ i, (hits i : Int) < intMax

/-- The hits since each slot was filled, after a call of `vfs_dentry_get` whose scan ended in `r`:
one more on the slot it returns, none on the slot it takes. -/
def hitsAfter : Scan → (Slot → Nat) → Slot → Nat
  | .hit i, hits => Function.update hits i (hits i + 1)
  | .miss (some c), hits => Function.update hits c 0
  | .miss none, hits => hits

/-- Runs of `vfs_dentry_get` calls, each under any oracle, from a table whose counts are one more
than the hits recorded for it, carrying the hits since each slot was filled. `Ok` is what the run
keeps of the hits after every call. -/
inductive DentryRun (Ok : (Slot → Nat) → Prop) : VfsState × (Slot → Nat) → Prop
  | init (s : VfsState) (hits : Slot → Nat) : CountsHits s.dentries hits → DentryRun Ok (s, hits)
  | step {x : VfsState × (Slot → Nat)} {r : Option Slot} {s' : VfsState} (o : Oracle)
      (p : Option Slot) (n : String) :
      DentryRun Ok x → x.1.vfsDentryGet o p n = (r, s') → Ok (hitsAfter (x.1.dentryScan p n) x.2) →
      DentryRun Ok (s', hitsAfter (x.1.dentryScan p n) x.2)

section Runs

variable {o : Oracle} {s : VfsState} {p : Option Slot} {n : String} {hits : Slot → Nat}

theorem hitsAfter_of_hit {i : Slot} (h : s.dentryScan p n = .hit i) :
    hitsAfter (s.dentryScan p n) hits = Function.update hits i (hits i + 1) := by
  rw [h, hitsAfter]

theorem hitsAfter_of_full (h : s.dentryScan p n = .miss none) :
    hitsAfter (s.dentryScan p n) hits = hits := by
  rw [h, hitsAfter]

theorem hitsAfter_of_miss {c : Slot} (h : s.dentryScan p n = .miss (some c)) :
    hitsAfter (s.dentryScan p n) hits = Function.update hits c 0 := by
  rw [h, hitsAfter]

/-- **One call keeps every count one more than the hits**, provided the slot it hits stays below
`INT_MAX` hits. -/
theorem countsHits_step {r : Option Slot} {s' : VfsState} (h : CountsHits s.dentries hits)
    (hb : HitsBounded (hitsAfter (s.dentryScan p n) hits)) (hg : s.vfsDentryGet o p n = (r, s')) :
    CountsHits s'.dentries (hitsAfter (s.dentryScan p n) hits) := by
  intro j hj
  cases hs : s.dentryScan p n with
  | hit i =>
    rw [hitsAfter_of_hit hs] at hb
    rw [VfsState.vfsDentryGet_of_hit hs] at hg
    cases hg
    simp only [hitsAfter, VfsState.setDentry_dentries, Function.update_apply] at hj ⊢
    split_ifs at hj ⊢ with hji
    · subst hji
      have hbj := hb j
      rw [Function.update_same] at hbj
      push_cast at hbj
      rw [h j (VfsState.dentryScan_hit hs).occupied, intSucc_of_lt (by omega)]
      push_cast; omega
    · exact h j hj
  | miss c =>
    cases c with
    | none =>
      rw [VfsState.vfsDentryGet_of_full hs] at hg
      cases hg
      exact h j hj
    | some c =>
      simp only [hitsAfter]
      rw [VfsState.vfsDentryGet_of_miss hs] at hg
      by_cases hjc : j = c
      · subst hjc
        split at hg <;> cases hg <;> simp [Dentry.Occupied, Dentry.empty, VfsState.vfsDentryReset] at hj ⊢
      · split at hg <;> cases hg <;>
          simp only [VfsState.vfsDentryReset, VfsState.setDentry_dentries, VfsState.tick_dentries,
            VfsState.setErrno_dentries, Function.update_noteq hjc] at hj ⊢ <;>
          exact h j hj

/-- **Along every run in which no slot reaches `INT_MAX` hits, `d_count` is one more than the hits
since the slot was filled.** -/
theorem DentryRun.countsHits {x : VfsState × (Slot → Nat)} (h : DentryRun HitsBounded x) :
    CountsHits x.1.dentries x.2 := by
  induction h with
  | init s hits h => exact h
  | step o p n _ hg hb ih => dsimp only; exact countsHits_step ih hb hg

/-- **A miss that overwrites an entry overwrites one of least hits among the entries that are not
mount points**, along every run in which no slot reaches `INT_MAX` hits. -/
theorem DentryRun.evicts_least_hit (h : DentryRun HitsBounded (s, hits)) {c : Slot}
    (hk : ∀ j, ¬ (s.dentries j).Keyed p n) (hc : (s.dentries c).Occupied)
    (hw : (s.vfsDentryGet o p n).2.dentries c ≠ s.dentries c) :
    (s.dentries c).dMntSb = none ∧ ∀ j, (s.dentries j).dMntSb = none → hits c ≤ hits j := by
  have hcnt : CountsHits s.dentries hits := h.countsHits
  have hs : s.dentryScan p n = .miss (some c) :=
    (VfsState.vfsDentryGet_writes hw).resolve_left fun hs => hk c (VfsState.dentryScan_hit hs)
  -- counts are positive, so an empty slot would have been taken instead of `c`
  have hocc : ∀ j, (s.dentries j).Occupied := fun j => by
    by_contra hj
    obtain ⟨e, he⟩ := exists_lastEmpty ⟨j, not_not.1 hj⟩
    have := (VfsState.dentryScan_lastEmpty hk (fun j hj _ => by rw [hcnt j hj]; omega) he).symm.trans hs
    cases this
    exact hc he.1
  obtain ⟨f, hf⟩ := exists_firstLeastUsed ⟨c, (VfsState.dentryScan_evictable hs).resolve_left hc⟩
  cases (VfsState.dentryScan_firstLeastUsed hk hocc hf).symm.trans hs
  refine ⟨hf.1, fun j hj => ?_⟩
  have := hf.2.1 j hj
  rw [hcnt c (hocc c), hcnt j (hocc j)] at this
  omega

end Runs

/-! ## The contract -/

/-- **`vfs_dentry_get(parent, name)`, over any table.** A keyed slot makes the call a hit on the
first keyed slot, its count stepped by one (wrapping at `INT_MAX`). Otherwise it fails with
`E_LIMIT` exactly when every slot is an occupied mount point; else it empties one evictable slot
and, unless the name's allocation fails, fills it with `(parent, name)`, count `1`, vnode `0`, no
mount: the last empty slot when no count is negative, the first least used slot that is not a mount
point when no slot is empty. Over every run in which no slot reaches `INT_MAX` hits since it was
filled, each occupied count is one more than those hits, and a miss that overwrites an entry
overwrites one of least hits that is not a mount point. -/
theorem dentry_get_contract :
    (∀ (o : Oracle) (s : VfsState) (p : Option Slot) (n : String),
      ((∃ j, (s.dentries j).Keyed p n) → ∃ i, (s.dentries i).Keyed p n ∧
        (∀ j, (s.dentries j).Keyed p n → i ≤ j) ∧
        s.vfsDentryGet o p n =
          (some i, s.setDentry i { s.dentries i with dCount := intSucc (s.dentries i).dCount })) ∧
      ((∀ j, ¬ (s.dentries j).Keyed p n) →
        (s.vfsDentryGet o p n = (none, s.setErrno .limit) ↔
          ∀ j, (s.dentries j).Occupied ∧ (s.dentries j).dMntSb ≠ none) ∧
        ((∃ j, (s.dentries j).Evictable) → ∃ c, (s.dentries c).Evictable ∧
          ((∃ j, (s.dentries j).dName = none) →
            (∀ j, (s.dentries j).Occupied → (s.dentries j).dMntSb = none → 0 ≤ (s.dentries j).dCount) →
            LastEmpty s.dentries c) ∧
          ((∀ j, (s.dentries j).Occupied) → FirstLeastUsed s.dentries c) ∧
          s.vfsDentryGet o p n =
            if o.kalloc s.calls then
              (some c, (s.vfsDentryReset c).tick.setDentry c
                ⟨some n, 0, p, inheritSb (s.vfsDentryReset c).dentries p, none, 1⟩)
            else (none, (s.vfsDentryReset c).tick.setErrno .nomem)))) ∧
    ∀ (s : VfsState) (hits : Slot → Nat), DentryRun HitsBounded (s, hits) →
      CountsHits s.dentries hits ∧
      ∀ (o : Oracle) (p : Option Slot) (n : String) (c : Slot), (∀ j, ¬ (s.dentries j).Keyed p n) →
        (s.dentries c).Occupied → (s.vfsDentryGet o p n).2.dentries c ≠ s.dentries c →
        (s.dentries c).dMntSb = none ∧ ∀ j, (s.dentries j).dMntSb = none → hits c ≤ hits j :=
  ⟨fun _ _ _ _ => ⟨VfsState.vfsDentryGet_hit_first, fun hk =>
      ⟨VfsState.vfsDentryGet_limit_iff hk, VfsState.vfsDentryGet_candidate hk⟩⟩,
    fun _ _ h => ⟨h.countsHits, fun _ _ _ _ hk hc hw => h.evicts_least_hit hk hc hw⟩⟩

/-- Slot `0` keyed `(NULL, "x")` and hit `k` times since it was filled; every other slot empty. -/
def slotZeroHit (k : Nat) : VfsState × (Slot → Nat) :=
  ({ vfsInit with
      dentries := Function.update vfsInit.dentries 0 ⟨some "x", 0, none, none, none, intSucc^[k] 1⟩ },
    Function.update (fun _ => 0) 0 k)

/-- Hitting slot `0` again and again is a run. -/
theorem dentryRun_slotZeroHit : ∀ k, DentryRun (fun _ => True) (slotZeroHit k)
  | 0 => .init _ _ fun i hi => by
    by_cases h0 : i = 0
    · subst h0; simp [slotZeroHit]
    · simp [slotZeroHit, h0, vfsInit, Dentry.Occupied, Dentry.empty] at hi
  | k + 1 => by
    have hs : (slotZeroHit k).1.dentryScan none "x" = .hit 0 :=
      VfsState.dentryScan_zero ⟨by simp [slotZeroHit], by simp [slotZeroHit]⟩
    have hg : (slotZeroHit k).1.vfsDentryGet (Oracle.happy fun _ _ _ => 0) none "x" =
        (some 0, (slotZeroHit (k + 1)).1) := by
      rw [VfsState.vfsDentryGet_of_hit hs]
      simp [slotZeroHit, VfsState.setDentry, Function.iterate_succ_apply']
    have h := DentryRun.step _ none "x" (dentryRun_slotZeroHit k) hg trivial
    rwa [hitsAfter_of_hit hs, show Function.update (slotZeroHit k).2 0 ((slotZeroHit k).2 0 + 1) =
      (slotZeroHit (k + 1)).2 by simp [slotZeroHit]] at h

/-- Where the contract's hypotheses are needed: an allocator that refuses leaves no slot filled; a
negative count is taken over an empty slot; of two keyed slots the second is never returned; and
`d_count` wraps after `INT_MAX` hits, so it no longer counts them. -/
theorem dentry_get_exceptions :
    (vfsInit.vfsDentryGet { Oracle.happy fun _ _ _ => 0 with kalloc := fun _ => false } none "x").1
      = none ∧
    ({ vfsInit with dentries := fun j => if j = 0 then Dentry.empty
        else ⟨some "y", 0, none, none, none, -1⟩ }.vfsDentryGet (Oracle.happy fun _ _ _ => 0) none "x").1
      = some 1 ∧
    ({ vfsInit with dentries := fun _ => ⟨some "x", 0, none, none, none, 1⟩ }.vfsDentryGet
      (Oracle.happy fun _ _ _ => 0) none "x").1 = some 0 ∧
    DentryRun (fun _ => True) (slotZeroHit intMax.toNat) ∧
      ¬ CountsHits (slotZeroHit intMax.toNat).1.dentries (slotZeroHit intMax.toNat).2 := by
  refine ⟨?_, ?_, ?_, dentryRun_slotZeroHit _, fun h => ?_⟩
  · -- every slot is empty: the last one is taken, then its name cannot be allocated
    have hs : vfsInit.dentryScan none "x" = .miss (some 99) :=
      VfsState.dentryScan_lastEmpty (s := vfsInit) (fun _ hk => Option.noConfusion hk.1)
        (fun _ hj => absurd rfl hj)
        ⟨rfl, fun j _ => by rw [Fin.le_iff_val_le_val]; exact Nat.le_of_lt_succ j.isLt⟩
    rw [VfsState.vfsDentryGet_of_miss hs]
    rfl
  · -- slot `1` undercuts the empty slot `0`, and no later slot undercuts slot `1`
    have hfin : List.finRange vfsMaxDentries = 0 :: (List.finRange 99).map Fin.succ := List.finRange_succ 99
    have hsort : ((List.finRange 99).map Fin.succ : List Slot).Pairwise (· < ·) :=
      (List.pairwise_cons.1 (hfin ▸ List.pairwise_lt_finRange vfsMaxDentries)).2
    have hs : VfsState.dentryScan { vfsInit with dentries := fun j => if j = 0 then Dentry.empty
        else ⟨some "y", 0, none, none, none, -1⟩ } none "x" = .miss (some 1) := by
      rw [VfsState.dentryScan, hfin, vfsDentryScan_empty_cons rfl]
      refine vfsDentryScan_first_min hsort (List.mem_map.2 ⟨0, List.mem_finRange 0, rfl⟩) rfl ?_ ?_ ?_ ?_
        (.inr (by decide)) <;> intro j hj <;> obtain ⟨k, -, rfl⟩ := List.mem_map.1 hj
      · simp [Fin.succ_ne_zero]
      · simp [Fin.succ_ne_zero, Dentry.Keyed]
      · simp [Fin.succ_ne_zero, vfsMaxDentries]
      · intro hk1
        rw [Fin.lt_iff_val_lt_val, Fin.val_succ] at hk1
        exact absurd hk1 (show ¬ (k.val + 1 < 1) by omega)
    rw [VfsState.vfsDentryGet_of_miss hs]
    rfl
  · rw [VfsState.vfsDentryGet_of_hit (VfsState.dentryScan_zero ⟨rfl, rfl⟩)]
  · have h0 := h 0 (by simp [slotZeroHit, Dentry.Occupied])
    have hit : intSucc^[intMax.toNat] 1 = -intMax - 1 := by
      rw [show intMax.toNat = 2147483646 + 1 from rfl, Function.iterate_succ_apply',
        intSucc_iterate (by simp [intMax]), intSucc]
      rfl
    simp only [slotZeroHit, Function.update_same, hit] at h0
    exact absurd h0 (by decide)

end Buhos.Vfs
