import Buhos.Vfs.State

/-!
# The dentry cache

`vfs_dentry_reset`, `vfs_dentry_get` and `vfs_dentry_unmount_sb` over the static array of
`VFS_MAX_DENTRIES` slots.

`vfs_dentry_get` scans every slot once (`vfsDentryScan`). A slot keyed `(parent, name)` is
a hit. Otherwise the scan leaves a candidate: the last empty slot, or, when there is none,
the first non-mount-point slot of least `d_count`. Mount points are skipped, so the table
never loses one to eviction; nothing else is protected.

* `vfsDentryScan_hit`, `vfsDentryScan_miss`: a hit is keyed; a miss means no slot is.
* `vfsDentryScan_evictable`: the candidate of a miss is empty or not a mount point.
* `vfsDentryGet_of_hit`, `vfsDentryGet_of_full`, `vfsDentryGet_of_miss`: the three outcomes.
-/

namespace Buhos.Vfs

/-- The slot holds a dentry: `d_name != NULL`. -/
def Dentry.Occupied (d : Dentry) : Prop := d.dName ≠ none

/-- The slot is the one `vfs_dentry_get(parent, name)` looks for. -/
def Dentry.Keyed (parent : Option Slot) (name : String) (d : Dentry) : Prop :=
  d.dName = some name ∧ d.dParent = parent

/-- The scan may reuse the slot: it is empty or not a mount point. -/
def Dentry.Evictable (d : Dentry) : Prop := d.dName = none ∨ d.dMntSb = none

instance (d : Dentry) : Decidable d.Occupied := inferInstanceAs (Decidable (_ ≠ _))

/-- The candidate `vfs_dentry_get` keeps while it scans: `lowest_index` (`-1` is `none`)
and `lowest_count`. -/
structure Lowest where
  index : Option Slot
  count : Int

/-- How the scan of `vfs_dentry_get` ends. -/
inductive Scan
  | hit (i : Slot)
  | miss (candidate : Option Slot)
  deriving DecidableEq, Repr

/-- The loop of `vfs_dentry_get` over the slots `is`. -/
def vfsDentryScan (t : DentryTable) (parent : Option Slot) (name : String) :
    List Slot → Lowest → Scan
  | [], low => .miss low.index
  | i :: is, low =>
    match (t i).dName with
    | none => vfsDentryScan t parent name is ⟨some i, 0⟩
    | some n =>
      if (t i).dParent = parent ∧ n = name then .hit i
      else if (t i).dMntSb ≠ none then vfsDentryScan t parent name is low
      else if low.index = none ∨ (t i).dCount < low.count then
        vfsDentryScan t parent name is ⟨some i, (t i).dCount⟩
      else vfsDentryScan t parent name is low

/-- The superblock a new child of `parent` belongs to: the one mounted on the parent if it
is a mount point, else the parent's own; `NULL` for `"/"`. -/
def inheritSb (t : DentryTable) : Option Slot → Option SbPtr
  | none => none
  | some p => if (t p).dMntSb = none then (t p).dSb else (t p).dMntSb

namespace VfsState

variable (o : Oracle) (s : VfsState)

/-- `vfs_dentry_reset`. -/
def vfsDentryReset (i : Slot) : VfsState := s.setDentry i Dentry.empty

/-- The scan `vfs_dentry_get(parent, name)` runs over the whole table. -/
def dentryScan (parent : Option Slot) (name : String) : Scan :=
  vfsDentryScan s.dentries parent name (List.finRange _) ⟨none, 0⟩

/-- `vfs_dentry_get(parent, name)`. -/
def vfsDentryGet (parent : Option Slot) (name : String) : Option Slot × VfsState :=
  match s.dentryScan parent name with
  | .hit i =>
    (some i, s.setDentry i { s.dentries i with dCount := intSucc (s.dentries i).dCount })
  | .miss none => (none, s.setErrno .limit)
  | .miss (some i) =>
    let s := s.vfsDentryReset i
    match s.kalloc o with
    | (none, s) => (none, s.setErrno .nomem)
    | (some _, s) =>
      (some i, s.setDentry i ⟨some name, 0, parent, inheritSb s.dentries parent, none, 1⟩)

/-- `vfs_dentry_unmount_sb(sb)`: refuse while a mount point belongs to `sb`, else empty
every slot that belongs to it. -/
def vfsDentryUnmountSb (sb : SbPtr) : Int × VfsState :=
  if (List.finRange vfsMaxDentries).any fun i =>
      (s.dentries i).Occupied ∧ (s.dentries i).dMntSb ≠ none ∧ (s.dentries i).dSb = some sb then
    (-1, s)
  else
    (0, { s with dentries := fun i =>
      if (s.dentries i).Occupied ∧ (s.dentries i).dSb = some sb then Dentry.empty
      else s.dentries i })

end VfsState

/-! ## The scan -/

section Scan

variable {t : DentryTable} {p : Option Slot} {n : String}

theorem vfsDentryScan_hit {i : Slot} {is : List Slot} {low : Lowest}
    (h : vfsDentryScan t p n is low = .hit i) : i ∈ is ∧ (t i).Keyed p n := by
  induction is generalizing low with
  | nil => simp [vfsDentryScan] at h
  | cons j is ih =>
    simp only [vfsDentryScan] at h
    split at h
    · exact ⟨List.mem_cons_of_mem _ (ih h).1, (ih h).2⟩
    · rename_i m hm
      split_ifs at h with h1
      · cases h; exact ⟨List.mem_cons_self _ _, by rw [h1.2] at hm; exact ⟨hm, h1.1⟩⟩
      all_goals exact ⟨List.mem_cons_of_mem _ (ih h).1, (ih h).2⟩

theorem vfsDentryScan_miss {c : Option Slot} {is : List Slot} {low : Lowest}
    (h : vfsDentryScan t p n is low = .miss c) : ∀ j ∈ is, ¬ (t j).Keyed p n := by
  induction is generalizing low with
  | nil => simp
  | cons j is ih =>
    simp only [vfsDentryScan] at h
    refine List.forall_mem_cons.2 ⟨fun hk => ?_, ?_⟩
    · simp only [hk.1, hk.2, and_self, if_true] at h
      cases h
    · split at h
      · exact ih h
      · split_ifs at h
        all_goals first | cases h | exact ih h

/-- The scan only moves its candidate to evictable slots. -/
theorem vfsDentryScan_evictable {c : Slot} {is : List Slot} {low : Lowest}
    (hlow : ∀ c, low.index = some c → (t c).Evictable)
    (h : vfsDentryScan t p n is low = .miss (some c)) : (t c).Evictable := by
  induction is generalizing low with
  | nil => exact hlow c (by simpa [vfsDentryScan] using h)
  | cons j is ih =>
    simp only [vfsDentryScan] at h
    split at h
    next hj => exact ih (fun c hc => by cases hc; exact .inl hj) h
    next =>
      split at h
      next => cases h
      next =>
        split at h
        next => exact ih hlow h
        next hmnt =>
          split at h
          next => exact ih (fun c hc => by cases hc; exact .inr (not_not.1 hmnt)) h
          next => exact ih hlow h

/-- Once the scan has a candidate it keeps one. -/
theorem vfsDentryScan_ne_full {is : List Slot} {low : Lowest} (hlow : low.index ≠ none) :
    vfsDentryScan t p n is low ≠ .miss none := by
  induction is generalizing low with
  | nil => simpa [vfsDentryScan] using hlow
  | cons j is ih =>
    simp only [vfsDentryScan]
    split
    · exact ih (by simp)
    · split_ifs
      · simp
      all_goals first | exact ih hlow | exact ih (by simp)

/-- A scan with no candidate at the end saw only mount points. -/
theorem vfsDentryScan_full {is : List Slot} {low : Lowest}
    (h : vfsDentryScan t p n is low = .miss none) :
    low.index = none ∧ ∀ j ∈ is, ¬ (t j).Evictable := by
  induction is generalizing low with
  | nil => simpa [vfsDentryScan] using h
  | cons j is ih =>
    simp only [vfsDentryScan] at h
    split at h
    next => exact absurd h (vfsDentryScan_ne_full (by simp))
    next m hm =>
      split at h
      next => cases h
      next =>
        split at h
        next hmnt =>
          refine ⟨(ih h).1, List.forall_mem_cons.2 ⟨?_, (ih h).2⟩⟩
          simp only [Dentry.Evictable, hm, not_or]; exact ⟨by simp, hmnt⟩
        next =>
          split at h
          next => exact absurd h (vfsDentryScan_ne_full (by simp))
          next hlow => exact absurd h (vfsDentryScan_ne_full (not_or.1 hlow).1)

/-- A slot that is not keyed lets the scan go on, with some candidate. -/
theorem vfsDentryScan_cons {j : Slot} (is : List Slot) (low : Lowest)
    (hj : ¬ (t j).Keyed p n) : ∃ low', vfsDentryScan t p n (j :: is) low = vfsDentryScan t p n is low' := by
  simp only [vfsDentryScan]
  split
  · exact ⟨_, rfl⟩
  · rename_i m hm
    split_ifs with hk
    · exact absurd ⟨hm.trans (congrArg some hk.2), hk.1⟩ hj
    all_goals exact ⟨_, rfl⟩

/-- Occupied slots that are mount points or count no less than the candidate leave the
candidate in place. -/
theorem vfsDentryScan_keep {c : Slot} {m : Int} {is : List Slot}
    (h : ∀ j ∈ is, (t j).dName ≠ none ∧ ¬ (t j).Keyed p n ∧
      ((t j).dMntSb ≠ none ∨ m ≤ (t j).dCount)) :
    vfsDentryScan t p n is ⟨some c, m⟩ = .miss (some c) := by
  induction is with
  | nil => rfl
  | cons j is ih =>
    obtain ⟨hocc, hk, hcnt⟩ := h j (List.mem_cons_self _ _)
    obtain ⟨e, hm⟩ := Option.ne_none_iff_exists'.1 hocc
    have ih' := ih fun j' hj' => h j' (List.mem_cons_of_mem _ hj')
    simp only [vfsDentryScan, hm]
    rw [if_neg fun hk' => hk ⟨hm.trans (congrArg some hk'.2), hk'.1⟩]
    split_ifs with hmnt hlow
    · exact ih'
    · exact absurd hlow (by simp only [not_or]; exact ⟨by simp, not_lt.2 (hcnt.resolve_left hmnt)⟩)
    · exact ih'

/-- **The last empty slot is the candidate**, when no slot is keyed and every slot after it
is occupied with a nonnegative count or is a mount point. -/
theorem vfsDentryScan_last_empty {c : Slot} {is : List Slot} {low : Lowest}
    (hs : is.Pairwise (· < ·)) (hc : c ∈ is) (he : (t c).dName = none)
    (hk : ∀ j ∈ is, ¬ (t j).Keyed p n)
    (hafter : ∀ j ∈ is, c < j → (t j).dName ≠ none ∧ ((t j).dMntSb ≠ none ∨ 0 ≤ (t j).dCount)) :
    vfsDentryScan t p n is low = .miss (some c) := by
  induction is generalizing low with
  | nil => simp at hc
  | cons j is ih =>
    rw [List.pairwise_cons] at hs
    rcases List.mem_cons.1 hc with rfl | hc'
    · simp only [vfsDentryScan, he]
      exact vfsDentryScan_keep fun j' hj' =>
        let ⟨h1, h2⟩ := hafter j' (List.mem_cons_of_mem _ hj') (hs.1 j' hj')
        ⟨h1, hk j' (List.mem_cons_of_mem _ hj'), h2⟩
    · obtain ⟨low', hlow'⟩ := vfsDentryScan_cons is low (hk j (List.mem_cons_self _ _))
      rw [hlow']
      exact ih hs.2 hc' (fun j' hj' => hk j' (List.mem_cons_of_mem _ hj'))
        (fun j' hj' => hafter j' (List.mem_cons_of_mem _ hj'))

/-- **The least used slot is the candidate**: on a table with no empty and no keyed slot, the
scan settles on the first slot, among those that are not mount points, of least count. -/
theorem vfsDentryScan_first_min {c : Slot} {is : List Slot} {low : Lowest}
    (hs : is.Pairwise (· < ·)) (hc : c ∈ is) (hcm : (t c).dMntSb = none)
    (hocc : ∀ j ∈ is, (t j).dName ≠ none) (hk : ∀ j ∈ is, ¬ (t j).Keyed p n)
    (hmin : ∀ j ∈ is, (t j).dMntSb = none → (t c).dCount ≤ (t j).dCount)
    (hfirst : ∀ j ∈ is, j < c → (t j).dMntSb = none → (t c).dCount < (t j).dCount)
    (hlow : low.index = none ∨ (t c).dCount < low.count) :
    vfsDentryScan t p n is low = .miss (some c) := by
  induction is generalizing low with
  | nil => simp at hc
  | cons j is ih =>
    rw [List.pairwise_cons] at hs
    obtain ⟨e, he⟩ := Option.ne_none_iff_exists'.1 (hocc j (List.mem_cons_self _ _))
    have hkj : ¬ ((t j).dParent = p ∧ e = n) := fun h' =>
      hk j (List.mem_cons_self _ _) ⟨he.trans (congrArg some h'.2), h'.1⟩
    simp only [vfsDentryScan, he, if_neg hkj]
    rcases List.mem_cons.1 hc with rfl | hc'
    · rw [if_neg (not_not.2 hcm), if_pos hlow]
      exact vfsDentryScan_keep fun j' hj' => ⟨hocc j' (List.mem_cons_of_mem _ hj'),
        hk j' (List.mem_cons_of_mem _ hj'),
        (em ((t j').dMntSb = none)).elim (fun h => .inr (hmin j' (List.mem_cons_of_mem _ hj') h)) .inl⟩
    · have ih' := fun {l : Lowest} => @ih l hs.2 hc'
        (fun j' hj' => hocc j' (List.mem_cons_of_mem _ hj'))
        (fun j' hj' => hk j' (List.mem_cons_of_mem _ hj'))
        (fun j' hj' => hmin j' (List.mem_cons_of_mem _ hj'))
        (fun j' hj' => hfirst j' (List.mem_cons_of_mem _ hj'))
      split_ifs with hjm hjl
      · exact ih' hlow
      · exact ih' (.inr (hfirst j (List.mem_cons_self _ _) (hs.1 c hc') (not_not.1 hjm)))
      · exact ih' hlow

end Scan

/-! ## `vfs_dentry_get` -/

namespace VfsState

variable {o : Oracle} {s : VfsState} {p : Option Slot} {n : String}

theorem vfsDentryGet_of_hit {i : Slot} (h : s.dentryScan p n = .hit i) :
    s.vfsDentryGet o p n =
      (some i, s.setDentry i { s.dentries i with dCount := intSucc (s.dentries i).dCount }) := by
  rw [vfsDentryGet, h]

theorem vfsDentryGet_of_full (h : s.dentryScan p n = .miss none) :
    s.vfsDentryGet o p n = (none, s.setErrno .limit) := by
  rw [vfsDentryGet, h]

theorem vfsDentryGet_of_miss {i : Slot} (h : s.dentryScan p n = .miss (some i)) :
    s.vfsDentryGet o p n =
      if o.kalloc s.calls then
        (some i, (s.vfsDentryReset i).tick.setDentry i
          ⟨some n, 0, p, inheritSb (s.vfsDentryReset i).dentries p, none, 1⟩)
      else (none, (s.vfsDentryReset i).tick.setErrno .nomem) := by
  rw [vfsDentryGet, h]
  cases hk : o.kalloc s.calls <;> simp only [kalloc, vfsDentryReset, setDentry_calls, hk] <;> rfl

/-- `vfs_dentry_get` writes only the dentry table and `errno`. -/
theorem vfsDentryGet_registries : s.Registries (s.vfsDentryGet o p n).2 ∧
    (s.vfsDentryGet o p n).2.vnodes = s.vnodes := by
  cases hs : s.dentryScan p n with
  | hit i => rw [vfsDentryGet_of_hit hs]; exact ⟨⟨rfl, rfl, rfl⟩, rfl⟩
  | miss c =>
    cases c with
    | none => rw [vfsDentryGet_of_full hs]; exact ⟨⟨rfl, rfl, rfl⟩, rfl⟩
    | some i => rw [vfsDentryGet_of_miss hs]; split <;> exact ⟨⟨rfl, rfl, rfl⟩, rfl⟩

/-- `vfs_dentry_get` reads at most the allocator's answer. -/
theorem vfsDentryGet_calls : s.calls ≤ (s.vfsDentryGet o p n).2.calls := by
  cases hs : s.dentryScan p n with
  | hit i => rw [vfsDentryGet_of_hit hs]; exact le_rfl
  | miss c =>
    cases c with
    | none => rw [vfsDentryGet_of_full hs]; exact le_rfl
    | some i => rw [vfsDentryGet_of_miss hs]; split <;> exact Nat.le_succ _

/-- A hit is the slot keyed `(p, n)`; a miss means no slot is keyed so. -/
theorem dentryScan_hit {i : Slot} (h : s.dentryScan p n = .hit i) : (s.dentries i).Keyed p n :=
  (vfsDentryScan_hit h).2

theorem dentryScan_miss {c : Option Slot} (h : s.dentryScan p n = .miss c) (j : Slot) :
    ¬ (s.dentries j).Keyed p n :=
  vfsDentryScan_miss h j (List.mem_finRange j)

/-- The scan starts at slot 0, so a slot 0 keyed `(p, n)` is the hit. -/
theorem dentryScan_zero {p : Option Slot} {n : String} (h : (s.dentries 0).Keyed p n) :
    s.dentryScan p n = .hit 0 := by
  rw [dentryScan, show List.finRange vfsMaxDentries = 0 :: _ from List.finRange_succ 99,
    vfsDentryScan, h.1]
  exact if_pos ⟨h.2, rfl⟩

/-- **A mount point is never evicted**: the slot a miss reuses is empty or not a mount point. -/
theorem dentryScan_evictable {c : Slot} (h : s.dentryScan p n = .miss (some c)) :
    (s.dentries c).Evictable :=
  vfsDentryScan_evictable (fun _ hc => by cases hc) h

/-- `E_LIMIT` only when every slot holds a mount point. -/
theorem dentryScan_full (h : s.dentryScan p n = .miss none) (j : Slot) :
    ¬ (s.dentries j).Evictable :=
  (vfsDentryScan_full h).2 j (List.mem_finRange j)

/-- The scan reads the table only. -/
theorem dentryScan_of_dentries {t : VfsState} (h : s.dentries = t.dentries) :
    s.dentryScan p n = t.dentryScan p n := by
  rw [dentryScan, dentryScan, h]

theorem dentryScan_tick : s.tick.dentryScan p n = s.dentryScan p n := rfl

end VfsState

/-! ## Keys -/

/-- No two occupied slots share `(d_parent, d_name)`. -/
def KeysUnique (t : DentryTable) : Prop :=
  ∀ i j, (t i).dName ≠ none → (t i).dName = (t j).dName → (t i).dParent = (t j).dParent → i = j

/-- Uniqueness survives any change that only empties slots or leaves keys alone. -/
theorem KeysUnique.mono {t t' : DentryTable} (h : KeysUnique t)
    (h' : ∀ i, (t' i).dName ≠ none → (t' i).dName = (t i).dName ∧ (t' i).dParent = (t i).dParent) :
    KeysUnique t' := by
  intro i j hi hn hp
  have hj : (t' j).dName ≠ none := hn ▸ hi
  obtain ⟨hi1, hi2⟩ := h' i hi
  obtain ⟨hj1, hj2⟩ := h' j hj
  exact h i j (hi1 ▸ hi) (hi1 ▸ hj1 ▸ hn) (hi2 ▸ hj2 ▸ hp)

/-- Writing a dentry keyed `(p, n)` where no slot was keyed so keeps keys unique. -/
theorem KeysUnique.update_fresh {t : DentryTable} (h : KeysUnique t) {p : Option Slot} {n : String}
    (hk : ∀ j, ¬ (t j).Keyed p n) (i : Slot) {d : Dentry} (hd : d.Keyed p n) :
    KeysUnique (Function.update t i d) := by
  have fresh : ∀ j, j ≠ i → (Function.update t i d j).dName = d.dName →
      (Function.update t i d j).dParent = d.dParent → False := fun j hj h1 h2 => by
    rw [Function.update_noteq hj] at h1 h2
    exact hk j ⟨h1.trans hd.1, h2.trans hd.2⟩
  intro a b ha hn hp
  by_cases hai : a = i
  · subst hai
    by_contra hab
    simp only [Function.update_same] at hn hp
    exact fresh b (Ne.symm hab) hn.symm hp.symm
  · by_cases hbi : b = i
    · subst hbi
      simp only [Function.update_same] at hn hp
      exact (fresh a hai hn hp).elim
    · rw [Function.update_noteq hai, Function.update_noteq hbi] at hn hp
      rw [Function.update_noteq hai] at ha
      exact h a b ha hn hp

theorem KeysUnique.update_empty {t : DentryTable} (h : KeysUnique t) (i : Slot) :
    KeysUnique (Function.update t i Dentry.empty) :=
  h.mono fun j hj => by
    by_cases hji : j = i
    · subst hji; simp [Dentry.empty] at hj
    · simp [Function.update_noteq hji]

/-- Rewriting a slot without touching its key keeps keys unique. -/
theorem KeysUnique.update_sameKey {t : DentryTable} (h : KeysUnique t) (i : Slot) {d : Dentry}
    (hn : d.dName = (t i).dName) (hp : d.dParent = (t i).dParent) :
    KeysUnique (Function.update t i d) :=
  h.mono fun j _ => by
    by_cases hji : j = i
    · subst hji; simp [hn, hp]
    · simp [Function.update_noteq hji]

namespace VfsState

variable {o : Oracle} {s : VfsState} {p : Option Slot} {n : String}

theorem vfsDentryGet_keysUnique (h : KeysUnique s.dentries) :
    KeysUnique (s.vfsDentryGet o p n).2.dentries := by
  cases hs : s.dentryScan p n with
  | hit i =>
    rw [vfsDentryGet_of_hit hs]
    exact h.update_sameKey i rfl rfl
  | miss c =>
    cases c with
    | none => rw [vfsDentryGet_of_full hs]; exact h
    | some i =>
      rw [vfsDentryGet_of_miss hs]
      split
      · simp only [setDentry_dentries, tick_dentries, vfsDentryReset]
        rw [Function.update_idem]
        exact h.update_fresh (dentryScan_miss hs) i ⟨rfl, rfl⟩
      · simpa [vfsDentryReset] using h.update_empty i

/-- The pre-check of `vfs_dentry_unmount_sb` refuses with the table untouched. -/
theorem vfsDentryUnmountSb_busy {sb : SbPtr} (h : (s.vfsDentryUnmountSb sb).1 = -1) :
    (s.vfsDentryUnmountSb sb).2 = s := by
  unfold vfsDentryUnmountSb at h ⊢
  split
  · rfl
  · rw [if_neg ‹_›] at h; cases h

/-- Past the pre-check, `vfs_dentry_unmount_sb` empties exactly the occupied slots of `sb`. -/
theorem vfsDentryUnmountSb_ok {sb : SbPtr} (h : (s.vfsDentryUnmountSb sb).1 ≠ -1) :
    (s.vfsDentryUnmountSb sb).2 = { s with dentries := fun i =>
      if (s.dentries i).Occupied ∧ (s.dentries i).dSb = some sb then Dentry.empty else s.dentries i } := by
  unfold vfsDentryUnmountSb at h ⊢
  split
  · rw [if_pos ‹_›] at h; exact absurd rfl h
  · rfl

/-- `vfs_dentry_unmount_sb` writes only the dentry table. -/
theorem vfsDentryUnmountSb_vnodes (sb : SbPtr) : (s.vfsDentryUnmountSb sb).2.vnodes = s.vnodes := by
  unfold vfsDentryUnmountSb
  split <;> rfl

theorem vfsDentryUnmountSb_frame (sb : SbPtr) :
    (s.vfsDentryUnmountSb sb).2.calls = s.calls ∧ (s.vfsDentryUnmountSb sb).2.fsTypes = s.fsTypes := by
  unfold vfsDentryUnmountSb
  split <;> exact ⟨rfl, rfl⟩

theorem vfsDentryUnmountSb_keysUnique (h : KeysUnique s.dentries) (sb : SbPtr) :
    KeysUnique (s.vfsDentryUnmountSb sb).2.dentries := by
  by_cases hb : (s.vfsDentryUnmountSb sb).1 = -1
  · rw [vfsDentryUnmountSb_busy hb]; exact h
  · rw [vfsDentryUnmountSb_ok hb]
    refine h.mono fun i hi => ?_
    dsimp only at hi ⊢
    split at hi
    · simp [Dentry.empty] at hi
    · rw [if_neg ‹_›]; exact ⟨rfl, rfl⟩

theorem vfsDentryUnmountSb_rootDentry (sb : SbPtr) :
    (s.vfsDentryUnmountSb sb).2.rootDentry = s.rootDentry := by
  unfold vfsDentryUnmountSb
  split <;> rfl

/-- **`vfs_dentry_unmount_sb` never empties a mount point**: one that belongs to `sb` makes it
refuse. -/
theorem vfsDentryUnmountSb_mountPoint {sb : SbPtr} {j : Slot} (ho : (s.dentries j).Occupied)
    (hm : (s.dentries j).dMntSb ≠ none) : (s.vfsDentryUnmountSb sb).2.dentries j = s.dentries j := by
  by_cases hb : (s.vfsDentryUnmountSb sb).1 = -1
  · rw [vfsDentryUnmountSb_busy hb]
  · rw [vfsDentryUnmountSb_ok hb]
    refine if_neg fun hj => hb ?_
    unfold vfsDentryUnmountSb
    rw [if_pos (List.any_eq_true.2 ⟨j, List.mem_finRange j, by simp [ho, hm, hj.2]⟩)]

/-- Some occupied slot of superblock `sb` is a mount point: what the first pass of
`vfs_dentry_unmount_sb` looks for. -/
def MountBusy (t : DentryTable) (sb : SbPtr) : Prop :=
  ∃ i, (t i).Occupied ∧ (t i).dMntSb ≠ none ∧ (t i).dSb = some sb

/-- **`vfs_dentry_unmount_sb(sb)`** returns `-1`, changing nothing, exactly when an occupied slot
of `sb` is a mount point; otherwise it returns `0`, having emptied exactly the occupied slots of
`sb`, and changes nothing else. -/
theorem dentry_unmount_sb_spec (s : VfsState) (sb : SbPtr) :
    ((s.vfsDentryUnmountSb sb).1 = -1 ↔ MountBusy s.dentries sb) ∧
    (MountBusy s.dentries sb → s.vfsDentryUnmountSb sb = (-1, s)) ∧
    (¬ MountBusy s.dentries sb → s.vfsDentryUnmountSb sb = (0, { s with dentries := fun i =>
      if ((s.dentries i).Occupied ∧ (s.dentries i).dSb = some sb) then Dentry.empty else s.dentries i })) := by
  -- the first pass checks every slot
  have hany : ((List.finRange vfsMaxDentries).any fun i => decide ((s.dentries i).Occupied ∧
      (s.dentries i).dMntSb ≠ none ∧ (s.dentries i).dSb = some sb)) = true ↔ MountBusy s.dentries sb := by
    simp [List.any_eq_true, MountBusy]
  by_cases hb : MountBusy s.dentries sb
  · have he : s.vfsDentryUnmountSb sb = (-1, s) := if_pos (hany.2 hb)
    simp [he, hb]
  · have he : s.vfsDentryUnmountSb sb = (0, _) := if_neg (mt hany.1 hb)
    simp [he, hb]

end VfsState

end Buhos.Vfs
