import Buhos.Vfs.Run

/-!
# Evicting a parent

`vfs_dentry_get` keeps mount points out of eviction and nothing else. Once the table is full
it reuses the first least-used slot even when another occupied slot has it as `d_parent`: the
child then points at an empty slot, or at whatever dentry takes the slot over.

The run here mounts `rootfs` at `/`, fills the other 99 slots with lookups under `/`, looks
up `x` twice under the entry in slot 1 (so that `x`, in slot 0, is used more than its parent),
and then looks up `w` under `/`, which evicts slot 1.

* `reachable_filled`: the fill, one lookup at a time, by induction.
* `evicted_parent_dangles`: if the allocation for `w`'s name fails, slot 1 is left empty while
  `x` still names it as its parent.
* `stale_child_returned`: if it succeeds, slot 1 holds `w`, and looking up `x` under it returns
  the dentry resolved under the evicted directory, with that directory's vnode number for `x`.
* `walk_evicts_parent`: the lookups above are direct calls of `vfs_lookup_in_dentry`; on a walk
  from the root, `vfs_mount` of `/z/y` in the full table evicts `z`'s slot while looking `y` up
  under it, and reaches undefined behaviour.
-/

namespace Buhos.Vfs

open VfsState

/-- The name of the `m`-th entry of the fill: `m + 1` letters `a`. -/
def fillName (m : Nat) : String := ⟨List.replicate (m + 1) 'a'⟩

/-- The `m`-th entry of the fill, as the lookup under `/` leaves it. -/
def fillEntry (m : Nat) : Dentry :=
  ⟨some (fillName m), 1 + ((fillName m).length : Int), some 99, some 6, none, 1⟩

/-- The table after `k` entries of the fill: `/` in slot 99, the `m`-th entry in slot `98 - m`. -/
def fillTable (k : Nat) (j : Slot) : Dentry :=
  if j.val = 99 then rootEntry
  else if 99 - k ≤ j.val then fillEntry (98 - j.val)
  else Dentry.empty

/-- The state after `k` entries of the fill. -/
def filled (k : Nat) : VfsState :=
  { booted with dentries := fillTable k, calls := booted.calls + 6 * k }

theorem slot_lt (j : Slot) : j.val < 100 := j.isLt

theorem fillName_length (m : Nat) : (fillName m).length = m + 1 := by
  simp [fillName, String.length]

theorem fillName_inj {a b : Nat} (h : fillName a = fillName b) : a = b := by
  have := congrArg String.length h
  rw [fillName_length, fillName_length] at this
  omega

theorem fillTable_root (k : Nat) : fillTable k 99 = rootEntry := rfl

theorem fillTable_child {k : Nat} {j : Slot} (hj : j.val ≠ 99) (hk : 99 - k ≤ j.val) :
    fillTable k j = fillEntry (98 - j.val) := by
  simp [fillTable, hj, hk]

theorem fillTable_empty {k : Nat} {j : Slot} (hj : j.val < 99 - k) : fillTable k j = Dentry.empty := by
  simp [fillTable, show j.val ≠ 99 by omega, show ¬ 99 - k ≤ j.val by omega]

theorem filled_zero : filled 0 = booted := by
  rw [filled, booted_eq]
  refine VfsState.ext rfl rfl (funext fun j => ?_) rfl rfl rfl rfl
  by_cases hj : j.val = 99
  · rw [show j = 99 from Fin.ext hj]; rfl
  · have hne : j ≠ 99 := fun h => hj (by rw [h]; rfl)
    simp only [Function.update_noteq hne]
    exact fillTable_empty (by have := slot_lt j; omega)

/-- Over any base state, the `k + 1`-th state of the fill is the `k`-th with the next table and
six more answers read. -/
theorem fillState_succ (b : VfsState) (k : Nat) :
    ({ b with dentries := fillTable (k + 1), calls := b.calls + 6 * (k + 1) } : VfsState) =
      { ({ b with dentries := fillTable k, calls := b.calls + 6 * k } : VfsState) with
        dentries := fillTable (k + 1), calls := b.calls + 6 * k + 6 } := rfl

theorem filled_calls (k : Nat) : (filled k).calls = booted.calls + 6 * k := rfl

theorem filled_dentries (k : Nat) : (filled k).dentries = fillTable k := rfl

/-- The fill writes neither the superblocks, the vnode cache nor the root. -/
theorem fillState_keeps (b : VfsState) (k : Nat) :
    ({ b with dentries := fillTable k, calls := b.calls + 6 * k } : VfsState).sbs = b.sbs ∧
      ({ b with dentries := fillTable k, calls := b.calls + 6 * k } : VfsState).vnodes = b.vnodes ∧
      ({ b with dentries := fillTable k, calls := b.calls + 6 * k } : VfsState).rootDentry = b.rootDentry :=
  ⟨rfl, rfl, rfl⟩

/-- `fillState_keeps` over the boot. -/
theorem filled_sbs (k : Nat) : (filled k).sbs = booted.sbs := (fillState_keeps booted k).1

theorem filled_vnodes (k : Nat) : (filled k).vnodes = [] := (fillState_keeps booted k).2.1.trans booted_vnodes

theorem filled_rootDentry (k : Nat) : (filled k).rootDentry = some 99 :=
  (fillState_keeps booted k).2.2.trans booted_rootDentry

/-- `fillState_succ` over the boot; an instance, so that no proof compares the fill's states
through the computed `booted`. -/
theorem filled_succ (k : Nat) :
    filled (k + 1) = { filled k with dentries := fillTable (k + 1), calls := (filled k).calls + 6 } :=
  fillState_succ booted k

/-! ## The fill -/

theorem fillTable_cases (k : Nat) (j : Slot) :
    (j.val = 99 ∧ fillTable k j = rootEntry) ∨
      (j.val ≠ 99 ∧ 99 - k ≤ j.val ∧ fillTable k j = fillEntry (98 - j.val)) ∨
      (j.val < 99 - k ∧ fillTable k j = Dentry.empty) := by
  by_cases h₁ : j.val = 99
  · exact .inl ⟨h₁, by simp [fillTable, h₁]⟩
  · by_cases h₂ : 99 - k ≤ j.val
    · exact .inr (.inl ⟨h₁, h₂, fillTable_child h₁ h₂⟩)
    · exact .inr (.inr ⟨by omega, fillTable_empty (by omega)⟩)

/-- The `k`-th entry of the fill goes to slot `98 - k`. -/
theorem fillTable_succ {k : Nat} (hk : k < 99) :
    Function.update (fillTable k) ⟨98 - k, by show _ < 100; omega⟩ (fillEntry k) = fillTable (k + 1) := by
  funext j
  by_cases hj : j.val = 98 - k
  · rw [show j = ⟨98 - k, _⟩ from Fin.ext hj, Function.update_same,
      fillTable_child (show 98 - k ≠ 99 by omega) (show 99 - (k + 1) ≤ 98 - k by omega),
      show 98 - (98 - k) = k by omega]
  · rw [Function.update_noteq (fun h => hj (congrArg Fin.val h))]
    simp only [fillTable]
    split_ifs <;> first | rfl | omega

/-- The `k`-th lookup of the fill misses, and the last empty slot, `98 - k`, is the candidate. -/
theorem fill_scan {k : Nat} (hk : k < 99) :
    (filled k).dentryScan (some 99) (fillName k) = .miss (some ⟨98 - k, by show _ < 100; omega⟩) := by
  refine vfsDentryScan_last_empty (List.pairwise_lt_finRange _) (List.mem_finRange _) ?_ ?_ ?_
  · show (fillTable k _).dName = none
    rw [fillTable_empty (by show 98 - k < 99 - k; omega)]; rfl
  · intro j _ hkey
    rcases fillTable_cases k j with ⟨-, he⟩ | ⟨h₁, h₂, he⟩ | ⟨-, he⟩ <;>
      simp only [filled, he, Dentry.Keyed, rootEntry, fillEntry, Dentry.empty] at hkey
    · cases hkey.2
    · have := fillName_inj (Option.some.inj hkey.1); have := slot_lt j; omega
    · cases hkey.1
  · intro j _ hcj
    have hcj : 98 - k < j.val := hcj
    rcases fillTable_cases k j with ⟨-, he⟩ | ⟨-, -, he⟩ | ⟨h, -⟩
    · simp [filled, he, rootEntry]
    · simp [filled, he, fillEntry]
    · omega

/-- **One lookup of the fill**: the `k`-th name goes to slot `98 - k`. -/
theorem fill_step {k : Nat} (hk : k < 99) :
    (filled k).vfsLookupInDentry treeOracle (some 99) (fillName k) =
      some (some ⟨98 - k, by show _ < 100; omega⟩, filled (k + 1)) := by
  rw [treeOracle, vfsLookupInDentry_happy (p := 6) (v := 1) _ (fill_scan hk)
    (Fin.ne_of_val_ne (by show 99 ≠ 98 - k; omega)) (by simp only [filled, booted_vnodes])
    (by simp [dirVnode, filled, fillTable_root, rootEntry, sbAt, booted_sbs])
    (by simp [sbAt, filled, booted_sbs]), filled_succ, ← fillTable_succ hk]
  congr 3

/-- **The fill is reachable**: each of its lookups is a call of a run. -/
theorem reachable_filled : ∀ {k : Nat}, k ≤ 99 → Reachable (filled k)
  | 0, _ => filled_zero ▸ reachable_booted
  | k + 1, hk => .step treeOracle (.lookupInDentry 99 (fillName k)) (reachable_filled (k := k) (by omega)) (by
      rw [VfsState.call, if_pos (by simp [filled, fillTable_root, rootEntry, Dentry.Occupied]),
        fill_step (by omega)]
      rfl)

/-- In the full table every slot but `/` holds an entry of the fill. -/
theorem fillTable_full {j : Slot} (hj : j ≠ 99) : fillTable 99 j = fillEntry (98 - j.val) :=
  fillTable_child (fun h => hj (Fin.ext h)) (Nat.zero_le _)

theorem fillName_ne {m : Nat} {c : Char} (hc : c ≠ 'a') : fillName m ≠ ⟨[c]⟩ := fun h => by
  have := congrArg (fun s : String => s.data.head?) h
  simp [fillName, List.replicate_succ] at this
  exact hc this.symm

/-! ## Evicting slot 1 -/

theorem fillTable_zero : fillTable 99 0 = fillEntry 98 := fillTable_full (by decide)

theorem fillTable_one : fillTable 99 1 = fillEntry 97 := fillTable_full (by decide)

theorem one_ne_zero_slot : (1 : Slot) ≠ 0 := by decide

/-- **A miss in the full table takes slot 0**: no slot is empty and every slot but `/` counts 1,
so the first least-used slot is the first one. Slot 0 may hold any other plain dentry counted
once. -/
theorem dentryScan_fill_full {s : VfsState} {p : Option Slot} {n : String}
    (hs : ∀ j, j ≠ 0 → s.dentries j = fillTable 99 j)
    (h0 : (s.dentries 0).dName ≠ none ∧ (s.dentries 0).dMntSb = none ∧ (s.dentries 0).dCount = 1)
    (hk : ∀ j, ¬ (s.dentries j).Keyed p n) : s.dentryScan p n = .miss (some 0) := by
  refine vfsDentryScan_first_min (List.pairwise_lt_finRange _) (List.mem_finRange _) h0.2.1
    (fun j _ => ?_) (fun j _ => hk j) (fun j _ => ?_) (fun j _ h => absurd h (Nat.not_lt_zero _)) (.inl rfl)
  all_goals
    by_cases h₀ : j = 0
    · subst h₀; simp [h0]
    rw [hs j h₀]
    by_cases hj : j = 99
    · subst hj; simp [fillTable_root, rootEntry]
    · simp [fillTable_full hj, fillEntry, h0]

/-- `x` as the lookup under slot 1 leaves it, in slot 0. -/
def xEntry : Dentry := ⟨some "x", (fillEntry 97).dVno + ("x".length : Int), some 1, some 6, none, 1⟩

/-- After the first lookup of `x`. -/
def lookedX : VfsState :=
  { filled 99 with dentries := Function.update (fillTable 99) 0 xEntry, calls := booted.calls + 600 }

/-- After the second, a hit: `x` counts 2, its parent 1. -/
def usedX : VfsState :=
  { lookedX with dentries := Function.update (fillTable 99) 0 { xEntry with dCount := 2 } }

/-- The full table has no free slot, so `x` goes to the first least-used one: slot 0. -/
theorem lookedX_step :
    (filled 99).vfsLookupInDentry treeOracle (some 1) "x" = some (some 0, lookedX) := by
  have hscan : (filled 99).dentryScan (some 1) "x" = .miss (some 0) :=
    dentryScan_fill_full (fun _ _ => rfl) (by simp [filled, fillTable_zero, fillEntry]) fun j => by
      by_cases hj : j = 99
      · subst hj; simp [filled, fillTable_root, rootEntry, Dentry.Keyed]
      · simp [filled, fillTable_full hj, fillEntry, Dentry.Keyed]
  rw [treeOracle, vfsLookupInDentry_happy (p := 6) (v := (fillEntry 97).dVno) _ hscan (by decide)
    (by simp only [filled, booted_vnodes])
    (by simp [dirVnode, filled, fillTable_one, fillEntry]) (by simp [sbAt, filled, booted_sbs]), lookedX,
    filled_calls, booted_calls]
  congr 3

/-- The second lookup of `x` is a hit on slot 0. -/
theorem usedX_step : lookedX.vfsLookupInDentry treeOracle (some 1) "x" = some (some 0, usedX) := by
  rw [vfsLookupInDentry_of_hit (dentryScan_zero (p := some 1) (n := "x") ⟨rfl, rfl⟩)
    (by simp [lookedX, xEntry, fillEntry]; omega), usedX, setDentry]
  congr 3
  simp [lookedX, xEntry, intSucc, intMax]

/-- `w` under `/` misses, and the first least-used slot is now 1: the parent of `x`. -/
theorem usedX_scan_w : usedX.dentryScan (some 99) "w" = .miss (some 1) := by
  have h1 : usedX.dentries 1 = fillEntry 97 := by
    simp [usedX, Function.update_noteq one_ne_zero_slot, fillTable_one]
  refine vfsDentryScan_first_min (List.pairwise_lt_finRange _) (List.mem_finRange _)
    (by rw [h1]; rfl) (fun j _ => ?_) (fun j _ => ?_) (fun j _ => ?_) (fun j _ hj => ?_) (.inl rfl)
  rotate_left 3
  · rw [h1, show j = 0 from Fin.ext (show j.val = 0 by have : j.val < 1 := hj; omega)]
    simp [usedX, fillEntry]
  all_goals
    try rw [h1]
    by_cases h0 : j = 0
    · subst h0; simp [usedX, xEntry, fillEntry, Dentry.Keyed]
    by_cases hj : j = 99
    · subst hj; simp [usedX, Function.update_noteq h0, fillTable_root, rootEntry, Dentry.Keyed]
    · simp [usedX, Function.update_noteq h0, fillTable_full hj, fillEntry, Dentry.Keyed,
        fillName_ne (c := 'w') (by decide)]

theorem reachable_lookedX : Reachable lookedX :=
  .step treeOracle (.lookupInDentry 1 "x") (reachable_filled le_rfl)
    (by rw [call, if_pos (by simp [filled, fillTable_one, fillEntry, Dentry.Occupied]), lookedX_step]; rfl)

theorem reachable_usedX : Reachable usedX :=
  .step treeOracle (.lookupInDentry 1 "x") reachable_lookedX
    (by rw [call, if_pos (by simp [lookedX, Function.update_noteq one_ne_zero_slot, fillTable_one, fillEntry,
      Dentry.Occupied]), usedX_step]; rfl)

/-- The allocator refuses every request; the drivers answer as in `treeOracle`. -/
def nameAllocFails : Oracle := { treeOracle with kalloc := fun _ => false }

/-- **A lookup that fails leaves a child pointing at an empty slot.** Looking up `w` under `/`
evicts slot 1, the parent of `x`; the allocation of the name fails, so the call returns `NULL`
with `E_LIMIT`, slot 1 stays empty, and `x` in slot 0 still has it as `d_parent`. -/
theorem evicted_parent_dangles :
    ∃ s, Reachable s ∧ (s.dentries 0).Occupied ∧ (s.dentries 0).dParent = some 1 ∧
      ¬ (s.dentries 1).Occupied := by
  have hB : usedX.vfsLookupInDentry nameAllocFails (some 99) "w" =
      some (none, ((usedX.vfsDentryReset 1).tick.setErrno .nomem).setErrno .limit) := by
    rw [vfsLookupInDentry, vfsDentryGet_of_miss usedX_scan_w, if_neg (by decide)]
  refine ⟨_, .step nameAllocFails (.lookupInDentry 99 "w") reachable_usedX (by
    rw [call, if_pos (by simp [usedX, Function.update_noteq (by decide : (99 : Slot) ≠ 0), fillTable_root,
      rootEntry, Dentry.Occupied]), hB]; rfl), ?_, ?_, ?_⟩ <;>
    simp [vfsDentryReset, usedX, Function.update_noteq one_ne_zero_slot.symm, xEntry, Dentry.Occupied,
      Dentry.empty]

/-- `w`, looked up under `/`, in slot 1. -/
def wEntry : Dentry := ⟨some "w", 1 + ("w".length : Int), some 99, some 6, none, 1⟩

/-- After the lookup of `w` succeeds. -/
def evictedX : VfsState :=
  { usedX with dentries := Function.update usedX.dentries 1 wEntry, calls := usedX.calls + 6 }

theorem evictedX_step : usedX.vfsLookupInDentry treeOracle (some 99) "w" = some (some 1, evictedX) := by
  have h99 : usedX.dentries 99 = rootEntry := by
    simp [usedX, Function.update_noteq (by decide : (99 : Slot) ≠ 0), fillTable_root]
  rw [treeOracle, vfsLookupInDentry_happy (p := 6) (v := 1) _ usedX_scan_w (by decide)
    (by simp only [usedX, lookedX, filled, booted_vnodes])
    (by rw [dirVnode, h99]; simp [rootEntry, sbAt, usedX, lookedX, filled, booted_sbs])
    (by simp [sbAt, usedX, lookedX, filled, booted_sbs])]
  refine congrArg (fun s => some (some _, s)) (VfsState.ext rfl rfl ?_ rfl rfl rfl rfl)
  simp [evictedX, wEntry, inheritSb, h99, rootEntry]

/-- **A hit returns a child of the evicted directory.** In a reachable state, slot 1 holds `w`,
a plain directory of the superblock at 6; looking up `x` under it succeeds through the cache,
returning the dentry that was resolved under the directory slot 1 held before. The driver's
`lookup` of `x` in `w`'s vnode, at any call, answers another vnode number. -/
theorem stale_child_returned :
    ∃ s, Reachable s ∧ (s.dentries 1).Occupied ∧ (s.dentries 1).dMntSb = none ∧
      (s.dentries 1).dSb = some 6 ∧ ∃ obj s', s.vfsLookupInDentry treeOracle (some 1) "x" = some (some obj, s') ∧
        (s'.dentries obj).dParent = some 1 ∧ (s'.dentries obj).dName = some "x" ∧
        ∀ k, treeOracle.lookup k 6 (s.dentries 1).dVno "x" ≠ .ok (s'.dentries obj).dVno := by
  have h1 : evictedX.dentries 1 = wEntry := by simp [evictedX]
  have h0 : evictedX.dentries 0 = { xEntry with dCount := 2 } := by
    simp [evictedX, usedX, Function.update_noteq one_ne_zero_slot.symm]
  refine ⟨evictedX, .step treeOracle (.lookupInDentry 99 "w") reachable_usedX (by
    rw [call, if_pos (by simp [usedX, Function.update_noteq (by decide : (99 : Slot) ≠ 0), fillTable_root,
      rootEntry, Dentry.Occupied]), evictedX_step]; rfl), by simp [h1, wEntry, Dentry.Occupied],
    by simp [h1, wEntry], by simp [h1, wEntry], 0, _,
    vfsLookupInDentry_of_hit (dentryScan_zero (p := some 1) (n := "x") (by simp [h0, xEntry, Dentry.Keyed]))
      (by simp [h0, xEntry, fillEntry]; omega), ?_⟩
  simp [h0, h1, xEntry, wEntry, fillEntry, fillName_length, treeOracle, Oracle.happy,
    show "w".length = 1 from rfl, show "x".length = 1 from rfl]

/-! ## Evicting the parent on a walk from the root

`vfs_lookup_in_dentry` is static: the code reaches it only through `vfs_lookup`'s walk from
`vfs_root_dentry`, which `vfs_mount` runs once a root is mounted. In the full table a walk of two
new components evicts the parent it walks from. -/

/-- `z`, looked up under `/` in the full table, in slot 0. -/
def zEntry : Dentry := ⟨some "z", 1 + ("z".length : Int), some 99, some 6, none, 1⟩

/-- **A walk from the root evicts its own parent.** In the full table, `vfs_mount(2, "/z/y", ...)`,
`strtok` giving `z` and `y`, looks `z` up under `/` into slot 0, the first least-used slot. Looking
`y` up under slot 0 then takes slot 0 itself: `y` becomes its own parent and inherits no
superblock, so the directory the resolve reads is the vnode `(NULL, 0)`, and the mount, `kalloc`
succeeding, has no defined result. -/
theorem walk_evicts_parent :
    Reachable (filled 99) ∧ (filled 99).rootDentry = some 99 ∧
      ∃ s₁ s₂, (filled 99).tick.tick.vfsLookupInDentry treeOracle (some 99) "z" = some (some 0, s₁) ∧
        s₁.vfsDentryGet treeOracle (some 0) "y" = (some 0, s₂) ∧ (s₂.dentries 0).dParent = some 0 ∧
        s₂.dirVnode 0 = some (none, 0) ∧
        (filled 99).vfsMount (treeOracle.withTokens ["z", "y"]) 2 "/z/y" "rootfs" = none := by
  have hz : (filled 99).tick.tick.dentryScan (some 99) "z" = .miss (some 0) :=
    dentryScan_fill_full (fun _ _ => rfl) (by simp [filled, fillTable_zero, fillEntry]) fun j => by
      by_cases hj : j = 99
      · subst hj; simp [filled, fillTable_root, rootEntry, Dentry.Keyed]
      · simp [filled, fillTable_full hj, fillEntry, Dentry.Keyed, fillName_ne (c := 'z') (by decide)]
  obtain ⟨s₁, hz₁, hs₁⟩ : ∃ s₁, (filled 99).tick.tick.vfsLookupInDentry treeOracle (some 99) "z" = some (some 0, s₁) ∧
      s₁.dentries = Function.update (fillTable 99) 0 zEntry :=
    ⟨_, vfsLookupInDentry_happy (p := 6) (v := 1) _ hz (by decide) (by rw [tick_vnodes, tick_vnodes, filled_vnodes])
      (by rw [dirVnode_tick, dirVnode_tick]; simp [dirVnode, filled, fillTable_root, rootEntry, sbAt, booted_sbs])
      (by rw [sbAt, tick_sbs, tick_sbs, filled_sbs, booted_sbs]; decide),
      by simp [zEntry, inheritSb, filled, fillTable_root, rootEntry]⟩
  -- `y` misses under slot 0, and slot 0 is again the first least-used slot
  have hy : s₁.dentryScan (some 0) "y" = .miss (some 0) :=
    dentryScan_fill_full (fun j hj => by rw [hs₁, Function.update_noteq hj]) (by simp [hs₁, zEntry]) fun j => by
      rw [hs₁]
      by_cases h0 : j = 0
      · subst h0; simp [zEntry, Dentry.Keyed]
      by_cases hj : j = 99
      · subst hj; simp [Function.update_noteq (by decide : (99 : Slot) ≠ 0), fillTable_root, rootEntry, Dentry.Keyed]
      · simp [Function.update_noteq h0, fillTable_full hj, fillEntry, Dentry.Keyed]
  have hget := vfsDentryGet_of_miss (o := treeOracle) hy
  rw [if_pos (show treeOracle.kalloc s₁.calls = true from rfl)] at hget
  have hdir : ((s₁.vfsDentryReset 0).tick.setDentry 0
      ⟨some "y", 0, some 0, inheritSb (s₁.vfsDentryReset 0).dentries (some 0), none, 1⟩).dirVnode 0 = some (none, 0) := by
    simp [dirVnode, inheritSb, vfsDentryReset, Dentry.empty]
  refine ⟨reachable_filled le_rfl, filled_rootDentry 99, s₁, _, hz₁, hget, by simp, hdir, ?_⟩
  rw [vfsMount_eq_lookup (filled_rootDentry 99) (by decide), vfsLookup_of_kalloc rfl, filled_rootDentry]
  show ((vfsLookupWalk _ ["z", "y"] (some 99) (filled 99).tick.tick).map _).map _ = none
  rw [vfsLookupWalk, vfsLookupInDentry_withTokens, hz₁]
  dsimp only
  rw [vfsLookupWalk_singleton, vfsLookupInDentry_withTokens, vfsLookupInDentry_of_miss hy rfl,
    vfsLookupResolve_null hdir]
  rfl

end Buhos.Vfs
