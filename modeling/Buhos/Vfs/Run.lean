import Buhos.Vfs.Mount

/-!
# Runs of the VFS

A run starts at `vfs_init` and makes calls to the entry points: registering a filesystem
type, mounting, unmounting a superblock, and looking up a path or a name in an occupied
dentry. Each call sees any answers from the allocator and the drivers (`Reachable.step`
takes its own oracle); a call with no result (undefined behaviour) ends the run.

`vfs_lookup` and `vfs_lookup_in_dentry` are static: the code reaches them only through
`vfs_mount`, whose `vfs_lookup` walks from `vfs_root_dentry`. A run here may also call them
directly, `vfs_lookup_in_dentry` on any occupied slot, so the reachable states include every
state the code's own entry points reach, and what holds in all of them holds of the code. A
defect shown with direct calls is a defect of these functions; `walk_evicts_parent` shows the
eviction of a parent on a walk from the root.

`VfsInv` is what every call keeps, so it holds in every reachable state
(`Reachable.vfsInv`):

* no two occupied slots share `(d_parent, d_name)`;
* no superblock has its mount-point back-reference `sb_mnt` set, because nothing but the
  success path of `vfs_sb_unmount`, which clears it, ever writes it.
-/

namespace Buhos.Vfs

/-- The entry points a run is made of: the public `vfs_fs_type_register`, `vfs_mount` and
`vfs_sb_unmount`, and the static lookups. -/
inductive Call
  | register (name : String)
  | mount (devid : Nat) (path fsType : String)
  | sbUnmount (sb : SbPtr)
  | lookup (path : String)
  | lookupInDentry (dir : Slot) (name : String)
  deriving DecidableEq, Repr

namespace VfsState

/-- One call, the oracle answering its allocations and driver calls. A lookup in an empty slot
is not a call of any run. -/
def call (o : Oracle) (s : VfsState) : Call → Option VfsState
  | .register name => (s.vfsFsTypeRegister o name).map Prod.snd
  | .mount devid path fsType => (s.vfsMount o devid path fsType).map Prod.snd
  | .sbUnmount p => (s.vfsSbUnmount o p).map Prod.snd
  | .lookup path => (s.vfsLookup o path).map Prod.snd
  | .lookupInDentry dir name =>
    if (s.dentries dir).Occupied then (s.vfsLookupInDentry o (some dir) name).map Prod.snd else none

/-- A call is one of the five operations, run to the state it returns; a lookup in a dentry runs
on an occupied slot. -/
theorem call_cases {o : Oracle} {s s' : VfsState} {c : Call} (hc : s.call o c = some s') :
    (∃ name r, s.vfsFsTypeRegister o name = some (r, s')) ∨
      (∃ devid path fsType r, s.vfsMount o devid path fsType = some (r, s')) ∨
      (∃ p r, s.vfsSbUnmount o p = some (r, s')) ∨ (∃ path r, s.vfsLookup o path = some (r, s')) ∨
      ∃ dir name r, (s.dentries dir).Occupied ∧ s.vfsLookupInDentry o (some dir) name = some (r, s') := by
  cases c with
  | register name =>
    obtain ⟨⟨_, _⟩, h, rfl⟩ := Option.map_eq_some'.1 hc
    exact .inl ⟨_, _, h⟩
  | mount devid path fsType =>
    obtain ⟨⟨_, _⟩, h, rfl⟩ := Option.map_eq_some'.1 hc
    exact .inr (.inl ⟨_, _, _, _, h⟩)
  | sbUnmount p =>
    obtain ⟨⟨_, _⟩, h, rfl⟩ := Option.map_eq_some'.1 hc
    exact .inr (.inr (.inl ⟨_, _, h⟩))
  | lookup path =>
    obtain ⟨⟨_, _⟩, h, rfl⟩ := Option.map_eq_some'.1 hc
    exact .inr (.inr (.inr (.inl ⟨_, _, h⟩)))
  | lookupInDentry dir name =>
    simp only [call] at hc
    split at hc
    · obtain ⟨⟨_, _⟩, h, rfl⟩ := Option.map_eq_some'.1 hc
      exact .inr (.inr (.inr (.inr ⟨_, _, _, ‹_›, h⟩)))
    · cases hc

end VfsState

/-- The states `vfs_init` leads to. -/
inductive Reachable : VfsState → Prop
  | init : Reachable vfsInit
  | step {s s' : VfsState} (o : Oracle) (c : Call) : Reachable s → s.call o c = some s' → Reachable s'

/-- What every call keeps. -/
structure VfsInv (s : VfsState) : Prop where
  keys : KeysUnique s.dentries
  sbMnt : s.SbMntNull

theorem vfsInv_init : VfsInv vfsInit where
  keys _ _ h _ _ := absurd rfl h
  sbMnt _ h := nomatch h

theorem VfsInv.call {o : Oracle} {s s' : VfsState} {c : Call} (h : VfsInv s)
    (hc : s.call o c = some s') : VfsInv s' := by
  cases c with
  | register name =>
    obtain ⟨⟨_, s₁⟩, hr, rfl⟩ := Option.map_eq_some'.1 hc
    have ht := VfsState.vfsFsTypeRegister_typesOnly hr
    exact ⟨ht.dentries ▸ h.keys, h.sbMnt.of_sbs ht.sbs⟩
  | mount devid path fsType =>
    obtain ⟨⟨_, s₁⟩, hm, rfl⟩ := Option.map_eq_some'.1 hc
    have hk := VfsState.vfsMount_keeps hm
    exact ⟨hk.1 h.keys, hk.2 h.sbMnt⟩
  | sbUnmount p =>
    obtain ⟨⟨_, s₁⟩, hm, rfl⟩ := Option.map_eq_some'.1 hc
    have hk := VfsState.vfsSbUnmount_keeps hm
    exact ⟨hk.1 h.keys, hk.2 h.sbMnt⟩
  | lookup path =>
    obtain ⟨⟨_, s₁⟩, hl, rfl⟩ := Option.map_eq_some'.1 hc
    exact ⟨VfsState.vfsLookup_keysUnique h.keys hl,
      h.sbMnt.of_sbs (VfsState.vfsLookup_registries hl).sbs⟩
  | lookupInDentry dir name =>
    simp only [VfsState.call] at hc
    split at hc
    · obtain ⟨⟨_, s₁⟩, hl, rfl⟩ := Option.map_eq_some'.1 hc
      exact ⟨VfsState.vfsLookupInDentry_keysUnique h.keys hl,
        h.sbMnt.of_sbs (VfsState.vfsLookupInDentry_registries hl).sbs⟩
    · cases hc

theorem Reachable.vfsInv {s : VfsState} (h : Reachable s) : VfsInv s := by
  induction h with
  | init => exact vfsInv_init
  | step _ _ _ hc ih => exact ih.call hc

/-- Every call only reads more answers. -/
theorem VfsState.call_calls {o : Oracle} {s s' : VfsState} {c : Call} (hc : s.call o c = some s') :
    s.calls ≤ s'.calls := by
  obtain ⟨_, _, h⟩ | ⟨_, _, _, _, h⟩ | ⟨_, _, h⟩ | ⟨_, _, h⟩ | ⟨_, _, _, -, h⟩ := VfsState.call_cases hc
  exacts [VfsState.vfsFsTypeRegister_calls h, (VfsState.vfsMount_frame h).1, (VfsState.vfsSbUnmount_frame h).1,
    VfsState.vfsLookup_calls h, VfsState.vfsLookupInDentry_calls h]

/-! ## A boot -/

/-- The drivers of the runs here: everything succeeds, every vnode is a directory, and `lookup`
finds name `n` in directory vnode `v` at vnode `v + |n|`. -/
def treeOracle : Oracle := Oracle.happy fun _ v n => v + n.length

/-- `vfs_init`, then `rootfs` registered. -/
def registered : VfsState := (vfsInit.call treeOracle (.register "rootfs")).getD vfsInit

/-- Then device 1 mounted at `/` with `rootfs`. -/
def booted : VfsState := (registered.call treeOracle (.mount 1 "/" "rootfs")).getD vfsInit

theorem reachable_registered : Reachable registered := .step treeOracle (.register "rootfs") .init rfl

/-- The root dentry: `/`, parentless, with the superblock at address 6 mounted on it. -/
def rootEntry : Dentry := ⟨some "/", 0, none, none, some 6, 1⟩

/-- What the boot leaves: the type at 1, the superblock at 6 on `/` in slot 99, nine answers read. -/
theorem booted_eq : booted =
    ⟨[⟨1, some "rootfs", true, true⟩], [⟨6, 1, .unused, 1, some 1, none⟩],
      Function.update (Function.update (Function.update (fun _ => Dentry.empty) 99 Dentry.empty) 99
        ⟨some "/", 0, none, none, none, 1⟩) 99 rootEntry, [], some 99, .other 0, 9⟩ := rfl

theorem booted_vnodes : booted.vnodes = [] := by rw [booted_eq]

theorem booted_sbs : booted.sbs = [⟨6, 1, .unused, 1, some 1, none⟩] := by rw [booted_eq]

theorem booted_calls : booted.calls = 9 := by rw [booted_eq]

theorem booted_rootDentry : booted.rootDentry = some 99 := by rw [booted_eq]

/-- The boot's mount call: it succeeds, since `booted` is not the fallback `vfs_init`. -/
theorem registered_mount : registered.call treeOracle (.mount 1 "/" "rootfs") = some booted := by
  cases h : registered.call treeOracle (.mount 1 "/" "rootfs") with
  | none =>
    have hc : booted.calls = 9 := by rw [booted_eq]
    rw [booted, h] at hc
    cases hc
  | some s => rw [booted, h]; rfl

theorem reachable_booted : Reachable booted :=
  .step treeOracle (.mount 1 "/" "rootfs") reachable_registered registered_mount

/-! ## Dentry keys -/

/-- **In every reachable state no two occupied dentries share `(d_parent, d_name)`**, so the
slot a hit of `vfs_dentry_get` returns is the only one with its key. -/
theorem dentry_keys_unique {s : VfsState} (h : Reachable s) :
    KeysUnique s.dentries ∧
      ∀ p n i, s.dentryScan p n = .hit i → ∀ j, (s.dentries j).Keyed p n → j = i := by
  refine ⟨h.vfsInv.keys, fun p n i hi j hj => h.vfsInv.keys j i ?_ ?_ ?_⟩
  · simp [hj.1]
  · rw [hj.1, (VfsState.dentryScan_hit hi).1]
  · rw [hj.2, (VfsState.dentryScan_hit hi).2]

theorem dentry_keys_unique_booted :
    KeysUnique booted.dentries ∧
      ∀ p n i, booted.dentryScan p n = .hit i → ∀ j, (booted.dentries j).Keyed p n → j = i :=
  dentry_keys_unique reachable_booted

/-! ## Path lookup -/

/-- **`vfs_lookup` returns `NULL`**, for every path, from every state it completes from. -/
theorem vfsLookup_null {o : Oracle} {s : VfsState} {path : String} {r : Option Slot} {s' : VfsState}
    (h : s.vfsLookup o path = some (r, s')) : r = none :=
  VfsState.vfsLookup_fst_none h

/-- `vfs_lookup("/")` with `/` mounted returns `NULL`, not the root dentry. -/
theorem vfsLookup_root_null :
    booted.rootDentry = some 99 ∧ ∃ s', booted.vfsLookup treeOracle "/" = some (none, s') := by
  obtain ⟨r, s', h⟩ : ∃ r s', booted.vfsLookup treeOracle "/" = some (r, s') :=
    ⟨_, _, by rw [booted_eq]; rfl⟩
  exact ⟨by rw [booted_eq], s', vfsLookup_null h ▸ h⟩

end Buhos.Vfs
