import Buhos.Vfs.DentryGet
import Buhos.Vfs.Eviction

/-!
# The root mount

`vfs_mount` finds a mount point other than `/` with `vfs_lookup`, which returns `NULL` for every
path. So only the root is ever mounted: a `vfs_mount` that succeeds is a mount of `/` while no
root is mounted, and it sets `vfs_root_dentry`; from then on every `vfs_mount` fails, or has
undefined behaviour when the walk of `vfs_lookup` does.

The root's slot is a parentless mount point, and nothing writes it again. No lookup under a
parent does: a hit is keyed by that parent, and a miss reuses an empty slot or one that is not
a mount point. `vfs_dentry_unmount_sb` never empties a mount point, and the success path of
`vfs_sb_unmount`, the only code that clears a `d_mnt_sb`, needs an `sb_mnt`, which no superblock
of a reachable state has.

* `vfsLookupInDentry_writes`: a lookup in a dentry writes at most the slot its scan ends on.
* `vfsMount_of_root`: with a root, `vfs_mount` fails, writing the table at most as `vfs_lookup` does.
* `mount_only_root`: **every `vfs_mount` that returns `0` mounts `/` while no root is mounted, and
  sets the root; with a root mounted, every `vfs_mount` returns `-1` or has undefined behaviour,
  and in a reachable state one has.**
* `root_mount_stable`: **once `vfs_root_dentry` is set, no call moves it or writes its slot.**
-/

namespace Buhos.Vfs

namespace VfsState

variable {o : Oracle} {s s' : VfsState}

/-- The root's slot: occupied, parentless, a mount point. -/
structure RootSlot (d : Dentry) : Prop where
  occupied : d.Occupied
  parent : d.dParent = none
  mounted : d.dMntSb ≠ none

/-! ## What a lookup writes -/

/-- **A lookup in a dentry writes at most one slot, the one the scan of `vfs_dentry_get` ends on**:
the hit, or the slot a miss reuses. -/
theorem vfsLookupInDentry_writes {p : Option Slot} {n : String} {r : Option Slot} {j : Slot}
    (h : s.vfsLookupInDentry o p n = some (r, s')) (hw : s'.dentries j ≠ s.dentries j) :
    s.dentryScan p n = .hit j ∨ s.dentryScan p n = .miss (some j) := by
  rw [vfsLookupInDentry] at h
  rcases he : s.vfsDentryGet o p n with ⟨_ | obj, s₁⟩ <;> rw [he] at h <;> dsimp only at h
  · obtain ⟨-, rfl⟩ := Prod.mk.inj (Option.some.inj h)
    exact vfsDentryGet_writes (by rw [he]; exact hw)
  split at h
  · obtain ⟨-, rfl⟩ := Prod.mk.inj (Option.some.inj h)
    exact vfsDentryGet_writes (by rw [he]; exact hw)
  split at h
  · cases h
  obtain ⟨-, ⟨-, hd⟩ | ⟨-, vno, hd⟩⟩ := vfsLookupResolve_cases h
  all_goals
    by_cases hj : j = obj
    · subst hj; exact (vfsDentryGet_some (o := o) (by rw [he])).1
    · rw [hd, Function.update_noteq hj] at hw
      exact vfsDentryGet_writes (by rw [he]; exact hw)

/-- **No lookup under a parent writes the root's slot.** -/
theorem vfsLookupInDentry_rootSlot {d : Slot} {n : String} {r : Option Slot} {j : Slot}
    (hj : RootSlot (s.dentries j)) (h : s.vfsLookupInDentry o (some d) n = some (r, s')) :
    s'.dentries j = s.dentries j := by
  by_contra hw
  rcases vfsLookupInDentry_writes h hw with hs | hs
  · exact absurd ((dentryScan_hit hs).2.symm.trans hj.parent) (Option.some_ne_none d)
  · exact (dentryScan_evictable hs).elim hj.occupied hj.mounted

theorem vfsLookupWalk_rootSlot {j : Slot} {cs : List String} {d : Slot} {s : VfsState} {r : Option Slot}
    {s' : VfsState} (hj : RootSlot (s.dentries j)) (h : vfsLookupWalk o cs (some d) s = some (r, s')) :
    s'.dentries j = s.dentries j := by
  induction cs generalizing d s with
  | nil => obtain ⟨-, rfl⟩ := Prod.mk.inj (Option.some.inj h); rfl
  | cons c cs ih =>
    rw [vfsLookupWalk] at h
    rcases he : s.vfsLookupInDentry o (some d) c with _ | ⟨_ | d', s₁⟩ <;> rw [he] at h
    · cases h
    · obtain ⟨-, rfl⟩ := Prod.mk.inj (Option.some.inj h); exact vfsLookupInDentry_rootSlot hj he
    · have h₁ := vfsLookupInDentry_rootSlot hj he
      exact (ih (h₁ ▸ hj) h).trans h₁

/-- `vfs_lookup` walks from the root, so it never writes the root's slot. -/
theorem vfsLookup_rootSlot {path : String} {r : Option Slot} {j d : Slot} (hr : s.rootDentry = some d)
    (hj : RootSlot (s.dentries j)) (h : s.vfsLookup o path = some (r, s')) : s'.dentries j = s.dentries j := by
  unfold vfsLookup at h
  split at h <;> rename_i s₁ he <;> obtain rfl : s.tick = s₁ := congrArg Prod.snd he
  · obtain ⟨-, rfl⟩ := Prod.mk.inj (Option.some.inj h); rfl
  · obtain ⟨⟨_, s₂⟩, hw, he'⟩ := Option.map_eq_some'.1 h
    obtain ⟨-, rfl⟩ := Prod.mk.inj he'
    rw [tick_rootDentry, hr] at hw
    exact vfsLookupWalk_rootSlot (s := s.tick.tick) hj hw

/-! ## Mounting with and without a root -/

/-- With a root, `vfsMountPoint` fails: `E_NOTIMP` for `/`, else `E_NOENT` after `vfs_lookup`. -/
theorem vfsMountPoint_of_root {path : String} {x : Except Errno Slot} {d : Slot} (hr : s.rootDentry = some d)
    (h : s.vfsMountPoint o path = some (x, s')) :
    ∃ e, x = .error e ∧ (s' = s ∨ ∃ r, s.vfsLookup o path = some (r, s')) := by
  unfold vfsMountPoint at h
  rw [hr] at h
  dsimp only at h
  split at h
  · obtain ⟨rfl, rfl⟩ := Prod.mk.inj (Option.some.inj h); exact ⟨_, rfl, .inl rfl⟩
  split at h
  · cases h
  · obtain ⟨rfl, rfl⟩ := Prod.mk.inj (Option.some.inj h); exact ⟨_, rfl, .inr ⟨_, ‹_›⟩⟩
  · cases vfsLookup_fst_none ‹_›

/-- `vfsMountPoint` gives a mount point only for `/` without a root: the slot keyed `(NULL, "/")`. -/
theorem vfsMountPoint_ok {path : String} {d : Slot} (h : s.vfsMountPoint o path = some (.ok d, s')) :
    s.rootDentry = none ∧ path = "/" ∧ s'.rootDentry = none ∧ (s'.dentries d).Keyed none "/" := by
  cases hr : s.rootDentry with
  | some r => obtain ⟨_, he, -⟩ := vfsMountPoint_of_root hr h; cases he
  | none =>
    unfold vfsMountPoint at h
    rw [hr] at h
    dsimp only at h
    split at h
    · cases h
    rename_i hpath
    rcases he : s.vfsDentryGet o none "/" with ⟨_ | i, s₁⟩ <;> rw [he] at h <;> dsimp only at h
    · obtain ⟨⟨⟩, -⟩ := Prod.mk.inj (Option.some.inj h)
    · obtain ⟨he', rfl⟩ := Prod.mk.inj (Option.some.inj h)
      cases he'
      have hk := vfsDentryGet_some (o := o) (s := s) (p := none) (n := "/") (by rw [he])
      have hg := (vfsDentryGet_registries (s := s) (o := o) (p := none) (n := "/")).1.rootDentry
      rw [he] at hk hg
      exact ⟨rfl, not_not.1 hpath, hg.trans hr, hk.2⟩

/-- **With a root mounted, `vfs_mount` fails**, writing the table at most as `vfs_lookup` does. -/
theorem vfsMount_of_root {devid : Nat} {path fsType : String} {r : Int} {d : Slot} (hr : s.rootDentry = some d)
    (h : s.vfsMount o devid path fsType = some (r, s')) :
    r = -1 ∧ ∃ e s₁, s' = s₁.setErrno e ∧ (s₁ = s ∨ ∃ x, s.vfsLookup o path = some (x, s₁)) := by
  obtain ⟨r₁, s₁, hp, ⟨e, -, hr', rfl⟩ | ⟨d', rfl, -⟩⟩ := vfsMount_cases h
  · obtain ⟨_, -, hs⟩ := vfsMountPoint_of_root hr hp
    exact ⟨hr', e, s₁, rfl, hs⟩
  · obtain ⟨_, he, -⟩ := vfsMountPoint_of_root hr hp; cases he

/-! ## The root over runs -/

theorem vfsSbUnmount_rootDentry {p : SbPtr} {r : Int} (h : s.vfsSbUnmount o p = some (r, s')) :
    s'.rootDentry = s.rootDentry := by
  have hr := vfsDentryUnmountSb_rootDentry (s := s) p
  obtain ⟨-, u, -, hu, ⟨-, rfl | rfl⟩ | ⟨-, -, rfl⟩ | ⟨-, ⟨-, rfl⟩ | ⟨-, -, -, rfl⟩⟩⟩ :=
    vfsSbUnmount_cases h <;> rw [hu] at hr <;> first | rfl | exact hr

/-- `vfs_sb_unmount` writes no mount point's slot while no superblock has an `sb_mnt`: its success
path, which clears `sb->ro.sb_mnt->ro.d_mnt_sb`, is then never taken. -/
theorem vfsSbUnmount_mountPoint {p : SbPtr} {r : Int} {j : Slot} (hn : s.SbMntNull)
    (ho : (s.dentries j).Occupied) (hm : (s.dentries j).dMntSb ≠ none) (h : s.vfsSbUnmount o p = some (r, s')) :
    s'.dentries j = s.dentries j := by
  have hu : (s.vfsDentryUnmountSb p).2.dentries j = s.dentries j := vfsDentryUnmountSb_mountPoint ho hm
  obtain ⟨sb, u, hsb, hu', ⟨-, rfl | rfl⟩ | ⟨-, -, rfl⟩ | ⟨-, ⟨-, rfl⟩ | ⟨mp, hmp, -, -⟩⟩⟩ :=
    vfsSbUnmount_cases h <;> rw [hu'] at hu
  any_goals first | rfl | exact hu
  cases (hn sb (List.mem_of_find?_eq_some hsb)).symm.trans hmp

/-- **Every call keeps a mounted root**: `vfs_root_dentry` and its slot, while no superblock has an
`sb_mnt`. -/
theorem call_rootSlot {c : Call} {d : Slot} (hn : s.SbMntNull) (hr : s.rootDentry = some d)
    (hd : RootSlot (s.dentries d)) (hc : s.call o c = some s') :
    s'.rootDentry = some d ∧ s'.dentries d = s.dentries d := by
  obtain ⟨_, _, hreg⟩ | ⟨_, _, _, _, hm⟩ | ⟨_, _, hu⟩ | ⟨_, _, hl⟩ | ⟨_, _, _, -, hl⟩ := call_cases hc
  · have ht := vfsFsTypeRegister_typesOnly hreg
    exact ⟨ht.rootDentry.trans hr, by rw [ht.dentries]⟩
  · obtain ⟨-, e, s₂, rfl, rfl | ⟨x, hl⟩⟩ := vfsMount_of_root hr hm
    · exact ⟨hr, rfl⟩
    · exact ⟨(vfsLookup_registries hl).rootDentry.trans hr, (vfsLookup_rootSlot hr hd hl : s₂.dentries d = _)⟩
  · exact ⟨(vfsSbUnmount_rootDentry hu).trans hr, vfsSbUnmount_mountPoint hn hd.occupied hd.mounted hu⟩
  · exact ⟨(vfsLookup_registries hl).rootDentry.trans hr, vfsLookup_rootSlot hr hd hl⟩
  · exact ⟨(vfsLookupInDentry_registries hl).rootDentry.trans hr, vfsLookupInDentry_rootSlot hd hl⟩

/-- **A `vfs_mount` that leaves a root where there was none returned `0`**, and the root is a
parentless mount point. -/
theorem vfsMount_root_none {devid : Nat} {path fsType : String} {r : Int} {d : Slot} (hr : s.rootDentry = none)
    (h : s.vfsMount o devid path fsType = some (r, s')) (hd : s'.rootDentry = some d) :
    r = 0 ∧ RootSlot (s'.dentries d) := by
  obtain ⟨r₁, s₂, hp, hcases⟩ := vfsMount_cases h
  have hr₂ : s₂.rootDentry = none := (vfsMountPoint_keeps hp).1.rootDentry.trans hr
  obtain ⟨e, -, -, rfl⟩ | ⟨d', rfl, t, htd, -, htr, -, -, -, -, hm⟩ := hcases
  · simp [hr₂] at hd
  have ht : t.rootDentry = none := htr.trans hr₂
  obtain ⟨e, -, rfl⟩ | ⟨p, rfl, -, ⟨-, rfl⟩ | ⟨hpar, rfl⟩⟩ := hm
  · simp [vfsDentryReset, ht] at hd
  · simp [ht] at hd
  obtain rfl := Option.some.inj hd
  have hk := (vfsMountPoint_ok hp).2.2.2
  exact ⟨rfl, by simp [Dentry.Occupied, htd, hk.1], by simpa using hpar, by simp⟩

/-- Without a root, only a successful `vfs_mount` sets one, on a parentless mount point. -/
theorem call_root_none {c : Call} {d : Slot} (hr : s.rootDentry = none) (hc : s.call o c = some s')
    (hd : s'.rootDentry = some d) : RootSlot (s'.dentries d) := by
  have hkeep : ∀ {t : VfsState}, t.rootDentry = s.rootDentry → t.rootDentry ≠ some d := fun ht => by
    rw [ht, hr]; exact Option.noConfusion
  obtain ⟨_, _, hreg⟩ | ⟨_, _, _, _, hm⟩ | ⟨_, _, hu⟩ | ⟨_, _, hl⟩ | ⟨_, _, _, -, hl⟩ := call_cases hc
  · exact absurd hd (hkeep (vfsFsTypeRegister_typesOnly hreg).rootDentry)
  · exact (vfsMount_root_none hr hm hd).2
  · exact absurd hd (hkeep (vfsSbUnmount_rootDentry hu))
  · exact absurd hd (hkeep (vfsLookup_registries hl).rootDentry)
  · exact absurd hd (hkeep (vfsLookupInDentry_registries hl).rootDentry)

/-- The root, when set, is a parentless mount point. -/
def RootOk (s : VfsState) : Prop := ∀ d, s.rootDentry = some d → RootSlot (s.dentries d)

theorem RootOk.call {c : Call} (hn : s.SbMntNull) (h : s.RootOk) (hc : s.call o c = some s') : s'.RootOk := by
  intro d hd
  cases hr : s.rootDentry with
  | none => exact call_root_none hr hc hd
  | some d₀ =>
    obtain ⟨h₁, h₂⟩ := call_rootSlot hn hr (h d₀ hr) hc
    obtain rfl : d₀ = d := Option.some.inj (h₁.symm.trans hd)
    rw [h₂]
    exact h d₀ hr

end VfsState

theorem Reachable.rootOk {s : VfsState} (h : Reachable s) : s.RootOk := by
  induction h with
  | init => exact fun _ h => nomatch h
  | step _ _ hs hc ih => exact ih.call hs.vfsInv.sbMnt hc

/-- **Once `vfs_root_dentry` is set, no call moves it or writes its slot**: in every reachable
state with a root, every call, of any entry point with any answers from the drivers, leaves
`vfs_root_dentry` and the root's dentry as they were. -/
theorem root_mount_stable {s : VfsState} (h : Reachable s) {d : Slot} (hr : s.rootDentry = some d)
    {o : Oracle} {c : Call} {s' : VfsState} (hc : s.call o c = some s') :
    s'.rootDentry = some d ∧ s'.dentries d = s.dentries d :=
  VfsState.call_rootSlot h.vfsInv.sbMnt hr (h.rootOk d hr) hc

theorem root_mount_stable_booted :
    booted.rootDentry = some 99 ∧ booted.call treeOracle (.sbUnmount 6) = some (booted.setErrno .notmounted) ∧
      (booted.setErrno .notmounted).rootDentry = some 99 ∧
        (booted.setErrno .notmounted).dentries 99 = booted.dentries 99 := by
  have hr : booted.rootDentry = some 99 := by rw [booted_eq]
  have hc : booted.call treeOracle (.sbUnmount 6) = some (booted.setErrno .notmounted) := by
    rw [VfsState.call, VfsState.vfsSbUnmount_notMounted (by rw [VfsState.sbAt, booted_sbs]; rfl) (by decide)]
    rfl
  exact ⟨hr, hc, root_mount_stable reachable_booted hr hc⟩

/-- **Every `vfs_mount` that returns `0` mounts the root**: it is a mount of `/` made while no
root is mounted, and it sets `vfs_root_dentry` to a parentless mount point. **With a root
mounted, every `vfs_mount` returns `-1` or has undefined behaviour**, whatever the path, the type
and the drivers' answers; and a reachable state has such a call that is undefined: the walk of
`walk_evicts_parent`. -/
theorem mount_only_root {o : Oracle} {s s' : VfsState} {devid : Nat} {path fsType : String} :
    (s.vfsMount o devid path fsType = some (0, s') →
      s.rootDentry = none ∧ path = "/" ∧
        ∃ d, s'.rootDentry = some d ∧ (s'.dentries d).dParent = none ∧ (s'.dentries d).dMntSb ≠ none) ∧
    (s.rootDentry ≠ none →
      s.vfsMount o devid path fsType = none ∨ ∃ t, s.vfsMount o devid path fsType = some (-1, t)) ∧
    ∃ (s₀ : VfsState) (o₀ : Oracle) (devid₀ : Nat) (path₀ fsType₀ : String),
      Reachable s₀ ∧ s₀.rootDentry ≠ none ∧ s₀.vfsMount o₀ devid₀ path₀ fsType₀ = none := by
  obtain ⟨hreach, hroot, -, -, -, -, -, -, hub⟩ := walk_evicts_parent
  refine ⟨fun h => ?_, fun hr => ?_, ⟨_, _, _, _, _, hreach, by rw [hroot]; exact Option.some_ne_none _, hub⟩⟩
  rotate_left
  · obtain ⟨d, hd⟩ := Option.ne_none_iff_exists'.1 hr
    rcases hm : s.vfsMount o devid path fsType with _ | ⟨r, t⟩
    · exact .inl rfl
    · exact .inr ⟨t, by rw [(VfsState.vfsMount_of_root hd hm).1]⟩
  obtain ⟨r₁, s₁, hp, ⟨e, -, he, -⟩ | ⟨d, rfl, t, hd, -, ht, -, -, -, -, ⟨e, he, -⟩ | ⟨p, -, -, hs⟩⟩⟩ :=
    VfsState.vfsMount_cases h
  any_goals cases he
  obtain ⟨hr, hpath, hr₁, hk⟩ := VfsState.vfsMountPoint_ok hp
  refine ⟨hr, hpath, ?_⟩
  have hpar : (t.dentries d).dParent = none := by rw [hd]; exact hk.2
  rcases hs with ⟨hpar', -⟩ | ⟨-, rfl⟩
  · exact absurd hpar hpar'
  · exact ⟨d, rfl, by simp [hpar], by simp⟩

/-- The boot's mount of `/` is such a mount. -/
theorem mount_only_root_boot :
    registered.rootDentry = none ∧ "/" = "/" ∧
      ∃ d, booted.rootDentry = some d ∧ (booted.dentries d).dParent = none ∧ (booted.dentries d).dMntSb ≠ none := by
  have h := registered_mount
  rw [VfsState.call] at h
  obtain ⟨⟨r, x⟩, hm, he : x = booted⟩ := Option.map_eq_some'.1 h
  rw [← he]
  obtain ⟨rfl, -⟩ := VfsState.vfsMount_root_none rfl hm (by rw [he, booted_eq])
  exact mount_only_root.1 hm

end Buhos.Vfs
