import Buhos.Vfs.FsType
import Buhos.Vfs.Superblock
import Buhos.Vfs.Lookup

/-!
# Mounting and unmounting

`vfs_mount(devid, path, fs_type)` and `vfs_sb_unmount(sb)`.

`vfs_mount` finds or makes the mount-point dentry (`vfsMountPoint`), checks the type and the
device, allocates a superblock, probes it with the type's `ft_get_sb`, links the type, calls
the superblock's `mount`, and records the superblock in the dentry's `d_mnt_sb`. It never
writes the superblock's `sb_mnt`, nor its flag (only the driver's callbacks may set that).

`vfs_sb_unmount` refuses a superblock that is not flagged mounted, that still has cached
vnodes, or that has mount points among its dentries. It empties the superblock's dentries
*before* it calls the driver's `unmount`, and on success clears `sb->ro.sb_mnt->ro.d_mnt_sb`.

The driver callbacks `ft_get_sb`, `mount` and `unmount` are taken to be set whenever the
code calls them (`ft_get_sb` is checked through the type's `ftGetSb`); what they answer is
the oracle's.

* `vfsMount_cases`, `vfsSbUnmount_cases`: every exit of each, stated once.
* `vfsMount_keeps`, `vfsSbUnmount_keeps`: dentry keys stay unique, and no superblock ever gets
  an `sb_mnt`.
* `vfsSbUnmount_ok`: an unmount that returns `0` read a superblock whose `sb_mnt` was set.
* `vfsSbUnmount_fail`: the failures other than `E_IO` change nothing; `E_IO` comes after
  every dentry of the superblock was emptied.
-/

namespace Buhos.Vfs

namespace VfsState

variable (o : Oracle) (s : VfsState)

/-- The first part of `vfs_mount`: the mount-point dentry, or the error `vfs_mount` fails
with. -/
def vfsMountPoint (path : String) : Option (Except Errno Slot × VfsState) :=
  match s.rootDentry with
  | none =>
    if path ≠ "/" then some (.error .noroot, s)
    else
      match s.vfsDentryGet o none "/" with
      | (none, s) => some (.error .nomem, s)
      | (some d, s) => some (.ok d, s)
  | some _ =>
    if path = "/" then some (.error .notimp, s)
    else
      match s.vfsLookup o path with
      | none => none
      | some (none, s) => some (.error .noent, s)
      | some (some d, s) =>
        if (s.dentries d).dMntSb ≠ none then some (.error .access, s)
        else
          match s.vfsVnodeGetOrRead o (s.dentries d).dSb (s.dentries d).dVno with
          | none => none
          | some (none, s) => some (.error .corrupt, s)
          | some (some n, s) =>
            match s.vnodes.find? (·.addr = n) with
            | none => none
            | some v => if v.vDir = false then some (.error .nodir, s) else some (.ok d, s)

/-- `vfs_mount(devid, path, fs_type)`. -/
def vfsMount (devid : Nat) (path fsType : String) : Option (Int × VfsState) :=
  match s.vfsMountPoint o path with
  | none => none
  | some (.error e, s) => some (-1, s.setErrno e)
  | some (.ok d, s) =>
    match s.vfsFsTypeLookup fsType with
    | none => none
    | some none => some (-1, (s.vfsDentryReset d).setErrno .nokobj)
    | some (some ft) =>
      match s.vfsSbLookup devid with
      | some _ => some (-1, (s.vfsDentryReset d).setErrno .mounted)
      | none =>
        match s.vfsSbAlloc o devid with
        | (none, s) => some (-1, (s.vfsDentryReset d).setErrno .nomem)
        | (some p, s) =>
          if ft.ftGetSb = false then none
          else
            match o.getSb s.calls with
            | none => (s.tick.vfsSbDealloc o p).map fun r => (-1, (r.2.vfsDentryReset d).setErrno .invfs)
            | some setup =>
              let s := s.tick.updSb p fun sb =>
                { sb with sbRootVno := setup.rootVno, sbFlags := setup.flags, sbFsType := some ft.addr }
              match o.sbMount s.calls with
              | none =>
                -- `ft_kill_sb` is called here unchecked, and once more by `vfs_sb_dealloc`
                if ft.ftKillSb = false then none
                else (s.tick.tick.vfsSbDealloc o p).map fun r => (-1, (r.2.vfsDentryReset d).setErrno .io)
              | some fl =>
                let s := (s.tick.updSb p fun sb => { sb with sbFlags := fl }).setDentry d
                  { s.dentries d with dMntSb := some p }
                some (0, if (s.dentries d).dParent = none then { s with rootDentry := some d } else s)

/-- `vfs_sb_unmount(sb)`. `VFS_SB_IS_MOUNTED(sb)`, whose body is not among the sources, is the flag
being `mounted`. -/
def vfsSbUnmount (p : SbPtr) : Option (Int × VfsState) :=
  match s.sbAt p with
  | none => none
  | some sb =>
    if sb.sbFlags ≠ .mounted then some (-1, s.setErrno .notmounted)
    else if s.vfsVnodeUnmountSb p = -1 then some (-1, s.setErrno .corrupt)
    else
      let r := s.vfsDentryUnmountSb p
      if r.1 = -1 then some (-1, r.2.setErrno .busy)
      else if o.sbUnmount r.2.calls = false then some (-1, r.2.tick.setErrno .io)
      else
        match sb.sbMnt with
        | none => none
        | some mp =>
          some (0, (r.2.tick.setDentry mp { r.2.dentries mp with dMntSb := none }).updSb p
            fun sb => { sb with sbFlags := .unused, sbMnt := none })

/-! ## What mounting keeps -/

variable {o s}

theorem vfsMountPoint_keeps {path : String} {r : Except Errno Slot} {s' : VfsState}
    (h : s.vfsMountPoint o path = some (r, s')) :
    s.Registries s' ∧ (KeysUnique s.dentries → KeysUnique s'.dentries) := by
  unfold vfsMountPoint at h
  split at h
  · split at h
    · obtain ⟨-, rfl⟩ := Prod.mk.inj (Option.some.inj h); exact ⟨.refl, id⟩
    · have hg := vfsDentryGet_registries (s := s) (o := o) (p := none) (n := "/")
      have hk := vfsDentryGet_keysUnique (s := s) (o := o) (p := none) (n := "/")
      split at h <;> rename_i he <;> rw [he] at hg hk <;>
        obtain ⟨-, rfl⟩ := Prod.mk.inj (Option.some.inj h) <;> exact ⟨hg.1, hk⟩
  · split at h
    · obtain ⟨-, rfl⟩ := Prod.mk.inj (Option.some.inj h); exact ⟨.refl, id⟩
    split at h
    · cases h
    · rename_i he
      obtain ⟨-, rfl⟩ := Prod.mk.inj (Option.some.inj h)
      exact ⟨vfsLookup_registries he, fun k => vfsLookup_keysUnique k he⟩
    rename_i d s₁ he
    have hl := vfsLookup_registries he
    have hk := fun k => vfsLookup_keysUnique (s := s) k he
    split at h
    · obtain ⟨-, rfl⟩ := Prod.mk.inj (Option.some.inj h); exact ⟨hl, hk⟩
    split at h
    · cases h
    all_goals
      rename_i hg
      have hv := vfsVnodeGetOrRead_vnodesOnly hg
    · obtain ⟨-, rfl⟩ := Prod.mk.inj (Option.some.inj h)
      exact ⟨hl.trans hv.registries, hv.dentries ▸ hk⟩
    · split at h
      · cases h
      · split at h <;> obtain ⟨-, rfl⟩ := Prod.mk.inj (Option.some.inj h) <;>
          exact ⟨hl.trans hv.registries, hv.dentries ▸ hk⟩

/-- What the dentry get of `/` and a lookup keep, `vfsMountPoint` keeps: it loads the mount point's
vnode only after a lookup that returned a dentry, and `vfs_lookup` returns none. -/
theorem vfsMountPoint_inv (P : VfsState → Prop) (hdget : ∀ {s}, P s → P (s.vfsDentryGet o none "/").2)
    (hlook : ∀ {s path r s'}, P s → s.vfsLookup o path = some (r, s') → P s')
    {path : String} {r : Except Errno Slot} {s' : VfsState} (hs : P s)
    (h : s.vfsMountPoint o path = some (r, s')) : P s' := by
  unfold vfsMountPoint at h
  split at h
  · split at h
    · obtain ⟨-, rfl⟩ := Prod.mk.inj (Option.some.inj h); exact hs
    · have h₁ := hdget hs
      split at h <;> rename_i he <;> rw [he] at h₁ <;>
        obtain ⟨-, rfl⟩ := Prod.mk.inj (Option.some.inj h) <;> exact h₁
  · split at h
    · obtain ⟨-, rfl⟩ := Prod.mk.inj (Option.some.inj h); exact hs
    · rcases hl : s.vfsLookup o path with _ | ⟨_ | d, s₁⟩ <;> rw [hl] at h <;> dsimp only at h
      · cases h
      · obtain ⟨-, rfl⟩ := Prod.mk.inj (Option.some.inj h); exact hlook hs hl
      · cases vfsLookup_fst_none hl

/-- **What `vfs_mount` can do** past `vfsMountPoint`, which gave `r₁` in `s₁`: fail with the
error `r₁` holds; or, at the mount point `d`, fail and reset `d` in a state `t` with the table, the vnode
cache and the root of `s₁` (after at most the new superblock's allocation, probe and release); or
return `0` recording the new superblock `p`, registered in `t`, in `d`, making `d` the root when
it has no parent. Either way `t` keeps the superblock registry and the type registry of `s₁`, and reads no answer
twice. -/
theorem vfsMount_cases {devid : Nat} {path fsType : String} {r : Int} {s' : VfsState}
    (h : s.vfsMount o devid path fsType = some (r, s')) :
    ∃ r₁ s₁, s.vfsMountPoint o path = some (r₁, s₁) ∧
      ((∃ e, r₁ = .error e ∧ r = -1 ∧ s' = s₁.setErrno e) ∨
        ∃ d, r₁ = .ok d ∧ ∃ t : VfsState, t.dentries = s₁.dentries ∧ t.vnodes = s₁.vnodes ∧
          t.rootDentry = s₁.rootDentry ∧ (s₁.SbMntNull → t.SbMntNull) ∧ s₁.SbKeeps t ∧ s₁.calls ≤ t.calls ∧
          t.fsTypes = s₁.fsTypes ∧
          ((∃ e, r = -1 ∧ s' = (t.vfsDentryReset d).setErrno e) ∨
            ∃ p, r = 0 ∧ t.sbAt p ≠ none ∧
              ((t.dentries d).dParent ≠ none ∧ s' = t.setDentry d { t.dentries d with dMntSb := some p } ∨
                (t.dentries d).dParent = none ∧
                  s' = { t.setDentry d { t.dentries d with dMntSb := some p } with rootDentry := some d }))) := by
  unfold vfsMount at h
  split at h
  · cases h
  · obtain ⟨rfl, rfl⟩ := Prod.mk.inj (Option.some.inj h)
    exact ⟨_, _, ‹_›, .inl ⟨_, rfl, rfl, rfl⟩⟩
  rename_i d s₁ hp
  refine ⟨_, _, hp, .inr ⟨d, rfl, ?_⟩⟩
  split at h
  · cases h
  · obtain ⟨rfl, rfl⟩ := Prod.mk.inj (Option.some.inj h)
    exact ⟨s₁, rfl, rfl, rfl, id, .refl, le_rfl, rfl, .inl ⟨_, rfl, rfl⟩⟩
  rename_i ft _
  split at h
  · obtain ⟨rfl, rfl⟩ := Prod.mk.inj (Option.some.inj h)
    exact ⟨s₁, rfl, rfl, rfl, id, .refl, le_rfl, rfl, .inl ⟨_, rfl, rfl⟩⟩
  rename_i hl
  have ha := vfsSbAlloc_dentries (s := s₁) (o := o) devid
  have hsa : s₁.SbMntNull → (s₁.vfsSbAlloc o devid).2.SbMntNull := fun hs => hs.alloc devid
  split at h
  · rename_i s₂ he
    obtain ⟨rfl, rfl⟩ := Prod.mk.inj (Option.some.inj h)
    rw [he] at ha hsa
    have hc₂ : s₁.calls ≤ s₂.calls := by
      rcases vfsSbAlloc_cases he with ⟨-, -, hc⟩ | ⟨h, -⟩
      exacts [hc, nomatch h]
    exact ⟨s₂, ha.1, ha.2.1, ha.2.2.1, hsa, (sbKeeps_alloc hl he).1, hc₂, ha.2.2.2, .inl ⟨_, rfl, rfl⟩⟩
  rename_i p s₂ hal
  rw [hal] at ha hsa
  dsimp only at ha hsa
  have hc₂ : s₁.calls ≤ s₂.calls := by
    rcases vfsSbAlloc_cases hal with ⟨h, -⟩ | ⟨-, hc, -⟩
    · exact nomatch h
    · omega
  split at h
  · cases h
  split at h
  -- the probe failed: the new superblock is released
  · obtain ⟨⟨_, s₃⟩, hdl, he⟩ := Option.map_eq_some'.1 h
    obtain ⟨rfl, rfl⟩ := Prod.mk.inj he
    have h₃ := vfsSbDealloc_dentries hdl
    exact ⟨s₃, h₃.1.trans ha.1, h₃.2.1.trans ha.2.1, h₃.2.2.1.trans ha.2.2.1, fun hs => (hsa hs).dealloc hdl,
      sbKeeps_alloc_dealloc hl hal sbKeeps_tick hdl,
      hc₂.trans ((Nat.le_succ _).trans (vfsSbDealloc_sbs hdl).1), h₃.2.2.2.trans ha.2.2.2, .inl ⟨_, rfl, rfl⟩⟩
  rename_i setup _
  have hk₃ : s₂.SbKeeps (s₂.tick.updSb p fun sb =>
      { sb with sbRootVno := setup.rootVno, sbFlags := setup.flags, sbFsType := some ft.addr }) :=
    sbKeeps_tick.trans (sbKeeps_updSb fun _ => ⟨rfl, rfl⟩)
  have hs₃ : s₁.SbMntNull → (s₂.tick.updSb p fun sb =>
      { sb with sbRootVno := setup.rootVno, sbFlags := setup.flags, sbFsType := some ft.addr }).SbMntNull :=
    fun hs => (hsa hs).updSb fun _ h => h
  simp only [updSb_calls, tick_calls] at h
  cases hm : o.sbMount (s₂.calls + 1) <;> simp only [hm] at h
  -- the superblock's mount failed: it is killed and released
  · split at h
    · cases h
    · obtain ⟨⟨_, s₃⟩, hdl, he⟩ := Option.map_eq_some'.1 h
      obtain ⟨rfl, rfl⟩ := Prod.mk.inj he
      have h₃ := vfsSbDealloc_dentries hdl
      have hc₃ : s₂.calls + 1 + 1 + 1 ≤ s₃.calls := (vfsSbDealloc_sbs hdl).1
      exact ⟨s₃, h₃.1.trans ha.1, h₃.2.1.trans ha.2.1, h₃.2.2.1.trans ha.2.2.1, fun hs => (hs₃ hs).dealloc hdl,
        sbKeeps_alloc_dealloc hl hal (hk₃.trans (sbKeeps_tick.trans sbKeeps_tick)) hdl, by omega,
        h₃.2.2.2.trans ha.2.2.2, .inl ⟨_, rfl, rfl⟩⟩
  · rename_i fl
    obtain ⟨rfl, rfl⟩ := Prod.mk.inj (Option.some.inj h)
    refine ⟨(s₂.tick.updSb p fun sb =>
        { sb with sbRootVno := setup.rootVno, sbFlags := setup.flags, sbFsType := some ft.addr }).tick.updSb p
          fun sb => { sb with sbFlags := fl }, ha.1, ha.2.1, ha.2.2.1,
      fun hs => (hs₃ hs).updSb fun _ h => h,
      (sbKeeps_alloc hl hal).1.trans (hk₃.trans (sbKeeps_tick.trans (sbKeeps_updSb fun _ => ⟨rfl, rfl⟩))),
      hc₂.trans (Nat.le_succ_of_le (Nat.le_succ _)), ha.2.2.2, .inr ⟨p, rfl, updSb_sbAt_ne_none (fun _ => rfl) (updSb_sbAt_ne_none (fun _ => rfl)
        ((sbKeeps_alloc hl hal).2 p rfl)), ?_⟩⟩
    split <;> rename_i hpar <;> simp only [setDentry_dentries, Function.update_same] at hpar
    exacts [.inr ⟨hpar, rfl⟩, .inl ⟨hpar, rfl⟩]

/-- **`vfs_mount` keeps dentry keys unique and writes no `sb_mnt`.** -/
theorem vfsMount_keeps {devid : Nat} {path fsType : String} {r : Int} {s' : VfsState}
    (h : s.vfsMount o devid path fsType = some (r, s')) :
    (KeysUnique s.dentries → KeysUnique s'.dentries) ∧ (s.SbMntNull → s'.SbMntNull) := by
  obtain ⟨r₁, s₁, hp, ⟨e, -, -, rfl⟩ | ⟨d, rfl, t, hd, -, -, hs, -, -, -, ⟨e, -, rfl⟩ | ⟨p, -, -, ⟨-, rfl⟩ | ⟨-, rfl⟩⟩⟩⟩ :=
    vfsMount_cases h
  all_goals obtain ⟨hr, hk⟩ := vfsMountPoint_keeps hp
  · exact ⟨hk, fun hs => hs.of_sbs hr.sbs⟩
  · exact ⟨fun k => by simpa [vfsDentryReset, hd] using (hk k).update_empty d,
      fun h => (hs (h.of_sbs hr.sbs)).of_sbs rfl⟩
  all_goals exact ⟨fun k => by
      simpa [hd] using (hk k).update_sameKey (d := { s₁.dentries d with dMntSb := some p }) d rfl rfl,
    fun h => (hs (h.of_sbs hr.sbs)).of_sbs rfl⟩

/-- **Past the mount point, `vfs_mount` loads no vnode**: every exit leaves the vnode cache of the
state `vfsMountPoint` returned. -/
theorem vfsMount_vnodes {devid : Nat} {path fsType : String} {r : Int} {s' : VfsState}
    (h : s.vfsMount o devid path fsType = some (r, s')) :
    ∃ r₁ s₁, s.vfsMountPoint o path = some (r₁, s₁) ∧ s'.vnodes = s₁.vnodes := by
  obtain ⟨r₁, s₁, hp, ⟨e, -, -, rfl⟩ | ⟨d, -, t, -, hv, -, -, -, -, -, ⟨e, -, rfl⟩ | ⟨p, -, -, ⟨-, rfl⟩ | ⟨-, rfl⟩⟩⟩⟩ :=
    vfsMount_cases h
  exacts [⟨_, _, hp, rfl⟩, ⟨_, _, hp, hv⟩, ⟨_, _, hp, hv⟩, ⟨_, _, hp, hv⟩]

theorem vfsMountPoint_calls {path : String} {r : Except Errno Slot} {s' : VfsState}
    (h : s.vfsMountPoint o path = some (r, s')) : s.calls ≤ s'.calls :=
  vfsMountPoint_inv (s.calls ≤ ·.calls) (·.trans vfsDentryGet_calls) (fun h hl => h.trans (vfsLookup_calls hl))
    le_rfl h

/-- Mounting only reads more answers, and leaves the type registry alone. -/
theorem vfsMount_frame {devid : Nat} {path fsType : String} {r : Int} {s' : VfsState}
    (h : s.vfsMount o devid path fsType = some (r, s')) : s.calls ≤ s'.calls ∧ s'.fsTypes = s.fsTypes := by
  obtain ⟨r₁, s₁, hp, ⟨e, -, -, rfl⟩ | ⟨d, -, t, -, -, -, -, -, ht, hf, ⟨e, -, rfl⟩ | ⟨p, -, -, ⟨-, rfl⟩ | ⟨-, rfl⟩⟩⟩⟩ :=
    vfsMount_cases h
  all_goals have h₁ := vfsMountPoint_calls hp
  all_goals have hf₁ := (vfsMountPoint_keeps hp).1.fsTypes
  exacts [⟨h₁, hf₁⟩, ⟨h₁.trans ht, hf.trans hf₁⟩, ⟨h₁.trans ht, hf.trans hf₁⟩, ⟨h₁.trans ht, hf.trans hf₁⟩]

/-- **With a root mounted, `vfs_mount` of a path other than `/` is `vfs_lookup` of it**, then
`E_NOENT`: the lookup returns `NULL` whenever it returns. -/
theorem vfsMount_eq_lookup {d : Slot} {devid : Nat} {path fsType : String} (hr : s.rootDentry = some d)
    (hp : path ≠ "/") :
    s.vfsMount o devid path fsType = (s.vfsLookup o path).map fun r => (-1, r.2.setErrno .noent) := by
  unfold vfsMount vfsMountPoint
  rw [hr]
  simp only [if_neg hp]
  rcases hl : s.vfsLookup o path with _ | ⟨_ | d', s₁⟩
  · rfl
  · rfl
  · cases vfsLookup_fst_none hl

/-! ## Unmounting -/

/-- **What `vfs_sb_unmount(p)` can do**, `u` being `vfs_dentry_unmount_sb(p)`: refuse with
`E_NOTMOUNTED` or `E_CORRUPT`, or with `E_BUSY` when `u` refuses, changing only `errno`; or, past
`u`, fail with `E_IO`, or return `0` clearing `d_mnt_sb` of the dentry in `sb_mnt` and the
superblock's flag and `sb_mnt`. -/
theorem vfsSbUnmount_cases {p : SbPtr} {r : Int} {s' : VfsState} (h : s.vfsSbUnmount o p = some (r, s')) :
    ∃ sb u, s.sbAt p = some sb ∧ s.vfsDentryUnmountSb p = u ∧
      ((r = -1 ∧ (s' = s.setErrno .notmounted ∨ s' = s.setErrno .corrupt)) ∨
        (r = -1 ∧ u.1 = -1 ∧ s' = u.2.setErrno .busy) ∨
        (u.1 ≠ -1 ∧
          ((r = -1 ∧ s' = u.2.tick.setErrno .io) ∨
            ∃ mp, sb.sbMnt = some mp ∧ r = 0 ∧
              s' = (u.2.tick.setDentry mp { u.2.dentries mp with dMntSb := none }).updSb p
                fun sb => { sb with sbFlags := .unused, sbMnt := none }))) := by
  unfold vfsSbUnmount at h
  split at h
  · cases h
  rename_i sb hsb
  refine ⟨sb, _, hsb, rfl, ?_⟩
  dsimp only at h
  generalize s.vfsDentryUnmountSb p = u at h ⊢
  split_ifs at h with h₁ h₂ h₃
  · obtain ⟨rfl, rfl⟩ := Prod.mk.inj (Option.some.inj h); exact .inl ⟨rfl, .inl rfl⟩
  · obtain ⟨rfl, rfl⟩ := Prod.mk.inj (Option.some.inj h); exact .inl ⟨rfl, .inr rfl⟩
  · obtain ⟨rfl, rfl⟩ := Prod.mk.inj (Option.some.inj h); exact .inr (.inl ⟨rfl, h₃, rfl⟩)
  · obtain ⟨rfl, rfl⟩ := Prod.mk.inj (Option.some.inj h); exact .inr (.inr ⟨h₃, .inl ⟨rfl, rfl⟩⟩)
  · split at h
    · cases h
    · rename_i mp hmp
      obtain ⟨rfl, rfl⟩ := Prod.mk.inj (Option.some.inj h)
      exact .inr (.inr ⟨h₃, .inr ⟨mp, hmp, rfl, rfl⟩⟩)

/-- A superblock not flagged mounted is refused with `E_NOTMOUNTED`, only `errno` changing. -/
theorem vfsSbUnmount_notMounted {p : SbPtr} {sb : Superblock} (hsb : s.sbAt p = some sb)
    (hf : sb.sbFlags ≠ .mounted) : s.vfsSbUnmount o p = some (-1, s.setErrno .notmounted) := by
  simp [vfsSbUnmount, hsb, hf]

/-- **An unmount that returns `0` read a superblock whose `sb_mnt` was set**: the success path
clears `sb->ro.sb_mnt->ro.d_mnt_sb`. -/
theorem vfsSbUnmount_ok {p : SbPtr} {s' : VfsState} (h : s.vfsSbUnmount o p = some (0, s')) :
    ∃ sb, s.sbAt p = some sb ∧ sb.sbMnt ≠ none := by
  obtain ⟨sb, -, hsb, -, ⟨h1, -⟩ | ⟨h1, -⟩ | ⟨-, ⟨h1, -⟩ | ⟨mp, hmp, -⟩⟩⟩ := vfsSbUnmount_cases h
  any_goals exact absurd h1 (by decide)
  exact ⟨sb, hsb, by simp [hmp]⟩

/-- **What a failed unmount leaves**: `E_NOTMOUNTED`, `E_CORRUPT` and `E_BUSY` change nothing
but `errno`; `E_IO`, the driver's refusal, comes after every occupied dentry of the superblock
was emptied. -/
theorem vfsSbUnmount_fail {p : SbPtr} {s' : VfsState} (h : s.vfsSbUnmount o p = some (-1, s')) :
    (s.Quiet s' ∧ (s'.errno = .notmounted ∨ s'.errno = .corrupt ∨ s'.errno = .busy)) ∨
      (s'.errno = .io ∧ s.Registries s' ∧ s'.vnodes = s.vnodes ∧
        s'.dentries = fun i =>
          if (s.dentries i).Occupied ∧ (s.dentries i).dSb = some p then Dentry.empty else s.dentries i) := by
  have hbusy := @vfsDentryUnmountSb_busy s p
  have hok := @vfsDentryUnmountSb_ok s p
  obtain ⟨-, u, -, hu, ⟨-, rfl | rfl⟩ | ⟨-, hb, rfl⟩ | ⟨hb, ⟨-, rfl⟩ | ⟨-, -, h0, -⟩⟩⟩ :=
    vfsSbUnmount_cases h <;> rw [hu] at hbusy hok
  · exact .inl ⟨Quiet.setErrno _, .inl rfl⟩
  · exact .inl ⟨Quiet.setErrno _, .inr (.inl rfl)⟩
  · rw [hbusy hb]
    exact .inl ⟨Quiet.setErrno _, .inr (.inr rfl)⟩
  · rw [hok hb]
    exact .inr ⟨rfl, ⟨rfl, rfl, rfl⟩, rfl, rfl⟩
  · cases h0

/-- `vfs_sb_unmount` writes no vnode. -/
theorem vfsSbUnmount_vnodes {p : SbPtr} {r : Int} {s' : VfsState}
    (h : s.vfsSbUnmount o p = some (r, s')) : s'.vnodes = s.vnodes := by
  have hv := vfsDentryUnmountSb_vnodes (s := s) p
  obtain ⟨-, u, -, hu, ⟨-, rfl | rfl⟩ | ⟨-, -, rfl⟩ | ⟨-, ⟨-, rfl⟩ | ⟨-, -, -, rfl⟩⟩⟩ :=
    vfsSbUnmount_cases h <;> rw [hu] at hv <;> first | rfl | exact hv

/-- Unmounting only reads more answers, and leaves the type registry alone. -/
theorem vfsSbUnmount_frame {p : SbPtr} {r : Int} {s' : VfsState}
    (h : s.vfsSbUnmount o p = some (r, s')) : s.calls ≤ s'.calls ∧ s'.fsTypes = s.fsTypes := by
  have hc := vfsDentryUnmountSb_frame (s := s) p
  obtain ⟨-, u, -, hu, ⟨-, rfl | rfl⟩ | ⟨-, -, rfl⟩ | ⟨-, ⟨-, rfl⟩ | ⟨-, -, -, rfl⟩⟩⟩ :=
    vfsSbUnmount_cases h <;> rw [hu] at hc
  · exact ⟨le_rfl, rfl⟩
  · exact ⟨le_rfl, rfl⟩
  · exact ⟨hc.1.ge, hc.2⟩
  all_goals exact ⟨hc.1.ge.trans (Nat.le_succ _), hc.2⟩

/-- `vfs_sb_unmount` keeps dentry keys unique and sets no `sb_mnt`. -/
theorem vfsSbUnmount_keeps {p : SbPtr} {r : Int} {s' : VfsState}
    (h : s.vfsSbUnmount o p = some (r, s')) :
    (KeysUnique s.dentries → KeysUnique s'.dentries) ∧ (s.SbMntNull → s'.SbMntNull) := by
  have hk := fun k => vfsDentryUnmountSb_keysUnique (s := s) k p
  have hs : s.SbMntNull → (s.vfsDentryUnmountSb p).2.SbMntNull := fun hs => by
    by_cases hb : (s.vfsDentryUnmountSb p).1 = -1
    · rwa [vfsDentryUnmountSb_busy hb]
    · rw [vfsDentryUnmountSb_ok hb]; exact hs
  obtain ⟨-, u, -, hu, ⟨-, rfl | rfl⟩ | ⟨-, -, rfl⟩ | ⟨-, ⟨-, rfl⟩ | ⟨-, -, -, rfl⟩⟩⟩ :=
    vfsSbUnmount_cases h <;> rw [hu] at hk hs
  · exact ⟨id, id⟩
  · exact ⟨id, id⟩
  · exact ⟨hk, hs⟩
  · exact ⟨hk, hs⟩
  · exact ⟨fun k => (hk k).update_sameKey _ rfl rfl,
      fun h => ((hs h).updSb (f := fun sb => { sb with sbFlags := _, sbMnt := none }) fun _ _ => rfl)⟩

end VfsState

end Buhos.Vfs
