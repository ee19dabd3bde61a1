import Buhos.Vfs.Run

/-!
# The mount protocol over runs

What the superblock links look like in reachable states, and what a failed mount or unmount
leaves behind.

* `mount_point_unlinked`: a mount point's superblock never points back at it (`sb_mnt`).
* `unmount_never_succeeds`: no reachable state has an unmount that returns `0`.
* `mount_rollback_fails`: the two rollback paths of `vfs_mount` after the probe.
* `unmount_io_invalidates`: a failed driver `unmount` comes after the dentries were emptied.
-/

namespace Buhos.Vfs

open VfsState

/-- **A mount point is never linked back**: in every reachable state, the superblock a dentry
is the mount point for has `sb_mnt` unset, since `vfs_mount` never writes it. -/
theorem mount_point_unlinked {s : VfsState} (h : Reachable s) :
    ∀ d p sb, (s.dentries d).dMntSb = some p → s.sbAt p = some sb → sb.sbMnt ≠ some d :=
  fun _ _ sb _ hp => by rw [h.vfsInv.sbMnt sb (List.mem_of_find?_eq_some hp)]; simp

/-- After the boot, `/` is the mount point of the superblock at 6, whose flag is still
`unused` and whose `sb_mnt` is unset. -/
theorem mount_point_unlinked_booted :
    (booted.dentries 99).dMntSb = some 6 ∧ booted.sbAt 6 = some ⟨6, 1, .unused, 1, some 1, none⟩ ∧
      (⟨6, 1, .unused, 1, some 1, none⟩ : Superblock).sbMnt ≠ some 99 := by
  have hd : (booted.dentries 99).dMntSb = some 6 := by rw [booted_eq]; rfl
  have hp : booted.sbAt 6 = some ⟨6, 1, .unused, 1, some 1, none⟩ := by rw [booted_eq]; rfl
  exact ⟨hd, hp, mount_point_unlinked reachable_booted 99 6 _ hd hp⟩

/-- **No unmount succeeds**: from every reachable state `vfs_sb_unmount` fails or has no
result, for its success path clears `sb->ro.sb_mnt->ro.d_mnt_sb` and `sb_mnt` is never set. -/
theorem unmount_never_succeeds {s : VfsState} (h : Reachable s) (o : Oracle) (p : SbPtr)
    (s' : VfsState) : s.vfsSbUnmount o p ≠ some (0, s') := fun hu => by
  obtain ⟨sb, hp, hm⟩ := vfsSbUnmount_ok hu
  exact hm (h.vfsInv.sbMnt sb (List.mem_of_find?_eq_some hp))

/-- Unmounting the superblock the boot mounted, with every driver call succeeding, fails with
`E_NOTMOUNTED`: `vfs_mount` left its flag `unused`. -/
theorem unmount_after_boot :
    booted.vfsSbUnmount treeOracle 6 = some (-1, booted.setErrno .notmounted) ∧
      ∀ s', booted.vfsSbUnmount treeOracle 6 ≠ some (0, s') :=
  ⟨by rw [booted_eq]; rfl, unmount_never_succeeds reachable_booted treeOracle 6⟩

/-- The type's probe `ft_get_sb` refuses the device. -/
def probeFails : Oracle := { treeOracle with getSb := fun _ => none }

/-- The superblock's `mount` fails, and so does every `ft_kill_sb`. -/
def mountFails : Oracle := { treeOracle with sbMount := fun _ => none, killSb := fun _ => false }

/-- **A failed mount does not roll back.** Mounting `rootfs` at `/` on a fresh kernel: when the
probe fails, `vfs_sb_dealloc` reads the still unset `sb_fs_type` and the call has no result;
when the superblock's `mount` fails, `ft_kill_sb` is called and then called again by
`vfs_sb_dealloc`, and the second refusal leaves the new superblock registered. -/
theorem mount_rollback_fails :
    Reachable registered ∧ registered.vfsMount probeFails 1 "/" "rootfs" = none ∧
      ∃ s', registered.vfsMount mountFails 1 "/" "rootfs" = some (-1, s') ∧ s'.errno = .io ∧
        s'.sbs ≠ registered.sbs :=
  ⟨reachable_registered, rfl, _, rfl, rfl, by decide⟩

/-- **A refused unmount has already emptied the superblock's dentries**: when the driver's
`unmount` fails (`E_IO`), every occupied dentry that belonged to the superblock is empty. -/
theorem unmount_io_invalidates {o : Oracle} {s s' : VfsState} {p : SbPtr}
    (h : s.vfsSbUnmount o p = some (-1, s')) (he : s'.errno = .io) {i : Slot}
    (hi : (s.dentries i).Occupied) (hsb : (s.dentries i).dSb = some p) : s'.dentries i = Dentry.empty := by
  rcases vfsSbUnmount_fail h with ⟨-, h₁ | h₁ | h₁⟩ | ⟨-, -, -, hd⟩
  all_goals first | (rw [he] at h₁; cases h₁) | simp [hd, hi, hsb]

/-- The superblock's `mount` flags it mounted. -/
def marksMounted : Oracle := { treeOracle with sbMount := fun _ => some .mounted }

/-- The driver's `unmount` fails. -/
def unmountFails : Oracle := { treeOracle with sbUnmount := fun _ => false }

/-- `rootfs` mounted at `/` by a driver that flags the superblock mounted, then `a` looked up
under `/`, in slot 98. -/
def markedChild : VfsState :=
  (((registered.call marksMounted (.mount 1 "/" "rootfs")).bind
    fun s => s.call treeOracle (.lookupInDentry 99 "a"))).getD vfsInit

theorem unmount_io_invalidates_child :
    ∃ s s', Reachable s ∧ s.vfsSbUnmount unmountFails 6 = some (-1, s') ∧ s'.errno = .io ∧
      (s.dentries 98).Occupied ∧ (s.dentries 98).dSb = some 6 ∧ s'.dentries 98 = Dentry.empty := by
  have hi : (markedChild.dentries 98).Occupied := by decide
  exact ⟨markedChild, _, .step treeOracle (.lookupInDentry 99 "a")
    (.step marksMounted (.mount 1 "/" "rootfs") reachable_registered rfl) rfl, rfl, rfl, hi, rfl,
    unmount_io_invalidates (o := unmountFails) (s := markedChild) (p := 6) rfl rfl hi rfl⟩

end Buhos.Vfs
