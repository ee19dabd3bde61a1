import Buhos.Vfs.DentryGet
import Buhos.Vfs.Eviction

/-!
# Lookups served from the dentry cache

`vfs_lookup_in_dentry(dir, name)` first asks `vfs_dentry_get` for the slot keyed `(dir, name)`,
and only a slot without a vnode number goes on to the driver's `lookup`.

* `vfsLookupInDentry_keyed`: a slot a lookup returns is keyed `(dir, name)`.
* `lookup_in_dentry_cached`: **once a lookup in a reachable state has returned a slot with a vnode
  number, the same lookup returns that slot again from the cache**, whatever the allocator and the
  drivers would answer, and only raises its `d_count`.
-/

namespace Buhos.Vfs

namespace VfsState

variable {o : Oracle} {s s' : VfsState} {p : Option Slot} {n : String} {obj : Slot}

/-- **A lookup returns the slot keyed `(dir, name)`**: the one `vfs_dentry_get` found or filled,
which the driver half only gives its vnode number. -/
theorem vfsLookupInDentry_keyed (h : s.vfsLookupInDentry o p n = some (some obj, s')) :
    (s'.dentries obj).Keyed p n := by
  rw [vfsLookupInDentry] at h
  rcases he : s.vfsDentryGet o p n with ⟨_ | i, s₁⟩ <;> rw [he] at h <;> dsimp only at h
  · cases h
  have hk : (s₁.dentries i).Keyed p n := by
    simpa only [he] using (vfsDentryGet_some (congrArg Prod.fst he)).2
  split at h
  · obtain ⟨hi, rfl⟩ := Prod.mk.inj (Option.some.inj h)
    cases hi
    exact hk
  split at h
  · cases h
  · obtain ⟨-, ⟨hr, -⟩ | ⟨hr, vno, hd⟩⟩ := vfsLookupResolve_cases h
    · cases hr
    · cases hr
      rw [hd, Function.update_same]
      exact hk

end VfsState

open VfsState

/-- **A resolved name is served from the cache**: after a lookup in a reachable state returns a
slot with a vnode number, the same lookup, under any allocator and driver answers, hits that slot
(keys are unique), returns it and only raises its `d_count`. -/
theorem lookup_in_dentry_cached {o : Oracle} {s s' : VfsState} {p : Option Slot} {n : String} {obj : Slot}
    (hs : Reachable s) (h : s.vfsLookupInDentry o p n = some (some obj, s'))
    (hv : (s'.dentries obj).dVno ≠ 0) (o' : Oracle) :
    s'.vfsLookupInDentry o' p n =
      some (some obj, s'.setDentry obj { s'.dentries obj with dCount := intSucc (s'.dentries obj).dCount }) := by
  have hkey := vfsLookupInDentry_keyed h
  have hk := vfsLookupInDentry_keysUnique hs.vfsInv.keys h
  obtain ⟨i, hi, -, hg⟩ := vfsDentryGet_hit_first (o := o') ⟨obj, hkey⟩
  obtain rfl : i = obj := hk i obj hi.occupied (hi.1.trans hkey.1.symm) (hi.2.trans hkey.2.symm)
  rw [vfsLookupInDentry, hg]
  exact if_pos (by simpa using hv)

/-- `x` looked up under slot 1 of the full table, then again with an allocator that refuses
everything: the second lookup is a hit. -/
theorem lookup_in_dentry_cached_x :
    lookedX.vfsLookupInDentry nameAllocFails (some 1) "x" =
      some (some 0, lookedX.setDentry 0 { lookedX.dentries 0 with dCount := intSucc (lookedX.dentries 0).dCount }) :=
  lookup_in_dentry_cached (reachable_filled le_rfl) lookedX_step (by simp [lookedX, xEntry, fillEntry]; omega)
    nameAllocFails

end Buhos.Vfs
