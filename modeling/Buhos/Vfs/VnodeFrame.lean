import Buhos.Vfs.Refcount
import Buhos.Vfs.SbRefs
import Buhos.Vfs.Eviction

/-!
# Lookups and mounts leave the vnode cache alone

A lookup loads the directory's vnode with `vfs_vnode_get_or_read` and releases it on every exit
(`vfsLookupResolve_releases`). When `destroy_vnode` succeeds, the release of a vnode held once
destroys it and takes it out of the list, so along runs in which every `destroy_vnode` succeeds
the cache is empty between calls (`ReachableUnder.vnodes_nil`), and each lookup or mount leaves it
so.

`vfs_mount` also loads a vnode, the mount point's, and never releases it; that path follows a
`vfs_lookup` that returned a dentry, and `vfs_lookup` returns none (`vfsLookup_fst_none`).

* `vfsLookupInDentry_vnodes_nil`, `vfsLookup_vnodes_nil`, `vfsMount_vnodes_nil`: from an empty cache,
  with `destroy_vnode` succeeding, each call leaves the cache empty.

When a `destroy_vnode` fails the vnode stays cached, with count zero. Along every run the cache
still agrees with its holders, and there are none between calls (`Reachable.refInv`):

* `vnodes_idle`: **in every reachable state no cached vnode is held**: every count is zero, and
  no two cached vnodes share a key or an address.
* `lookups_keep_vnodes`: **in every reachable state, `vfs_lookup_in_dentry`, `vfs_lookup` and
  `vfs_mount`, their own `destroy_vnode` succeeding, leave only vnodes that were cached, as they
  were**, and along runs in which every `destroy_vnode` succeeds, the cache as it was.
* `idle_vnode_destroyed`: they do not always leave it as it was: a vnode an earlier failed
  `destroy_vnode` left cached is destroyed when a lookup loads and releases it.
-/

namespace Buhos.Vfs

/-- Every `destroy_vnode` the oracle answers succeeds. -/
def DestroyOk (o : Oracle) : Prop := ∀ k, o.destroyVnode k = true

/-- The states runs from `vfs_init` reach when every oracle they see satisfies `P`. -/
inductive ReachableUnder (P : Oracle → Prop) : VfsState → Prop
  | init : ReachableUnder P vfsInit
  | step {s s' : VfsState} (o : Oracle) (c : Call) :
      P o → ReachableUnder P s → s.call o c = some s' → ReachableUnder P s'

namespace VfsState

variable {o : Oracle} {s : VfsState}

section Empty

variable (hd : DestroyOk o)
include hd

/-- The driver half of a lookup leaves an empty cache empty. -/
theorem vfsLookupResolve_vnodes_nil {d obj : Slot} {n : String} {r : Option Slot} {s' : VfsState}
    (hv : s.vnodes = []) (h : s.vfsLookupResolve o d obj n = some (r, s')) : s'.vnodes = [] := by
  obtain ⟨sb, vno, r₁, s₁, hg, ⟨hr, he⟩ | ⟨a, s₂, r₂, s₃, rfl, hrel, h₂, he⟩⟩ :=
    vfsLookupResolve_releases h
  · rcases vfsVnodeGetOrRead_of_nil hv hg with ⟨-, h₁⟩ | ⟨v, hv₁, -⟩
    · exact he.trans h₁
    · cases hr.symm.trans hv₁
  · rcases vfsVnodeGetOrRead_of_nil hv hg with ⟨hr, -⟩ | ⟨v, -, hc, h₁⟩
    · cases hr
    · exact he.trans (vfsVnodeRelease_last (h₂.trans h₁) hc (hd _) hrel)

theorem vfsLookupInDentry_vnodes_nil {p : Option Slot} {n : String} {r : Option Slot} {s' : VfsState}
    (hv : s.vnodes = []) (h : s.vfsLookupInDentry o p n = some (r, s')) : s'.vnodes = [] := by
  obtain ⟨s₁, he, hq | ⟨d, obj, hr⟩⟩ := vfsLookupInDentry_cases h
  all_goals have hv₁ : s₁.vnodes = [] := he ▸ vfsDentryGet_registries.2.trans hv
  · exact hq.vnodes.trans hv₁
  · exact vfsLookupResolve_vnodes_nil hd hv₁ hr

theorem vfsLookup_vnodes_nil {path : String} {r : Option Slot} {s' : VfsState} (hv : s.vnodes = [])
    (h : s.vfsLookup o path = some (r, s')) : s'.vnodes = [] :=
  vfsLookup_inv (fun t => t.vnodes = []) (vfsLookupInDentry_vnodes_nil hd) id id hv h

theorem vfsMountPoint_vnodes_nil {path : String} {r : Except Errno Slot} {s' : VfsState}
    (hv : s.vnodes = []) (h : s.vfsMountPoint o path = some (r, s')) : s'.vnodes = [] :=
  vfsMountPoint_inv (·.vnodes = []) (vfsDentryGet_registries.2.trans ·) (vfsLookup_vnodes_nil hd) hv h

theorem vfsMount_vnodes_nil {devid : Nat} {path fsType : String} {r : Int} {s' : VfsState}
    (hv : s.vnodes = []) (h : s.vfsMount o devid path fsType = some (r, s')) : s'.vnodes = [] :=
  let ⟨_, _, hp, he⟩ := vfsMount_vnodes h
  he.trans (vfsMountPoint_vnodes_nil hd hv hp)

/-- Every call keeps the cache empty. -/
theorem call_vnodes_nil {c : Call} {s' : VfsState} (hv : s.vnodes = []) (h : s.call o c = some s') :
    s'.vnodes = [] := by
  cases c with
  | register name =>
    obtain ⟨⟨_, s₁⟩, hr, rfl⟩ := Option.map_eq_some'.1 h
    exact (vfsFsTypeRegister_typesOnly hr).vnodes.trans hv
  | mount devid path fsType =>
    obtain ⟨⟨_, s₁⟩, hm, rfl⟩ := Option.map_eq_some'.1 h
    exact vfsMount_vnodes_nil hd hv hm
  | sbUnmount p =>
    obtain ⟨⟨_, s₁⟩, hu, rfl⟩ := Option.map_eq_some'.1 h
    exact (vfsSbUnmount_vnodes hu).trans hv
  | lookup path =>
    obtain ⟨⟨_, s₁⟩, hl, rfl⟩ := Option.map_eq_some'.1 h
    exact vfsLookup_vnodes_nil hd hv hl
  | lookupInDentry dir name =>
    simp only [call] at h
    split at h
    · obtain ⟨⟨_, s₁⟩, hl, rfl⟩ := Option.map_eq_some'.1 h
      exact vfsLookupInDentry_vnodes_nil hd hv hl
    · cases h

end Empty

end VfsState

/-- **Along runs in which every `destroy_vnode` succeeds, the vnode cache is empty between calls.** -/
theorem ReachableUnder.vnodes_nil {s : VfsState} (h : ReachableUnder DestroyOk s) : s.vnodes = [] := by
  induction h with
  | init => rfl
  | step o c ho _ hc ih => exact VfsState.call_vnodes_nil ho ih hc

/-! ## Between calls no vnode is held -/

namespace RefInv

variable {o : Oracle} {s s' : VfsState} {hs : List Nat}

/-- The invariant depends only on the cache, the live superblocks and a lower bound on the
answers read. -/
theorem of_vnodes (h : RefInv s hs) (hv : s'.vnodes = s.vnodes) (hc : s.calls ≤ s'.calls)
    (hlive : ∀ v ∈ s'.vnodes, s'.sbAt v.vSb ≠ none) : RefInv s' hs where
  keys := hv ▸ h.keys
  addrs := hv ▸ h.addrs
  fresh v hv' := (h.fresh v (hv ▸ hv')).trans hc
  live := hlive
  count v hv' := h.count v (hv ▸ hv')
  held a ha := hv ▸ h.held a ha

/-- ... and a state with the same cache and superblocks keeps it. -/
theorem of_sbs (h : RefInv s hs) (hv : s'.vnodes = s.vnodes) (hsb : s'.sbs = s.sbs)
    (hc : s.calls ≤ s'.calls) : RefInv s' hs :=
  h.of_vnodes hv hc fun v hv' => by rw [VfsState.sbAt, hsb]; exact h.live v (hv ▸ hv')

theorem tick (h : RefInv s hs) : RefInv s.tick hs := h.of_sbs rfl rfl (Nat.le_succ _)

theorem setErrno (h : RefInv s hs) (e : Errno) : RefInv (s.setErrno e) hs := h.of_sbs rfl rfl le_rfl

theorem setDentry (h : RefInv s hs) (i : Slot) (d : Dentry) : RefInv (s.setDentry i d) hs :=
  h.of_sbs rfl rfl le_rfl

/-- A load from an idle cache is the one hold. -/
theorem getOrRead (h : RefInv s []) {sb : Option SbPtr} {vno : Int} {r : Option Nat}
    (hg : s.vfsVnodeGetOrRead o sb vno = some (r, s')) : RefInv s' r.toList := by
  have hl : r.toList.length ≤ 1 := by cases r <;> simp
  exact vnodeStep_refInv h (by rw [vnodeStep, hg]; simp) fun a =>
    (Int.ofNat_le.2 ((List.count_le_length _ _).trans hl)).trans (by decide)

theorem dentryGet (h : RefInv s hs) (p : Option Slot) (n : String) : RefInv (s.vfsDentryGet o p n).2 hs :=
  h.of_sbs VfsState.vfsDentryGet_registries.2 VfsState.vfsDentryGet_registries.1.sbs VfsState.vfsDentryGet_calls

/-- **The driver half of a lookup gives back the vnode it loads**, on every exit. -/
theorem resolve (h : RefInv s []) {d obj : Slot} {n : String} {r : Option Slot}
    (hr : s.vfsLookupResolve o d obj n = some (r, s')) : RefInv s' [] := by
  unfold VfsState.vfsLookupResolve at hr
  split at hr
  · cases hr
  rcases hg : s.vfsVnodeGetOrRead o _ _ with _ | ⟨_ | a, s₁⟩ <;> rw [hg] at hr <;> dsimp only at hr
  · cases hr
  · obtain ⟨-, rfl⟩ := Prod.mk.inj (Option.some.inj hr)
    exact ((h.getOrRead hg).setDentry _ _).setErrno _
  have h₁ : RefInv s₁ [a] := h.getOrRead hg
  have hrel : ∀ {u s₃ : VfsState} {r₃ : Int}, RefInv u [a] → u.vfsVnodeRelease o a = some (r₃, s₃) →
      RefInv s₃ [] := fun hu hu' => by simpa using hu.release (List.mem_singleton_self a) hu'
  split at hr
  · cases hr
  split at hr
  on_goal 2 => split at hr
  all_goals obtain ⟨⟨_, s₃⟩, hrel₃, he⟩ := Option.map_eq_some'.1 hr
  all_goals obtain ⟨-, rfl⟩ := Prod.mk.inj he
  · exact (hrel (h₁.setDentry _ _) hrel₃).setErrno _
  · exact (hrel (h₁.tick.setDentry _ _) hrel₃).setErrno _
  · exact hrel (h₁.tick.setDentry _ _) hrel₃

theorem lookupInDentry (h : RefInv s []) {p : Option Slot} {n : String} {r : Option Slot}
    (hl : s.vfsLookupInDentry o p n = some (r, s')) : RefInv s' [] := by
  have h₁ := h.dentryGet (o := o) p n
  obtain ⟨s₁, he, hq | ⟨d, obj, hr⟩⟩ := VfsState.vfsLookupInDentry_cases hl <;> rw [he] at h₁
  exacts [h₁.quiet hq, h₁.resolve hr]

theorem lookup (h : RefInv s []) {path : String} {r : Option Slot} (hl : s.vfsLookup o path = some (r, s')) :
    RefInv s' [] :=
  VfsState.vfsLookup_inv (RefInv · []) (fun h hl => h.lookupInDentry hl) tick (fun h => h.setErrno _) h hl

theorem mountPoint (h : RefInv s []) {path : String} {r : Except Errno Slot}
    (hp : s.vfsMountPoint o path = some (r, s')) : RefInv s' [] :=
  VfsState.vfsMountPoint_inv (RefInv · []) (·.dentryGet _ _) (·.lookup ·) h hp

/-- **Every call leaves no vnode held**, given that the superblocks of the cached vnodes are live
afterwards. -/
theorem call (h : RefInv s []) {c : Call} (hc : s.call o c = some s')
    (hlive : ∀ v ∈ s'.vnodes, s'.sbAt v.vSb ≠ none) : RefInv s' [] := by
  obtain ⟨_, _, hr⟩ | ⟨_, _, _, _, hm⟩ | ⟨_, _, hu⟩ | ⟨_, _, hl⟩ | ⟨_, _, _, -, hl⟩ := VfsState.call_cases hc
  · exact h.of_vnodes (VfsState.vfsFsTypeRegister_typesOnly hr).vnodes
      (VfsState.vfsFsTypeRegister_calls hr) hlive
  · obtain ⟨r₁, s₂, hp, ⟨e, -, -, rfl⟩ | ⟨d, -, t, -, hv, -, -, -, ht, -, ⟨e, -, rfl⟩ | ⟨p, -, -, ⟨-, rfl⟩ | ⟨-, rfl⟩⟩⟩⟩ :=
      VfsState.vfsMount_cases hm
    all_goals have h₂ := h.mountPoint hp
    · exact h₂.setErrno e
    all_goals exact h₂.of_vnodes hv ht hlive
  · exact h.of_vnodes (VfsState.vfsSbUnmount_vnodes hu) (VfsState.vfsSbUnmount_frame hu).1 hlive
  · exact h.lookup hl
  · exact h.lookupInDentry hl

/-! ## What a lookup leaves in the cache -/

/-- **Releasing the one hold, `destroy_vnode` succeeding, takes out the released vnode and nothing
else.** -/
theorem release_drops {s₁ s₂ s₃ : VfsState} {a : Nat} {r : Int} (h : RefInv s₁ [a]) (ho : DestroyOk o)
    (hv : s₂.vnodes = s₁.vnodes) (hrel : s₂.vfsVnodeRelease o a = some (r, s₃)) {w : Vnode}
    (hw : w ∈ s₃.vnodes) : w ∈ s₁.vnodes ∧ w.addr ≠ a := by
  obtain ⟨v, hf, ⟨h1, -⟩ | ⟨-, -, -, hdl⟩ | ⟨-, -, hd, -⟩⟩ := VfsState.vfsVnodeRelease_cases hrel
  all_goals obtain ⟨hv₂, rfl⟩ := find?_addr hf
  all_goals have hc : v.vCount = 1 := by simpa using h.count v (hv ▸ hv₂)
  · rw [hc] at h1; exact absurd h1 (by decide)
  · -- the count reached zero and the driver destroyed the vnode
    have hu : ∀ u ∈ s₂.vnodes, u.addr = v.addr → u = v := fun u hu hua => h.addr_inj (hv ▸ hu) (hv ▸ hv₂) hua
    have hk : ((s₂.updVnode v.addr fun _ => { v with vCount := intPred v.vCount }).tick.vnodes.map
        Vnode.key).Nodup := by
      rw [VfsState.tick_vnodes, updVnode_keys fun u hu' hua => by rw [hu u hu' hua]; rfl, hv]
      exact h.keys
    have hv' : { v with vCount := intPred v.vCount } ∈
        (s₂.updVnode v.addr fun _ => { v with vCount := intPred v.vCount }).tick.vnodes :=
      mem_updVnode.2 ⟨v, hv₂, by simp⟩
    rw [VfsState.vfsVnodeDealloc_of_mem hk hv'] at hdl
    obtain ⟨-, rfl⟩ := Prod.mk.inj hdl
    obtain ⟨hw, hkey⟩ := (VfsState.mem_eraseP_key hk hv').1 hw
    obtain ⟨u, hu', rfl⟩ := mem_updVnode.1 hw
    split_ifs at hkey ⊢ with hua
    · exact absurd rfl hkey
    · exact ⟨hv ▸ hu', hua⟩
  · exact nomatch hd.symm.trans (ho _)

section Subset

variable (ho : DestroyOk o)
include ho

/-- **The driver half of a lookup leaves only vnodes that were cached, as they were.** -/
theorem resolve_subset (h : RefInv s []) {d obj : Slot} {n : String} {r : Option Slot}
    (hr : s.vfsLookupResolve o d obj n = some (r, s')) : s'.vnodes ⊆ s.vnodes := by
  obtain ⟨sb, vno, r₁, s₁, hg, ⟨rfl, he⟩ | ⟨a, s₂, r₂, s₃, rfl, hrel, h₂, he⟩⟩ :=
    VfsState.vfsLookupResolve_releases hr
  · rcases VfsState.vfsVnodeGetOrRead_cases hg with ⟨_, _, _, h, _⟩ | ⟨-, hq, -⟩ | ⟨_, _, _, _, _, h, _⟩
    · cases h
    · rw [he, hq.vnodes]; exact List.Subset.refl _
    · cases h
  · intro w hw
    obtain ⟨hw₁, hwa⟩ := release_drops (h.getOrRead hg) ho h₂ hrel (he ▸ hw)
    exact getOrRead_others hg hw₁ hwa

theorem lookupInDentry_subset (h : RefInv s []) {p : Option Slot} {n : String} {r : Option Slot}
    (hl : s.vfsLookupInDentry o p n = some (r, s')) : s'.vnodes ⊆ s.vnodes := by
  have h₁ := h.dentryGet (o := o) p n
  have hv : (s.vfsDentryGet o p n).2.vnodes = s.vnodes := VfsState.vfsDentryGet_registries.2
  obtain ⟨s₁, he, hq | ⟨d, obj, hr⟩⟩ := VfsState.vfsLookupInDentry_cases hl <;> rw [he] at h₁ hv
  · rw [hq.vnodes, hv]; exact List.Subset.refl _
  · exact hv ▸ h₁.resolve_subset ho hr

theorem lookup_subset (h : RefInv s []) {path : String} {r : Option Slot}
    (hl : s.vfsLookup o path = some (r, s')) : s'.vnodes ⊆ s.vnodes :=
  (VfsState.vfsLookup_inv (fun t => RefInv t [] ∧ t.vnodes ⊆ s.vnodes)
    (fun h₁ hl => ⟨h₁.1.lookupInDentry hl, (h₁.1.lookupInDentry_subset ho hl).trans h₁.2⟩)
    (fun h₁ => ⟨h₁.1.tick, h₁.2⟩) (fun h₁ => ⟨h₁.1.setErrno _, h₁.2⟩) ⟨h, List.Subset.refl _⟩ hl).2

theorem mount_subset (h : RefInv s []) {devid : Nat} {path fsType : String} {r : Int}
    (hm : s.vfsMount o devid path fsType = some (r, s')) : s'.vnodes ⊆ s.vnodes := by
  obtain ⟨_, _, hp, he⟩ := VfsState.vfsMount_vnodes hm
  rw [he]
  exact (VfsState.vfsMountPoint_inv (fun t => RefInv t [] ∧ t.vnodes ⊆ s.vnodes)
    (fun h₁ => ⟨h₁.1.dentryGet _ _, by rw [VfsState.vfsDentryGet_registries.2]; exact h₁.2⟩)
    (fun h₁ hl => ⟨h₁.1.lookup hl, (h₁.1.lookup_subset ho hl).trans h₁.2⟩) ⟨h, List.Subset.refl _⟩ hp).2

end Subset

end RefInv

/-- Along every run the vnode cache agrees with an empty list of holders. -/
theorem Reachable.refInv {s : VfsState} (h : Reachable s) : RefInv s [] := by
  induction h with
  | init => exact ⟨by simp [vfsInit], by simp [vfsInit], by simp [vfsInit], by simp [vfsInit], by simp [vfsInit],
      by simp⟩
  | step o c hs hc ih => exact ih.call hc (hs.step o c hc).sbSafe.vnodes

/-- **In every reachable state, `vfs_lookup_in_dentry`, `vfs_lookup` and `vfs_mount` leave only
vnodes that were cached, with their counts**, whatever they return, when the call's own
`destroy_vnode` succeeds: each vnode they load is released, and destroyed once idle. Along runs in
which every `destroy_vnode` succeeds the cache is empty, so they leave it exactly as it was. -/
theorem lookups_keep_vnodes {s : VfsState} (hs : Reachable s) {o : Oracle} (ho : DestroyOk o) :
    (∀ dir name r s', s.vfsLookupInDentry o dir name = some (r, s') → s'.vnodes ⊆ s.vnodes) ∧
      (∀ path r s', s.vfsLookup o path = some (r, s') → s'.vnodes ⊆ s.vnodes) ∧
      (∀ devid path fsType r s', s.vfsMount o devid path fsType = some (r, s') → s'.vnodes ⊆ s.vnodes) ∧
      (ReachableUnder DestroyOk s → s.vnodes = []) :=
  have h := hs.refInv
  ⟨fun _ _ _ _ => h.lookupInDentry_subset ho, fun _ _ _ => h.lookup_subset ho,
    fun _ _ _ _ _ => h.mount_subset ho, ReachableUnder.vnodes_nil⟩

theorem lookups_keep_vnodes_booted :
    Reachable booted ∧ DestroyOk treeOracle ∧
      ((∀ dir name r s', booted.vfsLookupInDentry treeOracle dir name = some (r, s') →
          s'.vnodes ⊆ booted.vnodes) ∧
        (∀ path r s', booted.vfsLookup treeOracle path = some (r, s') → s'.vnodes ⊆ booted.vnodes) ∧
        (∀ devid path fsType r s', booted.vfsMount treeOracle devid path fsType = some (r, s') →
          s'.vnodes ⊆ booted.vnodes) ∧
        (ReachableUnder DestroyOk booted → booted.vnodes = [])) :=
  ⟨reachable_booted, fun _ => rfl, lookups_keep_vnodes reachable_booted fun _ => rfl⟩

/-- The drivers of `treeOracle`, except that `destroy_vnode` refuses. -/
def destroyFails : Oracle := { treeOracle with destroyVnode := fun _ => false }

/-- **A lookup can take an idle vnode out of the cache.** After the boot, `vfs_mount(2, "/a", ...)`
looks `a` up under `/` with a `destroy_vnode` that refuses: the root's vnode stays cached with
count `0`. A second `vfs_mount(2, "/aa", ...)`, every `destroy_vnode` succeeding, loads that vnode
to look `aa` up, releases it and destroys it. -/
theorem idle_vnode_destroyed :
    ∃ (s : VfsState) (v : Vnode) (r : Int) (s' : VfsState), Reachable s ∧ s.vnodes = [v] ∧ v.vCount = 0 ∧
      DestroyOk (treeOracle.withTokens [fillName 1]) ∧
      s.vfsMount (treeOracle.withTokens [fillName 1]) 2 "/aa" "rootfs" = some (r, s') ∧ s'.vnodes = [] := by
  have hroot : (filled 0).rootDentry = some 99 := filled_rootDentry 0
  -- the first mount, of `/a`: its lookup puts `a` in slot 98 and leaves the root's vnode cached, idle
  have hscan₀ : (filled 0).tick.tick.dentryScan (some 99) (fillName 0) = .miss (some ⟨98 - 0, by decide⟩) := by
    rw [VfsState.dentryScan_tick, VfsState.dentryScan_tick]; exact fill_scan (by decide)
  have hdir₀ : (filled 0).tick.tick.dirVnode 99 = some (some 6, 1) := by
    rw [VfsState.dirVnode_tick, VfsState.dirVnode_tick]
    simp [VfsState.dirVnode, filled, fillTable_root, rootEntry, VfsState.sbAt, booted_sbs]
  have e₁ : (filled 0).vfsLookup (destroyFails.withTokens [fillName 0]) "/a" = _ := VfsState.vfsLookup_of_kalloc rfl
  rw [hroot] at e₁
  change _ = (VfsState.vfsLookupWalk _ [fillName 0] (some 99) (filled 0).tick.tick).map _ at e₁
  rw [VfsState.vfsLookupWalk_singleton, VfsState.vfsLookupInDentry_withTokens,
    VfsState.vfsLookupInDentry_of_miss hscan₀ rfl,
    VfsState.vfsLookupResolve_keeps_loaded (p := 6) (v := 1) (w := 2) (fun _ => rfl) (fun _ => rfl)
      (fun _ => rfl) (fun _ => rfl) (fun _ => rfl)
      (by rw [VfsState.setDentry_vnodes, VfsState.tick_vnodes, VfsState.vfsDentryReset,
        VfsState.setDentry_vnodes, VfsState.tick_vnodes, VfsState.tick_vnodes, filled_vnodes])
      ((VfsState.dirVnode_refill (d := 99) (by decide) _).trans hdir₀)
      (by rw [VfsState.sbAt, VfsState.setDentry_sbs, VfsState.tick_sbs, VfsState.vfsDentryReset,
        VfsState.setDentry_sbs, VfsState.tick_sbs, VfsState.tick_sbs, filled_sbs, booted_sbs]; decide),
    Option.map_some'] at e₁
  obtain ⟨a, t₁, hl₁, hv₁, hd₁⟩ : ∃ a t₁, (filled 0).vfsLookup (destroyFails.withTokens [fillName 0]) "/a" =
      some (none, t₁) ∧ t₁.vnodes = [⟨a, 1, 6, 0, true⟩] ∧ t₁.dentries = fillTable 1 := by
    refine ⟨_, _, e₁, rfl, ?_⟩
    rw [← fillTable_succ (k := 0) (by decide)]
    simp only [VfsState.setDentry_dentries, VfsState.vfsDentryReset, VfsState.tick_dentries,
      Function.update_idem, Function.update_same]
    show Function.update (fillTable 0) _ _ = _
    congr 1
  have h₁ : (filled 0).vfsMount (destroyFails.withTokens [fillName 0]) 2 "/a" "rootfs" =
      some (-1, t₁.setErrno .noent) := by
    rw [VfsState.vfsMount_eq_lookup hroot (by decide), hl₁]; rfl
  have hreg := VfsState.vfsLookup_registries hl₁
  -- the second mount, of `/aa`: its lookup puts `aa` in slot 97, loads the idle vnode, releases and
  -- destroys it
  have hscan : (t₁.setErrno .noent).tick.tick.dentryScan (some 99) (fillName 1) =
      .miss (some ⟨98 - 1, by decide⟩) := by
    rw [VfsState.dentryScan_tick, VfsState.dentryScan_tick, VfsState.dentryScan_of_dentries (t := filled 1)
      (by rw [VfsState.setErrno_dentries, hd₁, filled_dentries])]
    exact fill_scan (by decide)
  have hr₁ : (t₁.setErrno .noent).rootDentry = some 99 := hreg.rootDentry.trans hroot
  have e₂ : (t₁.setErrno .noent).vfsMount (treeOracle.withTokens [fillName 1]) 2 "/aa" "rootfs" = _ :=
    VfsState.vfsMount_eq_lookup hr₁ (by decide)
  rw [VfsState.vfsLookup_of_kalloc rfl, hr₁] at e₂
  change _ = ((VfsState.vfsLookupWalk _ [fillName 1] (some 99) (t₁.setErrno .noent).tick.tick).map _).map _ at e₂
  rw [VfsState.vfsLookupWalk_singleton, VfsState.vfsLookupInDentry_withTokens,
    VfsState.vfsLookupInDentry_of_miss hscan rfl,
    VfsState.vfsLookupResolve_drops_idle (p := 6) (v := 1) (w := 3) (a := a) (fun _ => rfl) (fun _ => rfl)
      (by simp [VfsState.vfsDentryReset, hv₁])
      ((VfsState.dirVnode_refill (d := 99) (by decide) _).trans
        (by simp [VfsState.dirVnode, hd₁, fillTable_root, rootEntry, VfsState.sbAt, hreg.sbs, filled_sbs, booted_sbs]))
      (by simp [VfsState.sbAt, hreg.sbs, filled_sbs, booted_sbs, VfsState.vfsDentryReset])] at e₂
  exact ⟨t₁.setErrno .noent, _, _, _, .step _ (.mount 2 "/a" "rootfs") (reachable_filled (k := 0) (by decide))
    (by rw [VfsState.call, h₁]; rfl), hv₁, rfl, fun _ => rfl, e₂, rfl⟩

/-- **In every reachable state no cached vnode is held**, whatever the drivers answered, failed
`destroy_vnode` calls included: every `v_count` is zero, and no two cached vnodes share a key
`(v_sb, v_no)` or an address. -/
theorem vnodes_idle {s : VfsState} (h : Reachable s) :
    (∀ v ∈ s.vnodes, v.vCount = 0) ∧ (s.vnodes.map Vnode.key).Nodup ∧ (s.vnodes.map (·.addr)).Nodup := by
  have hr := h.refInv
  exact ⟨fun v hv => by simpa using hr.count v hv, hr.keys, hr.addrs⟩

theorem vnodes_idle_booted :
    Reachable booted ∧ ((∀ v ∈ booted.vnodes, v.vCount = 0) ∧ (booted.vnodes.map Vnode.key).Nodup ∧
      (booted.vnodes.map (·.addr)).Nodup) :=
  ⟨reachable_booted, vnodes_idle reachable_booted⟩

end Buhos.Vfs
