import Buhos.Vfs.RootMount
import Buhos.Vfs.Eviction

/-!
# No dangling superblock pointer

The dentry table and the vnode cache hold superblock pointers: `d_sb`, `d_mnt_sb` and `v_sb`.
The only code that frees a superblock is the rollback of `vfs_mount`, through `vfs_sb_dealloc`,
and what it frees is the superblock it allocated a few steps before: no dentry and no vnode
refers to it yet, and no older superblock shares its device or its address.

* `SbSafe`: device ids are unique, every address was handed out by an earlier call, and every
  superblock pointer of the tables names a registered superblock.
* `SbSafe.dentryGet`, `SbSafe.getOrRead`, `SbSafe.release`: the operations the entry points are
  made of keep it, and so does every entry point (`SbSafe.call`).
* `SbBacked`: every occupied slot has a superblock, mounted or inherited. A new dentry inherits
  its parent's, and keeps its vnode number only when the driver resolved it through that
  superblock; the mount point `vfs_mount` makes is reset or gets its superblock mounted.
* `superblock_refs_live`: **in every reachable state, every superblock pointer of the dentry
  table and the vnode cache names a registered superblock, and every occupied slot has one**, so
  the directory vnode `vfs_lookup_in_dentry` asks for has a registered superblock, except when
  `vfs_dentry_get` takes the directory's own slot for the new name (`walk_evicts_parent`).
* `superblock_devids_unique`: no two registered superblocks share a device id.
-/

namespace Buhos.Vfs

/-- An occupied dentry has a superblock: the one mounted on it, or the one it inherited. -/
def Dentry.Backed (d : Dentry) : Prop := d.Occupied → d.dMntSb ≠ none ∨ d.dSb ≠ none

theorem Dentry.Backed.empty : Dentry.empty.Backed := fun h => absurd rfl h

namespace VfsState

variable {o : Oracle} {s t : VfsState}

/-- A superblock pointer the tables hold is `NULL` or names a registered superblock. -/
def LiveSb (s : VfsState) (p : Option SbPtr) : Prop := ∀ q, p = some q → s.sbAt q ≠ none

/-- Both superblock pointers of a dentry are live. -/
def DentryLive (s : VfsState) (d : Dentry) : Prop := s.LiveSb d.dSb ∧ s.LiveSb d.dMntSb

/-- **No dangling superblock pointer**, with the registry facts that keep it so. -/
structure SbSafe (s : VfsState) : Prop where
  reg : s.SbReg
  dentries : ∀ i, s.DentryLive (s.dentries i)
  vnodes : ∀ v ∈ s.vnodes, s.sbAt v.vSb ≠ none

theorem DentryLive.empty : s.DentryLive Dentry.empty := ⟨(fun _ h => nomatch h), fun _ h => nomatch h⟩

theorem DentryLive.mono (h : ∀ q, s.sbAt q ≠ none → t.sbAt q ≠ none) {d : Dentry}
    (hd : s.DentryLive d) : t.DentryLive d :=
  ⟨fun q hq => h q (hd.1 q hq), fun q hq => h q (hd.2 q hq)⟩

/-- `SbSafe` carries over to a state that keeps the registry and whose pointers were live. -/
theorem SbSafe.of_keeps (h : s.SbSafe) (hk : s.SbKeeps t) (hd : ∀ i, s.DentryLive (t.dentries i))
    (hv : ∀ v ∈ t.vnodes, s.sbAt v.vSb ≠ none) : t.SbSafe :=
  ⟨(hk h.reg).1, fun i => (hd i).mono (hk h.reg).2, fun v hv' => (hk h.reg).2 _ (hv v hv')⟩

theorem SbSafe.quiet (h : s.SbSafe) (hq : s.Quiet t) : t.SbSafe :=
  h.of_keeps (sbKeeps_of_sbs hq.sbs hq.calls) (fun i => by rw [hq.dentries]; exact h.dentries i)
    (by rw [hq.vnodes]; exact h.vnodes)

theorem SbSafe.tick (h : s.SbSafe) : s.tick.SbSafe := h.quiet Quiet.tick

theorem SbSafe.setErrno (h : s.SbSafe) (e : Errno) : (s.setErrno e).SbSafe := h.quiet (Quiet.setErrno e)

theorem SbSafe.setRoot (h : s.SbSafe) (r : Option Slot) : { s with rootDentry := r }.SbSafe :=
  h.of_keeps (sbKeeps_of_sbs rfl le_rfl) h.dentries h.vnodes

theorem SbSafe.setDentry (h : s.SbSafe) {i : Slot} {d : Dentry} (hd : s.DentryLive d) :
    (s.setDentry i d).SbSafe :=
  h.of_keeps (sbKeeps_of_sbs rfl le_rfl)
    ((Function.forall_update_iff s.dentries fun _ e => s.DentryLive e).2 ⟨hd, fun j _ => h.dentries j⟩)
    h.vnodes

theorem SbSafe.updSb (h : s.SbSafe) {p : SbPtr} {f : Superblock → Superblock}
    (hf : ∀ sb, (f sb).addr = sb.addr ∧ (f sb).sbDevid = sb.sbDevid) : (s.updSb p f).SbSafe :=
  h.of_keeps (sbKeeps_updSb hf) h.dentries h.vnodes

/-! ## The dentry table -/

/-- A new child inherits a live superblock pointer. -/
theorem SbSafe.inheritSb_live (h : s.SbSafe) (p : Option Slot) : s.LiveSb (inheritSb s.dentries p) := by
  cases p with
  | none => exact fun _ h => nomatch h
  | some p =>
    rw [inheritSb]
    split
    exacts [(h.dentries p).1, (h.dentries p).2]

theorem SbSafe.dentryGet (h : s.SbSafe) (p : Option Slot) (n : String) : (s.vfsDentryGet o p n).2.SbSafe := by
  cases hs : s.dentryScan p n with
  | hit i => rw [vfsDentryGet_of_hit hs]; exact h.setDentry (h.dentries i)
  | miss c =>
    cases c with
    | none => rw [vfsDentryGet_of_full hs]; exact h.setErrno _
    | some i =>
      rw [vfsDentryGet_of_miss hs]
      have hr := (h.setDentry (i := i) DentryLive.empty).tick
      split
      · exact hr.setDentry ⟨hr.inheritSb_live p, fun _ h => nomatch h⟩
      · exact hr.setErrno _

/-! ## The vnode cache -/

theorem vSb_updVnode {a : Nat} {f : Vnode → Vnode} (hv : ∀ u ∈ s.vnodes, t.sbAt u.vSb ≠ none)
    (hf : ∀ u ∈ s.vnodes, t.sbAt (f u).vSb ≠ none) : ∀ w ∈ (s.updVnode a f).vnodes, t.sbAt w.vSb ≠ none := by
  intro w hw
  obtain ⟨u, hu, rfl⟩ := List.mem_map.1 hw
  split
  exacts [hf u hu, hv u hu]

theorem SbSafe.acquire (h : s.SbSafe) (a : Nat) : (s.vfsVnodeAcquire a).SbSafe :=
  h.of_keeps (sbKeeps_of_sbs rfl le_rfl) h.dentries (vSb_updVnode h.vnodes h.vnodes)

theorem SbSafe.vnodeDealloc (h : s.SbSafe) (node : Vnode) : (s.vfsVnodeDealloc node).2.SbSafe := by
  have he : ({ s with vnodes := s.vnodes.eraseP (Vnode.HasKey (some node.vSb) node.vNo) } : VfsState).SbSafe :=
    h.of_keeps (sbKeeps_of_sbs rfl le_rfl) h.dentries fun v hv => h.vnodes v (List.mem_of_mem_eraseP hv)
  unfold vfsVnodeDealloc
  split
  · split
    exacts [he.setErrno _, he]
  · exact he

/-- `vfs_vnode_get_or_read` loads a vnode only of a registered superblock. -/
theorem SbSafe.getOrRead (h : s.SbSafe) {sb : Option SbPtr} {vno : Int} {r : Option Nat}
    (hg : s.vfsVnodeGetOrRead o sb vno = some (r, t)) : t.SbSafe := by
  rcases vfsVnodeGetOrRead_cases hg with ⟨n, -, -, -, rfl⟩ | ⟨-, hq, -⟩ | ⟨p, dir, -, -, hp, -, rfl⟩
  · exact h.acquire _
  · exact h.quiet hq
  · have hn : ({ s.tick.tick.tick with vnodes := s.vnodes ++ [⟨s.calls + 1, vno, p, 0, dir⟩] } : VfsState).SbSafe := by
      refine h.of_keeps (sbKeeps_of_sbs rfl (by show s.calls ≤ s.calls + 1 + 1 + 1; omega)) h.dentries ?_
      intro v hv
      rcases List.mem_append.1 hv with hv | hv
      · exact h.vnodes v hv
      · rw [List.mem_singleton.1 hv]; exact hp
    exact hn.acquire _

theorem SbSafe.release (h : s.SbSafe) {a : Nat} {r : Int} (hr : s.vfsVnodeRelease o a = some (r, t)) :
    t.SbSafe := by
  obtain ⟨v, hv, hcases⟩ := vfsVnodeRelease_cases hr
  have hu : (s.updVnode a fun _ => { v with vCount := intPred v.vCount }).SbSafe :=
    h.of_keeps (sbKeeps_of_sbs rfl le_rfl) h.dentries
      (vSb_updVnode h.vnodes fun _ _ => h.vnodes v (List.mem_of_find?_eq_some hv))
  rcases hcases with ⟨-, -, rfl⟩ | ⟨-, -, -, he⟩ | ⟨-, -, -, -, rfl⟩
  · exact hu
  · rw [show t = _ from congrArg Prod.snd he]; exact hu.tick.vnodeDealloc _
  · exact hu.tick.setErrno _

/-! ## The entry points -/

theorem SbSafe.resolve (h : s.SbSafe) {d obj : Slot} {n : String} {r : Option Slot}
    (hr : s.vfsLookupResolve o d obj n = some (r, t)) : t.SbSafe :=
  vfsLookupResolve_inv SbSafe (fun h hg => h.getOrRead hg) (fun h hr => h.release hr) SbSafe.tick
    (fun h => h.setErrno _) (fun h => h.setDentry DentryLive.empty) (fun h => h.setDentry (h.dentries _)) h hr

theorem SbSafe.lookupInDentry (h : s.SbSafe) {p : Option Slot} {n : String} {r : Option Slot}
    (hl : s.vfsLookupInDentry o p n = some (r, t)) : t.SbSafe := by
  obtain ⟨s₁, he, hq | ⟨d, obj, hr⟩⟩ := vfsLookupInDentry_cases hl
  all_goals have h₁ := h.dentryGet (o := o) p n; rw [he] at h₁
  exacts [h₁.quiet hq, h₁.resolve hr]

theorem SbSafe.lookup (h : s.SbSafe) {path : String} {r : Option Slot} (hl : s.vfsLookup o path = some (r, t)) :
    t.SbSafe :=
  vfsLookup_inv SbSafe (fun h hl => h.lookupInDentry hl) SbSafe.tick (fun h => h.setErrno _) h hl

theorem SbSafe.mount (h : s.SbSafe) {devid : Nat} {path fsType : String} {r : Int}
    (hm : s.vfsMount o devid path fsType = some (r, t)) : t.SbSafe := by
  obtain ⟨r₁, s₁, hp, hcases⟩ := vfsMount_cases hm
  have h₁ : s₁.SbSafe :=
    vfsMountPoint_inv SbSafe (fun h => h.dentryGet _ _) (fun h hl => h.lookup hl) h hp
  obtain ⟨e, -, -, rfl⟩ | ⟨d, -, u, hd, hv, -, -, hk, -, -, ⟨e, -, rfl⟩ | ⟨p, -, hlive, ⟨-, rfl⟩ | ⟨-, rfl⟩⟩⟩ := hcases
  · exact h₁.setErrno e
  all_goals
    have hu : u.SbSafe := h₁.of_keeps hk (fun i => by rw [hd]; exact h₁.dentries i) (by rw [hv]; exact h₁.vnodes)
  · exact (hu.setDentry DentryLive.empty).setErrno e
  all_goals
    have hmp : u.DentryLive { u.dentries d with dMntSb := some p } :=
      ⟨(hu.dentries d).1, fun q hq => Option.some.inj hq ▸ hlive⟩
  · exact hu.setDentry hmp
  · exact (hu.setDentry hmp).setRoot _

theorem SbSafe.sbUnmount (h : s.SbSafe) {p : SbPtr} {r : Int} (hu : s.vfsSbUnmount o p = some (r, t)) :
    t.SbSafe := by
  have hd : (s.vfsDentryUnmountSb p).2.SbSafe := by
    by_cases hb : (s.vfsDentryUnmountSb p).1 = -1
    · rw [vfsDentryUnmountSb_busy hb]; exact h
    · rw [vfsDentryUnmountSb_ok hb]
      refine h.of_keeps (sbKeeps_of_sbs rfl le_rfl) (fun i => ?_) h.vnodes
      dsimp only
      split
      exacts [DentryLive.empty, h.dentries i]
  obtain ⟨-, u, -, hu', ⟨-, rfl | rfl⟩ | ⟨-, -, rfl⟩ | ⟨-, ⟨-, rfl⟩ | ⟨mp, -, -, rfl⟩⟩⟩ :=
    vfsSbUnmount_cases hu <;> rw [hu'] at hd
  · exact h.setErrno _
  · exact h.setErrno _
  · exact hd.setErrno _
  · exact hd.tick.setErrno _
  · have hmp : u.2.tick.DentryLive { u.2.dentries mp with dMntSb := none } :=
      ⟨(hd.dentries mp).1, fun _ h => nomatch h⟩
    exact (hd.tick.setDentry hmp).updSb fun _ => ⟨rfl, rfl⟩

theorem SbSafe.call (h : s.SbSafe) {c : Call} (hc : s.call o c = some t) : t.SbSafe := by
  obtain ⟨_, _, hr⟩ | ⟨_, _, _, _, hm⟩ | ⟨_, _, hu⟩ | ⟨_, _, hl⟩ | ⟨_, _, _, -, hl⟩ := call_cases hc
  · have ht := vfsFsTypeRegister_typesOnly hr
    exact h.of_keeps (sbKeeps_of_sbs ht.sbs (vfsFsTypeRegister_calls hr))
      (fun i => by rw [ht.dentries]; exact h.dentries i) (by rw [ht.vnodes]; exact h.vnodes)
  · exact h.mount hm
  · exact h.sbUnmount hu
  · exact h.lookup hl
  · exact h.lookupInDentry hl

theorem sbSafe_init : vfsInit.SbSafe :=
  ⟨⟨List.nodup_nil, fun _ hq => absurd rfl hq⟩, fun _ => DentryLive.empty, fun _ h => nomatch h⟩

/-! ## Every occupied slot has a superblock -/

/-- Every occupied slot has a superblock. -/
def SbBacked (s : VfsState) : Prop := ∀ i, (s.dentries i).Backed

/-- Writing a backed dentry into slot `i` backs the table when every other slot was. -/
theorem sbBacked_setDentry {i : Slot} {d : Dentry} (h : ∀ j, j ≠ i → (s.dentries j).Backed) (hd : d.Backed) :
    (s.setDentry i d).SbBacked :=
  (Function.forall_update_iff s.dentries fun _ e => e.Backed).2 ⟨hd, h⟩

theorem SbBacked.setDentry (h : s.SbBacked) {i : Slot} {d : Dentry} (hd : d.Backed) : (s.setDentry i d).SbBacked :=
  sbBacked_setDentry (fun j _ => h j) hd

theorem SbBacked.quiet (h : s.SbBacked) (hq : s.Quiet t) : t.SbBacked := fun i => by rw [hq.dentries]; exact h i

/-- **`vfs_dentry_get` keeps every slot backed but the one it fills**, which has no mounted
superblock, no vnode number yet, and the superblock it inherits from the parent. -/
theorem SbBacked.dentryGet (h : s.SbBacked) {p : Option Slot} {n : String} {r : Option Slot} {s₁ : VfsState}
    (hg : s.vfsDentryGet o p n = (r, s₁)) (i : Slot) :
    (s₁.dentries i).Backed ∨ (r = some i ∧ (s₁.dentries i).dMntSb = none ∧ (s₁.dentries i).dVno = 0 ∧
      (s₁.dentries i).dSb = inheritSb s₁.dentries p) := by
  cases hs : s.dentryScan p n with
  | hit j =>
    rw [vfsDentryGet_of_hit hs] at hg
    obtain ⟨-, rfl⟩ := Prod.mk.inj hg
    exact .inl ((h.setDentry (d := { s.dentries j with dCount := intSucc (s.dentries j).dCount }) (h j)) i)
  | miss c =>
    cases c with
    | none =>
      rw [vfsDentryGet_of_full hs] at hg
      obtain ⟨-, rfl⟩ := Prod.mk.inj hg
      exact .inl (h i)
    | some c =>
      rw [vfsDentryGet_of_miss hs] at hg
      have hr := (h.setDentry (i := c) Dentry.Backed.empty)
      split at hg
      · obtain ⟨rfl, rfl⟩ := Prod.mk.inj hg
        by_cases hic : i = c
        · subst hic
          refine .inr ⟨rfl, ?_⟩
          simp only [setDentry_dentries, Function.update_same, true_and]
          cases p with
          | none => rfl
          | some d =>
            by_cases hd : d = i
            · subst hd; simp [inheritSb]
            · simp [inheritSb, Function.update_noteq hd]
        · rw [setDentry_dentries, Function.update_noteq hic]; exact .inl (hr i)
      · obtain ⟨-, rfl⟩ := Prod.mk.inj hg
        exact .inl (hr i)

/-- **A lookup in a dentry leaves every slot backed**: the slot it fills keeps a vnode number only
if the driver resolved it, through the directory's superblock, which the slot inherits. -/
theorem SbBacked.lookupInDentry (h : s.SbBacked) {p : Option Slot} {n : String} {r : Option Slot}
    (hl : s.vfsLookupInDentry o p n = some (r, t)) : t.SbBacked := by
  rw [vfsLookupInDentry] at hl
  rcases hg : s.vfsDentryGet o p n with ⟨_ | obj, s₁⟩ <;> rw [hg] at hl <;> dsimp only at hl
  · obtain ⟨-, rfl⟩ := Prod.mk.inj (Option.some.inj hl)
    exact fun i => (h.dentryGet hg i).resolve_right fun h' => nomatch h'.1
  split at hl
  · rename_i hv
    obtain ⟨-, rfl⟩ := Prod.mk.inj (Option.some.inj hl)
    exact fun i => (h.dentryGet hg i).resolve_right fun ⟨he, _, h0, _⟩ => hv (by rw [Option.some.inj he]; exact h0)
  split at hl
  · cases hl
  rename_i d
  -- the slots other than `obj` are backed after `vfs_dentry_get`, and the resolve writes only `obj`
  have hother : ∀ i, i ≠ obj → (s₁.dentries i).Backed := fun i hi =>
    (h.dentryGet hg i).resolve_right fun ⟨he, _⟩ => hi (Option.some.inj he).symm
  obtain ⟨-, ⟨-, hd⟩ | ⟨rfl, vno, hd⟩⟩ := vfsLookupResolve_cases hl <;> intro i <;> rw [hd] <;>
    by_cases hi : i = obj
  · subst hi; rw [Function.update_same]; exact Dentry.Backed.empty
  · rw [Function.update_noteq hi]; exact hother i hi
  · subst hi
    rw [Function.update_same]
    rcases h.dentryGet hg i with hb | ⟨-, hm, -, hsb⟩
    · exact hb
    · obtain ⟨q, v, hq⟩ := vfsLookupResolve_dirSb hl
      exact fun _ => .inr (by rw [hsb]; exact inheritSb_of_dirVnode hq)
  · rw [Function.update_noteq hi]; exact hother i hi

theorem SbBacked.lookup (h : s.SbBacked) {path : String} {r : Option Slot} (hl : s.vfsLookup o path = some (r, t)) :
    t.SbBacked :=
  vfsLookup_inv SbBacked (fun h hl => h.lookupInDentry hl) (fun h => h.quiet Quiet.tick)
    (fun h => h.quiet (Quiet.setErrno _)) h hl

/-- `vfsMountPoint` leaves every slot backed but the mount point it returns. -/
theorem SbBacked.mountPoint (h : s.SbBacked) {path : String} {r : Except Errno Slot} {s₁ : VfsState}
    (hp : s.vfsMountPoint o path = some (r, s₁)) (i : Slot) : (s₁.dentries i).Backed ∨ r = .ok i := by
  cases hr : s.rootDentry with
  | some d =>
    obtain ⟨e, -, rfl | ⟨_, hl⟩⟩ := vfsMountPoint_of_root hr hp
    exacts [.inl (h i), .inl (h.lookup hl i)]
  | none =>
    unfold vfsMountPoint at hp
    rw [hr] at hp
    dsimp only at hp
    split at hp
    · obtain ⟨-, rfl⟩ := Prod.mk.inj (Option.some.inj hp); exact .inl (h i)
    rcases hg : s.vfsDentryGet o none "/" with ⟨_ | d, s₂⟩ <;> rw [hg] at hp <;> dsimp only at hp <;>
      obtain ⟨rfl, rfl⟩ := Prod.mk.inj (Option.some.inj hp) <;>
      rcases h.dentryGet hg i with hb | ⟨he, -⟩
    · exact .inl hb
    · cases he
    · exact .inl hb
    · exact .inr (by rw [Option.some.inj he])

/-- **`vfs_mount` leaves every slot backed**: it resets the mount point it made, or mounts a
superblock on it. -/
theorem SbBacked.mount (h : s.SbBacked) {devid : Nat} {path fsType : String} {r : Int}
    (hm : s.vfsMount o devid path fsType = some (r, t)) : t.SbBacked := by
  obtain ⟨r₁, s₁, hp, ⟨e, rfl, -, rfl⟩ | ⟨d, rfl, u, hd, -, -, -, -, -, -, ⟨e, -, rfl⟩ | ⟨p, -, -, ⟨-, rfl⟩ | ⟨-, rfl⟩⟩⟩⟩ :=
    vfsMount_cases hm
  all_goals have h₁ := h.mountPoint hp
  · exact SbBacked.quiet (s := s₁) (fun i => (h₁ i).resolve_right (nomatch ·)) (Quiet.setErrno e)
  all_goals
    have hu : ∀ i, i ≠ d → (u.dentries i).Backed := fun i hi => by
      rw [hd]; exact (h₁ i).resolve_right fun he => hi (Except.ok.inj he).symm
  · exact (sbBacked_setDentry hu Dentry.Backed.empty).quiet (Quiet.setErrno e)
  all_goals exact sbBacked_setDentry hu fun _ => .inl (Option.some_ne_none p)

/-- `vfs_sb_unmount` empties slots, and clears a `d_mnt_sb` only on its success path, which needs
an `sb_mnt`. -/
theorem SbBacked.sbUnmount (h : s.SbBacked) (hn : s.SbMntNull) {p : SbPtr} {r : Int}
    (hu : s.vfsSbUnmount o p = some (r, t)) : t.SbBacked := by
  have hd : (s.vfsDentryUnmountSb p).2.SbBacked := by
    by_cases hb : (s.vfsDentryUnmountSb p).1 = -1
    · rw [vfsDentryUnmountSb_busy hb]; exact h
    · rw [vfsDentryUnmountSb_ok hb]
      intro i
      dsimp only
      split
      exacts [Dentry.Backed.empty, h i]
  obtain ⟨sb, u, hsb, hu', ⟨-, rfl | rfl⟩ | ⟨-, -, rfl⟩ | ⟨-, ⟨-, rfl⟩ | ⟨mp, hmp, -, -⟩⟩⟩ :=
    vfsSbUnmount_cases hu <;> rw [hu'] at hd
  · exact h.quiet (Quiet.setErrno _)
  · exact h.quiet (Quiet.setErrno _)
  · exact hd.quiet (Quiet.setErrno _)
  · exact hd.quiet (Quiet.tick.trans (Quiet.setErrno _))
  · cases (hn sb (List.mem_of_find?_eq_some hsb)).symm.trans hmp

theorem SbBacked.call (h : s.SbBacked) (hn : s.SbMntNull) {c : Call} (hc : s.call o c = some t) : t.SbBacked := by
  obtain ⟨_, _, hr⟩ | ⟨_, _, _, _, hm⟩ | ⟨_, _, hu⟩ | ⟨_, _, hl⟩ | ⟨_, _, _, -, hl⟩ := call_cases hc
  · exact fun i => by rw [(vfsFsTypeRegister_typesOnly hr).dentries]; exact h i
  · exact h.mount hm
  · exact h.sbUnmount hn hu
  · exact h.lookup hl
  · exact h.lookupInDentry hl

/-- An occupied slot of a safe, backed table: its directory vnode has a registered superblock. -/
theorem SbSafe.dirVnode_live (hs : s.SbSafe) (hb : s.SbBacked) {d : Slot} (hd : (s.dentries d).Occupied) :
    ∃ q v, s.dirVnode d = some (some q, v) ∧ s.sbAt q ≠ none := by
  unfold dirVnode
  split
  · rename_i hm
    obtain ⟨q, hq⟩ := Option.ne_none_iff_exists'.1 ((hb d hd).resolve_left fun h' => h' hm)
    exact ⟨q, _, by rw [hq], (hs.dentries d).1 q hq⟩
  · rename_i p hp
    obtain ⟨sb, hsb⟩ := Option.ne_none_iff_exists'.1 ((hs.dentries d).2 p hp)
    exact ⟨p, sb.sbRootVno, by rw [hsb]; rfl, (hs.dentries d).2 p hp⟩

/-- **After `vfs_dentry_get` under an occupied slot `d`, `d`'s vnode has a registered superblock**,
unless the call took `d` itself for the new name: `d` then holds a dentry that is its own parent,
with no superblock, and its vnode is `(NULL, 0)`. -/
theorem SbSafe.dentryGet_dirVnode (hs : s.SbSafe) (hb : s.SbBacked) {d obj : Slot} {n : String} {s₁ : VfsState}
    (hd : (s.dentries d).Occupied) (hg : s.vfsDentryGet o (some d) n = (some obj, s₁)) :
    (∃ q v, s₁.dirVnode d = some (some q, v) ∧ s₁.sbAt q ≠ none) ∨
      (s.dentryScan (some d) n = .miss (some d) ∧ s₁.dirVnode d = some (none, 0)) := by
  obtain ⟨q, v, hq, hlive⟩ := hs.dirVnode_live hb hd
  cases hsc : s.dentryScan (some d) n with
  | hit i =>
    rw [vfsDentryGet_of_hit hsc] at hg
    obtain ⟨-, rfl⟩ := Prod.mk.inj hg
    exact .inl ⟨q, v, (dirVnode_setCount _).trans hq, hlive⟩
  | miss c =>
    cases c with
    | none => rw [vfsDentryGet_of_full hsc] at hg; cases hg
    | some c =>
      rw [vfsDentryGet_of_miss hsc] at hg
      split at hg
      · obtain ⟨-, rfl⟩ := Prod.mk.inj hg
        by_cases hdc : d = c
        · subst hdc; exact .inr ⟨rfl, by simp [dirVnode, inheritSb, vfsDentryReset, Dentry.empty]⟩
        · exact .inl ⟨q, v, (dirVnode_refill hdc _).trans hq, hlive⟩
      · cases hg

end VfsState

theorem Reachable.sbSafe {s : VfsState} (h : Reachable s) : s.SbSafe := by
  induction h with
  | init => exact VfsState.sbSafe_init
  | step _ _ _ hc ih => exact ih.call hc

theorem Reachable.sbBacked {s : VfsState} (h : Reachable s) : s.SbBacked := by
  induction h with
  | init => exact fun _ => Dentry.Backed.empty
  | step _ _ hs hc ih => exact ih.call hs.vfsInv.sbMnt hc

/-- **In every reachable state, every superblock pointer of the dentry table and of the vnode
cache names a registered superblock**: the `d_sb` and `d_mnt_sb` of every slot and the `v_sb` of
every cached vnode; and every occupied slot has one of the first two. So the directory vnode
`vfs_lookup_in_dentry` asks for, after `vfs_dentry_get` under an occupied slot, has a registered
superblock, except when `vfs_dentry_get` took that slot itself for the new name: the vnode asked
for is then `(NULL, 0)`. -/
theorem superblock_refs_live {s : VfsState} (h : Reachable s) :
    (∀ i q, (s.dentries i).dSb = some q ∨ (s.dentries i).dMntSb = some q → s.sbAt q ≠ none) ∧
      (∀ v ∈ s.vnodes, s.sbAt v.vSb ≠ none) ∧
      (∀ i, (s.dentries i).Occupied → (s.dentries i).dMntSb ≠ none ∨ (s.dentries i).dSb ≠ none) ∧
      ∀ (o : Oracle) d n obj s₁, (s.dentries d).Occupied → s.vfsDentryGet o (some d) n = (some obj, s₁) →
        (∃ q v, s₁.dirVnode d = some (some q, v) ∧ s₁.sbAt q ≠ none) ∨
          (s.dentryScan (some d) n = .miss (some d) ∧ s₁.dirVnode d = some (none, 0)) := by
  have hs := h.sbSafe
  refine ⟨fun i q hq => ?_, hs.vnodes, h.sbBacked, fun _ _ _ _ _ hd hg => hs.dentryGet_dirVnode h.sbBacked hd hg⟩
  rcases hq with hq | hq
  exacts [(hs.dentries i).1 q hq, (hs.dentries i).2 q hq]

/-- The exception happens: after `x` is looked up under slot 1 of the full table, into slot 0,
looking `y` up under `x` takes slot 0. -/
theorem superblock_refs_live_lookedX :
    Reachable lookedX ∧ (lookedX.dentries 0).Occupied ∧ lookedX.dentryScan (some 0) "y" = .miss (some 0) ∧
      ((∀ i q, (lookedX.dentries i).dSb = some q ∨ (lookedX.dentries i).dMntSb = some q → lookedX.sbAt q ≠ none) ∧
        (∀ v ∈ lookedX.vnodes, lookedX.sbAt v.vSb ≠ none) ∧
        (∀ i, (lookedX.dentries i).Occupied → (lookedX.dentries i).dMntSb ≠ none ∨ (lookedX.dentries i).dSb ≠ none) ∧
        ∀ (o : Oracle) d n obj s₁, (lookedX.dentries d).Occupied → lookedX.vfsDentryGet o (some d) n = (some obj, s₁) →
          (∃ q v, s₁.dirVnode d = some (some q, v) ∧ s₁.sbAt q ≠ none) ∨
            (lookedX.dentryScan (some d) n = .miss (some d) ∧ s₁.dirVnode d = some (none, 0))) :=
  ⟨reachable_lookedX, by simp [lookedX, xEntry, Dentry.Occupied],
    dentryScan_fill_full (fun j hj => by simp [lookedX, Function.update_noteq hj]) (by simp [lookedX, xEntry])
      fun j => by
        by_cases h0 : j = 0
        · subst h0; simp [lookedX, xEntry, Dentry.Keyed]
        by_cases hj : j = 99
        · subst hj; simp [lookedX, Function.update_noteq (by decide : (99 : Slot) ≠ 0), fillTable_root, rootEntry,
            Dentry.Keyed]
        · simp [lookedX, Function.update_noteq h0, fillTable_full hj, fillEntry, Dentry.Keyed],
    superblock_refs_live reachable_lookedX⟩

/-- **No two registered superblocks share a device id** in any reachable state: `vfs_sb_lookup(devid)`
finds the only superblock of the device, and so `vfs_sb_dealloc`, which erases by device id,
removes exactly the superblock it is given when it returns `0` (and nothing when `ft_kill_sb`
refuses). -/
theorem superblock_devids_unique {s : VfsState} (h : Reachable s) :
    (∀ sb ∈ s.sbs, ∀ sb' ∈ s.sbs, sb.sbDevid = sb'.sbDevid → sb = sb') ∧
      ∀ (o : Oracle) p r t, s.vfsSbDealloc o p = some (r, t) →
        ∃ sb, s.sbAt p = some sb ∧
          ((r = -1 ∧ t.sbs = s.sbs) ∨ (r = 0 ∧ ∀ x, x ∈ t.sbs ↔ x ∈ s.sbs ∧ x ≠ sb)) :=
  ⟨fun _ hsb _ hsb' he => List.inj_on_of_nodup_map h.sbSafe.reg.devids hsb hsb' he,
    fun _ _ _ _ hd => h.sbSafe.reg.dealloc_removes hd⟩

theorem superblock_devids_unique_booted :
    Reachable booted ∧
      ((∀ sb ∈ booted.sbs, ∀ sb' ∈ booted.sbs, sb.sbDevid = sb'.sbDevid → sb = sb') ∧
        ∀ (o : Oracle) p r t, booted.vfsSbDealloc o p = some (r, t) →
          ∃ sb, booted.sbAt p = some sb ∧
            ((r = -1 ∧ t.sbs = booted.sbs) ∨ (r = 0 ∧ ∀ x, x ∈ t.sbs ↔ x ∈ booted.sbs ∧ x ≠ sb))) :=
  ⟨reachable_booted, superblock_devids_unique reachable_booted⟩

end Buhos.Vfs
