import Buhos.Vfs.State

/-!
# The vnode cache

`vfs_vnode_lookup`, `vfs_vnode_prealloc`, `vfs_vnode_alloc`, `vfs_vnode_dealloc`,
`vfs_vnode_acquire`, `vfs_vnode_release`, `vfs_vnode_get_or_read` and
`vfs_vnode_unmount_sb` over the list `vfs_vnodes`, keyed by `(v_sb, v_no)`.

A vnode is cached only while someone holds it: `vfs_vnode_get_or_read` acquires,
`vfs_vnode_release` drops the count and, at zero, asks the driver to destroy the vnode and
takes it out of the list. A failed `destroy_vnode` leaves the entry in the list with its
count at zero.

`vfs_vnode_dealloc` removes by key and then checks that what it removed is the vnode it was
given (`E_CORRUPT` otherwise). `vfsVnodeDealloc_of_mem` and `vfsVnodeDealloc_of_absent`
are the two ways it is called, and neither takes that branch.
-/

namespace Buhos.Vfs

/-- `vfs_vnodes_cmp`: the entry has key `(sb, vno)`. -/
def Vnode.HasKey (sb : Option SbPtr) (vno : Int) (v : Vnode) : Bool :=
  v.vNo = vno ∧ some v.vSb = sb

/-- `vfs_vnode_lookup(sb, vno)`. -/
def vfsVnodeLookup (vs : List Vnode) (sb : Option SbPtr) (vno : Int) : Option Vnode :=
  vs.find? (Vnode.HasKey sb vno)

namespace VfsState

variable (o : Oracle) (s : VfsState)

/-- Rewrite the cached vnode at address `a`. -/
def updVnode (a : Nat) (f : Vnode → Vnode) : VfsState :=
  { s with vnodes := s.vnodes.map fun v => if v.addr = a then f v else v }

/-- `vfs_vnode_acquire`. -/
def vfsVnodeAcquire (a : Nat) : VfsState :=
  s.updVnode a fun v => { v with vCount := intSucc v.vCount }

/-- `vfs_vnode_dealloc(node)`: `list_find_del` by the node's key, `E_CORRUPT` if the entry it
took out is another vnode. -/
def vfsVnodeDealloc (node : Vnode) : Int × VfsState :=
  let s' := { s with vnodes := s.vnodes.eraseP (Vnode.HasKey (some node.vSb) node.vNo) }
  match vfsVnodeLookup s.vnodes (some node.vSb) node.vNo with
  | some n => if n.addr ≠ node.addr then (-1, s'.setErrno .corrupt) else (0, s')
  | none => (0, s')

/-- `vfs_vnode_get_or_read(sb, vno)`: the vnode's address, or `NULL`. -/
def vfsVnodeGetOrRead (sb : Option SbPtr) (vno : Int) : Option (Option Nat × VfsState) :=
  match vfsVnodeLookup s.vnodes sb vno with
  | some n => some (some n.addr, s.vfsVnodeAcquire n.addr)
  | none =>
    match s.kalloc o with
    | (none, s) => some (none, s.setErrno .nomem)
    | (some a, s) =>
      match sb with
      | none => none
      | some p =>
        if s.sbAt p = none then none else
        match o.readVnode s.calls with
        | none => some (none, (s.tick.vfsVnodeDealloc ⟨a, vno, p, 0, false⟩).2)
        | some dir =>
          let n : Vnode := ⟨a, vno, p, 0, dir⟩
          let s := s.tick
          if o.listAdd s.calls then
            some (some a, ({ s.tick with vnodes := s.vnodes ++ [n] }).vfsVnodeAcquire a)
          else
            some (none, (s.tick.tick.vfsVnodeDealloc n).2)

/-- `vfs_vnode_release(node)`. -/
def vfsVnodeRelease (a : Nat) : Option (Int × VfsState) :=
  match s.vnodes.find? (·.addr = a) with
  | none => none
  | some v =>
    let v := { v with vCount := intPred v.vCount }
    let s := s.updVnode a fun _ => v
    if v.vCount < 1 then
      if s.sbAt v.vSb = none then none
      else if o.destroyVnode s.calls then some (s.tick.vfsVnodeDealloc v)
      else some (-1, s.tick.setErrno .io)
    else some (0, s)

/-- `vfs_vnode_unmount_sb(sb)`: `-1` while a cached vnode belongs to `sb`. -/
def vfsVnodeUnmountSb (sb : SbPtr) : Int :=
  if s.vnodes.any (·.vSb = sb) then -1 else 0

end VfsState

/-- The key `vfs_vnodes_cmp` compares. -/
def Vnode.key (v : Vnode) : SbPtr × Int := (v.vSb, v.vNo)

theorem Vnode.hasKey_iff {v : Vnode} {sb : SbPtr} {vno : Int} :
    v.HasKey (some sb) vno ↔ v.key = (sb, vno) := by
  simp [Vnode.HasKey, Vnode.key, and_comm]

theorem vfsVnodeLookup_some {vs : List Vnode} {sb : Option SbPtr} {vno : Int} {n : Vnode}
    (h : vfsVnodeLookup vs sb vno = some n) : n ∈ vs ∧ n.HasKey sb vno :=
  ⟨List.mem_of_find?_eq_some h, List.find?_some h⟩

theorem vfsVnodeLookup_none {vs : List Vnode} {sb : Option SbPtr} {vno : Int}
    (h : vfsVnodeLookup vs sb vno = none) : ∀ v ∈ vs, ¬ v.HasKey sb vno :=
  List.find?_eq_none.1 h

/-- With unique keys, the lookup by a cached vnode's key finds that vnode. -/
theorem vfsVnodeLookup_self {vs : List Vnode} (hk : (vs.map Vnode.key).Nodup) {v : Vnode}
    (hv : v ∈ vs) : vfsVnodeLookup vs (some v.vSb) v.vNo = some v := by
  cases h : vfsVnodeLookup vs (some v.vSb) v.vNo with
  | none => exact absurd (Vnode.hasKey_iff.2 rfl) (vfsVnodeLookup_none h v hv)
  | some n =>
    obtain ⟨hn, hkey⟩ := vfsVnodeLookup_some h
    exact congrArg some (List.inj_on_of_nodup_map hk hn hv (Vnode.hasKey_iff.1 hkey))

namespace VfsState

variable {o : Oracle} {s : VfsState}

@[simp] theorem updVnode_fsTypes (a : Nat) (f : Vnode → Vnode) : (s.updVnode a f).fsTypes = s.fsTypes := rfl
@[simp] theorem updVnode_sbs (a : Nat) (f : Vnode → Vnode) : (s.updVnode a f).sbs = s.sbs := rfl
@[simp] theorem updVnode_dentries (a : Nat) (f : Vnode → Vnode) :
    (s.updVnode a f).dentries = s.dentries := rfl
@[simp] theorem updVnode_rootDentry (a : Nat) (f : Vnode → Vnode) :
    (s.updVnode a f).rootDentry = s.rootDentry := rfl
@[simp] theorem updVnode_calls (a : Nat) (f : Vnode → Vnode) : (s.updVnode a f).calls = s.calls := rfl
@[simp] theorem updVnode_errno (a : Nat) (f : Vnode → Vnode) : (s.updVnode a f).errno = s.errno := rfl

/-- Dealloc of a vnode whose key is not cached changes nothing. -/
theorem vfsVnodeDealloc_of_absent (node : Vnode)
    (h : ∀ v ∈ s.vnodes, ¬ v.HasKey (some node.vSb) node.vNo) : s.vfsVnodeDealloc node = (0, s) := by
  have hl : vfsVnodeLookup s.vnodes (some node.vSb) node.vNo = none := List.find?_eq_none.2 h
  simp only [vfsVnodeDealloc, hl, List.eraseP_of_forall_not h]

/-- **Dealloc of a cached vnode under unique keys removes exactly that vnode**, without
`E_CORRUPT`. -/
theorem vfsVnodeDealloc_of_mem (hk : (s.vnodes.map Vnode.key).Nodup) {node : Vnode}
    (hn : node ∈ s.vnodes) :
    s.vfsVnodeDealloc node =
      (0, { s with vnodes := s.vnodes.eraseP (Vnode.HasKey (some node.vSb) node.vNo) }) := by
  simp [vfsVnodeDealloc, vfsVnodeLookup_self hk hn]

/-- What is left of a list with unique keys once the entry keyed like `node` is removed. -/
theorem mem_eraseP_key {vs : List Vnode} (hk : (vs.map Vnode.key).Nodup) {node : Vnode}
    (hn : node ∈ vs) {w : Vnode} :
    w ∈ vs.eraseP (Vnode.HasKey (some node.vSb) node.vNo) ↔ w ∈ vs ∧ w.key ≠ node.key :=
  mem_eraseP_of_key hk hn fun _ => Vnode.hasKey_iff

/-- **What `vfs_vnode_get_or_read` can do**: acquire the cached vnode; fail, changing only
`errno`; or load the vnode from the driver, append it and acquire it. -/
theorem vfsVnodeGetOrRead_cases {sb : Option SbPtr} {vno : Int} {r : Option Nat} {s' : VfsState}
    (h : s.vfsVnodeGetOrRead o sb vno = some (r, s')) :
    (∃ n ∈ s.vnodes, n.HasKey sb vno ∧ r = some n.addr ∧ s' = s.vfsVnodeAcquire n.addr) ∨
    (r = none ∧ s.Quiet s' ∧ (s'.errno = s.errno ∨ s'.errno = .nomem)) ∨
    (∃ p dir, sb = some p ∧ (∀ v ∈ s.vnodes, ¬ v.HasKey sb vno) ∧ s.sbAt p ≠ none ∧
      r = some (s.calls + 1) ∧
      s' = ({ s.tick.tick.tick with vnodes := s.vnodes ++ [Vnode.mk (s.calls + 1) vno p 0 dir] }).vfsVnodeAcquire
        (s.calls + 1)) := by
  unfold vfsVnodeGetOrRead at h
  cases hl : vfsVnodeLookup s.vnodes sb vno with
  | some n =>
    simp only [hl, Option.some.injEq, Prod.mk.injEq] at h
    exact Or.inl ⟨n, (vfsVnodeLookup_some hl).1, (vfsVnodeLookup_some hl).2, h.1.symm, h.2.symm⟩
  | none =>
    have habs := vfsVnodeLookup_none hl
    simp only [hl, kalloc] at h
    cases hk : o.kalloc s.calls
    · simp only [hk, Bool.false_eq_true, if_false, Option.some.injEq, Prod.mk.injEq] at h
      obtain ⟨rfl, rfl⟩ := h
      exact .inr (.inl ⟨rfl, Quiet.tick.trans (Quiet.setErrno _), .inr rfl⟩)
    · simp only [hk, if_true] at h
      cases sb with
      | none => simp at h
      | some p =>
        simp only at h
        split at h
        · simp at h
        · rename_i hlive
          cases hr : o.readVnode (s.calls + 1) with
          | none =>
            simp only [tick_calls, hr, Option.some.injEq, Prod.mk.injEq] at h
            obtain ⟨rfl, rfl⟩ := h
            rw [vfsVnodeDealloc_of_absent (s := s.tick.tick) ⟨_, vno, p, 0, _⟩ (by simpa only [tick_vnodes] using habs)]
            exact .inr (.inl ⟨rfl, Quiet.tick.trans Quiet.tick, .inl rfl⟩)
          | some dir =>
            simp only [tick_calls, hr] at h
            split at h
            · simp only [Option.some.injEq, Prod.mk.injEq] at h
              exact .inr (.inr ⟨p, dir, rfl, habs, hlive, h.1.symm, h.2.symm⟩)
            · simp only [Option.some.injEq, Prod.mk.injEq] at h
              obtain ⟨rfl, rfl⟩ := h
              rw [vfsVnodeDealloc_of_absent (s := s.tick.tick.tick.tick) ⟨_, vno, p, 0, _⟩
                (by simpa only [tick_vnodes] using habs)]
              exact .inr (.inl ⟨rfl, Quiet.tick.trans (Quiet.tick.trans (Quiet.tick.trans Quiet.tick)),
                .inl rfl⟩)

/-- **`vfs_vnode_get_or_read(NULL, vno)`** finds nothing cached, since no cached vnode has a
`NULL` superblock; past a successful `kalloc` it calls `sb->sb_ops.read_vnode` through the `NULL`
superblock, which is undefined. -/
theorem vfsVnodeGetOrRead_null (vno : Int) :
    s.vfsVnodeGetOrRead o none vno =
      if o.kalloc s.calls then none else some (none, s.tick.setErrno .nomem) := by
  have hl : vfsVnodeLookup s.vnodes none vno = none :=
    List.find?_eq_none.2 fun v _ => by simp [Vnode.HasKey]
  cases hk : o.kalloc s.calls <;> simp [vfsVnodeGetOrRead, hl, kalloc, hk]

/-- **What `vfs_vnode_release` can do** to the vnode `v` at address `a`, whose count drops to
`intPred v.vCount`: keep it while the count is positive, or ask the driver to destroy it and,
if the driver agrees, deallocate it; if the driver refuses, fail with `E_IO` keeping the
lowered count. -/
theorem vfsVnodeRelease_cases {a : Nat} {r : Int} {s' : VfsState}
    (h : s.vfsVnodeRelease o a = some (r, s')) :
    ∃ v, s.vnodes.find? (·.addr = a) = some v ∧
      ((1 ≤ intPred v.vCount ∧ r = 0 ∧
          s' = s.updVnode a fun _ => { v with vCount := intPred v.vCount }) ∨
        (intPred v.vCount < 1 ∧ s.sbAt v.vSb ≠ none ∧ o.destroyVnode s.calls = true ∧
          (r, s') = (s.updVnode a fun _ => { v with vCount := intPred v.vCount }).tick.vfsVnodeDealloc
            { v with vCount := intPred v.vCount }) ∨
        (intPred v.vCount < 1 ∧ s.sbAt v.vSb ≠ none ∧ o.destroyVnode s.calls = false ∧ r = -1 ∧
          s' = ((s.updVnode a fun _ => { v with vCount := intPred v.vCount }).tick).setErrno .io)) := by
  unfold vfsVnodeRelease at h
  cases hf : s.vnodes.find? (·.addr = a) with
  | none => simp [hf] at h
  | some v =>
    refine ⟨v, rfl, ?_⟩
    simp only [hf] at h
    split at h
    · rename_i hc
      split at h
      · simp at h
      · rename_i hlive
        cases hd : o.destroyVnode s.calls
        · simp only [updVnode_calls, hd, Bool.false_eq_true, if_false, Option.some.injEq,
            Prod.mk.injEq] at h
          exact .inr (.inr ⟨hc, hlive, rfl, h.1.symm, h.2.symm⟩)
        · simp only [updVnode_calls, hd, if_true, Option.some.injEq] at h
          exact .inr (.inl ⟨hc, hlive, rfl, h.symm⟩)
    · rename_i hc
      simp only [Option.some.injEq, Prod.mk.injEq] at h
      exact .inl ⟨not_lt.1 hc, h.1.symm, h.2.symm⟩

theorem vfsVnodeDealloc_calls (node : Vnode) : (s.vfsVnodeDealloc node).2.calls = s.calls := by
  unfold vfsVnodeDealloc
  split
  · split <;> rfl
  · rfl

/-- Loading a vnode only reads more answers. -/
theorem vfsVnodeGetOrRead_calls {sb : Option SbPtr} {vno : Int} {r : Option Nat} {s' : VfsState}
    (h : s.vfsVnodeGetOrRead o sb vno = some (r, s')) : s.calls ≤ s'.calls := by
  rcases vfsVnodeGetOrRead_cases h with ⟨n, -, -, -, rfl⟩ | ⟨-, hq, -⟩ | ⟨p, dir, -, -, -, -, rfl⟩
  · exact le_rfl
  · exact hq.calls
  · show s.calls ≤ s.calls + 1 + 1 + 1
    omega

/-- Releasing a vnode only reads more answers. -/
theorem vfsVnodeRelease_calls {a : Nat} {r : Int} {s' : VfsState} (h : s.vfsVnodeRelease o a = some (r, s')) :
    s.calls ≤ s'.calls := by
  obtain ⟨v, -, ⟨-, -, rfl⟩ | ⟨-, -, -, he⟩ | ⟨-, -, -, -, rfl⟩⟩ := vfsVnodeRelease_cases h
  · exact le_rfl
  · rw [show s' = _ from congrArg Prod.snd he, vfsVnodeDealloc_calls]
    exact Nat.le_succ _
  · exact Nat.le_succ _

/-! ## What the vnode operations leave alone -/

/-- `s'` differs from `s` at most in the vnode cache, `errno` and the answers read. -/
structure VnodesOnly (s s' : VfsState) : Prop where
  fsTypes : s'.fsTypes = s.fsTypes
  sbs : s'.sbs = s.sbs
  dentries : s'.dentries = s.dentries
  rootDentry : s'.rootDentry = s.rootDentry

theorem VnodesOnly.trans {s₁ s₂ s₃ : VfsState} (h₁ : s₁.VnodesOnly s₂) (h₂ : s₂.VnodesOnly s₃) :
    s₁.VnodesOnly s₃ :=
  ⟨h₂.fsTypes.trans h₁.fsTypes, h₂.sbs.trans h₁.sbs, h₂.dentries.trans h₁.dentries,
    h₂.rootDentry.trans h₁.rootDentry⟩

theorem Quiet.vnodesOnly {s' : VfsState} (h : s.Quiet s') : s.VnodesOnly s' :=
  ⟨h.fsTypes, h.sbs, h.dentries, h.rootDentry⟩

theorem VnodesOnly.registries {s' : VfsState} (h : s.VnodesOnly s') : s.Registries s' :=
  ⟨h.fsTypes, h.sbs, h.rootDentry⟩

theorem vnodesOnly_updVnode (a : Nat) (f : Vnode → Vnode) : s.VnodesOnly (s.updVnode a f) :=
  ⟨rfl, rfl, rfl, rfl⟩

theorem vnodesOnly_vfsVnodeDealloc (node : Vnode) : s.VnodesOnly (s.vfsVnodeDealloc node).2 := by
  unfold vfsVnodeDealloc
  split
  · split <;> exact ⟨rfl, rfl, rfl, rfl⟩
  · exact ⟨rfl, rfl, rfl, rfl⟩

theorem vfsVnodeDealloc_vnodes (node : Vnode) :
    (s.vfsVnodeDealloc node).2.vnodes = s.vnodes.eraseP (Vnode.HasKey (some node.vSb) node.vNo) := by
  unfold vfsVnodeDealloc
  split
  · split <;> rfl
  · rfl

/-- **From an empty cache, `vfs_vnode_get_or_read` fails leaving the cache empty, or loads one
vnode, held once.** -/
theorem vfsVnodeGetOrRead_of_nil {sb : Option SbPtr} {vno : Int} {r : Option Nat} {s' : VfsState}
    (hv : s.vnodes = []) (h : s.vfsVnodeGetOrRead o sb vno = some (r, s')) :
    (r = none ∧ s'.vnodes = []) ∨ ∃ v : Vnode, r = some v.addr ∧ v.vCount = 1 ∧ s'.vnodes = [v] := by
  rcases vfsVnodeGetOrRead_cases h with ⟨n, hn, -⟩ | ⟨rfl, hq, -⟩ | ⟨p, dir, -, -, -, rfl, rfl⟩
  · rw [hv] at hn; cases hn
  · exact .inl ⟨rfl, hq.vnodes.trans hv⟩
  · exact .inr ⟨⟨s.calls + 1, vno, p, 1, dir⟩, rfl, rfl, by simp [vfsVnodeAcquire, updVnode, hv]; rfl⟩

/-- **Releasing the only cached vnode, held once, empties the cache**, when the driver agrees to
destroy it. -/
theorem vfsVnodeRelease_last {a : Nat} {r : Int} {s' : VfsState} {v : Vnode} (hv : s.vnodes = [v])
    (hc : v.vCount = 1) (hd : o.destroyVnode s.calls = true) (h : s.vfsVnodeRelease o a = some (r, s')) :
    s'.vnodes = [] := by
  obtain ⟨w, hw, ⟨h1, -⟩ | ⟨-, -, -, he⟩ | ⟨-, -, hd', -⟩⟩ := vfsVnodeRelease_cases h
  all_goals
    have hwa : w.addr = a := by simpa using List.find?_some hw
    rw [hv] at hw
    obtain rfl : w = v := (List.mem_singleton.1 (List.mem_of_find?_eq_some hw))
  · rw [hc] at h1; exact absurd h1 (by decide)
  · rw [congrArg (·.2.vnodes) he, vfsVnodeDealloc_vnodes]
    simp [updVnode, hv, hwa, Vnode.HasKey]
  · exact absurd (hd'.symm.trans hd) (by decide)

theorem vfsVnodeGetOrRead_vnodesOnly {sb : Option SbPtr} {vno : Int} {r : Option Nat} {s' : VfsState}
    (h : s.vfsVnodeGetOrRead o sb vno = some (r, s')) : s.VnodesOnly s' := by
  rcases vfsVnodeGetOrRead_cases h with ⟨n, -, -, -, rfl⟩ | ⟨-, hq, -⟩ | ⟨p, dir, -, -, -, -, rfl⟩
  · exact vnodesOnly_updVnode _ _
  · exact hq.vnodesOnly
  · constructor <;> simp [vfsVnodeAcquire]

theorem vfsVnodeRelease_vnodesOnly {a : Nat} {r : Int} {s' : VfsState}
    (h : s.vfsVnodeRelease o a = some (r, s')) : s.VnodesOnly s' := by
  obtain ⟨v, -, ⟨-, -, rfl⟩ | ⟨-, -, -, he⟩ | ⟨-, -, -, -, rfl⟩⟩ := vfsVnodeRelease_cases h
  · exact vnodesOnly_updVnode _ _
  · exact (vnodesOnly_updVnode _ _).trans
      (Quiet.tick.vnodesOnly.trans (he ▸ vnodesOnly_vfsVnodeDealloc _))
  · exact ⟨rfl, rfl, rfl, rfl⟩

end VfsState

end Buhos.Vfs
