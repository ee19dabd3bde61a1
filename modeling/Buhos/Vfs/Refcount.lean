import Buhos.Vfs.Vnode

/-!
# Reference counts of the vnode cache

A vnode that `vfs_vnode_get_or_read` returns is held until the caller gives it back with
`vfs_vnode_release`. A run is any sequence of the two calls, with any answer from the
allocator, `read_vnode`, `list_add` and `destroy_vnode`; `hs` lists the held addresses, one
entry per unreleased acquisition.

* `RefInv`: keys and addresses are unique, every cached count is the number of holds, and
  every held vnode is cached.
* `RefInv.acquire`, `RefInv.insert`, `RefInv.release`: the three ways a call changes the
  cache keep `RefInv`, as long as no vnode is held `2^31` times (`v_count` is an `int`).
* `vnodeStep_refInv`: so does every call.
-/

namespace Buhos.Vfs

/-- The calls of a run over the vnode cache. -/
inductive VnodeCall
  | getOrRead (sb : Option SbPtr) (vno : Int)
  | release (a : Nat)

/-- One call, with the holds it adds or gives back; `none` when the call has no defined
result or releases a vnode nobody holds. -/
def vnodeStep (o : Oracle) : VfsState × List Nat → VnodeCall → Option (VfsState × List Nat)
  | (s, hs), .getOrRead sb vno => (s.vfsVnodeGetOrRead o sb vno).map fun r => (r.2, r.1.toList ++ hs)
  | (s, hs), .release a =>
    if a ∈ hs then (s.vfsVnodeRelease o a).map fun r => (r.2, hs.erase a) else none

/-- The runs from a state with an empty vnode cache, each step with its own oracle, whose holds
satisfy `Ok` after every step. -/
inductive VnodeRun (Ok : List Nat → Prop) : VfsState × List Nat → Prop
  | init (s : VfsState) : s.vnodes = [] → VnodeRun Ok (s, [])
  | step {x y : VfsState × List Nat} (o : Oracle) (c : VnodeCall) :
      VnodeRun Ok x → vnodeStep o x c = some y → Ok y.2 → VnodeRun Ok y

/-- No vnode is held `2^31` times. -/
def HoldsBounded (hs : List Nat) : Prop := ∀ a, hs.count a ≤ intMax

/-- The vnode cache agrees with its holders. -/
structure RefInv (s : VfsState) (hs : List Nat) : Prop where
  keys : (s.vnodes.map Vnode.key).Nodup
  addrs : (s.vnodes.map (·.addr)).Nodup
  fresh : ∀ v ∈ s.vnodes, v.addr ≤ s.calls
  live : ∀ v ∈ s.vnodes, s.sbAt v.vSb ≠ none
  count : ∀ v ∈ s.vnodes, v.vCount = hs.count v.addr
  held : ∀ a ∈ hs, ∃ v ∈ s.vnodes, v.addr = a

section Upd

variable {s : VfsState} {a : Nat} {f : Vnode → Vnode}

theorem mem_updVnode {w : Vnode} :
    w ∈ (s.updVnode a f).vnodes ↔ ∃ u ∈ s.vnodes, (if u.addr = a then f u else u) = w :=
  List.mem_map

theorem updVnode_keys (hf : ∀ u ∈ s.vnodes, u.addr = a → (f u).key = u.key) :
    (s.updVnode a f).vnodes.map Vnode.key = s.vnodes.map Vnode.key := by
  simp only [VfsState.updVnode, List.map_map]
  exact List.map_congr_left fun u hu => by by_cases h : u.addr = a <;> simp [h, hf u hu]

theorem updVnode_addrs (hf : ∀ u ∈ s.vnodes, u.addr = a → (f u).addr = u.addr) :
    (s.updVnode a f).vnodes.map (·.addr) = s.vnodes.map (·.addr) := by
  simp only [VfsState.updVnode, List.map_map]
  exact List.map_congr_left fun u hu => by by_cases h : u.addr = a <;> simp [h, hf u hu]

/-- An entry away from `a` after rewriting the entries at `a` was there before. -/
theorem mem_updVnode_of_ne (hf : ∀ u, u.addr = a → (f u).addr = a) {w : Vnode}
    (hw : w ∈ (s.updVnode a f).vnodes) (hwa : w.addr ≠ a) : w ∈ s.vnodes := by
  obtain ⟨u, hu, rfl⟩ := mem_updVnode.1 hw
  split_ifs at hwa ⊢ with h
  · exact absurd (hf u h) hwa
  · exact hu

/-- Rewriting entries in place keeps every address cached. -/
theorem addr_mem_updVnode {v : Vnode} (hf : ∀ u, u.addr = a → (f u).addr = u.addr)
    (hv : v ∈ s.vnodes) : ∃ w ∈ (s.updVnode a f).vnodes, w.addr = v.addr :=
  ⟨_, mem_updVnode.2 ⟨v, hv, rfl⟩, by split_ifs with h <;> simp [hf v, h]⟩

/-- What `vfs_vnode_release` finds by address is cached at that address. -/
theorem find?_addr {vs : List Vnode} {a : Nat} {v : Vnode} (hf : vs.find? (·.addr = a) = some v) :
    v ∈ vs ∧ v.addr = a :=
  ⟨List.mem_of_find?_eq_some hf, by simpa using List.find?_some hf⟩

end Upd

namespace RefInv

variable {o : Oracle} {s s' : VfsState} {hs : List Nat}

/-- The cached vnode at a held address. -/
theorem addr_inj (h : RefInv s hs) {v w : Vnode} (hv : v ∈ s.vnodes) (hw : w ∈ s.vnodes)
    (hvw : v.addr = w.addr) : v = w :=
  List.inj_on_of_nodup_map h.addrs hv hw hvw

theorem quiet (h : RefInv s hs) (hq : s.Quiet s') : RefInv s' hs where
  keys := by rw [hq.vnodes]; exact h.keys
  addrs := by rw [hq.vnodes]; exact h.addrs
  fresh v hv := (h.fresh v (hq.vnodes ▸ hv)).trans hq.calls
  live v hv := by simpa [VfsState.sbAt, hq.sbs] using h.live v (hq.vnodes ▸ hv)
  count v hv := h.count v (hq.vnodes ▸ hv)
  held a ha := hq.vnodes ▸ h.held a ha

/-- One more hold on a cached vnode. -/
theorem acquire (h : RefInv s hs) {v : Vnode} (hv : v ∈ s.vnodes)
    (hb : (hs.count v.addr : Int) < intMax) :
    RefInv (s.vfsVnodeAcquire v.addr) (v.addr :: hs) where
  keys := by rw [VfsState.vfsVnodeAcquire, updVnode_keys]; exacts [h.keys, fun _ _ _ => rfl]
  addrs := by rw [VfsState.vfsVnodeAcquire, updVnode_addrs]; exacts [h.addrs, fun _ _ _ => rfl]
  fresh w hw := by
    obtain ⟨u, hu, rfl⟩ := mem_updVnode.1 hw
    split_ifs <;> exact h.fresh u hu
  live w hw := by
    obtain ⟨u, hu, rfl⟩ := mem_updVnode.1 hw
    split_ifs <;> exact h.live u hu
  count w hw := by
    obtain ⟨u, hu, rfl⟩ := mem_updVnode.1 hw
    split_ifs with hua
    · obtain rfl := h.addr_inj hu hv hua
      rw [intSucc_of_lt (h.count u hu ▸ hb), h.count u hu, List.count_cons_self]; push_cast; rfl
    · rw [List.count_cons_of_ne hua]; exact h.count u hu
  held b hb' := by
    rcases List.mem_cons.1 hb' with rfl | hb'
    · exact ⟨_, mem_updVnode.2 ⟨v, hv, rfl⟩, by simp⟩
    · obtain ⟨u, hu, rfl⟩ := h.held b hb'
      exact ⟨_, mem_updVnode.2 ⟨u, hu, rfl⟩, by split_ifs <;> rfl⟩

/-- A vnode the driver loaded enters the cache with count zero, held by nobody. -/
theorem append (h : RefInv s hs) {n : Vnode} (hkey : ∀ v ∈ s.vnodes, ¬ v.HasKey (some n.vSb) n.vNo)
    (ha : s.calls < n.addr) (hlive : s.sbAt n.vSb ≠ none) (hc : n.vCount = 0)
    (hs' : s'.vnodes = s.vnodes ++ [n]) (hsbs : s'.sbs = s.sbs) (hcalls : n.addr ≤ s'.calls) :
    RefInv s' hs := by
  have hsb : ∀ p, s'.sbAt p = s.sbAt p := fun p => by simp [VfsState.sbAt, hsbs]
  have hheld : n.addr ∉ hs := fun hn => by
    obtain ⟨v, hv, hva⟩ := h.held _ hn
    have := h.fresh v hv; omega
  refine ⟨?_, ?_, ?_, ?_, ?_, ?_⟩
  · rw [hs', List.map_append, List.nodup_append]
    exact ⟨h.keys, List.nodup_singleton _, List.disjoint_singleton.2 fun hm => by
      obtain ⟨v, hv, hvk⟩ := List.mem_map.1 hm
      exact hkey v hv (Vnode.hasKey_iff.2 hvk)⟩
  · rw [hs', List.map_append, List.nodup_append]
    exact ⟨h.addrs, List.nodup_singleton _, List.disjoint_singleton.2 fun hm => by
      obtain ⟨v, hv, hva⟩ := List.mem_map.1 hm
      have := h.fresh v hv; simp only at hva; omega⟩
  · intro v hv
    rcases List.mem_append.1 (hs' ▸ hv) with hv | hv
    · have := h.fresh v hv; omega
    · rw [List.mem_singleton.1 hv]; exact hcalls
  · intro v hv
    rw [hsb]
    rcases List.mem_append.1 (hs' ▸ hv) with hv | hv
    · exact h.live v hv
    · rw [List.mem_singleton.1 hv]; exact hlive
  · intro v hv
    rcases List.mem_append.1 (hs' ▸ hv) with hv | hv
    · exact h.count v hv
    · rw [List.mem_singleton.1 hv, hc, List.count_eq_zero_of_not_mem hheld]; rfl
  · intro b hb
    obtain ⟨v, hv, rfl⟩ := h.held b hb
    exact ⟨v, hs' ▸ List.mem_append_left _ hv, rfl⟩

/-- A hold given back: the count of the vnode drops by one. -/
theorem drop (h : RefInv s hs) {v : Vnode} (hv : v ∈ s.vnodes) (ha : v.addr ∈ hs) :
    RefInv (s.updVnode v.addr fun _ => { v with vCount := intPred v.vCount }) (hs.erase v.addr) := by
  have hpos : 0 < hs.count v.addr := List.count_pos_iff.2 ha
  have hsame : ∀ u ∈ s.vnodes, u.addr = v.addr → u = v := fun u hu hua => h.addr_inj hu hv hua
  refine ⟨?_, ?_, ?_, ?_, ?_, ?_⟩
  · rw [updVnode_keys fun u hu hua => by rw [hsame u hu hua]; rfl]; exact h.keys
  · rw [updVnode_addrs fun u hu hua => by rw [hsame u hu hua]]; exact h.addrs
  · intro w hw
    obtain ⟨u, hu, rfl⟩ := mem_updVnode.1 hw
    split_ifs with hua
    · rw [← hsame u hu hua]; exact h.fresh u hu
    · exact h.fresh u hu
  · intro w hw
    obtain ⟨u, hu, rfl⟩ := mem_updVnode.1 hw
    split_ifs with hua
    · rw [← hsame u hu hua]; exact h.live u hu
    · exact h.live u hu
  · intro w hw
    obtain ⟨u, hu, rfl⟩ := mem_updVnode.1 hw
    split_ifs with hua
    · simp only [List.count_erase_self]
      rw [intPred_of_pos (by rw [h.count v hv]; exact_mod_cast hpos), h.count v hv]
      omega
    · rw [List.count_erase_of_ne hua]; exact h.count u hu
  · intro b hb
    obtain ⟨u, hu, rfl⟩ := h.held b (List.mem_of_mem_erase hb)
    refine ⟨_, mem_updVnode.2 ⟨u, hu, rfl⟩, ?_⟩
    split_ifs with hua
    · exact hua.symm
    · rfl

/-- A vnode nobody holds leaves the cache. -/
theorem remove (h : RefInv s hs) {v : Vnode} (hv : v ∈ s.vnodes) (h0 : hs.count v.addr = 0) :
    RefInv { s with vnodes := s.vnodes.eraseP (Vnode.HasKey (some v.vSb) v.vNo) } hs := by
  have hsub := (List.eraseP_sublist s.vnodes (p := Vnode.HasKey (some v.vSb) v.vNo))
  have hmem : ∀ {w}, w ∈ s.vnodes.eraseP (Vnode.HasKey (some v.vSb) v.vNo) ↔
      w ∈ s.vnodes ∧ w.key ≠ v.key := VfsState.mem_eraseP_key h.keys hv
  refine ⟨h.keys.sublist (hsub.map _), h.addrs.sublist (hsub.map _),
    fun w hw => h.fresh w (hmem.1 hw).1, fun w hw => h.live w (hmem.1 hw).1,
    fun w hw => h.count w (hmem.1 hw).1, fun b hb => ?_⟩
  obtain ⟨u, hu, rfl⟩ := h.held b hb
  refine ⟨u, hmem.2 ⟨hu, fun hk => ?_⟩, rfl⟩
  obtain rfl := List.inj_on_of_nodup_map h.keys hu hv hk
  exact absurd h0 (List.count_pos_iff.2 hb).ne'

/-- **`vfs_vnode_release` of a held vnode keeps the invariant**, on each of its exits. -/
theorem release (h : RefInv s hs) {a : Nat} (ha : a ∈ hs) {r : Int}
    (hr : s.vfsVnodeRelease o a = some (r, s')) : RefInv s' (hs.erase a) := by
  obtain ⟨v, hf, hcase⟩ := VfsState.vfsVnodeRelease_cases hr
  obtain ⟨hv, rfl⟩ := find?_addr hf
  have hd := h.drop hv ha
  rcases hcase with ⟨-, -, rfl⟩ | ⟨hc, -, -, hdl⟩ | ⟨-, -, -, -, rfl⟩
  · exact hd
  · -- the count reached zero and the driver destroyed the vnode
    have hd' := hd.quiet VfsState.Quiet.tick
    have hv' : { v with vCount := intPred v.vCount } ∈
        (s.updVnode v.addr fun _ => { v with vCount := intPred v.vCount }).tick.vnodes :=
      mem_updVnode.2 ⟨v, hv, by simp⟩
    rw [VfsState.vfsVnodeDealloc_of_mem hd'.keys hv'] at hdl
    obtain ⟨-, rfl⟩ := Prod.mk.inj hdl
    refine hd'.remove hv' ?_
    have hpos : 0 < hs.count v.addr := List.count_pos_iff.2 ha
    have hcnt := h.count v hv
    rw [intPred_of_pos (by omega)] at hc
    simp only [List.count_erase_self]
    omega
  · exact hd.quiet (VfsState.Quiet.tick.trans (VfsState.Quiet.setErrno _))

/-- `vfs_vnode_get_or_read` takes no vnode out of the cache. -/
theorem getOrRead_keeps {sb : Option SbPtr} {vno : Int} {r : Option Nat}
    (hg : s.vfsVnodeGetOrRead o sb vno = some (r, s')) {v : Vnode} (hv : v ∈ s.vnodes) :
    ∃ w ∈ s'.vnodes, w.addr = v.addr := by
  rcases VfsState.vfsVnodeGetOrRead_cases hg with
    ⟨n, -, -, -, rfl⟩ | ⟨-, hq, -⟩ | ⟨p, dir, -, -, -, -, rfl⟩
  · exact addr_mem_updVnode (fun _ _ => rfl) hv
  · exact ⟨v, hq.vnodes ▸ hv, rfl⟩
  · exact addr_mem_updVnode (fun _ _ => rfl) (List.mem_append_left _ hv)

/-- Every entry `vfs_vnode_get_or_read` leaves but the one it returns was cached before, as it
was. -/
theorem getOrRead_others {sb : Option SbPtr} {vno : Int} {a : Nat}
    (hg : s.vfsVnodeGetOrRead o sb vno = some (some a, s')) {w : Vnode} (hw : w ∈ s'.vnodes)
    (hwa : w.addr ≠ a) : w ∈ s.vnodes := by
  have hacq : ∀ {t : VfsState}, w ∈ (t.vfsVnodeAcquire a).vnodes → w ∈ t.vnodes := fun hw =>
    mem_updVnode_of_ne (f := fun v => { v with vCount := intSucc v.vCount }) (fun _ h => h) hw hwa
  rcases VfsState.vfsVnodeGetOrRead_cases hg with ⟨n, -, -, ha, rfl⟩ | ⟨h, -⟩ | ⟨p, dir, -, -, -, ha, rfl⟩
  · cases ha; exact hacq hw
  · cases h
  · cases ha
    rcases List.mem_append.1 (hacq hw) with h | h
    · exact h
    · exact absurd (by rw [List.mem_singleton.1 h]) hwa

/-- **A vnode leaves the cache exactly on the release that brings its count from one to zero,
when `destroy_vnode` succeeds.** -/
theorem release_leaves (h : RefInv s hs) {a : Nat} (ha : a ∈ hs) {r : Int}
    (hr : s.vfsVnodeRelease o a = some (r, s')) {v : Vnode} (hv : v ∈ s.vnodes) :
    (∀ w ∈ s'.vnodes, w.addr ≠ v.addr) ↔
      v.addr = a ∧ v.vCount = 1 ∧ o.destroyVnode s.calls = true := by
  obtain ⟨v₀, hf, hcase⟩ := VfsState.vfsVnodeRelease_cases hr
  obtain ⟨hv₀, rfl⟩ := find?_addr hf
  have hpos : 0 < v₀.vCount := by rw [h.count v₀ hv₀]; exact_mod_cast List.count_pos_iff.2 ha
  have hpred := intPred_of_pos hpos
  -- the lowered entry, and every other entry unchanged
  have stays : ¬ ∀ w ∈ (s.updVnode v₀.addr fun _ => { v₀ with vCount := intPred v₀.vCount }).vnodes,
      w.addr ≠ v.addr := fun hall =>
    let ⟨w, hw, hwv⟩ := addr_mem_updVnode (f := fun _ => { v₀ with vCount := intPred v₀.vCount })
      (fun u hu => hu.symm) hv
    hall w hw hwv
  rcases hcase with ⟨hc, -, rfl⟩ | ⟨hc, -, hd, hdl⟩ | ⟨-, -, hd, -, rfl⟩
  · refine iff_of_false stays fun ⟨hva, h1, _⟩ => ?_
    rw [h.addr_inj hv hv₀ hva] at h1; omega
  · have hd' := (h.drop hv₀ ha).quiet VfsState.Quiet.tick
    have hv' : { v₀ with vCount := intPred v₀.vCount } ∈
        (s.updVnode v₀.addr fun _ => { v₀ with vCount := intPred v₀.vCount }).tick.vnodes :=
      mem_updVnode.2 ⟨v₀, hv₀, by simp⟩
    rw [VfsState.vfsVnodeDealloc_of_mem hd'.keys hv'] at hdl
    obtain ⟨-, rfl⟩ := Prod.mk.inj hdl
    have hmem := fun {w} => VfsState.mem_eraseP_key (w := w) hd'.keys hv'
    by_cases hva : v.addr = v₀.addr
    · obtain rfl := h.addr_inj hv hv₀ hva
      refine iff_of_true (fun w hw hwv => ?_) ⟨rfl, by omega, hd⟩
      exact (hmem.1 hw).2 (congrArg Vnode.key (hd'.addr_inj (hmem.1 hw).1 hv' hwv))
    · refine iff_of_false (fun hall => ?_) fun ⟨hva', _⟩ => hva hva'
      have hv1 : v ∈ (s.updVnode v₀.addr fun _ => { v₀ with vCount := intPred v₀.vCount }).tick.vnodes :=
        mem_updVnode.2 ⟨v, hv, if_neg hva⟩
      refine hall v (hmem.2 ⟨hv1, fun hk => hva ?_⟩) rfl
      rw [List.inj_on_of_nodup_map hd'.keys hv1 hv' hk]
  · exact iff_of_false stays fun ⟨_, _, hd'⟩ => by simp [hd] at hd'

end RefInv

/-- **Every call keeps the vnode cache in agreement with its holders**, as long as no vnode
is held `2^31` times. -/
theorem vnodeStep_refInv {o : Oracle} {s s' : VfsState} {hs hs' : List Nat} {c : VnodeCall}
    (h : RefInv s hs) (hstep : vnodeStep o (s, hs) c = some (s', hs')) (hb : HoldsBounded hs') :
    RefInv s' hs' := by
  cases c with
  | getOrRead sb vno =>
    obtain ⟨⟨r, s₁⟩, hg, heq⟩ := Option.map_eq_some'.1 hstep
    obtain ⟨rfl, rfl⟩ := Prod.mk.inj heq
    rcases VfsState.vfsVnodeGetOrRead_cases hg with
      ⟨n, hn, -, rfl, rfl⟩ | ⟨rfl, hq, -⟩ | ⟨p, dir, rfl, habs, hlive, rfl, rfl⟩
    · have := hb n.addr
      simp only [Option.toList_some, List.singleton_append, List.count_cons_self] at this
      exact h.acquire hn (by push_cast at this; omega)
    · exact h.quiet hq
    · have h₁ : RefInv { s.tick.tick.tick with vnodes := s.vnodes ++ [⟨s.calls + 1, vno, p, 0, dir⟩] } hs :=
        h.append habs (Nat.lt_succ_self _) hlive rfl rfl rfl (by simp)
      have := hb (s.calls + 1)
      simp only [Option.toList_some, List.singleton_append, List.count_cons_self] at this
      exact h₁.acquire (v := ⟨s.calls + 1, vno, p, 0, dir⟩) (by simp) (by dsimp only; push_cast at this; omega)
  | release a =>
    simp only [vnodeStep] at hstep
    split at hstep
    · obtain ⟨⟨r, s₁⟩, hr, heq⟩ := Option.map_eq_some'.1 hstep
      obtain ⟨rfl, rfl⟩ := Prod.mk.inj heq
      exact h.release ‹_› hr
    · cases hstep

/-- No call sets `E_CORRUPT`: `vfs_vnode_dealloc` never finds another vnode under the key. -/
theorem vnodeStep_errno {o : Oracle} {s s' : VfsState} {hs hs' : List Nat} {c : VnodeCall}
    (h : RefInv s hs) (hstep : vnodeStep o (s, hs) c = some (s', hs')) :
    s'.errno = s.errno ∨ s'.errno = .nomem ∨ s'.errno = .io := by
  cases c with
  | getOrRead sb vno =>
    obtain ⟨⟨r, s₁⟩, hg, heq⟩ := Option.map_eq_some'.1 hstep
    obtain ⟨rfl, rfl⟩ := Prod.mk.inj heq
    rcases VfsState.vfsVnodeGetOrRead_cases hg with
      ⟨n, -, -, -, rfl⟩ | ⟨-, -, he | he⟩ | ⟨p, dir, -, -, -, -, rfl⟩
    · exact .inl rfl
    · exact .inl he
    · exact .inr (.inl he)
    · exact .inl rfl
  | release a =>
    simp only [vnodeStep] at hstep
    split at hstep
    · rename_i ha
      obtain ⟨⟨r, s₁⟩, hr, heq⟩ := Option.map_eq_some'.1 hstep
      obtain ⟨rfl, rfl⟩ := Prod.mk.inj heq
      obtain ⟨v, hf, hcase⟩ := VfsState.vfsVnodeRelease_cases hr
      obtain ⟨hv, rfl⟩ := find?_addr hf
      rcases hcase with ⟨-, -, rfl⟩ | ⟨-, -, -, hdl⟩ | ⟨-, -, -, -, rfl⟩
      · exact .inl rfl
      · have hd' := (h.drop hv ha).quiet VfsState.Quiet.tick
        rw [VfsState.vfsVnodeDealloc_of_mem hd'.keys (mem_updVnode.2 ⟨v, hv, by simp⟩)] at hdl
        obtain ⟨-, rfl⟩ := Prod.mk.inj hdl
        exact .inl rfl
      · exact .inr (.inr rfl)
    · cases hstep

/-- A `vfs_vnode_get_or_read` that returns `NULL` leaves the cache as it was. -/
theorem vnodeStep_getOrRead_fail {o : Oracle} {s s' : VfsState} {hs : List Nat} {sb : Option SbPtr}
    {vno : Int} (hstep : vnodeStep o (s, hs) (.getOrRead sb vno) = some (s', hs)) :
    s'.vnodes = s.vnodes := by
  obtain ⟨⟨r, s₁⟩, hg, heq⟩ := Option.map_eq_some'.1 hstep
  obtain ⟨rfl, hr⟩ := Prod.mk.inj heq
  rcases VfsState.vfsVnodeGetOrRead_cases hg with
    ⟨n, -, -, rfl, -⟩ | ⟨-, hq, -⟩ | ⟨p, dir, -, -, -, rfl, -⟩
  · simp at hr
  · exact hq.vnodes
  · simp at hr

/-- Every bounded run keeps the cache in agreement with its holders. -/
theorem vnodeRun_refInv {x : VfsState × List Nat} (hx : VnodeRun HoldsBounded x) : RefInv x.1 x.2 := by
  induction hx with
  | init s h0 => exact ⟨by simp [h0], by simp [h0], by simp [h0], by simp [h0], by simp [h0], by simp⟩
  | step o c _ hy hb ih => exact vnodeStep_refInv ih hy hb

/-- **Reference counts of the vnode cache.** Along every run in which no vnode is held `2^31`
times, after each call: keys are unique, every cached count is the number of holds and every
held vnode is cached; a vnode leaves the cache exactly on the release that takes its count
from one to zero with `destroy_vnode` succeeding; a `vfs_vnode_get_or_read` returning `NULL`
changes no entry; and no call sets `E_CORRUPT`. -/
theorem vnode_refcount {o : Oracle} {c : VnodeCall} {x y : VfsState × List Nat}
    (hx : VnodeRun HoldsBounded x) (hy : vnodeStep o x c = some y) (hb : HoldsBounded y.2) :
    RefInv y.1 y.2 ∧
    (∀ v ∈ x.1.vnodes, (∀ w ∈ y.1.vnodes, w.addr ≠ v.addr) ↔
      c = .release v.addr ∧ v.vCount = 1 ∧ o.destroyVnode x.1.calls = true) ∧
    (∀ sb vno, c = .getOrRead sb vno → y.2 = x.2 → y.1.vnodes = x.1.vnodes) ∧
    (y.1.errno = .corrupt → x.1.errno = .corrupt) := by
  obtain ⟨s, hs⟩ := x
  obtain ⟨s', hs'⟩ := y
  have h := vnodeRun_refInv hx
  refine ⟨vnodeRun_refInv (hx.step o c hy hb), fun v hv => ?_, fun sb vno hc he => ?_, fun he => ?_⟩
  · cases c with
    | getOrRead sb vno =>
      obtain ⟨⟨r, s₁⟩, hg, heq⟩ := Option.map_eq_some'.1 hy
      obtain ⟨rfl, -⟩ := Prod.mk.inj heq
      refine iff_of_false (fun hall => ?_) (by simp)
      obtain ⟨w, hw, hwv⟩ := RefInv.getOrRead_keeps hg hv
      exact hall w hw hwv
    | release a =>
      simp only [vnodeStep] at hy
      split at hy
      · rename_i ha
        obtain ⟨⟨r, s₁⟩, hr, heq⟩ := Option.map_eq_some'.1 hy
        obtain ⟨rfl, -⟩ := Prod.mk.inj heq
        rw [h.release_leaves ha hr hv, VnodeCall.release.injEq, eq_comm (a := a)]
      · cases hy
  · subst hc
    obtain rfl : hs' = hs := he
    exact vnodeStep_getOrRead_fail hy
  · rcases vnodeStep_errno h hy with h' | h' | h' <;> rw [h'] at he
    · exact he
    all_goals cases he

/-- One superblock, registered at address `1`, and an empty cache. -/
def oneSb : VfsState := { vfsInit with sbs := [⟨1, 1, .unused, 1, none, none⟩] }

theorem vnode_refcount_first_load :
    VnodeRun HoldsBounded (oneSb, []) ∧
    vnodeStep (Oracle.happy fun _ _ _ => 0) (oneSb, []) (.getOrRead (some 1) 1) =
      some ({ oneSb with vnodes := [⟨1, 1, 1, 1, true⟩], calls := 3 }, [1]) ∧
    HoldsBounded [1] ∧
    RefInv { oneSb with vnodes := [⟨1, 1, 1, 1, true⟩], calls := 3 } [1] :=
  have h₁ : VnodeRun HoldsBounded (oneSb, []) := .init _ rfl
  have h₂ : vnodeStep (Oracle.happy fun _ _ _ => 0) (oneSb, []) (.getOrRead (some 1) 1) =
      some ({ oneSb with vnodes := [⟨1, 1, 1, 1, true⟩], calls := 3 }, [1]) := rfl
  have h₃ : HoldsBounded [1] := fun a => by
    by_cases ha : a = 1 <;> simp [ha, List.count_cons, intMax]
  ⟨h₁, h₂, h₃, (vnode_refcount h₁ h₂ h₃).1⟩

/-- `k` more hits on the only cached vnode apply `v_count ++` `k` times. -/
theorem vnodeRun_hits {Ok : List Nat → Prop} (hOk : ∀ hs, Ok hs) (o : Oracle) {s : VfsState}
    {v : Vnode} {hs : List Nat} (hv : s.vnodes = [v]) (h : VnodeRun Ok (s, hs)) :
    ∀ k, VnodeRun Ok ({ s with vnodes := [{ v with vCount := intSucc^[k] v.vCount }] },
      List.replicate k v.addr ++ hs)
  | 0 => by
    obtain ⟨_, _, _, _, _, _, _⟩ := s
    subst hv
    exact h
  | k + 1 => by
    refine .step o (.getOrRead (some v.vSb) v.vNo) (vnodeRun_hits hOk o hv h k) ?_ (hOk _)
    simp [vnodeStep, VfsState.vfsVnodeGetOrRead, vfsVnodeLookup, Vnode.HasKey,
      VfsState.vfsVnodeAcquire, VfsState.updVnode, Function.iterate_succ_apply',
      List.replicate_succ]

/-- **Without the bound the count wraps**: after `2^31` acquisitions of one vnode, its `int`
count is `-2^31`. -/
theorem vnode_count_wraps :
    ∃ x, VnodeRun (fun _ => True) x ∧ ∃ v ∈ x.1.vnodes, v.vCount ≠ x.2.count v.addr := by
  have h₁ : VnodeRun (fun _ => True) (oneSb, []) := .init _ rfl
  have h₂ : VnodeRun (fun _ => True) ({ oneSb with vnodes := [⟨1, 1, 1, 1, true⟩], calls := 3 }, [1]) :=
    .step (Oracle.happy fun _ _ _ => 0) (.getOrRead (some 1) 1) h₁ rfl trivial
  refine ⟨_, vnodeRun_hits (fun _ => trivial) (Oracle.happy fun _ _ _ => 0) rfl h₂ 2147483647,
    _, List.mem_singleton_self _, ?_⟩
  have hc : intSucc^[2147483647] 1 = -2147483648 := by
    rw [show 2147483647 = 2147483646 + 1 from rfl, Function.iterate_succ_apply',
      intSucc_iterate (by simp [intMax])]
    rfl
  simp only [hc, List.count_append, List.count_replicate_self, List.count_singleton_self]
  omega

end Buhos.Vfs
