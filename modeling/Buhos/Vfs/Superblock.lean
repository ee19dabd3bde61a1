import Buhos.Vfs.State

/-!
# The superblock registry

`vfs_sb_lookup`, `vfs_sb_alloc` and `vfs_sb_dealloc` over the list `vfs_sbs`, searched with
`vfs_sb_cmp` (same `sb_devid`).

`vfs_sb_dealloc` asks the superblock's filesystem type to release it through
`sb->ro.sb_fs_type->ft_ops.ft_kill_sb`, so it dereferences `sb_fs_type` before anything else:
on a superblock whose type is not linked yet it has no result (`vfsSbDealloc_unlinked`).
A release that fails leaves the superblock registered (`vfsSbDealloc_io`).

Nothing here writes `sb_mnt`: `SbMntNull` (no superblock has a mount-point back-reference)
survives every registry operation.
-/

namespace Buhos.Vfs

namespace VfsState

variable (o : Oracle) (s : VfsState)

/-- `vfs_sb_lookup(devid)`: the first superblock of the device. -/
def vfsSbLookup (devid : Nat) : Option Superblock := s.sbs.find? (·.sbDevid = devid)

/-- `vfs_sb_alloc(devid)`: a superblock with the defaults, appended to the list. -/
def vfsSbAlloc (devid : Nat) : Option SbPtr × VfsState :=
  match s.kalloc o with
  | (none, s) => (none, s)
  | (some p, s) =>
    if o.listAdd s.calls then
      (some p, { s.tick with sbs := s.sbs ++ [Superblock.mk p devid .unused 0 none none] })
    else (none, s.tick)

/-- `vfs_sb_dealloc(sb)`: release through the type's `ft_kill_sb` when it has one, then
remove the first superblock of the device. -/
def vfsSbDealloc (p : SbPtr) : Option (Int × VfsState) :=
  match s.sbAt p with
  | none => none
  | some sb =>
    match sb.sbFsType with
    | none => none
    | some fa =>
      match s.fsTypes.find? (·.addr = fa) with
      | none => none
      | some ft =>
        let del (s : VfsState) : VfsState :=
          { s with sbs := s.sbs.eraseP (·.sbDevid = sb.sbDevid) }
        if ft.ftKillSb then
          if o.killSb s.calls then some (0, del s.tick) else some (-1, s.tick.setErrno .io)
        else some (0, del s)

variable {o s}

/-- No registered superblock has its mount-point back-reference `sb_mnt` set. -/
def SbMntNull (s : VfsState) : Prop := ∀ sb ∈ s.sbs, sb.sbMnt = none

theorem SbMntNull.of_sbs {s' : VfsState} (h : s.SbMntNull) (he : s'.sbs = s.sbs) : s'.SbMntNull :=
  fun sb hsb => h sb (he ▸ hsb)

/-- Rewriting a superblock without setting `sb_mnt` keeps `SbMntNull`. -/
theorem SbMntNull.updSb (h : s.SbMntNull) {p : SbPtr} {f : Superblock → Superblock}
    (hf : ∀ sb, sb.sbMnt = none → (f sb).sbMnt = none) : (s.updSb p f).SbMntNull := by
  intro sb hsb
  obtain ⟨sb₀, hsb₀, rfl⟩ := List.mem_map.1 hsb
  split
  · exact hf sb₀ (h sb₀ hsb₀)
  · exact h sb₀ hsb₀

theorem SbMntNull.alloc (h : s.SbMntNull) (devid : Nat) : (s.vfsSbAlloc o devid).2.SbMntNull := by
  unfold vfsSbAlloc kalloc
  split
  · rename_i he; obtain ⟨-, rfl⟩ := Prod.mk.inj he; exact h
  · rename_i he; obtain ⟨-, rfl⟩ := Prod.mk.inj he
    split
    · intro sb hsb
      rcases List.mem_append.1 hsb with hsb | hsb
      · exact h sb hsb
      · rw [List.mem_singleton.1 hsb]
    · exact h

theorem SbMntNull.dealloc {p : SbPtr} {r : Int} {s' : VfsState} (hd : s.vfsSbDealloc o p = some (r, s'))
    (h : s.SbMntNull) : s'.SbMntNull := by
  unfold vfsSbDealloc at hd
  split at hd
  · cases hd
  rename_i sb₀ _
  have he : ∀ s₀ : VfsState, s₀.sbs = s.sbs →
      SbMntNull { s₀ with sbs := s₀.sbs.eraseP fun x => x.sbDevid = sb₀.sbDevid } :=
    fun s₀ hs₀ sb hsb => h sb (hs₀ ▸ List.mem_of_mem_eraseP hsb)
  split at hd
  · cases hd
  split at hd
  · cases hd
  split at hd
  · split at hd <;> obtain ⟨-, rfl⟩ := Prod.mk.inj (Option.some.inj hd)
    · exact he _ rfl
    · exact h
  · obtain ⟨-, rfl⟩ := Prod.mk.inj (Option.some.inj hd); exact he _ rfl

/-- A superblock whose type is not linked cannot be deallocated: `sb_fs_type` is `NULL`. -/
theorem vfsSbDealloc_unlinked {p : SbPtr} {sb : Superblock} (hp : s.sbAt p = some sb)
    (hft : sb.sbFsType = none) : s.vfsSbDealloc o p = none := by
  simp [vfsSbDealloc, hp, hft]

/-- A release that fails keeps the superblock registered. -/
theorem vfsSbDealloc_io {p : SbPtr} {s' : VfsState} (h : s.vfsSbDealloc o p = some (-1, s')) :
    s'.sbs = s.sbs ∧ s'.errno = .io := by
  unfold vfsSbDealloc at h
  split at h
  · cases h
  · split at h
    · cases h
    · split at h
      · cases h
      · split at h
        · split at h
          · cases h
          · obtain ⟨-, rfl⟩ := Prod.mk.inj (Option.some.inj h)
            exact ⟨rfl, rfl⟩
        · cases h

/-- The registry operations touch neither the dentry table, the vnode cache nor the root. -/
theorem vfsSbAlloc_dentries (devid : Nat) :
    (s.vfsSbAlloc o devid).2.dentries = s.dentries ∧ (s.vfsSbAlloc o devid).2.vnodes = s.vnodes ∧
      (s.vfsSbAlloc o devid).2.rootDentry = s.rootDentry ∧ (s.vfsSbAlloc o devid).2.fsTypes = s.fsTypes := by
  unfold vfsSbAlloc kalloc
  split
  · rename_i h; obtain ⟨-, rfl⟩ := Prod.mk.inj h; exact ⟨rfl, rfl, rfl, rfl⟩
  · rename_i h; obtain ⟨-, rfl⟩ := Prod.mk.inj h
    split <;> exact ⟨rfl, rfl, rfl, rfl⟩

theorem vfsSbDealloc_dentries {p : SbPtr} {r : Int} {s' : VfsState}
    (h : s.vfsSbDealloc o p = some (r, s')) :
    s'.dentries = s.dentries ∧ s'.vnodes = s.vnodes ∧ s'.rootDentry = s.rootDentry ∧ s'.fsTypes = s.fsTypes := by
  unfold vfsSbDealloc at h
  split at h
  · cases h
  · split at h
    · cases h
    · split at h
      · cases h
      · split at h
        · split at h <;> obtain ⟨-, rfl⟩ := Prod.mk.inj (Option.some.inj h) <;> exact ⟨rfl, rfl, rfl, rfl⟩
        · obtain ⟨-, rfl⟩ := Prod.mk.inj (Option.some.inj h); exact ⟨rfl, rfl, rfl, rfl⟩

/-! ## The registry over runs

`vfs_sb_dealloc` removes a superblock by its device id, and `vfs_mount` allocates one only after
`vfs_sb_lookup(devid)` missed. So device ids stay unique, and the superblock a rollback removes
is the one it allocated, which no older superblock shares an address with.
-/

variable {t u : VfsState} {q p : Nat}

theorem sbAt_ne_none_iff : s.sbAt q ≠ none ↔ q ∈ s.sbs.map (·.addr) := by
  simp [sbAt, List.find?_eq_none]

theorem sbAt_of_sbs (he : t.sbs = s.sbs) : t.sbAt q = s.sbAt q := by
  simp only [sbAt, he]

/-- `vfs_sbs` as a registry: no two superblocks of one device, and every address was handed out
by an earlier call, so `kalloc` never hands it out again. -/
structure SbReg (s : VfsState) : Prop where
  devids : (s.sbs.map (·.sbDevid)).Nodup
  addrs : ∀ q : Nat, s.sbAt q ≠ none → q ≤ s.calls

/-- `t` keeps the registry of `s`: `SbReg` carries over, and every superblock of `s` is still
registered. -/
def SbKeeps (s t : VfsState) : Prop :=
  s.SbReg → t.SbReg ∧ ∀ q, s.sbAt q ≠ none → t.sbAt q ≠ none

theorem SbKeeps.refl : s.SbKeeps s := fun h => ⟨h, fun _ => id⟩

theorem SbKeeps.trans (h₁ : s.SbKeeps t) (h₂ : t.SbKeeps u) : s.SbKeeps u := fun h =>
  ⟨(h₂ (h₁ h).1).1, fun q hq => (h₂ (h₁ h).1).2 q ((h₁ h).2 q hq)⟩

theorem sbKeeps_of_sbs (he : t.sbs = s.sbs) (hc : s.calls ≤ t.calls) : s.SbKeeps t := fun h =>
  ⟨⟨he ▸ h.devids, fun q hq => (h.addrs q (sbAt_of_sbs he ▸ hq)).trans hc⟩,
    fun _ hq => sbAt_of_sbs he ▸ hq⟩

theorem sbKeeps_tick : s.SbKeeps s.tick := sbKeeps_of_sbs rfl (Nat.le_succ _)

theorem updSb_map {β : Type} {f : Superblock → Superblock} (k : Superblock → β)
    (hf : ∀ sb, k (f sb) = k sb) : (s.updSb p f).sbs.map k = s.sbs.map k := by
  simp only [updSb_sbs, List.map_map]
  exact List.map_congr_left fun sb _ => by by_cases h : sb.addr = p <;> simp [h, hf]

/-- Rewriting a superblock in place, keeping its address and its device, keeps the registry. -/
theorem sbKeeps_updSb {f : Superblock → Superblock}
    (hf : ∀ sb, (f sb).addr = sb.addr ∧ (f sb).sbDevid = sb.sbDevid) : s.SbKeeps (s.updSb p f) := by
  have hl : ∀ q, (s.updSb p f).sbAt q ≠ none ↔ s.sbAt q ≠ none := fun q => by
    rw [sbAt_ne_none_iff, sbAt_ne_none_iff, updSb_map _ fun sb => (hf sb).1]
  refine fun h => ⟨⟨?_, fun q hq => h.addrs q ((hl q).1 hq)⟩, fun q => (hl q).2⟩
  rw [updSb_map _ fun sb => (hf sb).2]
  exact h.devids

theorem updSb_sbAt_ne_none {f : Superblock → Superblock} (hf : ∀ sb, (f sb).addr = sb.addr)
    (h : s.sbAt q ≠ none) : (s.updSb p f).sbAt q ≠ none := by
  rwa [sbAt_ne_none_iff, updSb_map _ hf, ← sbAt_ne_none_iff]

/-- **What `vfs_sb_alloc` can do**: fail, leaving the registry, or append a superblock of the
device at the address `kalloc` handed out, one past the calls made so far. -/
theorem vfsSbAlloc_cases {devid : Nat} {r : Option SbPtr} (h : s.vfsSbAlloc o devid = (r, t)) :
    (r = none ∧ t.sbs = s.sbs ∧ s.calls ≤ t.calls) ∨
      (r = some (s.calls + 1) ∧ t.calls = s.calls + 2 ∧
        t.sbs = s.sbs ++ [Superblock.mk (s.calls + 1) devid .unused 0 none none]) := by
  unfold vfsSbAlloc kalloc at h
  cases hk : o.kalloc s.calls <;> simp only [hk, Bool.false_eq_true, if_false, if_true] at h
  · obtain ⟨rfl, rfl⟩ := Prod.mk.inj h; exact .inl ⟨rfl, rfl, Nat.le_succ _⟩
  · split at h <;> obtain ⟨rfl, rfl⟩ := Prod.mk.inj h
    · exact .inr ⟨rfl, rfl, rfl⟩
    · exact .inl ⟨rfl, rfl, by simp only [tick_calls]; omega⟩

/-- **An allocation after `vfs_sb_lookup(devid)` missed keeps the registry**, and a superblock it
returns is registered. -/
theorem sbKeeps_alloc {devid : Nat} {r : Option SbPtr} (hl : s.vfsSbLookup devid = none)
    (h : s.vfsSbAlloc o devid = (r, t)) : s.SbKeeps t ∧ ∀ p, r = some p → t.sbAt p ≠ none := by
  rcases vfsSbAlloc_cases h with ⟨rfl, he, hc⟩ | ⟨rfl, hc, he⟩
  · exact ⟨sbKeeps_of_sbs he hc, fun _ h => nomatch h⟩
  have hmem : ∀ q, t.sbAt q ≠ none ↔ s.sbAt q ≠ none ∨ q = s.calls + 1 := fun q => by
    rw [sbAt_ne_none_iff, sbAt_ne_none_iff, he, List.map_append, List.mem_append]
    simp
  refine ⟨fun hs => ⟨⟨?_, fun q hq => ?_⟩, fun q hq => (hmem q).2 (.inl hq)⟩,
    fun p hp => (hmem p).2 (.inr (Option.some.inj hp).symm)⟩
  · have hfresh : devid ∉ s.sbs.map (·.sbDevid) := by
      simpa [vfsSbLookup, List.find?_eq_none] using hl
    simpa [he, List.nodup_append, hfresh] using hs.devids
  · rcases (hmem q).1 hq with hq | rfl
    · have := hs.addrs q hq; omega
    · omega

/-- `vfs_sb_dealloc(p)` removes the first superblock of the device of the one at `p` and returns
`0`, or, when `ft_kill_sb` refuses, removes nothing and returns `-1`. -/
theorem vfsSbDealloc_sbs {r : Int} (h : s.vfsSbDealloc o p = some (r, t)) :
    s.calls ≤ t.calls ∧ ∃ sb, s.sbAt p = some sb ∧
      ((r = -1 ∧ t.sbs = s.sbs) ∨ (r = 0 ∧ t.sbs = s.sbs.eraseP (·.sbDevid = sb.sbDevid))) := by
  unfold vfsSbDealloc at h
  split at h
  · cases h
  rename_i sb hsb
  split at h
  · cases h
  split at h
  · cases h
  split at h
  · split at h <;> obtain ⟨rfl, rfl⟩ := Prod.mk.inj (Option.some.inj h)
    · exact ⟨Nat.le_succ _, sb, hsb, .inr ⟨rfl, rfl⟩⟩
    · exact ⟨Nat.le_succ _, sb, hsb, .inl ⟨rfl, rfl⟩⟩
  · obtain ⟨rfl, rfl⟩ := Prod.mk.inj (Option.some.inj h)
    exact ⟨le_rfl, sb, hsb, .inr ⟨rfl, rfl⟩⟩

/-- **With unique device ids, a `vfs_sb_dealloc(p)` that returns `0` removes exactly the
superblock at `p`**; one that returns `-1` removes nothing. -/
theorem SbReg.dealloc_removes {r : Int} (hs : s.SbReg) (h : s.vfsSbDealloc o p = some (r, t)) :
    ∃ sb, s.sbAt p = some sb ∧
      ((r = -1 ∧ t.sbs = s.sbs) ∨ (r = 0 ∧ ∀ x, x ∈ t.sbs ↔ x ∈ s.sbs ∧ x ≠ sb)) := by
  obtain ⟨-, sb, hsb, he | ⟨hr, he⟩⟩ := vfsSbDealloc_sbs h
  · exact ⟨sb, hsb, .inl he⟩
  refine ⟨sb, hsb, .inr ⟨hr, fun x => ?_⟩⟩
  have hm := List.mem_of_find?_eq_some hsb
  rw [he, mem_eraseP_of_key hs.devids hm fun y => by simp]
  exact and_congr_right fun hx =>
    ⟨fun hd he' => hd (congrArg _ he'), fun hne hd => hne (List.inj_on_of_nodup_map hs.devids hx hm hd)⟩

/-- **Releasing the superblock at `p` keeps the registry and every other superblock**: device ids
are unique, so the one `vfs_sb_dealloc` erases by device is the one at `p`. -/
theorem SbReg.dealloc {r : Int} (hs : s.SbReg) (h : s.vfsSbDealloc o p = some (r, t)) :
    t.SbReg ∧ ∀ q ≠ p, s.sbAt q ≠ none → t.sbAt q ≠ none := by
  obtain ⟨hc, sb, hsb, ⟨-, he⟩ | ⟨-, he⟩⟩ := vfsSbDealloc_sbs h
  · exact ⟨(sbKeeps_of_sbs he hc hs).1, fun q _ => (sbKeeps_of_sbs he hc hs).2 q⟩
  have hsub : (t.sbs.map (·.addr)).Sublist (s.sbs.map (·.addr)) := he ▸ (List.eraseP_sublist _).map _
  refine ⟨⟨he ▸ ((List.eraseP_sublist _).map _).nodup hs.devids, fun q hq => ?_⟩, fun q hqp hq => ?_⟩
  · rw [sbAt_ne_none_iff] at hq
    exact (hs.addrs q (sbAt_ne_none_iff.2 (hsub.subset hq))).trans hc
  · obtain ⟨x, hx, rfl⟩ := List.mem_map.1 (sbAt_ne_none_iff.1 hq)
    have hpa : sb.addr = p := by simpa using List.find?_some hsb
    have hne : x.sbDevid ≠ sb.sbDevid := fun hd =>
      hqp (hpa ▸ congrArg (·.addr) (List.inj_on_of_nodup_map hs.devids hx (List.mem_of_find?_eq_some hsb) hd))
    rw [sbAt_ne_none_iff, he]
    exact List.mem_map_of_mem _ ((List.mem_eraseP_of_neg (by simpa using hne)).2 hx)

/-- **A superblock allocated and then released leaves the registry as it found it**: every
superblock registered before is older than the new one, so the release keeps it. -/
theorem sbKeeps_alloc_dealloc {devid : Nat} {r : Int} {u' : VfsState} (hl : s.vfsSbLookup devid = none)
    (ha : s.vfsSbAlloc o devid = (some p, u)) (hu : u.SbKeeps u') (hd : u'.vfsSbDealloc o p = some (r, t)) :
    s.SbKeeps t := fun hs => by
  obtain ⟨rfl, -⟩ : p = s.calls + 1 ∧ True := by
    rcases vfsSbAlloc_cases ha with ⟨h, -⟩ | ⟨h, -⟩ <;> cases h; exact ⟨rfl, trivial⟩
  obtain ⟨hreg, hkeep⟩ := (sbKeeps_alloc hl ha).1.trans hu hs
  obtain ⟨ht, hq⟩ := hreg.dealloc hd
  exact ⟨ht, fun q h => hq q (by have := hs.addrs q h; omega) (hkeep q h)⟩

end VfsState

end Buhos.Vfs
