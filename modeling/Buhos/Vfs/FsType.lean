import Buhos.Vfs.State

/-!
# The filesystem-type registry

`vfs_fs_type_lookup`, `vfs_fs_type_alloc`, `vfs_fs_type_dealloc` and `vfs_fs_type_register`
over the list `vfs_fs_types`, searched with `vfs_fs_types_cmp` (a `strcmp` of the entry's
name against the key).

Both removals pass `&(ft->ro.ft_name)`, the address of the name pointer, where the
comparison expects the name: `strcmp` then reads the bytes of that pointer as the key. When
`kalloc` failed for the name the pointer is `NULL` and the key is `""`; after a failed
`config` it is whatever the bytes of the name's address spell (`Oracle.memText`).

* `vfsFsTypeRegister_exist`: a taken name is refused with nothing changed.
* `vfsFsTypeRegister_ok`: a registration that succeeds adds one entry, with the name.
* `vfsFsTypeRegister_io_keeps`: when `config` fails and no registered name equals the bytes
  of the name pointer, the half-built type stays in the list.
-/

namespace Buhos.Vfs

/-- `list_find(&vfs_fs_types, vfs_fs_types_cmp, key)`: the first type named `key`. Reaching a
type whose name is `NULL` has no result (`strcmp` on `NULL`). -/
def fsTypesFind (key : String) : List FsType → Option (Option FsType)
  | [] => some none
  | ft :: fts =>
    match ft.ftName with
    | none => none
    | some n => if n = key then some (some ft) else fsTypesFind key fts

/-- `list_find_del(&vfs_fs_types, vfs_fs_types_cmp, key)`: the list without the first type
named `key`. -/
def fsTypesFindDel (key : String) : List FsType → Option (List FsType)
  | [] => some []
  | ft :: fts =>
    match ft.ftName with
    | none => none
    | some n => if n = key then some fts else (fsTypesFindDel key fts).map (ft :: ·)

namespace VfsState

variable (o : Oracle) (s : VfsState)

/-- `vfs_fs_type_lookup(name)`. -/
def vfsFsTypeLookup (name : String) : Option (Option FsType) := fsTypesFind name s.fsTypes

/-- `vfs_fs_type_alloc(name)`: the new type's address, or `NULL`. -/
def vfsFsTypeAlloc (name : String) : Option (Option Nat × VfsState) :=
  match s.kalloc o with
  | (none, s) => some (none, s)
  | (some a, s) =>
    if o.listAdd s.calls = false then some (none, s.tick.setErrno .nomem) else
    let s := { s.tick with fsTypes := s.fsTypes ++ [FsType.mk a none false false] }
    match s.kalloc o with
    | (none, s) => (fsTypesFindDel "" s.fsTypes).map fun l => (none, { s with fsTypes := l }.setErrno .nomem)
    | (some _, s) => some (some a, s.updFsType a fun ft => { ft with ftName := some name })

/-- `vfs_fs_type_dealloc(ft)`, keyed by the bytes of `ft->ro.ft_name`. -/
def vfsFsTypeDealloc : Option VfsState :=
  (fsTypesFindDel (o.memText s.calls) s.fsTypes).map fun l => { s.tick with fsTypes := l }

/-- `vfs_fs_type_register(name, config)`. -/
def vfsFsTypeRegister (name : String) : Option (Int × VfsState) :=
  match s.vfsFsTypeLookup name with
  | none => none
  | some (some _) => some (-1, s.setErrno .exist)
  | some none =>
    match s.vfsFsTypeAlloc o name with
    | none => none
    | some (none, s) => some (-1, s)
    | some (some a, s) =>
      match o.config s.calls with
      | none => (s.tick.vfsFsTypeDealloc o).map fun s => (-1, s.setErrno .io)
      | some (g, k) => some (0, s.tick.updFsType a fun ft => { ft with ftGetSb := g, ftKillSb := k })

end VfsState

/-! ## The searches -/

theorem fsTypesFind_none {key : String} :
    ∀ {l : List FsType}, fsTypesFind key l = some none → ∀ ft ∈ l, ∃ n, ft.ftName = some n ∧ n ≠ key
  | [], _ => by simp
  | ft :: fts, h => by
    unfold fsTypesFind at h
    split at h
    · cases h
    · rename_i n hn
      split at h
      · cases h
      · exact List.forall_mem_cons.2 ⟨⟨n, hn, ‹_›⟩, fsTypesFind_none h⟩

/-- A search for a key no entry has removes nothing. -/
theorem fsTypesFindDel_of_ne {key : String} :
    ∀ {l : List FsType}, (∀ ft ∈ l, ∃ n, ft.ftName = some n ∧ n ≠ key) → fsTypesFindDel key l = some l
  | [], _ => rfl
  | ft :: fts, h => by
    obtain ⟨n, hn, hne⟩ := h ft (List.mem_cons_self _ _)
    simp [fsTypesFindDel, hn, hne, fsTypesFindDel_of_ne fun f hf => h f (List.mem_cons_of_mem _ hf)]

/-- A removal takes out at most one entry. -/
theorem fsTypesFindDel_sublist {key : String} :
    ∀ {l l' : List FsType}, fsTypesFindDel key l = some l' → l'.Sublist l
  | [], _, h => by cases h; exact .slnil
  | ft :: fts, _, h => by
    unfold fsTypesFindDel at h
    split at h
    · cases h
    · split at h
      · cases h; exact (List.Sublist.refl _).cons _
      · obtain ⟨l₁, h₁, rfl⟩ := Option.map_eq_some'.1 h
        exact (fsTypesFindDel_sublist h₁).cons₂ _

/-! ## Names stay unique -/

/-- No two entries of `l` share a name, and every address was handed out by the `c`-th answer. -/
structure NamesFresh (l : List FsType) (c : Nat) : Prop where
  names : (l.filterMap (·.ftName)).Nodup
  fresh : ∀ ft ∈ l, ft.addr ≤ c

section NamesFresh

variable {l l' : List FsType} {c c' : Nat}

theorem NamesFresh.sublist (h : NamesFresh l c) (hl : l'.Sublist l) (hc : c ≤ c') : NamesFresh l' c' :=
  ⟨h.names.sublist (hl.filterMap _), fun ft hft => (h.fresh ft (hl.subset hft)).trans hc⟩

/-- An entry whose name no entry has can be appended. -/
theorem NamesFresh.append (h : NamesFresh l c) {ft : FsType}
    (hn : ∀ n, ft.ftName = some n → ∀ f ∈ l, f.ftName ≠ some n) (hc : c ≤ c') (ha : ft.addr ≤ c') :
    NamesFresh (l ++ [ft]) c' := by
  refine ⟨?_, fun f hf => ?_⟩
  · rw [List.filterMap_append, List.nodup_append]
    refine ⟨h.names, ?_, fun x hx hy => ?_⟩
    · cases hft : ft.ftName <;> simp [hft]
    · obtain ⟨f, hf, hfx⟩ := List.mem_filterMap.1 hx
      obtain ⟨g, hg, hgx⟩ := List.mem_filterMap.1 hy
      obtain rfl := List.mem_singleton.1 hg
      exact hn x hgx f hf hfx
  · rcases List.mem_append.1 hf with hf | hf
    · exact (h.fresh f hf).trans hc
    · rw [List.mem_singleton.1 hf]; exact ha

/-- Rewriting entries without touching names or addresses. -/
theorem NamesFresh.map (h : NamesFresh l c) {f : FsType → FsType}
    (hf : ∀ ft, (f ft).ftName = ft.ftName ∧ (f ft).addr = ft.addr) (hc : c ≤ c') : NamesFresh (l.map f) c' := by
  refine ⟨?_, fun ft hft => ?_⟩
  · rw [List.filterMap_map]
    exact (List.filterMap_congr fun ft _ => (hf ft).1).symm ▸ h.names
  · obtain ⟨g, hg, rfl⟩ := List.mem_map.1 hft
    rw [(hf g).2]; exact (h.fresh g hg).trans hc

end NamesFresh

namespace VfsState

variable {o : Oracle} {s : VfsState}

/-- `s'` differs from `s` at most in the type registry, `errno` and the answers read. -/
structure TypesOnly (s s' : VfsState) : Prop where
  sbs : s'.sbs = s.sbs
  dentries : s'.dentries = s.dentries
  vnodes : s'.vnodes = s.vnodes
  rootDentry : s'.rootDentry = s.rootDentry

theorem TypesOnly.trans {s₁ s₂ s₃ : VfsState} (h₁ : s₁.TypesOnly s₂) (h₂ : s₂.TypesOnly s₃) :
    s₁.TypesOnly s₃ :=
  ⟨h₂.sbs.trans h₁.sbs, h₂.dentries.trans h₁.dentries, h₂.vnodes.trans h₁.vnodes,
    h₂.rootDentry.trans h₁.rootDentry⟩

theorem vfsFsTypeAlloc_typesOnly {name : String} {r : Option Nat} {s' : VfsState}
    (h : s.vfsFsTypeAlloc o name = some (r, s')) : s.TypesOnly s' := by
  unfold vfsFsTypeAlloc kalloc at h
  split at h <;> rename_i he <;> obtain ⟨-, rfl⟩ := Prod.mk.inj he
  · obtain ⟨-, rfl⟩ := Prod.mk.inj (Option.some.inj h); exact ⟨rfl, rfl, rfl, rfl⟩
  split at h
  · obtain ⟨-, rfl⟩ := Prod.mk.inj (Option.some.inj h); exact ⟨rfl, rfl, rfl, rfl⟩
  dsimp only at h
  split at h <;> rename_i he <;> obtain ⟨-, rfl⟩ := Prod.mk.inj he
  · obtain ⟨_, -, he⟩ := Option.map_eq_some'.1 h
    obtain ⟨-, rfl⟩ := Prod.mk.inj he; exact ⟨rfl, rfl, rfl, rfl⟩
  · obtain ⟨-, rfl⟩ := Prod.mk.inj (Option.some.inj h); exact ⟨rfl, rfl, rfl, rfl⟩

/-- Registration touches only the type registry. -/
theorem vfsFsTypeRegister_typesOnly {name : String} {r : Int} {s' : VfsState}
    (h : s.vfsFsTypeRegister o name = some (r, s')) : s.TypesOnly s' := by
  unfold vfsFsTypeRegister at h
  split at h
  · cases h
  · obtain ⟨-, rfl⟩ := Prod.mk.inj (Option.some.inj h); exact ⟨rfl, rfl, rfl, rfl⟩
  split at h
  · cases h
  · rename_i ha; obtain ⟨-, rfl⟩ := Prod.mk.inj (Option.some.inj h)
    exact vfsFsTypeAlloc_typesOnly ha
  rename_i ha
  have hf := vfsFsTypeAlloc_typesOnly ha
  split at h
  · obtain ⟨_, hd, he⟩ := Option.map_eq_some'.1 h
    obtain ⟨-, rfl⟩ := Prod.mk.inj he
    obtain ⟨_, -, rfl⟩ := Option.map_eq_some'.1 hd
    exact hf.trans ⟨rfl, rfl, rfl, rfl⟩
  · obtain ⟨-, rfl⟩ := Prod.mk.inj (Option.some.inj h); exact hf.trans ⟨rfl, rfl, rfl, rfl⟩

theorem vfsFsTypeAlloc_calls {name : String} {r : Option Nat} {s' : VfsState}
    (h : s.vfsFsTypeAlloc o name = some (r, s')) : s.calls ≤ s'.calls := by
  unfold vfsFsTypeAlloc kalloc at h
  split at h <;> rename_i he <;> obtain ⟨-, rfl⟩ := Prod.mk.inj he
  · obtain ⟨-, rfl⟩ := Prod.mk.inj (Option.some.inj h); exact Nat.le_succ _
  split at h
  · obtain ⟨-, rfl⟩ := Prod.mk.inj (Option.some.inj h); simp only [setErrno_calls, tick_calls]; omega
  dsimp only at h
  split at h <;> rename_i he <;> obtain ⟨-, rfl⟩ := Prod.mk.inj he
  · obtain ⟨_, -, he⟩ := Option.map_eq_some'.1 h
    obtain ⟨-, rfl⟩ := Prod.mk.inj he; simp only [setErrno_calls, tick_calls]; omega
  · obtain ⟨-, rfl⟩ := Prod.mk.inj (Option.some.inj h); simp only [updFsType_calls, tick_calls]; omega

/-- Registration only reads more answers. -/
theorem vfsFsTypeRegister_calls {name : String} {r : Int} {s' : VfsState}
    (h : s.vfsFsTypeRegister o name = some (r, s')) : s.calls ≤ s'.calls := by
  unfold vfsFsTypeRegister at h
  split at h
  · cases h
  · obtain ⟨-, rfl⟩ := Prod.mk.inj (Option.some.inj h); exact le_rfl
  split at h
  · cases h
  · obtain ⟨-, rfl⟩ := Prod.mk.inj (Option.some.inj h); exact vfsFsTypeAlloc_calls ‹_›
  have hc := vfsFsTypeAlloc_calls ‹_›
  split at h
  · obtain ⟨_, hd, he⟩ := Option.map_eq_some'.1 h
    obtain ⟨-, rfl⟩ := Prod.mk.inj he
    obtain ⟨_, -, rfl⟩ := Option.map_eq_some'.1 hd
    simp only [setErrno_calls, tick_calls]; omega
  · obtain ⟨-, rfl⟩ := Prod.mk.inj (Option.some.inj h); simp only [updFsType_calls, tick_calls]; omega

/-- `E_EXIST` leaves the registry as it was. -/
theorem vfsFsTypeRegister_exist {name : String} {ft : FsType}
    (h : s.vfsFsTypeLookup name = some (some ft)) :
    s.vfsFsTypeRegister o name = some (-1, s.setErrno .exist) := by
  simp [vfsFsTypeRegister, h]

/-- Rewriting the entry at `a` touches only the appended entry when `a` is fresh. -/
theorem map_upd_append_fresh {l : List FsType} {x : FsType} {f : FsType → FsType}
    (hne : ∀ ft ∈ l, ft.addr ≠ x.addr) :
    (l ++ [x]).map (fun ft => if ft.addr = x.addr then f ft else ft) = l ++ [f x] := by
  rw [List.map_append, List.map_singleton, if_pos rfl,
    List.map_congr_left fun ft hft => if_neg (hne ft hft), List.map_id']

/-- What `vfs_fs_type_alloc` returns: the fresh address, with the named entry appended. -/
theorem vfsFsTypeAlloc_some {name : String} {a : Nat} {s' : VfsState}
    (hfresh : ∀ ft ∈ s.fsTypes, ft.addr ≤ s.calls) (h : s.vfsFsTypeAlloc o name = some (some a, s')) :
    a = s.calls + 1 ∧ s'.calls = s.calls + 3 ∧ s'.errno = s.errno ∧
      s'.fsTypes = s.fsTypes ++ [⟨s.calls + 1, some name, false, false⟩] := by
  have hupd := map_upd_append_fresh (x := FsType.mk (s.calls + 1) none false false)
    (f := fun ft => { ft with ftName := some name }) fun ft hft =>
      Nat.ne_of_lt (Nat.lt_succ_of_le (hfresh ft hft))
  cases hk₁ : o.kalloc s.calls <;> cases hl : o.listAdd (s.calls + 1) <;>
    cases hk₂ : o.kalloc (s.calls + 1 + 1) <;>
    simp [vfsFsTypeAlloc, kalloc, tick, hk₁, hl, hk₂] at h
  obtain ⟨rfl, rfl⟩ := h
  exact ⟨rfl, rfl, rfl, hupd⟩

/-- A registration that returns `0` adds one entry, carrying the name. -/
theorem vfsFsTypeRegister_ok {name : String} {s' : VfsState}
    (hfresh : ∀ ft ∈ s.fsTypes, ft.addr ≤ s.calls) (h : s.vfsFsTypeRegister o name = some (0, s')) :
    ∃ g k, s'.fsTypes = s.fsTypes ++ [⟨s.calls + 1, some name, g, k⟩] := by
  unfold vfsFsTypeRegister at h
  split at h
  · cases h
  · simp at h
  · split at h
    · cases h
    · simp at h
    · rename_i a s₁ halloc
      obtain ⟨rfl, -, -, hft⟩ := vfsFsTypeAlloc_some hfresh halloc
      split at h
      · simp at h
      · rename_i g k _
        obtain rfl := (Prod.mk.inj (Option.some.inj h)).2
        refine ⟨g, k, ?_⟩
        simp only [tick_fsTypes, updFsType_fsTypes, hft]
        exact map_upd_append_fresh (x := ⟨s.calls + 1, some name, false, false⟩) fun ft hft =>
          Nat.ne_of_lt (Nat.lt_succ_of_le (hfresh ft hft))

/-- **A failed `config` leaves the half-built type in the list**, whenever no registered name
is the text that the bytes of the new name pointer spell. -/
theorem vfsFsTypeRegister_io_keeps {name : String} (hfind : s.vfsFsTypeLookup name = some none)
    (hfresh : ∀ ft ∈ s.fsTypes, ft.addr ≤ s.calls)
    (hk₁ : o.kalloc s.calls = true) (hl : o.listAdd (s.calls + 1) = true)
    (hk₂ : o.kalloc (s.calls + 2) = true) (hc : o.config (s.calls + 3) = none)
    (hkey : ∀ ft ∈ s.fsTypes, ft.ftName ≠ some (o.memText (s.calls + 4)))
    (hname : name ≠ o.memText (s.calls + 4)) :
    ∃ s', s.vfsFsTypeRegister o name = some (-1, s') ∧ s'.errno = .io ∧
      s'.fsTypes = s.fsTypes ++ [⟨s.calls + 1, some name, false, false⟩] := by
  have hall : ∀ ft ∈ s.fsTypes ++ [⟨s.calls + 1, some name, false, false⟩],
      ∃ n, ft.ftName = some n ∧ n ≠ o.memText (s.calls + 4) := by
    intro ft hft
    rcases List.mem_append.1 hft with hft | hft
    · obtain ⟨n, hn, -⟩ := fsTypesFind_none hfind ft hft
      exact ⟨n, hn, fun he => hkey ft hft (he ▸ hn)⟩
    · rw [List.mem_singleton.1 hft]; exact ⟨name, rfl, hname⟩
  have hupd := map_upd_append_fresh (x := FsType.mk (s.calls + 1) none false false)
    (f := fun ft => { ft with ftName := some name }) fun ft hft =>
      Nat.ne_of_lt (Nat.lt_succ_of_le (hfresh ft hft))
  have hc' : o.config (s.calls + 1 + 1 + 1) = none := hc
  have hdel := fsTypesFindDel_of_ne hall
  simp [vfsFsTypeRegister, hfind, vfsFsTypeAlloc, kalloc, hk₁, hl, hk₂, updFsType, tick,
    vfsFsTypeDealloc, hupd, hc', hdel]

/-- What a `vfs_fs_type_alloc` that returns `NULL` leaves: at most the nameless entry it
appended, and at least one more answer read. -/
theorem vfsFsTypeAlloc_none {name : String} {s' : VfsState} (h : s.vfsFsTypeAlloc o name = some (none, s')) :
    s.calls + 1 ≤ s'.calls ∧ s'.fsTypes.Sublist (s.fsTypes ++ [⟨s.calls + 1, none, false, false⟩]) := by
  unfold vfsFsTypeAlloc kalloc at h
  split at h <;> rename_i he <;> obtain ⟨ha, rfl⟩ := Prod.mk.inj he
  · obtain ⟨-, rfl⟩ := Prod.mk.inj (Option.some.inj h)
    exact ⟨le_rfl, List.sublist_append_left _ _⟩
  obtain rfl : s.calls + 1 = _ := by split at ha; exacts [Option.some.inj ha, nomatch ha]
  split at h
  · obtain ⟨-, rfl⟩ := Prod.mk.inj (Option.some.inj h)
    exact ⟨Nat.le_succ _, List.sublist_append_left _ _⟩
  dsimp only at h
  split at h <;> rename_i he <;> obtain ⟨-, rfl⟩ := Prod.mk.inj he
  · obtain ⟨l, hd, he⟩ := Option.map_eq_some'.1 h
    obtain ⟨-, rfl⟩ := Prod.mk.inj he
    exact ⟨by simp only [setErrno_calls, tick_calls]; omega, fsTypesFindDel_sublist hd⟩
  · obtain ⟨h₁, -⟩ := Prod.mk.inj (Option.some.inj h)
    cases h₁

/-- **Registration never gives two types one name**: it adds an entry only after
`vfs_fs_type_lookup(name)` found none, and its failure paths only take entries out. -/
theorem vfsFsTypeRegister_namesFresh {name : String} {r : Int} {s' : VfsState}
    (h : NamesFresh s.fsTypes s.calls) (hr : s.vfsFsTypeRegister o name = some (r, s')) :
    NamesFresh s'.fsTypes s'.calls := by
  unfold vfsFsTypeRegister at hr
  split at hr
  · cases hr
  · obtain ⟨-, rfl⟩ := Prod.mk.inj (Option.some.inj hr); exact h
  rename_i hfind
  split at hr
  · cases hr
  · obtain ⟨-, rfl⟩ := Prod.mk.inj (Option.some.inj hr)
    obtain ⟨hc, hl⟩ := vfsFsTypeAlloc_none ‹_›
    exact (h.append (fun _ hn => by cases hn) (Nat.le_succ _) le_rfl).sublist hl hc
  rename_i a s₁ halloc
  obtain ⟨rfl, hc, -, hft⟩ := vfsFsTypeAlloc_some h.fresh halloc
  have h₁ : NamesFresh s₁.fsTypes s₁.calls := by
    rw [hft]
    refine h.append (fun n hn f hf hfn => ?_) (by omega) (by show s.calls + 1 ≤ s₁.calls; omega)
    obtain ⟨m, hm, hne⟩ := fsTypesFind_none hfind f hf
    cases hn
    exact hne (Option.some.inj (hm.symm.trans hfn))
  split at hr
  · obtain ⟨_, hd, he⟩ := Option.map_eq_some'.1 hr
    obtain ⟨-, rfl⟩ := Prod.mk.inj he
    obtain ⟨l, hdel, rfl⟩ := Option.map_eq_some'.1 hd
    exact h₁.sublist (fsTypesFindDel_sublist hdel) (Nat.le_succ_of_le (Nat.le_succ _))
  · obtain ⟨-, rfl⟩ := Prod.mk.inj (Option.some.inj hr)
    exact h₁.map (fun ft => by split <;> exact ⟨rfl, rfl⟩) (Nat.le_succ _)

end VfsState

/-- The allocator and `list_add` succeed, and the type's `config` returns `-1`. -/
def configFails : Oracle := { Oracle.happy fun _ _ _ => 0 with config := fun _ => none }

/-- `vfs_fs_type_register("rootfs", config)` on a fresh kernel, `config` failing: the call
reports `E_IO`, yet `"rootfs"` stays registered, with no ops. -/
theorem rootfs_config_failure_kept :
    ∃ s', vfsInit.vfsFsTypeRegister configFails "rootfs" = some (-1, s') ∧ s'.errno = .io ∧
      s'.fsTypes = [⟨1, some "rootfs", false, false⟩] :=
  VfsState.vfsFsTypeRegister_io_keeps rfl (fun _ h => nomatch h) rfl rfl rfl rfl (fun _ h => nomatch h)
    (by decide)

end Buhos.Vfs
