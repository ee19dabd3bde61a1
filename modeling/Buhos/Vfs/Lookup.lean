import Buhos.Vfs.Dentry
import Buhos.Vfs.Vnode

/-!
# Path lookup

`vfs_lookup_in_dentry(dir, name)` and `vfs_lookup(path)`.

`vfs_lookup_in_dentry` asks `vfs_dentry_get` for the slot keyed `(dir, name)`. A slot with a
vnode number is returned as it is (the cache hit path). A slot without one is resolved by the
driver: the directory's vnode is loaded (for a mount point, the mounted superblock's root
vnode), checked to be a directory, asked to `lookup` the name, and released.

`vfs_lookup` walks the tokens `strtok` finds from `vfs_root_dentry`, and then returns `NULL`
whatever the walk gave. The buffer it tokenizes is allocated but never filled from `path`.

* `vfsLookupInDentry_of_hit`: a hit with a vnode number is returned, its count raised.
* `vfsLookupResolve_cases`: the driver half writes only the new slot: it empties it or stores
  the vnode number the driver gave.
* `vfsLookupInDentry_happy`: a lookup that misses, every driver call succeeding.
* `vfsLookupResolve_keeps_loaded`, `vfsLookupResolve_drops_idle`: a failed `destroy_vnode`
  leaves a vnode cached with count `0`, and a later resolve removes it.
* `vfsLookupResolve_null`: a directory without a superblock is resolved through `NULL`.
-/

namespace Buhos.Vfs

namespace VfsState

variable (o : Oracle) (s : VfsState)

/-- The vnode `vfs_lookup_in_dentry` searches for directory `d`: `(d_sb, d_vno)`, or for a
mount point `(d_mnt_sb, d_mnt_sb->sb_root_vno)`, with no result when `d_mnt_sb` is not a live
superblock. -/
def dirVnode (d : Slot) : Option (Option SbPtr × Int) :=
  match (s.dentries d).dMntSb with
  | none => some ((s.dentries d).dSb, (s.dentries d).dVno)
  | some p => (s.sbAt p).map fun sb => (some p, sb.sbRootVno)

/-- The driver half of `vfs_lookup_in_dentry`: resolve the new slot `obj` in directory `d`. -/
def vfsLookupResolve (d obj : Slot) (name : String) : Option (Option Slot × VfsState) :=
  match s.dirVnode d with
  | none => none
  | some (sb, vno) =>
    match s.vfsVnodeGetOrRead o sb vno with
    | none => none
    | some (none, s) => some (none, (s.vfsDentryReset obj).setErrno .corrupt)
    | some (some n, s) =>
      match s.vnodes.find? (·.addr = n) with
      | none => none
      | some v =>
        if v.vDir = false then
          ((s.vfsDentryReset obj).vfsVnodeRelease o n).map fun r => (none, r.2.setErrno .nodir)
        else
          match o.lookup s.calls v.vSb v.vNo name with
          | .error e =>
            ((s.tick.vfsDentryReset obj).vfsVnodeRelease o n).map fun r => (none, r.2.setErrno e)
          | .ok vno =>
            ((s.tick.setDentry obj { s.dentries obj with dVno := vno }).vfsVnodeRelease o n).map
              fun r => (some obj, r.2)

/-- `vfs_lookup_in_dentry(dir, name)`. -/
def vfsLookupInDentry (dir : Option Slot) (name : String) : Option (Option Slot × VfsState) :=
  match s.vfsDentryGet o dir name with
  | (none, s) => some (none, s.setErrno .limit)
  | (some obj, s) =>
    if (s.dentries obj).dVno ≠ 0 then some (some obj, s)
    else
      match dir with
      | none => none
      | some d => s.vfsLookupResolve o d obj name

/-- The loop of `vfs_lookup`: each token looked up in the dentry the previous one gave. -/
def vfsLookupWalk : List String → Option Slot → VfsState → Option (Option Slot × VfsState)
  | [], obj, s => some (obj, s)
  | c :: cs, obj, s =>
    match s.vfsLookupInDentry o obj c with
    | none => none
    | some (none, s) => some (none, s)
    | some (some d, s) => vfsLookupWalk cs (some d) s

set_option linter.unusedVariables false in
/-- `vfs_lookup(path)`. The buffer `tmp_path` is never filled from `path`, so the walk is over
the tokens of uninitialised memory, and the result is `NULL` whatever the walk gave. -/
def vfsLookup (path : String) : Option (Option Slot × VfsState) :=
  match s.kalloc o with
  | (none, s) => some (none, s.setErrno .nomem)
  | (some _, s) => (vfsLookupWalk o (o.tokens s.calls) s.rootDentry s.tick).map fun r => (none, r.2)

/-! ## What a lookup does to the tables -/

variable {o s}

/-- **The driver half of a lookup writes only `obj`**: it empties it, or it stores the vnode
number the driver gave and returns it. -/
theorem vfsLookupResolve_cases {d obj : Slot} {n : String} {r : Option Slot} {s' : VfsState}
    (h : s.vfsLookupResolve o d obj n = some (r, s')) :
    s.Registries s' ∧
      ((r = none ∧ s'.dentries = Function.update s.dentries obj Dentry.empty) ∨
        (r = some obj ∧
          ∃ vno, s'.dentries = Function.update s.dentries obj { s.dentries obj with dVno := vno })) := by
  unfold vfsLookupResolve at h
  split at h
  · cases h
  split at h
  · cases h
  · rename_i s₁ hg
    have hf := vfsVnodeGetOrRead_vnodesOnly hg
    obtain ⟨rfl, rfl⟩ := Option.some.inj h
    exact ⟨⟨hf.fsTypes, hf.sbs, hf.rootDentry⟩, .inl ⟨rfl, by simp [vfsDentryReset, hf.dentries]⟩⟩
  rename_i s₁ hg
  have hf := vfsVnodeGetOrRead_vnodesOnly hg
  split at h
  · cases h
  split at h
  on_goal 2 => split at h
  -- the three paths that end by releasing the vnode
  all_goals
    obtain ⟨⟨_, s₂⟩, hrel, he⟩ := Option.map_eq_some'.1 h
    obtain ⟨rfl, rfl⟩ := Prod.mk.inj he
    have hr := vfsVnodeRelease_vnodesOnly hrel
    refine ⟨hf.registries.trans ⟨hr.fsTypes, hr.sbs, hr.rootDentry⟩, ?_⟩
  · exact .inl ⟨rfl, by simp [hr.dentries, vfsDentryReset, hf.dentries]⟩
  · exact .inl ⟨rfl, by simp [hr.dentries, vfsDentryReset, hf.dentries]⟩
  · exact .inr ⟨rfl, _, by simp [hr.dentries, hf.dentries]; rfl⟩

/-- **Every vnode the driver half loads, it releases**: the load fails and the exit keeps the cache
the load left, or the load gives a vnode and the exit releases it from a state with that cache. -/
theorem vfsLookupResolve_releases {d obj : Slot} {n : String} {r : Option Slot} {s' : VfsState}
    (h : s.vfsLookupResolve o d obj n = some (r, s')) :
    ∃ sb vno r₁ s₁, s.vfsVnodeGetOrRead o sb vno = some (r₁, s₁) ∧
      ((r₁ = none ∧ s'.vnodes = s₁.vnodes) ∨
        ∃ (a : Nat) (s₂ : VfsState) (r₂ : Int) (s₃ : VfsState), r₁ = some a ∧
          s₂.vfsVnodeRelease o a = some (r₂, s₃) ∧ s₂.vnodes = s₁.vnodes ∧ s'.vnodes = s₃.vnodes) := by
  unfold vfsLookupResolve at h
  split at h
  · cases h
  split at h
  · cases h
  · rename_i s₁ hg
    obtain ⟨-, rfl⟩ := Prod.mk.inj (Option.some.inj h)
    exact ⟨_, _, _, _, hg, .inl ⟨rfl, rfl⟩⟩
  rename_i a s₁ hg
  split at h
  · cases h
  split at h
  on_goal 2 => split at h
  all_goals
    obtain ⟨⟨_, s₃⟩, hrel, he⟩ := Option.map_eq_some'.1 h
    obtain ⟨-, rfl⟩ := Prod.mk.inj he
    exact ⟨_, _, _, _, hg, .inr ⟨a, _, _, _, rfl, hrel, rfl, rfl⟩⟩

theorem vfsLookupInDentry_of_hit {p : Option Slot} {n : String} {i : Slot}
    (h : s.dentryScan p n = .hit i) (hv : (s.dentries i).dVno ≠ 0) :
    s.vfsLookupInDentry o p n =
      some (some i, s.setDentry i { s.dentries i with dCount := intSucc (s.dentries i).dCount }) := by
  rw [vfsLookupInDentry, vfsDentryGet_of_hit h]
  exact if_pos (by simpa using hv)

/-- A lookup that misses, `kalloc` giving the name: the candidate slot `c` is emptied, filled
with the new key, and resolved by the driver. -/
theorem vfsLookupInDentry_of_miss {d c : Slot} {n : String} (h : s.dentryScan (some d) n = .miss (some c))
    (hk : o.kalloc s.calls = true) :
    s.vfsLookupInDentry o (some d) n =
      ((s.vfsDentryReset c).tick.setDentry c
        ⟨some n, 0, some d, inheritSb (s.vfsDentryReset c).dentries (some d), none, 1⟩).vfsLookupResolve o d c n := by
  rw [vfsLookupInDentry, vfsDentryGet_of_miss h, if_pos hk]
  simp only [setDentry_dentries, Function.update_same, ne_eq, not_true_eq_false, if_false]

/-- **What a lookup in a dentry does**: `vfs_dentry_get`, then the driver half on a new slot
of a directory. -/
theorem vfsLookupInDentry_cases {p : Option Slot} {n : String} {r : Option Slot} {s' : VfsState}
    (h : s.vfsLookupInDentry o p n = some (r, s')) :
    ∃ s₁, (s.vfsDentryGet o p n).2 = s₁ ∧
      (Quiet s₁ s' ∨ ∃ d obj, s₁.vfsLookupResolve o d obj n = some (r, s')) := by
  rw [vfsLookupInDentry] at h
  rcases he : s.vfsDentryGet o p n with ⟨_ | obj, s₁⟩ <;> rw [he] at h <;> dsimp only at h
  · obtain ⟨-, rfl⟩ := Prod.mk.inj (Option.some.inj h); exact ⟨s₁, rfl, .inl (Quiet.setErrno _)⟩
  split at h
  · obtain ⟨-, rfl⟩ := Prod.mk.inj (Option.some.inj h); exact ⟨s₁, rfl, .inl .refl⟩
  split at h
  · cases h
  · exact ⟨s₁, rfl, .inr ⟨_, obj, h⟩⟩

section Invariant

variable (P : VfsState → Prop)

/-- What loading and releasing a vnode, a tick, an `errno` and the two writes of the new slot
(emptying it, storing its vnode number) keep, the driver half of a lookup keeps. -/
theorem vfsLookupResolve_inv
    (hget : ∀ {s sb vno r s'}, P s → s.vfsVnodeGetOrRead o sb vno = some (r, s') → P s')
    (hrel : ∀ {s a r s'}, P s → s.vfsVnodeRelease o a = some (r, s') → P s')
    (htick : ∀ {s}, P s → P s.tick) (herr : ∀ {s e}, P s → P (s.setErrno e))
    (hreset : ∀ {s i}, P s → P (s.vfsDentryReset i))
    (hvno : ∀ {s i vno}, P s → P (s.setDentry i { s.dentries i with dVno := vno }))
    {d obj : Slot} {n : String} {s : VfsState} {r : Option Slot} {s' : VfsState} (hs : P s)
    (h : s.vfsLookupResolve o d obj n = some (r, s')) : P s' := by
  unfold vfsLookupResolve at h
  split at h
  · cases h
  split at h
  · cases h
  · obtain ⟨-, rfl⟩ := Prod.mk.inj (Option.some.inj h)
    exact herr (hreset (hget hs ‹_›))
  rename_i hg
  split at h
  · cases h
  split at h
  on_goal 2 => split at h
  all_goals
    obtain ⟨⟨_, s₂⟩, hr, he⟩ := Option.map_eq_some'.1 h
    obtain ⟨-, rfl⟩ := Prod.mk.inj he
  · exact herr (hrel (hreset (hget hs hg)) hr)
  · exact herr (hrel (hreset (htick (hget hs hg))) hr)
  · exact hrel (hvno (htick (hget hs hg))) hr

/-- What every lookup in a dentry keeps, the walk of `vfs_lookup` keeps. -/
theorem vfsLookupWalk_inv (hP : ∀ {p n r s s'}, P s → s.vfsLookupInDentry o p n = some (r, s') → P s')
    {cs : List String} {obj : Option Slot} {s : VfsState} {r : Option Slot}
    {s' : VfsState} (hs : P s) (h : vfsLookupWalk o cs obj s = some (r, s')) : P s' := by
  induction cs generalizing obj s with
  | nil => obtain ⟨-, rfl⟩ := Prod.mk.inj (Option.some.inj h); exact hs
  | cons c cs ih =>
    rw [vfsLookupWalk] at h
    rcases he : s.vfsLookupInDentry o obj c with _ | ⟨_ | d, s₁⟩ <;> rw [he] at h
    · cases h
    · obtain ⟨-, rfl⟩ := Prod.mk.inj (Option.some.inj h); exact hP hs he
    · exact ih (hP hs he) h

/-- What every lookup in a dentry, a tick and an `errno` keep, `vfs_lookup` keeps. -/
theorem vfsLookup_inv (hP : ∀ {p n r s s'}, P s → s.vfsLookupInDentry o p n = some (r, s') → P s')
    (htick : ∀ {s}, P s → P s.tick) (herr : ∀ {s e}, P s → P (s.setErrno e))
    {path : String} {r : Option Slot} {s' : VfsState} (hs : P s) (h : s.vfsLookup o path = some (r, s')) :
    P s' := by
  unfold vfsLookup at h
  split at h <;> rename_i s₁ he <;> obtain rfl : s.tick = s₁ := congrArg Prod.snd he
  · obtain ⟨-, rfl⟩ := Prod.mk.inj (Option.some.inj h); exact herr (htick hs)
  · obtain ⟨⟨_, s₂⟩, hw, he'⟩ := Option.map_eq_some'.1 h
    obtain ⟨-, rfl⟩ := Prod.mk.inj he'
    exact vfsLookupWalk_inv P hP (htick (htick hs)) hw

end Invariant

/-- `vfs_lookup` gives `NULL` whenever it returns. -/
theorem vfsLookup_fst_none {path : String} {r : Option Slot} {s' : VfsState}
    (h : s.vfsLookup o path = some (r, s')) : r = none := by
  unfold vfsLookup at h
  split at h
  · exact (Prod.mk.inj (Option.some.inj h)).1.symm
  · obtain ⟨_, -, he⟩ := Option.map_eq_some'.1 h
    exact (Prod.mk.inj he).1.symm

/-- Lookups leave the registries and the root pointer alone. -/
theorem vfsLookupInDentry_registries {p : Option Slot} {n : String} {r : Option Slot} {s' : VfsState}
    (h : s.vfsLookupInDentry o p n = some (r, s')) : s.Registries s' := by
  obtain ⟨s₁, he, hq | ⟨d, obj, hr⟩⟩ := vfsLookupInDentry_cases h
  all_goals have hg : s.Registries s₁ := he ▸ vfsDentryGet_registries.1
  · exact hg.trans hq.registries
  · exact hg.trans (vfsLookupResolve_cases hr).1

theorem vfsLookup_registries {path : String} {r : Option Slot} {s' : VfsState}
    (h : s.vfsLookup o path = some (r, s')) : s.Registries s' :=
  vfsLookup_inv (s.Registries ·) (fun h₁ h₂ => h₁.trans (vfsLookupInDentry_registries h₂))
    (fun h => ⟨h.1, h.2, h.3⟩) (fun h => ⟨h.1, h.2, h.3⟩) .refl h

/-- Lookups only read more answers. -/
theorem vfsLookupInDentry_calls {p : Option Slot} {n : String} {r : Option Slot} {s' : VfsState}
    (h : s.vfsLookupInDentry o p n = some (r, s')) : s.calls ≤ s'.calls := by
  obtain ⟨s₁, he, hq | ⟨d, obj, hr⟩⟩ := vfsLookupInDentry_cases h
  all_goals have h₁ : s.calls ≤ s₁.calls := he ▸ vfsDentryGet_calls
  · exact h₁.trans hq.calls
  · exact vfsLookupResolve_inv (s.calls ≤ ·.calls) (fun h hg => h.trans (vfsVnodeGetOrRead_calls hg))
      (fun h hr => h.trans (vfsVnodeRelease_calls hr)) Nat.le_succ_of_le id id id h₁ hr

theorem vfsLookup_calls {path : String} {r : Option Slot} {s' : VfsState}
    (h : s.vfsLookup o path = some (r, s')) : s.calls ≤ s'.calls :=
  vfsLookup_inv (s.calls ≤ ·.calls) (fun h hl => h.trans (vfsLookupInDentry_calls hl)) Nat.le_succ_of_le id
    le_rfl h

/-- A lookup keeps the keys of occupied slots unique. -/
theorem vfsLookupInDentry_keysUnique {p : Option Slot} {n : String} {r : Option Slot} {s' : VfsState}
    (hk : KeysUnique s.dentries) (h : s.vfsLookupInDentry o p n = some (r, s')) :
    KeysUnique s'.dentries := by
  obtain ⟨s₁, he, hq | ⟨d, obj, hr⟩⟩ := vfsLookupInDentry_cases h
  all_goals have hk₁ : KeysUnique s₁.dentries := he ▸ vfsDentryGet_keysUnique hk
  · exact hq.dentries ▸ hk₁
  · obtain ⟨-, ⟨-, hd⟩ | ⟨-, vno, hd⟩⟩ := vfsLookupResolve_cases hr <;> rw [hd]
    · exact hk₁.update_empty obj
    · exact hk₁.update_sameKey obj rfl rfl

theorem vfsLookup_keysUnique {path : String} {r : Option Slot} {s' : VfsState}
    (hk : KeysUnique s.dentries) (h : s.vfsLookup o path = some (r, s')) : KeysUnique s'.dentries :=
  vfsLookup_inv (KeysUnique ·.dentries) vfsLookupInDentry_keysUnique id id hk h

/-! ## Lookups where everything succeeds -/

section Happy

variable (F : SbPtr → Int → String → Int)

/-- With nothing in the vnode cache and every driver call succeeding, the driver half of a lookup
stores the vnode number `lookup` answers and leaves the cache empty again. -/
theorem vfsLookupResolve_happy {d obj : Slot} {name : String} {p : SbPtr} {v : Int}
    (hv : s.vnodes = []) (hd : s.dirVnode d = some (some p, v)) (hp : s.sbAt p ≠ none) :
    s.vfsLookupResolve (Oracle.happy F) d obj name =
      some (some obj,
        { s.setDentry obj { s.dentries obj with dVno := F p v name } with calls := s.calls + 5 }) := by
  obtain ⟨sb, hsb⟩ := Option.ne_none_iff_exists'.1 hp
  simp only [sbAt] at hsb
  simp [vfsLookupResolve, hd, vfsVnodeGetOrRead, hv, vfsVnodeLookup, kalloc, Oracle.happy, hsb, tick,
    sbAt, vfsVnodeAcquire, updVnode, vfsVnodeRelease, setDentry, intSucc, intPred, vfsVnodeDealloc,
    intMax, Vnode.HasKey, vfsDentryReset]

theorem dirVnode_setDentry {d i : Slot} (hd : d ≠ i) (e : Dentry) :
    (s.setDentry i e).dirVnode d = s.dirVnode d := by
  simp [dirVnode, sbAt, Function.update_noteq hd]

theorem dirVnode_tick (d : Slot) : s.tick.dirVnode d = s.dirVnode d := rfl

/-- A miss rewrites only its candidate slot, so another directory's vnode stays. -/
theorem dirVnode_refill {d c : Slot} (hd : d ≠ c) (e : Dentry) :
    ((s.vfsDentryReset c).tick.setDentry c e).dirVnode d = s.dirVnode d :=
  (dirVnode_setDentry hd e).trans (dirVnode_setDentry hd Dentry.empty)

/-- A hit raises only the count, which the directory's vnode does not read. -/
theorem dirVnode_setCount {d i : Slot} (c : Int) :
    (s.setDentry i { s.dentries i with dCount := c }).dirVnode d = s.dirVnode d := by
  by_cases h : d = i
  · subst h; simp [dirVnode, sbAt]
  · exact dirVnode_setDentry h _

/-- A directory whose vnode has a superblock passes one on to its children. -/
theorem inheritSb_of_dirVnode {d : Slot} {q : SbPtr} {v : Int} (h : s.dirVnode d = some (some q, v)) :
    inheritSb s.dentries (some d) ≠ none := by
  unfold dirVnode at h
  rw [inheritSb]
  split at h
  · rename_i hm
    rw [if_pos hm, (Prod.mk.inj (Option.some.inj h)).1]
    exact Option.some_ne_none q
  · rename_i p hm
    rw [if_neg (by rw [hm]; exact Option.some_ne_none p), hm]
    exact Option.some_ne_none p

/-- **A lookup that misses, everything succeeding**: the candidate slot `c` gets the name, the
parent, the superblock inherited from the parent and the vnode number `lookup` gave. -/
theorem vfsLookupInDentry_happy {d c : Slot} {name : String} {p : SbPtr} {v : Int}
    (hs : s.dentryScan (some d) name = .miss (some c)) (hdc : d ≠ c) (hv : s.vnodes = [])
    (hd : s.dirVnode d = some (some p, v)) (hp : s.sbAt p ≠ none) :
    s.vfsLookupInDentry (Oracle.happy F) (some d) name =
      some (some c, { s with
        dentries := Function.update s.dentries c
          ⟨some name, F p v name, some d, inheritSb s.dentries (some d), none, 1⟩,
        calls := s.calls + 6 }) := by
  have hinh : inheritSb (Function.update s.dentries c Dentry.empty) (some d) = inheritSb s.dentries (some d) := by
    simp [inheritSb, Function.update_noteq hdc]
  rw [vfsLookupInDentry_of_miss hs rfl, vfsLookupResolve_happy (s := (s.vfsDentryReset c).tick.setDentry c _) (v := v) F hv
    ((dirVnode_refill hdc _).trans hd) hp]
  simp [setDentry, vfsDentryReset, tick, hinh, Function.update_idem]

end Happy

/-! ## A `destroy_vnode` that fails

`vfs_vnode_release` keeps a vnode whose driver refuses to destroy it, with its count at `0`; a
later lookup through the same directory acquires it again and, on release, destroys it. -/

/-- From an empty cache, a resolve whose `destroy_vnode` fails leaves the directory's vnode
cached with count `0`, and fails the release with `E_IO` after storing the vnode number. -/
theorem vfsLookupResolve_keeps_loaded {d obj : Slot} {name : String} {p : SbPtr} {v w : Int}
    (hk : ∀ c, o.kalloc c = true) (hrd : ∀ c, o.readVnode c = some true) (ha : ∀ c, o.listAdd c = true)
    (hl : ∀ c, o.lookup c p v name = .ok w) (hdst : ∀ c, o.destroyVnode c = false)
    (hv : s.vnodes = []) (hd : s.dirVnode d = some (some p, v)) (hp : s.sbAt p ≠ none) :
    s.vfsLookupResolve o d obj name =
      some (some obj, { s.setDentry obj { s.dentries obj with dVno := w } with
        vnodes := [⟨s.calls + 1, v, p, 0, true⟩], errno := .io, calls := s.calls + 5 }) := by
  obtain ⟨sb, hsb⟩ := Option.ne_none_iff_exists'.1 hp
  simp only [sbAt] at hsb
  simp [vfsLookupResolve, hd, vfsVnodeGetOrRead, hv, vfsVnodeLookup, kalloc, hk, hrd, ha, hl, hdst, hsb, tick,
    sbAt, vfsVnodeAcquire, updVnode, vfsVnodeRelease, setDentry, intSucc, intPred, intMax, setErrno]

/-- A resolve that finds the directory's vnode cached with count `0` acquires it and, its
`destroy_vnode` succeeding, removes it on release. -/
theorem vfsLookupResolve_drops_idle {d obj : Slot} {name : String} {p : SbPtr} {v w : Int} {a : Nat}
    (hl : ∀ c, o.lookup c p v name = .ok w) (hdst : ∀ c, o.destroyVnode c = true)
    (hv : s.vnodes = [⟨a, v, p, 0, true⟩]) (hd : s.dirVnode d = some (some p, v)) (hp : s.sbAt p ≠ none) :
    s.vfsLookupResolve o d obj name =
      some (some obj, { s.setDentry obj { s.dentries obj with dVno := w } with vnodes := [], calls := s.calls + 2 }) := by
  obtain ⟨sb, hsb⟩ := Option.ne_none_iff_exists'.1 hp
  simp only [sbAt] at hsb
  simp [vfsLookupResolve, hd, vfsVnodeGetOrRead, hv, vfsVnodeLookup, hl, hdst, hsb, tick,
    sbAt, vfsVnodeAcquire, updVnode, vfsVnodeRelease, setDentry, intSucc, intPred, intMax, vfsVnodeDealloc,
    Vnode.HasKey]

/-! ## Walks of given tokens -/

/-- A directory with no superblock, neither mounted nor inherited, is looked in through the
vnode `(NULL, d_vno)`: the resolve fails with `E_CORRUPT` when `kalloc` fails, and is undefined
otherwise. -/
theorem vfsLookupResolve_null {d obj : Slot} {n : String} {v : Int} (hd : s.dirVnode d = some (none, v)) :
    s.vfsLookupResolve o d obj n =
      if o.kalloc s.calls then none
      else some (none, ((s.tick.setErrno .nomem).vfsDentryReset obj).setErrno .corrupt) := by
  cases hk : o.kalloc s.calls <;> simp [vfsLookupResolve, hd, vfsVnodeGetOrRead_null, hk]

/-- A resolve that returns a dentry read its directory's vnode through a superblock. -/
theorem vfsLookupResolve_dirSb {d obj : Slot} {n : String} {r : Slot} {s' : VfsState}
    (h : s.vfsLookupResolve o d obj n = some (some r, s')) : ∃ q v, s.dirVnode d = some (some q, v) := by
  rcases hd : s.dirVnode d with _ | ⟨_ | q, v⟩
  · simp [vfsLookupResolve, hd] at h
  · rw [vfsLookupResolve_null hd] at h
    split_ifs at h
    cases h
  · exact ⟨q, v, rfl⟩

/-- A lookup in a dentry never reads `strtok`'s tokens. -/
theorem vfsLookupInDentry_withTokens (ts : List String) (p : Option Slot) (n : String) :
    s.vfsLookupInDentry (o.withTokens ts) p n = s.vfsLookupInDentry o p n := rfl

/-- `vfs_lookup` past its `kalloc`: the walk from the root over the tokens, then `NULL`. -/
theorem vfsLookup_of_kalloc {path : String} (hk : o.kalloc s.calls = true) :
    s.vfsLookup o path =
      (vfsLookupWalk o (o.tokens (s.calls + 1)) s.rootDentry s.tick.tick).map fun r => (none, r.2) := by
  simp only [vfsLookup, kalloc, hk, if_true]; rfl

theorem vfsLookupWalk_singleton (c : String) (obj : Option Slot) :
    vfsLookupWalk o [c] obj s = s.vfsLookupInDentry o obj c := by
  rw [vfsLookupWalk]; rcases s.vfsLookupInDentry o obj c with _ | ⟨_ | d, s'⟩ <;> rfl

end VfsState

end Buhos.Vfs
