import Mathlib.Data.List.FinRange
import Mathlib.Logic.Function.Basic

/-!
# The VFS state

The in-memory metadata of `src/kernel/vfs.c`: the filesystem-type list `vfs_fs_types`,
the superblock list `vfs_sbs`, the static array `vfs_dentries`, the vnode list
`vfs_vnodes`, the pointer `vfs_root_dentry`, and the kernel's `errno`.

A dentry pointer is a slot of the array (`Slot`). Every other object lives on the heap and
is named by the address `kalloc` gave it. `NULL` is `none`, and a step that dereferences
`NULL` (or a freed object) has no result: it is undefined behaviour, not an error return.

Nothing here runs a driver. What the allocator, `list_add` and the filesystem callbacks
answer is an `Oracle`, read at the index of the call (`VfsState.calls`), so that a run may
see any answer at any call.
-/

namespace Buhos.Vfs

/-- The error codes `vfs.c` sets, and `other n` for a code that a driver sets itself (or the
initial `0`). -/
inductive Errno
  | nomem | exist | io | limit | corrupt | nodir | noroot | noent | access | notimp
  | nokobj | mounted | invfs | notmounted | busy
  | other (code : Int)
  deriving DecidableEq, Repr

/-- The values of `sb_flags`: `VFS_SB_F_UNUSED`, and the one `VFS_SB_IS_MOUNTED` tests for. `vfs.h`,
which defines them, is not among the sources. -/
inductive SbFlags
  | unused | mounted
  deriving DecidableEq, Repr

/-- `INT_MAX` of the kernel's 32-bit `int`. -/
def intMax : Int := 2147483647

/-- `c ++` on an `int` counter, wrapping at 32 bits as the compiled kernel does. -/
def intSucc (c : Int) : Int := if c = intMax then -intMax - 1 else c + 1

/-- `c --` on an `int` counter, wrapping at 32 bits. -/
def intPred (c : Int) : Int := if c = -intMax - 1 then intMax else c - 1

theorem intSucc_of_lt {c : Int} (h : c < intMax) : intSucc c = c + 1 := if_neg h.ne

theorem intPred_of_pos {c : Int} (h : 0 < c) : intPred c = c - 1 :=
  if_neg (by simp only [intMax]; omega)

/-- Below `INT_MAX`, `k` increments add `k`. -/
theorem intSucc_iterate {c : Int} : ∀ {k : Nat}, c + k ≤ intMax → intSucc^[k] c = c + k
  | 0, _ => by simp
  | k + 1, h => by
    rw [Function.iterate_succ_apply', intSucc_iterate (by omega), intSucc_of_lt (by omega)]
    omega

/-- `VFS_MAX_DENTRIES`. -/
def vfsMaxDentries : Nat := 100

/-- For slot literals; stated over the `Zero Nat` that `Fin.instOfNat` asks for. -/
instance : @NeZero Nat Zero.ofOfNat0 vfsMaxDentries := ⟨Nat.succ_ne_zero 99⟩

/-- A pointer into `vfs_dentries`. -/
abbrev Slot := Fin vfsMaxDentries

/-- A superblock pointer. -/
abbrev SbPtr := Nat

/-- `vfs_fs_type_t`: the name and whether each of the two `ft_ops` is set. -/
structure FsType where
  addr : Nat
  ftName : Option String
  ftGetSb : Bool
  ftKillSb : Bool
  deriving DecidableEq, Repr

/-- `vfs_sb_t`, with the fields the VFS reads. The driver callbacks in `sb_ops` are the
oracle's. -/
structure Superblock where
  addr : SbPtr
  sbDevid : Nat
  sbFlags : SbFlags
  sbRootVno : Int
  sbFsType : Option Nat
  sbMnt : Option Slot
  deriving DecidableEq, Repr

/-- `vfs_dentry_t`. An empty slot is all zeroes; `d_name = NULL` marks it. -/
structure Dentry where
  dName : Option String
  dVno : Int
  dParent : Option Slot
  dSb : Option SbPtr
  dMntSb : Option SbPtr
  dCount : Int
  deriving DecidableEq, Repr

/-- A slot after `memset(dentry, 0, ...)`. -/
def Dentry.empty : Dentry := ⟨none, 0, none, none, none, 0⟩

/-- `vfs_vnode_t`, with the fields the VFS reads; `vDir` is
`FILE_TYPE(v_mode) == FILE_TYPE_DIRECTORY`. -/
structure Vnode where
  addr : Nat
  vNo : Int
  vSb : SbPtr
  vCount : Int
  vDir : Bool
  deriving DecidableEq, Repr

/-- The array `vfs_dentries`. -/
abbrev DentryTable := Slot → Dentry

@[ext]
structure VfsState where
  fsTypes : List FsType
  sbs : List Superblock
  dentries : DentryTable
  vnodes : List Vnode
  rootDentry : Option Slot
  errno : Errno
  /-- How many oracle answers the run has read. -/
  calls : Nat

/-- What `ft_get_sb` fills in when it accepts a device. -/
structure SbSetup where
  rootVno : Int
  flags : SbFlags
  deriving DecidableEq, Repr

/-- The answers of the allocator and the drivers, by call index. `none` is a callback
returning `-1`. -/
structure Oracle where
  kalloc : Nat → Bool
  listAdd : Nat → Bool
  /-- What a type's `config` callback installs: whether `ft_get_sb` and `ft_kill_sb` are set. -/
  config : Nat → Option (Bool × Bool)
  getSb : Nat → Option SbSetup
  killSb : Nat → Bool
  /-- The superblock's `mount` callback, with the flags it leaves. -/
  sbMount : Nat → Option SbFlags
  sbUnmount : Nat → Bool
  /-- `read_vnode`: whether the vnode it loads is a directory. -/
  readVnode : Nat → Option Bool
  destroyVnode : Nat → Bool
  /-- A directory vnode's `lookup(dir, dentry)`, given the superblock, the directory's vnode
  number and the name: the vnode number it stores in the dentry, or the errno it sets. -/
  lookup : Nat → SbPtr → Int → String → Except Errno Int
  /-- A C string read from memory the code never wrote as one: a fresh `kalloc` buffer, or
  the bytes of a stored pointer. -/
  memText : Nat → String
  /-- What the calls of `strtok(tmp_path, '/')` yield over the buffer `vfs_lookup` allocates and
  never fills (the delimiter set is read at the address `'/'`). -/
  tokens : Nat → List String

/-- The oracle under which every allocation, `list_add` and callback succeeds, every vnode is a
directory, a probe gives root vnode `1` and leaves the flag alone, and `lookup` answers with
`next`. -/
def Oracle.happy (next : SbPtr → Int → String → Int) : Oracle where
  kalloc _ := true
  listAdd _ := true
  config _ := some (true, true)
  getSb _ := some ⟨1, .unused⟩
  killSb _ := true
  sbMount _ := some .unused
  sbUnmount _ := true
  readVnode _ := some true
  destroyVnode _ := true
  lookup _ sb v n := .ok (next sb v n)
  memText _ := ""
  tokens _ := []

/-- The oracle `o` with `strtok` yielding `ts` over every `vfs_lookup` buffer: a walk of the path
whose components are `ts`. -/
def Oracle.withTokens (o : Oracle) (ts : List String) : Oracle := { o with tokens := fun _ => ts }

/-- `vfs_init`. -/
def vfsInit : VfsState :=
  ⟨[], [], fun _ => Dentry.empty, [], none, .other 0, 0⟩

namespace VfsState

variable (o : Oracle) (s : VfsState)

/-- One oracle answer read. -/
def tick : VfsState := { s with calls := s.calls + 1 }

/-- `set_errno`. -/
def setErrno (e : Errno) : VfsState := { s with errno := e }

/-- `kalloc`: a fresh address (one past the call's index), or `NULL`. -/
def kalloc : Option Nat × VfsState :=
  (if o.kalloc s.calls then some (s.calls + 1) else none, s.tick)

/-- The superblock at an address, if one is registered there. -/
def sbAt (p : SbPtr) : Option Superblock := s.sbs.find? (·.addr = p)

/-- Rewrite the registered filesystem type at address `a`. -/
def updFsType (a : Nat) (f : FsType → FsType) : VfsState :=
  { s with fsTypes := s.fsTypes.map fun ft => if ft.addr = a then f ft else ft }

/-- Rewrite the registered superblock at `p`. -/
def updSb (p : SbPtr) (f : Superblock → Superblock) : VfsState :=
  { s with sbs := s.sbs.map fun sb => if sb.addr = p then f sb else sb }

/-- Write one dentry slot. -/
def setDentry (i : Slot) (d : Dentry) : VfsState :=
  { s with dentries := Function.update s.dentries i d }

@[simp] theorem tick_fsTypes : (s.tick).fsTypes = s.fsTypes := rfl
@[simp] theorem tick_sbs : (s.tick).sbs = s.sbs := rfl
@[simp] theorem tick_dentries : (s.tick).dentries = s.dentries := rfl
@[simp] theorem tick_vnodes : (s.tick).vnodes = s.vnodes := rfl
@[simp] theorem tick_rootDentry : (s.tick).rootDentry = s.rootDentry := rfl
@[simp] theorem tick_errno : (s.tick).errno = s.errno := rfl
@[simp] theorem tick_calls : (s.tick).calls = s.calls + 1 := rfl

@[simp] theorem kalloc_state : (s.kalloc o).2 = s.tick := rfl

@[simp] theorem setErrno_fsTypes (e : Errno) : (s.setErrno e).fsTypes = s.fsTypes := rfl
@[simp] theorem setErrno_sbs (e : Errno) : (s.setErrno e).sbs = s.sbs := rfl
@[simp] theorem setErrno_dentries (e : Errno) : (s.setErrno e).dentries = s.dentries := rfl
@[simp] theorem setErrno_vnodes (e : Errno) : (s.setErrno e).vnodes = s.vnodes := rfl
@[simp] theorem setErrno_rootDentry (e : Errno) : (s.setErrno e).rootDentry = s.rootDentry := rfl
@[simp] theorem setErrno_errno (e : Errno) : (s.setErrno e).errno = e := rfl
@[simp] theorem setErrno_calls (e : Errno) : (s.setErrno e).calls = s.calls := rfl

@[simp] theorem setDentry_fsTypes (i : Slot) (d : Dentry) : (s.setDentry i d).fsTypes = s.fsTypes := rfl
@[simp] theorem setDentry_sbs (i : Slot) (d : Dentry) : (s.setDentry i d).sbs = s.sbs := rfl
@[simp] theorem setDentry_dentries (i : Slot) (d : Dentry) :
    (s.setDentry i d).dentries = Function.update s.dentries i d := rfl
@[simp] theorem setDentry_vnodes (i : Slot) (d : Dentry) : (s.setDentry i d).vnodes = s.vnodes := rfl
@[simp] theorem setDentry_rootDentry (i : Slot) (d : Dentry) :
    (s.setDentry i d).rootDentry = s.rootDentry := rfl
@[simp] theorem setDentry_errno (i : Slot) (d : Dentry) : (s.setDentry i d).errno = s.errno := rfl
@[simp] theorem setDentry_calls (i : Slot) (d : Dentry) : (s.setDentry i d).calls = s.calls := rfl

@[simp] theorem updFsType_fsTypes (a : Nat) (f : FsType → FsType) :
    (s.updFsType a f).fsTypes = s.fsTypes.map fun ft => if ft.addr = a then f ft else ft := rfl
@[simp] theorem updFsType_errno (a : Nat) (f : FsType → FsType) : (s.updFsType a f).errno = s.errno := rfl
@[simp] theorem updFsType_calls (a : Nat) (f : FsType → FsType) : (s.updFsType a f).calls = s.calls := rfl

@[simp] theorem updSb_sbs (p : SbPtr) (f : Superblock → Superblock) :
    (s.updSb p f).sbs = s.sbs.map fun sb => if sb.addr = p then f sb else sb := rfl
@[simp] theorem updSb_dentries (p : SbPtr) (f : Superblock → Superblock) :
    (s.updSb p f).dentries = s.dentries := rfl
@[simp] theorem updSb_calls (p : SbPtr) (f : Superblock → Superblock) : (s.updSb p f).calls = s.calls := rfl

/-- `s'` differs from `s` at most in `errno` and in how many oracle answers were read: the
state a refused request leaves. -/
structure Quiet (s s' : VfsState) : Prop where
  fsTypes : s'.fsTypes = s.fsTypes
  sbs : s'.sbs = s.sbs
  dentries : s'.dentries = s.dentries
  vnodes : s'.vnodes = s.vnodes
  rootDentry : s'.rootDentry = s.rootDentry
  calls : s.calls ≤ s'.calls

variable {s}

theorem Quiet.refl : s.Quiet s := ⟨rfl, rfl, rfl, rfl, rfl, le_rfl⟩

theorem Quiet.trans {s₁ s₂ s₃ : VfsState} (h₁ : s₁.Quiet s₂) (h₂ : s₂.Quiet s₃) : s₁.Quiet s₃ :=
  ⟨h₂.fsTypes.trans h₁.fsTypes, h₂.sbs.trans h₁.sbs, h₂.dentries.trans h₁.dentries,
    h₂.vnodes.trans h₁.vnodes, h₂.rootDentry.trans h₁.rootDentry, h₁.calls.trans h₂.calls⟩

theorem Quiet.tick : s.Quiet s.tick := ⟨rfl, rfl, rfl, rfl, rfl, Nat.le_succ _⟩

theorem Quiet.setErrno (e : Errno) : s.Quiet (s.setErrno e) := ⟨rfl, rfl, rfl, rfl, rfl, le_rfl⟩

/-- `s'` keeps the type and superblock registries and the root pointer of `s`: what path lookups
and the vnode cache leave alone. -/
structure Registries (s s' : VfsState) : Prop where
  fsTypes : s'.fsTypes = s.fsTypes
  sbs : s'.sbs = s.sbs
  rootDentry : s'.rootDentry = s.rootDentry

theorem Registries.refl : s.Registries s := ⟨rfl, rfl, rfl⟩

theorem Registries.trans {s₁ s₂ s₃ : VfsState} (h₁ : s₁.Registries s₂) (h₂ : s₂.Registries s₃) :
    s₁.Registries s₃ :=
  ⟨h₂.fsTypes.trans h₁.fsTypes, h₂.sbs.trans h₁.sbs, h₂.rootDentry.trans h₁.rootDentry⟩

theorem Quiet.registries {s' : VfsState} (h : s.Quiet s') : s.Registries s' :=
  ⟨h.fsTypes, h.sbs, h.rootDentry⟩

end VfsState

/-- The lists of the state are keyed, and `list_find_del` removes the first entry of a key: from a
list with unique keys, that is the one entry of the key, and every entry of another key stays. -/
theorem mem_eraseP_of_key {α β : Type} {f : α → β} {l : List α} (hk : (l.map f).Nodup) {a : α} (ha : a ∈ l)
    {p : α → Bool} (hp : ∀ y, p y ↔ f y = f a) {x : α} : x ∈ l.eraseP p ↔ x ∈ l ∧ f x ≠ f a := by
  constructor
  · intro hx
    have hxl := List.mem_of_mem_eraseP hx
    refine ⟨hxl, fun hkey => ?_⟩
    obtain ⟨b, l₁, l₂, hl₁, hb, rfl, he⟩ := List.exists_of_eraseP ha ((hp a).2 rfl)
    rw [he] at hx
    obtain rfl : b = x := List.inj_on_of_nodup_map hk (by simp) hxl (((hp b).1 hb).trans hkey.symm)
    rw [List.map_append, List.map_cons, List.nodup_append] at hk
    rcases List.mem_append.1 hx with h | h
    · exact hl₁ b h hb
    · exact (List.nodup_cons.1 hk.2.1).1 (List.mem_map_of_mem _ h)
  · rintro ⟨hx, hkey⟩
    exact (List.mem_eraseP_of_neg fun h => hkey ((hp x).1 h)).2 hx

end Buhos.Vfs
