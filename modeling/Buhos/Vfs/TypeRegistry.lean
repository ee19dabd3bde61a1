import Buhos.Vfs.Run

/-!
# The filesystem-type registry over runs

`vfs_fs_type_register(name, config)` adds a type only after `vfs_fs_type_lookup(name)` found none.
Its failure paths remove with `list_find_del` keyed by the bytes of the name pointer rather than
the name (`vfsFsTypeRegister_io_keeps`), so they may remove another type or none, but they only
ever take entries out; and no other call writes the registry.

* `fs_type_names_unique`: **in every reachable state no two registered types share a name**, so
  the type `vfs_fs_type_lookup(name)` finds is the only one of that name.
-/

namespace Buhos.Vfs

/-- Two entries of a list whose names have no duplicate are equal when they have the same name. -/
theorem eq_of_names_nodup : ∀ {l : List FsType}, (l.filterMap (·.ftName)).Nodup →
    ∀ {a b : FsType} {n : String}, a ∈ l → b ∈ l → a.ftName = some n → b.ftName = some n → a = b
  | [], _, _, _, _, ha, _, _, _ => nomatch ha
  | x :: xs, h, a, b, n, ha, hb, hna, hnb => by
    rw [List.filterMap_cons] at h
    have hmem : ∀ {c}, c ∈ xs → c.ftName = some n → n ∈ xs.filterMap (·.ftName) := fun hc hn =>
      List.mem_filterMap.2 ⟨_, hc, hn⟩
    rcases List.mem_cons.1 ha with rfl | ha' <;> rcases List.mem_cons.1 hb with rfl | hb'
    · rfl
    · rw [hna] at h; exact absurd (hmem hb' hnb) (List.nodup_cons.1 h).1
    · rw [hnb] at h; exact absurd (hmem ha' hna) (List.nodup_cons.1 h).1
    · cases hx : x.ftName <;> rw [hx] at h
      exacts [eq_of_names_nodup h ha' hb' hna hnb, eq_of_names_nodup (List.nodup_cons.1 h).2 ha' hb' hna hnb]

theorem fsTypesFind_some {key : String} : ∀ {l : List FsType} {ft : FsType},
    fsTypesFind key l = some (some ft) → ft ∈ l ∧ ft.ftName = some key
  | [], _, h => nomatch h
  | f :: fs, ft, h => by
    unfold fsTypesFind at h
    split at h
    · cases h
    · split at h
      · obtain rfl := Option.some.inj (Option.some.inj h)
        exact ⟨List.mem_cons_self _ _, by simp_all⟩
      · exact (fun h' => ⟨List.mem_cons_of_mem _ h'.1, h'.2⟩) (fsTypesFind_some h)

namespace VfsState

/-- Every call keeps the names unique: registration by `vfsFsTypeRegister_namesFresh`, and the
other calls leave the registry alone while reading more answers. -/
theorem call_namesFresh {o : Oracle} {s s' : VfsState} {c : Call} (h : NamesFresh s.fsTypes s.calls)
    (hc : s.call o c = some s') : NamesFresh s'.fsTypes s'.calls := by
  -- only a registration changes the list; every call only raises the allocation counter
  have keep : s'.fsTypes = s.fsTypes → NamesFresh s'.fsTypes s'.calls := fun he =>
    he ▸ h.sublist (.refl _) (call_calls hc)
  obtain ⟨_, _, h'⟩ | ⟨_, _, _, _, h'⟩ | ⟨_, _, h'⟩ | ⟨_, _, h'⟩ | ⟨_, _, _, -, h'⟩ := call_cases hc
  · exact vfsFsTypeRegister_namesFresh h h'
  · exact keep (vfsMount_frame h').2
  · exact keep (vfsSbUnmount_frame h').2
  · exact keep (vfsLookup_registries h').fsTypes
  · exact keep (vfsLookupInDentry_registries h').fsTypes

end VfsState

theorem Reachable.namesFresh {s : VfsState} (h : Reachable s) : NamesFresh s.fsTypes s.calls := by
  induction h with
  | init => exact ⟨by simp [vfsInit], by simp [vfsInit]⟩
  | step _ _ _ hc ih => exact VfsState.call_namesFresh ih hc

/-- **No two registered filesystem types share a name** in any reachable state, whatever the
allocator, `list_add` and `config` answered: the list of names has no duplicate, and the type
`vfs_fs_type_lookup(name)` finds is the only type named `name`. -/
theorem fs_type_names_unique {s : VfsState} (h : Reachable s) :
    (s.fsTypes.filterMap (·.ftName)).Nodup ∧
      ∀ name ft, s.vfsFsTypeLookup name = some (some ft) → ∀ ft' ∈ s.fsTypes, ft'.ftName = some name → ft' = ft := by
  have hn := h.namesFresh.names
  refine ⟨hn, fun name ft hl ft' hft' hname => ?_⟩
  obtain ⟨hft, hnft⟩ := fsTypesFind_some hl
  exact eq_of_names_nodup hn hft' hft hname hnft

theorem fs_type_names_unique_booted :
    Reachable booted ∧ ((booted.fsTypes.filterMap (·.ftName)).Nodup ∧
      ∀ name ft, booted.vfsFsTypeLookup name = some (some ft) →
        ∀ ft' ∈ booted.fsTypes, ft'.ftName = some name → ft' = ft) :=
  ⟨reachable_booted, fs_type_names_unique reachable_booted⟩

end Buhos.Vfs
