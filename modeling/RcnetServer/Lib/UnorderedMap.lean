/-
  RcnetServer.Lib.UnorderedMap

  Finite maps as the C++ code uses them (`std::unordered_map`): lookup,
  insertion, erasure, in-place update of a found value, `size()` and iteration.
  The carrier is Mathlib's `AList`, whose entry list is one iteration order; a
  user that must cover every iteration order quantifies over permutations of
  `entries`.

  `AList.replace` is the in-place update (`it->second = v`): it keeps the keys
  and their order.  Mathlib has its key lemmas but not its lookup lemmas, which
  are stated here.
-/

import Mathlib.Data.List.AList

/-- A finite map with distinct keys. -/
abbrev UnorderedMap (K V : Type*) := AList fun _ : K => V

namespace UnorderedMap

variable {K V : Type*}

/-- The mapped values, in iteration order. -/
def values (m : UnorderedMap K V) : List V := m.entries.map Sigma.snd

/-- `size()`. -/
def size (m : UnorderedMap K V) : Nat := m.entries.length

theorem size_eq_keys_length (m : UnorderedMap K V) : size m = m.keys.length := by
  simp [size, AList.keys, List.keys]

theorem size_of_perm {m m' : UnorderedMap K V} (h : m.entries.Perm m'.entries) :
    size m = size m' :=
  h.length_eq

variable [DecidableEq K]

/-- A value is iterated over exactly when some key maps to it. -/
theorem mem_values {m : UnorderedMap K V} {v : V} :
    v ∈ values m ↔ ∃ k, AList.lookup k m = some v := by
  constructor
  · intro h
    obtain ⟨⟨k, w⟩, hkw, rfl⟩ := List.mem_map.mp h
    exact ⟨k, AList.mem_lookup_iff.mpr hkw⟩
  · rintro ⟨k, hk⟩
    exact List.mem_map.mpr ⟨⟨k, v⟩, AList.mem_lookup_iff.mp hk, rfl⟩

/-- Values that carry their own key, read in iteration order. -/
theorem map_values_eq_keys {m : UnorderedMap K V} {f : V → K}
    (h : ∀ k v, AList.lookup k m = some v → f v = k) : (values m).map f = m.keys := by
  rw [values, List.map_map]
  refine List.map_congr_left ?_
  rintro ⟨k, v⟩ hkv
  exact h k v (AList.mem_lookup_iff.mpr hkv)

/-- Erasing a key that is there makes the map smaller. -/
theorem size_erase_lt {m : UnorderedMap K V} {k : K} {v : V} (h : AList.lookup k m = some v) :
    size (AList.erase k m) < size m := by
  have hmem : k ∈ m.keys := AList.mem_keys.mp (AList.lookup_isSome.mp (by simp [h]))
  have hlength : (m.keys.erase k).length = m.keys.length - 1 := List.length_erase_of_mem hmem
  rw [size_eq_keys_length, size_eq_keys_length, AList.keys_erase, hlength]
  exact Nat.sub_lt (List.length_pos_of_mem hmem) Nat.one_pos

/-- A map that is not empty has an entry. -/
theorem exists_lookup {m : UnorderedMap K V} (h : m.entries ≠ []) :
    ∃ k v, AList.lookup k m = some v := by
  obtain ⟨⟨k, v⟩, hkv⟩ := List.exists_mem_of_ne_nil _ h
  exact ⟨k, v, AList.mem_lookup_iff.mpr hkv⟩

/-- Maps with the same keys have the same size. -/
theorem size_eq_of_lookup_isSome {V' : Type*} {m : UnorderedMap K V} {m' : UnorderedMap K V'}
    (h : ∀ k, (AList.lookup k m).isSome = (AList.lookup k m').isSome) : size m = size m' := by
  have hkeys : m.keys.Perm m'.keys := by
    refine (List.perm_ext_iff_of_nodup m.keys_nodup m'.keys_nodup).mpr fun k => ?_
    rw [← AList.mem_keys, ← AList.mem_keys, ← AList.lookup_isSome, ← AList.lookup_isSome, h]
  rw [size_eq_keys_length, size_eq_keys_length]
  exact hkeys.length_eq

/-- A lookup, split at a key whose value is known. -/
theorem lookup_eq_ite {m : UnorderedMap K V} {k : K} {o : Option V} (h : AList.lookup k m = o)
    (k' : K) : AList.lookup k' m = if k' = k then o else AList.lookup k' m := by
  by_cases hk : k' = k
  · rw [if_pos hk, hk, h]
  · rw [if_neg hk]

theorem lookup_insert (m : UnorderedMap K V) (k k' : K) (v : V) :
    AList.lookup k' (AList.insert k v m) = if k' = k then some v else AList.lookup k' m := by
  by_cases h : k' = k
  · subst h
    simp
  · rw [if_neg h, AList.lookup_insert_ne h]

theorem lookup_erase (m : UnorderedMap K V) (k k' : K) :
    AList.lookup k' (AList.erase k m) = if k' = k then none else AList.lookup k' m := by
  by_cases h : k' = k
  · subst h
    simp
  · rw [if_neg h, AList.lookup_erase_ne h]

/-- A lookup passes over an entry with another key. -/
private theorem dlookup_cons_of_ne {k' k₀ : K} (v₀ : V) (l : List (Sigma fun _ : K => V))
    (h : k' ≠ k₀) :
    List.dlookup (β := fun _ : K => V) k' (⟨k₀, v₀⟩ :: l) = l.dlookup k' :=
  List.dlookup_cons_ne l ⟨k₀, v₀⟩ h

/-- Looking up after an in-place update, on the association list itself. -/
private theorem dlookup_kreplace (k k' : K) (v : V) (l : List (Sigma fun _ : K => V)) :
    (List.kreplace k v l).dlookup k' =
      if k' = k then (l.dlookup k).map (fun _ => v) else l.dlookup k' := by
  induction l with
  | nil => simp [List.kreplace]
  | cons e l ih =>
      obtain ⟨k₀, v₀⟩ := e
      by_cases hk : k = k₀
      · subst hk
        have hrep : List.kreplace k v (⟨k, v₀⟩ :: l) = ⟨k, v⟩ :: l :=
          List.lookmap_cons_some _ _ (by simp)
        by_cases hk' : k' = k
        · subst hk'
          simp [hrep]
        · rw [hrep, dlookup_cons_of_ne v l hk', dlookup_cons_of_ne v₀ l hk', if_neg hk']
      · have hrep : List.kreplace k v (⟨k₀, v₀⟩ :: l) = ⟨k₀, v₀⟩ :: List.kreplace k v l :=
          List.lookmap_cons_none _ _ (by simp [hk])
        by_cases hk' : k' = k₀
        · subst hk'
          simp [hrep, Ne.symm hk]
        · rw [hrep, dlookup_cons_of_ne v₀ _ hk', ih, dlookup_cons_of_ne v₀ l hk',
            dlookup_cons_of_ne v₀ l hk]

theorem lookup_replace (m : UnorderedMap K V) (k k' : K) (v : V) :
    AList.lookup k' (AList.replace k v m) =
      if k' = k then (AList.lookup k m).map (fun _ => v) else AList.lookup k' m :=
  dlookup_kreplace k k' v m.entries

@[simp] theorem size_replace (m : UnorderedMap K V) (k : K) (v : V) :
    size (AList.replace k v m) = size m := by
  simp [size_eq_keys_length]

end UnorderedMap
