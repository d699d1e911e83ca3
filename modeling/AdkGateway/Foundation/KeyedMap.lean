import Mathlib.Data.List.AList

namespace AdkGateway.Foundation

variable {κ ν μ : Type}

/-- A hash map: finitely many keys, each with one value. The order of the
entries stands for the arbitrary iteration order of the real map. -/
abbrev KeyedMap (κ ν : Type) := AList fun _ : κ ↦ ν

namespace KeyedMap

def values (m : KeyedMap κ ν) : List ν := m.entries.map Sigma.snd

/-- Update every value in place, as a pass with a mutable iterator does. -/
def mapVal (f : ν → μ) (m : KeyedMap κ ν) : KeyedMap κ μ where
  entries := m.entries.map fun e ↦ ⟨e.1, f e.2⟩
  nodupKeys := by
    have h : (m.entries.map fun e ↦ (⟨e.1, f e.2⟩ : Sigma fun _ : κ ↦ μ)).keys = m.entries.keys := by
      simp [List.keys, Function.comp_def]
    rw [List.NodupKeys, h]
    exact m.nodupKeys

def retain (p : κ → ν → Bool) (m : KeyedMap κ ν) : KeyedMap κ ν where
  entries := m.entries.filter fun e ↦ p e.1 e.2
  nodupKeys := m.nodupKeys.sublist List.filter_sublist

def size (m : KeyedMap κ ν) : ℕ := m.entries.length

theorem length_keys (m : KeyedMap κ ν) : m.keys.length = size m := List.length_map _

variable [DecidableEq κ]

theorem size_erase (k : κ) (m : KeyedMap κ ν) :
    size (m.erase k) + (if (m.lookup k).isSome then 1 else 0) = size m := by
  have hkeys : (m.erase k).keys = m.keys.erase k := AList.keys_erase k m
  have hmem : (m.lookup k).isSome ↔ k ∈ m.keys := AList.lookup_isSome
  rw [← length_keys, hkeys, ← length_keys]
  by_cases h : k ∈ m.keys
  · rw [if_pos (hmem.mpr h), List.length_erase_of_mem h]
    exact Nat.sub_add_cancel (List.length_pos_of_mem h)
  · rw [if_neg fun hs ↦ h (hmem.mp hs), List.erase_of_not_mem h, Nat.add_zero]

theorem size_insert (k : κ) (v : ν) (m : KeyedMap κ ν) :
    size (m.insert k v) + (if (m.lookup k).isSome then 1 else 0) = size m + 1 := by
  have hsize : size (m.insert k v) = size (m.erase k) + 1 := rfl
  have herase := size_erase k m
  omega

theorem lookup_eq_some_iff {m : KeyedMap κ ν} {k : κ} {v : ν} :
    m.lookup k = some v ↔ (⟨k, v⟩ : Sigma fun _ : κ ↦ ν) ∈ m.entries :=
  AList.mem_lookup_iff

@[simp] theorem lookup_mapVal (f : ν → μ) (m : KeyedMap κ ν) (k : κ) :
    (mapVal f m).lookup k = (m.lookup k).map f := by
  apply Option.ext
  intro w
  simp only [Option.map_eq_some_iff, lookup_eq_some_iff, mapVal, List.mem_map]
  constructor
  · rintro ⟨⟨k', v⟩, hmem, he⟩
    cases he
    exact ⟨v, hmem, rfl⟩
  · rintro ⟨v, hmem, rfl⟩
    exact ⟨⟨k, v⟩, hmem, rfl⟩

@[simp] theorem lookup_retain (p : κ → ν → Bool) (m : KeyedMap κ ν) (k : κ) :
    (retain p m).lookup k = (m.lookup k).filter (p k) := by
  apply Option.ext
  intro v
  simp only [lookup_eq_some_iff, retain, List.mem_filter, Option.filter_eq_some_iff]

def modify (k : κ) (f : ν → ν) (m : KeyedMap κ ν) : KeyedMap κ ν :=
  match m.lookup k with
  | none => m
  | some v => m.insert k (f v)

/-- `entry(k).or_insert(v)`: the value stays if there is one. -/
def orInsert (k : κ) (v : ν) (m : KeyedMap κ ν) : KeyedMap κ ν :=
  match m.lookup k with
  | none => m.insert k v
  | some _ => m

theorem mem_values {m : KeyedMap κ ν} {v : ν} : v ∈ values m ↔ ∃ k, m.lookup k = some v := by
  simp only [values, List.mem_map, lookup_eq_some_iff]
  constructor
  · rintro ⟨⟨k, v'⟩, hmem, rfl⟩
    exact ⟨k, hmem⟩
  · rintro ⟨k, hmem⟩
    exact ⟨⟨k, v⟩, hmem, rfl⟩

/-- The values come apart if each does and no two keys have something in common. -/
theorem nodup_flatMap_values {m : KeyedMap κ ν} {f : ν → List μ}
    (hnodup : ∀ k v, m.lookup k = some v → (f v).Nodup)
    (hapart : ∀ k k' v v' x, m.lookup k = some v → m.lookup k' = some v' → x ∈ f v → x ∈ f v' →
      k = k') : ((values m).flatMap f).Nodup := by
  rw [values, List.flatMap_map, List.nodup_flatMap]
  constructor
  · intro e he
    exact hnodup e.1 e.2 (lookup_eq_some_iff.mpr he)
  · refine m.nodupKeys.pairwise_ne.imp_of_mem ?_
    intro e e' he he' hne x hx hx'
    exact hne (hapart e.1 e'.1 e.2 e'.2 x (lookup_eq_some_iff.mpr he)
      (lookup_eq_some_iff.mpr he') hx hx')

theorem lookup_insert_if (m : KeyedMap κ ν) (k k' : κ) (v : ν) :
    (m.insert k v).lookup k' = if k' = k then some v else m.lookup k' := by
  by_cases h : k' = k
  · subst h; simp
  · simp [h, AList.lookup_insert_ne h]

theorem lookup_erase_if (m : KeyedMap κ ν) (k k' : κ) :
    (m.erase k).lookup k' = if k' = k then none else m.lookup k' := by
  by_cases h : k' = k
  · subst h; simp
  · simp [h, AList.lookup_erase_ne h]

theorem lookup_insert_eq_some {m : KeyedMap κ ν} {k k' : κ} {v v' : ν} :
    (m.insert k v).lookup k' = some v' ↔ k' = k ∧ v' = v ∨ k' ≠ k ∧ m.lookup k' = some v' := by
  rw [lookup_insert_if]
  by_cases h : k' = k
  · simp [h, eq_comm]
  · simp [h]

theorem lookup_erase_eq_some {m : KeyedMap κ ν} {k k' : κ} {v : ν} :
    (m.erase k).lookup k' = some v ↔ k' ≠ k ∧ m.lookup k' = some v := by
  rw [lookup_erase_if]
  by_cases h : k' = k
  · simp [h]
  · simp [h]

/-- What holds of all entries holds of them after an insertion, if it holds of the new one. -/
theorem forall_lookup_insert {P : κ → ν → Prop} {m : KeyedMap κ ν} {k : κ} {v : ν} (hnew : P k v)
    (h : ∀ k' v', m.lookup k' = some v' → P k' v') (k' : κ) (v' : ν)
    (hlookup : (m.insert k v).lookup k' = some v') : P k' v' := by
  obtain ⟨rfl, rfl⟩ | ⟨-, hold⟩ := lookup_insert_eq_some.mp hlookup
  · exact hnew
  · exact h k' v' hold

theorem forall_lookup_erase {P : κ → ν → Prop} {m : KeyedMap κ ν} {k : κ}
    (h : ∀ k' v', m.lookup k' = some v' → P k' v') (k' : κ) (v' : ν)
    (hlookup : (m.erase k).lookup k' = some v') : P k' v' :=
  h k' v' (lookup_erase_eq_some.mp hlookup).2

theorem lookup_modify_if (m : KeyedMap κ ν) (k k' : κ) (f : ν → ν) :
    (modify k f m).lookup k' = if k' = k then (m.lookup k).map f else m.lookup k' := by
  unfold modify
  cases hm : m.lookup k with
  | none =>
    by_cases h : k' = k
    · subst h; simp [hm]
    · simp [h]
  | some v => rw [lookup_insert_if]; rfl

theorem lookup_orInsert_if (m : KeyedMap κ ν) (k k' : κ) (v : ν) :
    (orInsert k v m).lookup k' =
      if k' = k then (m.lookup k).or (some v) else m.lookup k' := by
  unfold orInsert
  cases hm : m.lookup k with
  | none => rw [lookup_insert_if]; rfl
  | some w =>
    by_cases h : k' = k
    · subst h; simp [hm]
    · simp [h]

theorem lookup_foldl_erase (ks : List κ) (m : KeyedMap κ ν) (k : κ) :
    (ks.foldl (fun m k ↦ m.erase k) m).lookup k = if k ∈ ks then none else m.lookup k := by
  induction ks generalizing m with
  | nil => simp
  | cons a ks ih =>
    rw [List.foldl_cons, ih, lookup_erase_if]
    by_cases ha : k = a <;> by_cases hk : k ∈ ks <;> simp [ha, hk]

theorem lookup_foldl_insert (f : ν → μ) (m : KeyedMap κ ν) (m' : KeyedMap κ μ) (k : κ) :
    (m.entries.foldl (fun acc e ↦ acc.insert e.1 (f e.2)) m').lookup k =
      ((m.lookup k).map f).or (m'.lookup k) := by
  suffices h : ∀ (es : List (Sigma fun _ : κ ↦ ν)) (m' : KeyedMap κ μ), es.NodupKeys →
      (es.foldl (fun acc e ↦ acc.insert e.1 (f e.2)) m').lookup k =
        ((es.dlookup k).map f).or (m'.lookup k) from h m.entries m' m.nodupKeys
  intro es
  induction es with
  | nil => exact fun _ _ ↦ rfl
  | cons e es ih =>
    intro m' hnodup
    obtain ⟨hnew, hrest⟩ := List.nodupKeys_cons.mp hnodup
    rw [List.foldl_cons, ih _ hrest, lookup_insert_if]
    obtain ⟨k', v⟩ := e
    by_cases hk : k = k'
    · subst hk
      rw [List.dlookup_eq_none.mpr hnew, List.dlookup_cons_eq]
      simp
    · rw [if_neg hk, List.dlookup_cons_ne _ _ hk]

/-- Inserting pairs with distinct keys, each value converted: the order does not matter. -/
theorem lookup_foldl_insert_pairs (f : κ → ν → μ) {es : List (κ × ν)}
    (hnodup : (es.map Prod.fst).Nodup) (m : KeyedMap κ μ) (k : κ) (w : μ) :
    (es.foldl (fun acc e ↦ acc.insert e.1 (f e.1 e.2)) m).lookup k = some w ↔
      (∃ v, (k, v) ∈ es ∧ f k v = w) ∨ k ∉ es.map Prod.fst ∧ m.lookup k = some w := by
  induction es generalizing m with
  | nil => simp
  | cons e es ih =>
    obtain ⟨k', v'⟩ := e
    obtain ⟨hnew, hrest⟩ := List.nodup_cons.mp hnodup
    rw [List.foldl_cons, ih hrest, lookup_insert_if]
    by_cases hk : k = k'
    · subst hk
      have hmem (v : ν) : (k, v) ∉ es := fun h ↦ hnew (List.mem_map.mpr ⟨_, h, rfl⟩)
      simp [hmem]
    · simp [hk]

end KeyedMap

end AdkGateway.Foundation
