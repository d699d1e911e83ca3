import AdkGateway.Foundation.JsonPath

namespace AdkGateway.Foundation.Json

section Fields

def insertField (key : String) (value : Json) (fields : List (String × Json)) :
    List (String × Json) :=
  (key, value) :: fields.filter fun field ↦ field.1 ≠ key

def without (key : String) : Json → Json
  | .object fields => .object (fields.filter fun field ↦ field.1 ≠ key)
  | j => j

variable {key key' : String} {value : Json} {fields : List (String × Json)}

theorem lookup_filter_ne (hne : key' ≠ key) :
    (fields.filter fun field ↦ field.1 ≠ key).lookup key' = fields.lookup key' := by
  induction fields with
  | nil => rfl
  | cons field fields ih =>
    obtain ⟨name, value⟩ := field
    by_cases hname : name = key
    · have hbeq : (key' == name) = false := by simpa [hname] using hne
      rw [List.filter_cons_of_neg (by simpa using hname), List.lookup_cons, hbeq]
      exact ih
    · rw [List.filter_cons_of_pos (by simpa using hname), List.lookup_cons, List.lookup_cons, ih]

theorem lookup_filter_self : (fields.filter fun field ↦ field.1 ≠ key).lookup key = none := by
  rw [List.lookup_eq_none_iff]
  intro field hmem
  have hne := of_decide_eq_true (List.mem_filter.mp hmem).2
  simpa using Ne.symm hne

theorem lookup_insertField_self : (insertField key value fields).lookup key = some value := by
  simp [insertField]

theorem lookup_insertField_ne (hne : key' ≠ key) :
    (insertField key value fields).lookup key' = fields.lookup key' := by
  have hbeq : (key' == key) = false := by simpa using hne
  rw [insertField, List.lookup_cons, hbeq]
  exact lookup_filter_ne hne

end Fields

section Paths

def keyPath (keys : List String) : List Step := keys.map .key

def Comparable (p q : List Step) : Prop := p <+: q ∨ q <+: p

theorem Comparable.of_append {p q rest : List Step} (h : Comparable (p ++ rest) q) :
    Comparable p q := by
  rcases h with h | h
  · exact .inl ((List.prefix_append p rest).trans h)
  · exact List.prefix_or_prefix_of_prefix (List.prefix_append p rest) h

theorem Comparable.cons {step : Step} {p q : List Step} (h : Comparable p q) :
    Comparable (step :: p) (step :: q) :=
  h.imp (fun h ↦ List.cons_prefix_cons.mpr ⟨rfl, h⟩) (fun h ↦ List.cons_prefix_cons.mpr ⟨rfl, h⟩)

theorem valueAt_append (p q : List Step) (j : Json) :
    j.valueAt (p ++ q) = (j.valueAt p).bind (valueAt q) := by
  induction p generalizing j with
  | nil => rfl
  | cons step p ih =>
    rw [List.cons_append, valueAt, valueAt, Option.bind_assoc]
    congr 1
    funext j'
    exact ih j'

theorem valueAt_keyPath_singleton (key : String) (j : Json) :
    j.valueAt (keyPath [key]) = j.get key := by
  have hbind : j.valueAt (keyPath [key]) = (j.get key).bind (valueAt []) := rfl
  rw [hbind]
  cases j.get key <;> rfl

theorem valueAt_null {p : List Step} (hne : p ≠ []) : Json.null.valueAt p = none := by
  cases p with
  | nil => exact absurd rfl hne
  | cons step p => cases step <;> rfl

theorem valueAt_getD_null {p : List Step} (hne : p ≠ []) (j : Option Json) :
    (j.getD .null).valueAt p = j.bind (valueAt p) := by
  cases j with
  | none => exact valueAt_null hne
  | some j => rfl

end Paths

section IndexMut

variable {f : Json → Json} {j j' : Json}

/-- What is at the keys is replaced. A null on the way becomes an object, and anything else that is
no object cannot be indexed. -/
def indexMut (f : Json → Json) : List String → Json → Option Json
  | [], j => some (f j)
  | key :: keys, .null => (indexMut f keys .null).map fun value ↦ .object [(key, value)]
  | key :: keys, .object fields =>
    (indexMut f keys ((fields.lookup key).getD .null)).map fun value ↦
      .object (insertField key value fields)
  | _ :: _, _ => none

theorem indexMut_cons {key : String} {keys : List String}
    (h : indexMut f (key :: keys) j = some j') : ∃ value,
      indexMut f keys ((j.child (.key key)).getD .null) = some value ∧
      j'.child (.key key) = some value ∧
      ∀ step, step ≠ .key key → j'.child step = j.child step := by
  cases j with
  | null =>
    obtain ⟨value, hvalue, rfl⟩ := Option.map_eq_some_iff.mp h
    refine ⟨value, hvalue, by simp [child, get], ?_⟩
    intro step hstep
    cases step with
    | key key' =>
      have hbeq : (key' == key) = false := by simpa using fun heq : key' = key ↦ hstep (heq ▸ rfl)
      rw [child, get, List.lookup_cons, hbeq]
      rfl
    | item i => rfl
  | object fields =>
    obtain ⟨value, hvalue, rfl⟩ := Option.map_eq_some_iff.mp h
    refine ⟨value, hvalue, lookup_insertField_self, ?_⟩
    intro step hstep
    cases step with
    | key key' => exact lookup_insertField_ne fun heq ↦ hstep (heq ▸ rfl)
    | item i => rfl
  | _ => cases h

theorem valueAt_indexMut {keys : List String} (h : indexMut f keys j = some j')
    (rest : List Step) : j'.valueAt (keyPath keys ++ rest) =
      (f ((j.valueAt (keyPath keys)).getD .null)).valueAt rest := by
  induction keys generalizing j j' with
  | nil =>
    obtain rfl := Option.some_inj.mp h
    rfl
  | cons key keys ih =>
    obtain ⟨value, hvalue, hchild, -⟩ := indexMut_cons h
    have hcons : keyPath (key :: keys) = .key key :: keyPath keys := rfl
    have hsame : (((j.child (.key key)).getD .null).valueAt (keyPath keys)).getD .null =
        (j.valueAt (keyPath (key :: keys))).getD .null := by
      rw [hcons, valueAt]
      cases j.child (.key key) with
      | none => cases keys <;> rfl
      | some j => rfl
    rw [← hsame, ← ih hvalue, hcons, List.cons_append, valueAt, hchild]
    rfl

theorem valueAt_indexMut_of_apart {keys : List String} (h : indexMut f keys j = some j')
    {p : List Step} (hp : ¬ Comparable p (keyPath keys)) : j'.valueAt p = j.valueAt p := by
  induction keys generalizing j j' p with
  | nil => exact absurd (.inr (List.nil_prefix)) hp
  | cons key keys ih =>
    obtain ⟨value, hvalue, hchild, hother⟩ := indexMut_cons h
    cases p with
    | nil => exact absurd (.inl List.nil_prefix) hp
    | cons step p =>
      by_cases hstep : step = .key key
      · subst hstep
        have hp' : ¬ Comparable p (keyPath keys) := fun h ↦ hp h.cons
        have hne : p ≠ [] := fun heq ↦ hp' (.inl (heq ▸ List.nil_prefix))
        rw [valueAt, hchild, Option.bind_some, ih hvalue hp', valueAt, valueAt_getD_null hne]
      · rw [valueAt, valueAt, hother step hstep]

end IndexMut

section Replacement

def adjust (key : String) (f : Json → Json) : Json → Json
  | .object fields => .object (fields.map fun field ↦
      if field.1 = key then (field.1, f field.2) else field)
  | j => j

def adjustAt (f : Json → Json) : List String → Json → Json
  | [], j => f j
  | key :: keys, j => adjust key (adjustAt f keys) j

variable {f g : Json → Json} {key : String} {keys : List String} {path : List Step} {j : Json}
  {s m : String}

theorem adjust_adjust (key : String) (f g : Json → Json) (j : Json) :
    adjust key g (adjust key f j) = adjust key (fun value ↦ g (f value)) j := by
  cases j with
  | object fields =>
    simp only [adjust, List.map_map, object.injEq]
    refine List.map_congr_left fun field _ ↦ ?_
    by_cases hkey : field.1 = key
    · simp [hkey]
    · simp [hkey]
  | _ => rfl

theorem get_adjust (key' : String) (j : Json) :
    (adjust key f j).get key' = (j.get key').map (if key' = key then f else id) := by
  cases j with
  | object fields =>
    rw [adjust, get, get]
    induction fields with
    | nil => rfl
    | cons field fields ih =>
      obtain ⟨name, value⟩ := field
      rw [List.map_cons, List.lookup_cons, List.lookup_cons, ih]
      by_cases hname : key' = name
      · subst hname
        by_cases hkey : key' = key
        · simp [hkey]
        · simp [hkey]
      · have hbeq : (key' == name) = false := by simpa using hname
        by_cases hkey : name = key
        · rw [if_pos hkey, hbeq]
        · rw [if_neg hkey, hbeq]
  | _ => rfl

theorem get_adjust_self (j : Json) : (adjust key f j).get key = (j.get key).map f := by
  rw [get_adjust, if_pos rfl]

theorem get_adjust_ne {key' : String} (hne : key' ≠ key) (j : Json) :
    (adjust key f j).get key' = j.get key' := by
  rw [get_adjust, if_neg hne, Option.map_id_fun, id]

theorem child_adjust_ne {step : Step} (hne : step ≠ .key key) (j : Json) :
    (adjust key f j).child step = j.child step := by
  cases step with
  | key key' => exact get_adjust_ne (fun heq ↦ hne (congrArg Step.key heq)) j
  | item i => cases j <;> rfl

theorem valueAt_adjustAt_self (keys : List String) (j : Json) :
    (adjustAt f keys j).valueAt (keyPath keys) = (j.valueAt (keyPath keys)).map f := by
  induction keys generalizing j with
  | nil => rfl
  | cons key keys ih =>
    have hcons : keyPath (key :: keys) = .key key :: keyPath keys := rfl
    rw [hcons, adjustAt, valueAt, valueAt, child, child, get_adjust_self]
    cases j.get key with
    | none => rfl
    | some value => exact ih value

theorem valueAt_adjustAt_elsewhere (hpath : ¬ keyPath keys <+: path)
    (h : j.valueAt path = some (.string s)) :
    (adjustAt f keys j).valueAt path = some (.string s) := by
  induction keys generalizing path j with
  | nil => exact absurd List.nil_prefix hpath
  | cons key keys ih =>
    cases path with
    | nil =>
      obtain rfl := Option.some_inj.mp h
      rfl
    | cons step path =>
      by_cases hstep : step = .key key
      · subst hstep
        have hpath' : ¬ keyPath keys <+: path :=
          fun hprefix ↦ hpath (List.cons_prefix_cons.mpr ⟨rfl, hprefix⟩)
        obtain ⟨value, hchild, hvalue⟩ := Option.bind_eq_some_iff.mp h
        have hget : j.get key = some value := hchild
        rw [adjustAt, valueAt, child, get_adjust_self, hget]
        exact ih hpath' hvalue
      · rw [adjustAt, valueAt, child_adjust_ne hstep]
        exact h

theorem valueAt_of_prefix {p : List Step} (h : j.valueAt p = some (.string m))
    (hp : p <+: path) (hpath : j.valueAt path = some (.string s)) : s = m := by
  obtain ⟨rest, rfl⟩ := hp
  rw [valueAt_append, h] at hpath
  cases rest with
  | nil => exact (string.inj (Option.some_inj.mp hpath)).symm
  | cons step rest => cases step <;> cases hpath

def Masked (j : Json) (path : List Step) (m : String) : Prop :=
  ∃ p, p <+: path ∧ j.valueAt p = some (.string m)

theorem masked_iff (h : j.valueAt path = some (.string s)) : Masked j path m ↔ s = m := by
  constructor
  · rintro ⟨p, hp, hm⟩
    exact valueAt_of_prefix hm hp h
  · rintro rfl
    exact ⟨path, List.prefix_rfl, h⟩

def maskAll (m : String) (paths : List (List String)) (j : Json) : Json :=
  paths.foldl (fun j keys ↦ adjustAt (fun _ ↦ .string m) keys j) j

theorem masked_adjustAt_self (hpath : keyPath keys <+: path) (h : (j.valueAt path).isSome) :
    Masked (adjustAt (fun _ ↦ .string m) keys j) path m := by
  obtain ⟨rest, rfl⟩ := hpath
  rw [valueAt_append] at h
  refine ⟨keyPath keys, List.prefix_append _ _, ?_⟩
  rw [valueAt_adjustAt_self]
  cases hvalue : j.valueAt (keyPath keys) with
  | none => simp [hvalue] at h
  | some value => rfl

theorem Masked.adjustAt (h : Masked j path m) :
    Masked (adjustAt (fun _ ↦ .string m) keys j) path m := by
  obtain ⟨p, hp, hvalue⟩ := h
  by_cases hkeys : keyPath keys <+: p
  · obtain ⟨p', hp', hmask⟩ := masked_adjustAt_self (m := m) hkeys (by rw [hvalue]; rfl)
    exact ⟨p', hp'.trans hp, hmask⟩
  · exact ⟨p, hp, valueAt_adjustAt_elsewhere hkeys hvalue⟩

theorem Masked.maskAll (h : Masked j path m) (paths : List (List String)) :
    Masked (maskAll m paths j) path m := by
  induction paths generalizing j with
  | nil => exact h
  | cons keys paths ih => exact ih h.adjustAt

theorem valueAt_maskAll_elsewhere {paths : List (List String)}
    (hpaths : ¬ ∃ keys ∈ paths, keyPath keys <+: path) (h : j.valueAt path = some (.string s)) :
    (Json.maskAll m paths j).valueAt path = some (.string s) := by
  induction paths generalizing j with
  | nil => exact h
  | cons keys paths ih =>
    rw [List.exists_mem_cons_iff, not_or] at hpaths
    exact ih hpaths.2 (valueAt_adjustAt_elsewhere hpaths.1 h)

theorem masked_maskAll_iff (paths : List (List String)) (h : j.valueAt path = some (.string s)) :
    Masked (Json.maskAll m paths j) path m ↔ (∃ keys ∈ paths, keyPath keys <+: path) ∨ s = m := by
  induction paths generalizing j with
  | nil =>
    rw [masked_iff (j := Json.maskAll m [] j) h]
    simp
  | cons keys paths ih =>
    rw [List.exists_mem_cons_iff]
    by_cases hkeys : keyPath keys <+: path
    · have hmasked := masked_adjustAt_self (m := m) hkeys (by rw [h]; rfl)
      exact iff_of_true (hmasked.maskAll paths) (.inl (.inl hkeys))
    · rw [or_iff_right hkeys]
      exact ih (valueAt_adjustAt_elsewhere hkeys h)

end Replacement

inductive Edit
  | put (path : List String) (value : Json)
  | remove (path : List String) (name : String)

namespace Edit

def apply : Edit → Json → Option Json
  | put path value, j => indexMut (fun _ ↦ value) path j
  | remove path name, j => indexMut (without name) path j

def target : Edit → List Step
  | put path _ => keyPath path
  | remove path name => keyPath path ++ [.key name]

def value : Edit → Option Json
  | put _ value => some value
  | remove _ _ => none

def applyAll (edits : List Edit) (j : Json) : Option Json := edits.foldlM (fun j edit ↦ edit.apply j) j

variable {edit : Edit} {edits : List Edit} {j j' : Json}

theorem valueAt_apply (h : edit.apply j = some j') (rest : List Step) :
    j'.valueAt (edit.target ++ rest) = edit.value.bind (valueAt rest) := by
  cases edit with
  | put path value => exact valueAt_indexMut h rest
  | remove path name =>
    rw [target, List.append_assoc, valueAt_indexMut h]
    cases (j.valueAt (keyPath path)).getD .null with
    | object fields =>
      rw [without, List.singleton_append, valueAt, child, get, lookup_filter_self]
      rfl
    | _ => rfl

theorem valueAt_apply_of_apart (h : edit.apply j = some j') {p : List Step}
    (hp : ¬ Comparable p edit.target) : j'.valueAt p = j.valueAt p := by
  cases edit with
  | put path value => exact valueAt_indexMut_of_apart h hp
  | remove path name =>
    by_cases hpath : Comparable p (keyPath path)
    · rcases hpath with hbefore | ⟨rest, rfl⟩
      · exact absurd (.inl (hbefore.trans (List.prefix_append _ _))) hp
      · cases rest with
        | nil => exact absurd (.inl (by simp [target])) hp
        | cons step rest =>
          have hstep : step ≠ .key name := by
            intro heq
            subst heq
            exact hp (.inr ⟨rest, by simp [target]⟩)
          have hvalue := valueAt_indexMut h (step :: rest)
          rw [hvalue, valueAt_append, ← valueAt_getD_null (List.cons_ne_nil step rest)]
          cases (j.valueAt (keyPath path)).getD .null with
          | object fields =>
            cases step with
            | key key =>
              have hne : key ≠ name := fun heq ↦ hstep (heq ▸ rfl)
              rw [without, valueAt, valueAt, child, get, lookup_filter_ne hne]
              rfl
            | item i => rfl
          | _ => rfl
    · exact valueAt_indexMut_of_apart h hpath

/-- Edits apart from each other all take effect, and leave all else alone. -/
theorem applyAll_spec (h : applyAll edits j = some j')
    (hapart : edits.Pairwise fun e e' ↦ ¬ Comparable e.target e'.target) :
    (∀ e ∈ edits, ∀ rest, j'.valueAt (e.target ++ rest) = e.value.bind (valueAt rest)) ∧
      ∀ p, (∀ e ∈ edits, ¬ Comparable p e.target) → j'.valueAt p = j.valueAt p := by
  induction edits generalizing j with
  | nil =>
    obtain rfl := Option.some_inj.mp h
    exact ⟨nofun, fun _ _ ↦ rfl⟩
  | cons edit edits ih =>
    obtain ⟨j₁, happly, hrest⟩ := Option.bind_eq_some_iff.mp h
    obtain ⟨hedit, hapart⟩ := List.pairwise_cons.mp hapart
    obtain ⟨hvalues, hframe⟩ := ih hrest hapart
    constructor
    · intro e he rest
      rcases List.mem_cons.mp he with rfl | he
      · rw [hframe _ fun e' he' hcomparable ↦ hedit e' he' hcomparable.of_append]
        exact valueAt_apply happly rest
      · exact hvalues e he rest
    · intro p hp
      obtain ⟨hp₁, hp⟩ := List.forall_mem_cons.mp hp
      rw [hframe p hp]
      exact valueAt_apply_of_apart happly hp₁

end Edit

end AdkGateway.Foundation.Json
