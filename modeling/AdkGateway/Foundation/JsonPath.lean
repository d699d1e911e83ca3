import AdkGateway.Foundation.Json

namespace AdkGateway.Foundation.Json

mutual

def strings : Option String → Json → List (Option String × String)
  | name, .string s => [(name, s)]
  | _, .array items => itemStrings items
  | _, .object fields => fieldStrings fields
  | _, _ => []

def itemStrings : List Json → List (Option String × String)
  | [] => []
  | item :: items => strings none item ++ itemStrings items

def fieldStrings : List (String × Json) → List (Option String × String)
  | [] => []
  | (key, value) :: fields => strings (some key) value ++ fieldStrings fields

end

mutual

def skeleton : Json → Json
  | .string _ => .string ""
  | .array items => .array (itemSkeletons items)
  | .object fields => .object (fieldSkeletons fields)
  | j => j

def itemSkeletons : List Json → List Json
  | [] => []
  | item :: items => skeleton item :: itemSkeletons items

def fieldSkeletons : List (String × Json) → List (String × Json)
  | [] => []
  | (key, value) :: fields => (key, skeleton value) :: fieldSkeletons fields

end

section Walk

variable {σ : Type} (f : Option String → String → σ → String × σ)

mutual

/-- Every string is replaced in turn, by what its field name, itself and a state
that is handed on give. -/
def walk : Option String → Json → σ → Json × σ
  | name, .string s, st => (.string (f name s st).1, (f name s st).2)
  | _, .array items, st => (.array (walkItems items st).1, (walkItems items st).2)
  | _, .object fields, st => (.object (walkFields fields st).1, (walkFields fields st).2)
  | _, j, st => (j, st)

def walkItems : List Json → σ → List Json × σ
  | [], st => ([], st)
  | item :: items, st =>
    ((walk none item st).1 :: (walkItems items (walk none item st).2).1,
      (walkItems items (walk none item st).2).2)

def walkFields : List (String × Json) → σ → List (String × Json) × σ
  | [], st => ([], st)
  | (key, value) :: fields, st =>
    ((key, (walk (some key) value st).1) :: (walkFields fields (walk (some key) value st).2).1,
      (walkFields fields (walk (some key) value st).2).2)

end

def visit : List (Option String × String) → σ → List (Option String × String) × σ
  | [], st => ([], st)
  | (name, s) :: rest, st =>
    ((name, (f name s st).1) :: (visit rest (f name s st).2).1, (visit rest (f name s st).2).2)

variable {f}

theorem visit_append (xs ys : List (Option String × String)) (st : σ) :
    visit f (xs ++ ys) st =
      ((visit f xs st).1 ++ (visit f ys (visit f xs st).2).1, (visit f ys (visit f xs st).2).2) := by
  induction xs generalizing st with
  | nil => rfl
  | cons x xs ih => simp only [List.cons_append, visit, ih]

theorem visit_strings (name : Option String) (j : Json) (st : σ) :
    visit f (strings name j) st = (strings name (walk f name j st).1, (walk f name j st).2) := by
  induction j using induct generalizing name st with
  | array items ih =>
    simp only [strings, walk]
    induction items generalizing st with
    | nil => rfl
    | cons item items ihs =>
      obtain ⟨hitem, hitems⟩ := List.forall_mem_cons.mp ih
      simp only [itemStrings, walkItems, visit_append, hitem, ihs hitems]
  | object fields ih =>
    simp only [strings, walk]
    induction fields generalizing st with
    | nil => rfl
    | cons field fields ihs =>
      obtain ⟨hfield, hfields⟩ := List.forall_mem_cons.mp ih
      simp only [fieldStrings, walkFields, visit_append, hfield, ihs hfields]
  | _ => rfl

theorem skeleton_walk (name : Option String) (j : Json) (st : σ) :
    skeleton (walk f name j st).1 = skeleton j := by
  induction j using induct generalizing name st with
  | array items ih =>
    simp only [skeleton, walk, array.injEq]
    induction items generalizing st with
    | nil => rfl
    | cons item items ihs =>
      obtain ⟨hitem, hitems⟩ := List.forall_mem_cons.mp ih
      simp only [itemSkeletons, walkItems, hitem, ihs hitems]
  | object fields ih =>
    simp only [skeleton, walk, object.injEq]
    induction fields generalizing st with
    | nil => rfl
    | cons field fields ihs =>
      obtain ⟨hfield, hfields⟩ := List.forall_mem_cons.mp ih
      simp only [fieldSkeletons, walkFields, hfield, ihs hfields]
  | _ => rfl

end Walk

theorem length_strings {j j' : Json} (h : skeleton j = skeleton j') (name : Option String) :
    (strings name j).length = (strings name j').length := by
  induction j using induct generalizing j' name with
  | array items ih =>
    cases j' with
    | array items' =>
      rw [skeleton, skeleton, array.injEq] at h
      rw [strings, strings]
      induction items generalizing items' with
      | nil => cases items' <;> simp [itemSkeletons] at h ⊢
      | cons item items ihs =>
        obtain ⟨hitem, hitems⟩ := List.forall_mem_cons.mp ih
        cases items' with
        | nil => cases h
        | cons item' items' =>
          obtain ⟨hhead, htail⟩ := List.cons_eq_cons.mp h
          simp only [itemStrings, List.length_append, hitem hhead, ihs hitems items' htail]
    | _ => cases h
  | object fields ih =>
    cases j' with
    | object fields' =>
      rw [skeleton, skeleton, object.injEq] at h
      rw [strings, strings]
      induction fields generalizing fields' with
      | nil => cases fields' <;> simp [fieldSkeletons] at h ⊢
      | cons field fields ihs =>
        obtain ⟨hfield, hfields⟩ := List.forall_mem_cons.mp ih
        cases fields' with
        | nil => cases h
        | cons field' fields' =>
          obtain ⟨hhead, htail⟩ := List.cons_eq_cons.mp h
          obtain ⟨hkey, hvalue⟩ := Prod.mk.inj hhead
          simp only [fieldStrings, List.length_append, hkey, hfield hvalue, ihs hfields fields' htail]
    | _ => cases h
  | _ => cases j' <;> first | rfl | cases h

theorem eq_of_skeleton {j j' : Json} {name : Option String} (h : skeleton j = skeleton j')
    (hs : strings name j = strings name j') : j = j' := by
  induction j using induct generalizing j' name with
  | array items ih =>
    cases j' with
    | array items' =>
      rw [skeleton, skeleton, array.injEq] at h
      rw [strings, strings] at hs
      rw [array.injEq]
      induction items generalizing items' with
      | nil => cases items' <;> simp [itemSkeletons] at h ⊢
      | cons item items ihs =>
        obtain ⟨hitem, hitems⟩ := List.forall_mem_cons.mp ih
        cases items' with
        | nil => cases h
        | cons item' items' =>
          obtain ⟨hhead, htail⟩ := List.cons_eq_cons.mp h
          obtain ⟨hhead', htail'⟩ := List.append_inj hs (length_strings hhead none)
          rw [hitem hhead hhead', ihs hitems items' htail htail']
    | _ => cases h
  | object fields ih =>
    cases j' with
    | object fields' =>
      rw [skeleton, skeleton, object.injEq] at h
      rw [strings, strings] at hs
      rw [object.injEq]
      induction fields generalizing fields' with
      | nil => cases fields' <;> simp [fieldSkeletons] at h ⊢
      | cons field fields ihs =>
        obtain ⟨hfield, hfields⟩ := List.forall_mem_cons.mp ih
        cases fields' with
        | nil => cases h
        | cons field' fields' =>
          obtain ⟨hhead, htail⟩ := List.cons_eq_cons.mp h
          obtain ⟨hkey, hvalue⟩ := Prod.mk.inj hhead
          simp only [fieldStrings, hkey] at hs
          obtain ⟨hhead', htail'⟩ := List.append_inj hs (length_strings hvalue _)
          rw [ihs hfields fields' htail htail', List.cons.injEq]
          exact ⟨Prod.ext hkey (hfield hvalue hhead'), rfl⟩
    | _ => cases h
  | string s =>
    cases j' with
    | string s' => exact congrArg Json.string (Prod.mk.inj (List.cons.inj hs).1).2
    | _ => cases h
  | _ => cases j' <;> first | exact h | cases h

theorem walk_eq_of_visit {σ : Type} {f : Option String → String → σ → String × σ} {j j' : Json}
    {name : Option String} {st st' : σ} (h : skeleton j = skeleton j')
    (hv : visit f (strings name j) st = (strings name j', st')) :
    walk f name j st = (j', st') := by
  rw [visit_strings] at hv
  obtain ⟨hs, hst⟩ := Prod.mk.inj hv
  exact Prod.ext (eq_of_skeleton ((skeleton_walk name j st).trans h) hs) hst

inductive Step
  | key (name : String)
  | item (i : ℕ)
  deriving DecidableEq

def child : Step → Json → Option Json
  | .key name, j => j.get name
  | .item i, .array items => items[i]?
  | .item _, _ => none

def valueAt : List Step → Json → Option Json
  | [], j => some j
  | step :: path, j => (j.child step).bind (valueAt path)

def nameAt : Option String → List Step → Option String
  | name, [] => name
  | _, .key name :: path => nameAt (some name) path
  | _, .item _ :: path => nameAt none path

section Places

variable {name : Option String} {path : List Step} {j : Json} {s : String}

theorem child_cases {step : Step} {value : Json} (h : j.child step = some value) :
    (∃ fields key, j = .object fields ∧ step = .key key ∧ fields.lookup key = some value) ∨
      ∃ items i, j = .array items ∧ step = .item i ∧ items[i]? = some value := by
  cases j with
  | object fields =>
    cases step with
    | key key => exact .inl ⟨fields, key, rfl, rfl, h⟩
    | item i => cases h
  | array items =>
    cases step with
    | key key => cases h
    | item i => exact .inr ⟨items, i, rfl, rfl, h⟩
  | _ => cases step <;> cases h

theorem mem_itemStrings {items : List Json} {item : Json} (hitem : item ∈ items)
    {x : Option String × String} (hx : x ∈ strings none item) : x ∈ itemStrings items := by
  induction items with
  | nil => cases hitem
  | cons item' items ih =>
    rw [itemStrings, List.mem_append]
    obtain rfl | hitem := List.mem_cons.mp hitem
    · exact .inl hx
    · exact .inr (ih hitem)

theorem mem_fieldStrings {fields : List (String × Json)} {key : String} {value : Json}
    (hvalue : fields.lookup key = some value) {x : Option String × String}
    (hx : x ∈ strings (some key) value) : x ∈ fieldStrings fields := by
  induction fields with
  | nil => cases hvalue
  | cons field fields ih =>
    obtain ⟨key', value'⟩ := field
    rw [fieldStrings, List.mem_append]
    rw [List.lookup_cons] at hvalue
    split at hvalue
    case h_1 hkey =>
      obtain rfl : key = key' := by simpa using hkey
      obtain rfl := Option.some_inj.mp hvalue
      exact .inl hx
    case h_2 => exact .inr (ih hvalue)

theorem mem_strings_of_valueAt (h : j.valueAt path = some (.string s)) :
    (nameAt name path, s) ∈ j.strings name := by
  induction path generalizing name j with
  | nil =>
    obtain rfl := Option.some_inj.mp h
    exact List.mem_singleton.mpr rfl
  | cons step path ih =>
    obtain ⟨value, hchild, hvalue⟩ := Option.bind_eq_some_iff.mp h
    obtain ⟨fields, key, rfl, rfl, hfield⟩ | ⟨items, i, rfl, rfl, hitem⟩ := child_cases hchild
    · exact mem_fieldStrings hfield (ih hvalue)
    · exact mem_itemStrings (List.mem_of_getElem? hitem) (ih hvalue)

variable {σ : Type} {f : Option String → String → σ → String × σ}

theorem getElem?_walkItems {items : List Json} {i : ℕ} {item : Json} (hitem : items[i]? = some item)
    (st : σ) : ∃ st', (walkItems f items st).1[i]? = some (walk f none item st').1 := by
  induction items generalizing i st with
  | nil => cases hitem
  | cons item' items ih =>
    cases i with
    | zero =>
      obtain rfl := Option.some_inj.mp hitem
      exact ⟨st, rfl⟩
    | succ i => exact ih hitem _

theorem lookup_walkFields {fields : List (String × Json)} {key : String} {value : Json}
    (hvalue : fields.lookup key = some value) (st : σ) :
    ∃ st', (walkFields f fields st).1.lookup key = some (walk f (some key) value st').1 := by
  induction fields generalizing st with
  | nil => cases hvalue
  | cons field fields ih =>
    obtain ⟨key', value'⟩ := field
    rw [List.lookup_cons] at hvalue
    rw [walkFields, List.lookup_cons]
    split at hvalue
    case h_1 hkey =>
      obtain rfl : key = key' := by simpa using hkey
      obtain rfl := Option.some_inj.mp hvalue
      exact ⟨st, rfl⟩
    case h_2 => exact ih hvalue _

theorem valueAt_walk (h : j.valueAt path = some (.string s)) (st : σ) :
    ∃ st', (walk f name j st).1.valueAt path = some (.string (f (nameAt name path) s st').1) := by
  induction path generalizing name j st with
  | nil =>
    obtain rfl := Option.some_inj.mp h
    exact ⟨st, rfl⟩
  | cons step path ih =>
    obtain ⟨value, hchild, hvalue⟩ := Option.bind_eq_some_iff.mp h
    obtain ⟨fields, key, rfl, rfl, hfield⟩ | ⟨items, i, rfl, rfl, hitem⟩ := child_cases hchild
    · obtain ⟨st', hst'⟩ := lookup_walkFields hfield st
      obtain ⟨st'', hst''⟩ := @ih (some key) value hvalue st'
      exact ⟨st'', Option.bind_eq_some_iff.mpr ⟨_, hst', hst''⟩⟩
    · obtain ⟨st', hst'⟩ := getElem?_walkItems hitem st
      obtain ⟨st'', hst''⟩ := @ih none value hvalue st'
      exact ⟨st'', Option.bind_eq_some_iff.mpr ⟨_, hst', hst''⟩⟩

end Places

section MapStrings

variable (f : Option String → String → String)

mutual

def mapStrings : Option String → Json → Json
  | name, .string s => .string (f name s)
  | _, .array items => .array (mapItems items)
  | _, .object fields => .object (mapFields fields)
  | _, j => j

def mapItems : List Json → List Json
  | [] => []
  | item :: items => mapStrings none item :: mapItems items

def mapFields : List (String × Json) → List (String × Json)
  | [] => []
  | (key, value) :: fields => (key, mapStrings (some key) value) :: mapFields fields

end

variable {f}

theorem mapStrings_eq_walk (name : Option String) (j : Json) :
    mapStrings f name j = (walk (fun name s st ↦ (f name s, st)) name j ()).1 := by
  induction j using induct generalizing name with
  | array items ih =>
    simp only [mapStrings, walk, array.injEq]
    induction items with
    | nil => rfl
    | cons item items ihs =>
      obtain ⟨hitem, hitems⟩ := List.forall_mem_cons.mp ih
      simp only [mapItems, walkItems, hitem, ihs hitems]
  | object fields ih =>
    simp only [mapStrings, walk, object.injEq]
    induction fields with
    | nil => rfl
    | cons field fields ihs =>
      obtain ⟨hfield, hfields⟩ := List.forall_mem_cons.mp ih
      simp only [mapFields, walkFields, hfield, ihs hfields]
  | _ => rfl

theorem visit_const (xs : List (Option String × String)) (st : Unit) :
    visit (fun name s st ↦ (f name s, st)) xs st = (xs.map fun x ↦ (x.1, f x.1 x.2), st) := by
  induction xs with
  | nil => rfl
  | cons x xs ih => rw [visit, ih, List.map_cons]

theorem strings_mapStrings (name : Option String) (j : Json) :
    (mapStrings f name j).strings name = (j.strings name).map fun x ↦ (x.1, f x.1 x.2) := by
  have hvisit := visit_strings (f := fun name s st ↦ (f name s, st)) name j ()
  rw [visit_const] at hvisit
  rw [mapStrings_eq_walk, ← (Prod.mk.inj hvisit).1]

theorem skeleton_mapStrings (name : Option String) (j : Json) :
    (mapStrings f name j).skeleton = j.skeleton := by
  rw [mapStrings_eq_walk, skeleton_walk]

theorem mapItems_eq (items : List Json) : mapItems f items = items.map (mapStrings f none) := by
  induction items with
  | nil => rfl
  | cons item items ih => rw [mapItems, ih, List.map_cons]

theorem lookup_mapFields (key : String) (fields : List (String × Json)) :
    (mapFields f fields).lookup key = (fields.lookup key).map (mapStrings f (some key)) := by
  induction fields with
  | nil => rfl
  | cons field fields ih =>
    obtain ⟨key', value⟩ := field
    rw [mapFields, List.lookup_cons, List.lookup_cons]
    by_cases hkey : key = key'
    · subst hkey
      simp
    · have hbeq : (key == key') = false := by simpa using hkey
      rw [hbeq]
      exact ih

theorem child_mapStrings (name : Option String) (step : Step) (j : Json) :
    (mapStrings f name j).child step = (j.child step).map (mapStrings f (nameAt none [step])) := by
  cases step with
  | key key =>
    cases j with
    | object fields => exact lookup_mapFields key fields
    | _ => rfl
  | item i =>
    cases j with
    | array items =>
      rw [mapStrings, child, child, mapItems_eq, List.getElem?_map]
      rfl
    | _ => rfl

theorem valueAt_mapStrings (name : Option String) (path : List Step) (j : Json) :
    (mapStrings f name j).valueAt path = (j.valueAt path).map (mapStrings f (nameAt name path)) := by
  induction path generalizing name j with
  | nil => rfl
  | cons step path ih =>
    rw [valueAt, valueAt, child_mapStrings, Option.bind_map, Option.map_bind]
    congr 1
    funext j'
    cases step with
    | key key => exact ih (some key) j'
    | item i => exact ih none j'

theorem mapStrings_eq_self_iff (name : Option String) (j : Json) :
    mapStrings f name j = j ↔ ∀ x ∈ j.strings name, f x.1 x.2 = x.2 := by
  induction j using induct generalizing name with
  | string s => simp [mapStrings, strings]
  | array items ih =>
    rw [mapStrings, strings, array.injEq]
    induction items with
    | nil => simp [mapItems, itemStrings]
    | cons item items ihs =>
      obtain ⟨hitem, hitems⟩ := List.forall_mem_cons.mp ih
      rw [mapItems, itemStrings, List.cons.injEq, List.forall_mem_append, hitem, ihs hitems]
  | object fields ih =>
    rw [mapStrings, strings, object.injEq]
    induction fields with
    | nil => simp [mapFields, fieldStrings]
    | cons field fields ihs =>
      obtain ⟨key, value⟩ := field
      obtain ⟨hfield, hfields⟩ := List.forall_mem_cons.mp ih
      rw [mapFields, fieldStrings, List.cons.injEq, List.forall_mem_append, ihs hfields,
        Prod.mk.injEq, hfield]
      simp
  | _ => simp [mapStrings, strings]

end MapStrings

end AdkGateway.Foundation.Json
