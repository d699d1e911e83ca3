import AdkGateway.SchemaSanitizer.Parts

namespace AdkGateway.SchemaSanitizer

open Foundation

section Quiet

variable (p : Provider)

structure Quiet (fields : Fields) : Prop where
  noNames : fields.lookup "propertyNames" = none
  unresolved : (typeInfo p fields).resolvedType = none
  inclusive : (typeInfo p fields).isIntegerType = true →
    ∀ side : Side, fields.lookup side.exclusive = none
  single : ∀ value, fields.lookup "items" = some value → value.isArray = false
  untupled : p.convertsTuples = true →
    ∀ key items, fields.lookup key = some (.array items) → isTuple items = false

def Inert : Value → Prop := Value.Each Value.anywhere (fun _ fields ↦ Quiet p fields) ()

theorem inert_array {items : List Value} : Inert p (.array items) ↔ ∀ item ∈ items, Inert p item :=
  Value.each_array

theorem inert_object {fields : Fields} : Inert p (.object fields) ↔
    Quiet p fields ∧ ∀ field ∈ fields, Inert p field.2 := Value.each_object

end Quiet

section Fixed

variable {p : Provider} {fields : Fields} {value : Value}

/-- How many lists stand directly in one another at the front. -/
def frontDepth : Value → ℕ
  | .array (first :: _) => frontDepth first + 1
  | _ => 0

theorem frontDepth_sanitizeRecursive (value : Value) :
    frontDepth (sanitizeRecursive p value) = frontDepth value := by
  induction value using Value.induct with
  | array items ih =>
    rw [sanitizeRecursive_array]
    cases items with
    | nil => rfl
    | cons first rest => exact congrArg (· + 1) (ih first List.mem_cons_self)
  | object fields => rw [sanitizeRecursive_object]; rfl
  | _ => rw [sanitizeRecursive]

theorem dropped_of_quiet (h : Quiet p fields) {key : String} (hmem : ∃ value, fields.lookup key = some value) :
    dropped p fields key = false := by
  obtain ⟨value, hvalue⟩ := hmem
  have hadd : (typeInfo p fields).addNullable = false := by
    have hresolved := h.unresolved
    rw [typeInfo] at hresolved ⊢
    dsimp only at hresolved ⊢
    rw [hresolved]
    simp
  refine dropped_eq_false_iff.mpr ⟨?_, fun _ ↦ h.unresolved, ?_, ?_, ?_⟩
  · rintro rfl
    cases h.noNames.symm.trans hvalue
  · rintro hinteger side rfl
    cases (h.inclusive hinteger side).symm.trans hvalue
  · intro side _
    rw [givesWay, converted]
    cases hinteger : (typeInfo p fields).isIntegerType with
    | false => simp
    | true => simp [h.inclusive hinteger side]
  · rintro ⟨-, hnullable⟩
    cases hadd.symm.trans hnullable

theorem sanitizeValue_of_quiet (h : Quiet p fields) {key : String} (hvalue : fields.lookup key = some value) :
    sanitizeValue p value = sanitizeRecursive p value := by
  cases value with
  | array items =>
    rw [sanitizeValue_array, sanitizeRecursive_array]
    refine if_neg fun htuple ↦ ?_
    obtain ⟨hp, htuple⟩ := Bool.and_eq_true_iff.mp htuple
    cases (h.untupled hp key items hvalue).symm.trans htuple
  | _ => rfl

theorem single_of_not_array (h : value.isArray = false) : single value = some value := by
  cases value with
  | array items => cases h
  | _ => rfl

theorem part_of_quiet (h : Quiet p fields) {key : String} (hvalue : fields.lookup key = some value) :
    part p fields (key, value) = some value := by
  rw [part_of_not_dropped (dropped_of_quiet h ⟨value, hvalue⟩)]
  split
  next hitems =>
    subst hitems
    exact single_of_not_array (h.single value hvalue)
  next => rfl

theorem sanitizeAs_of_quiet (h : Quiet p fields) {key : String} (hvalue : fields.lookup key = some value) :
    sanitizeAs p key value = sanitizeRecursive p value := by
  rw [sanitizeAs, sanitizeValue_of_quiet h hvalue, ite_self]

theorem addNullable_of_unresolved (h : (typeInfo p fields).resolvedType = none) :
    (typeInfo p fields).addNullable = false := by
  rw [typeInfo] at h ⊢
  dsimp only at h ⊢
  rw [h]
  simp

theorem entry_of_quiet (h : Quiet p fields) {key : String} (hvalue : fields.lookup key = some value)
    (hfixed : sanitizeRecursive p value = value) :
    entry p (typeInfo p fields) (key, value) = some (key, value) := by
  obtain ⟨hnames, htype, hexclusive, -⟩ :=
    dropped_eq_false_iff.mp (dropped_of_quiet h ⟨value, hvalue⟩)
  rw [entry_plain hnames htype hexclusive, sanitizeValue_of_quiet h hvalue, hfixed]
  split
  next hitems =>
    subst hitems
    rw [single_of_not_array (h.single value hvalue), Option.map_some, hfixed]
  next => rfl

theorem newFields_of_quiet (hkeys : fields.keys.Nodup) (h : Quiet p fields)
    (hfixed : ∀ field ∈ fields, sanitizeRecursive p field.2 = field.2) :
    newFields p fields = fields := by
  have hentries : fields.filterMap (entry p (typeInfo p fields)) = fields := by
    refine (List.filterMap_congr fun field hfield ↦ ?_).trans List.filterMap_some
    obtain ⟨key, value⟩ := field
    exact entry_of_quiet h ((Fields.mem_iff_lookup hkeys).mp hfield) (hfixed _ hfield)
  rw [newFields, hentries, nullableEntry, addNullable_of_unresolved h.unresolved,
    if_neg Bool.false_ne_true, List.append_nil, Fields.insertAll_of_nodup, List.nil_append]
  rwa [List.nil_append]

theorem resolvedType_eq_some {type : String} (h : (typeInfo p fields).resolvedType = some type) :
    ∃ items, fields.lookup "type" = some (.array items) := by
  rw [typeInfo] at h
  obtain ⟨items, hitems, -⟩ := Option.bind_eq_some_iff.mp h
  obtain ⟨value, hvalue, harray⟩ := Option.bind_eq_some_iff.mp hitems
  cases value with
  | array items' => exact ⟨items', hvalue⟩
  | _ => cases harray

theorem not_isBound {key : String} (hlower : key ≠ "minimum") (hupper : key ≠ "maximum") :
    ¬ isBound key := by
  rintro ⟨side, rfl⟩
  cases side with
  | lower => exact hlower rfl
  | upper => exact hupper rfl

def SameShape (p : Provider) (fields : Fields) : Prop :=
  ∀ key value, fields.lookup key = some value → ∃ value', (newFields p fields).lookup key = some value' ∧
    value'.isArray = value.isArray ∧ frontDepth value' = frontDepth value

theorem isArray_items_of_sameShape (hkeys : fields.keys.Nodup) (h : SameShape p fields)
    (hvalue : fields.lookup "items" = some value) : value.isArray = false := by
  obtain ⟨value', hvalue', -, hdepth⟩ := h "items" value hvalue
  have hlookup := lookup_newFields (p := p) "items" hkeys
    (not_isBound (by decide) (by decide)) (fun hkey ↦ absurd hkey.1 (by decide))
  rw [hvalue', hvalue, Option.bind_some, own_plain (by decide)
    (fun hkey ↦ absurd hkey (by decide)) (fun _ side ↦ by cases side <;> decide), if_pos rfl]
    at hlookup
  cases value with
  | array items =>
    exfalso
    cases items with
    | nil => cases hlookup
    | cons first rest =>
      rw [Option.some_inj.mp hlookup, frontDepth_sanitizeRecursive, frontDepth] at hdepth
      exact absurd hdepth.symm (Nat.succ_ne_self _)
  | _ => rfl

theorem quiet_of_sameShape (hkeys : fields.keys.Nodup) (h : SameShape p fields) :
    Quiet p fields where
  noNames := by
    have hlookup := lookup_newFields (p := p) "propertyNames" hkeys
      (not_isBound (by decide) (by decide)) (fun hkey ↦ absurd hkey.1 (by decide))
    cases hvalue : fields.lookup "propertyNames" with
    | none => rfl
    | some value =>
      obtain ⟨value', hvalue', -⟩ := h _ _ hvalue
      rw [hvalue', hvalue] at hlookup
      cases hlookup
  unresolved := by
    have hlookup := lookup_newFields (p := p) "type" hkeys
      (not_isBound (by decide) (by decide)) (fun hkey ↦ absurd hkey.1 (by decide))
    cases hresolved : (typeInfo p fields).resolvedType with
    | none => rfl
    | some type =>
      obtain ⟨items, hitems⟩ := resolvedType_eq_some hresolved
      obtain ⟨value', hvalue', harray, -⟩ := h _ _ hitems
      rw [hvalue', hitems, Option.bind_some, own_type hresolved] at hlookup
      rw [Option.some_inj.mp hlookup] at harray
      cases harray
  inclusive hinteger side := by
    have hlookup := lookup_newFields (p := p) side.exclusive hkeys
      (fun ⟨side', heq⟩ ↦ side'.inclusive_ne_exclusive side heq.symm)
      (fun hkey ↦ absurd hkey.1 (by cases side <;> decide))
    cases hvalue : fields.lookup side.exclusive with
    | none => rfl
    | some value =>
      obtain ⟨value', hvalue', -⟩ := h _ _ hvalue
      rw [hvalue', hvalue, Option.bind_some, own_exclusive side hinteger] at hlookup
      cases hlookup
  single _ hvalue := isArray_items_of_sameShape hkeys h hvalue
  untupled hp key items hitems := by
    obtain ⟨value', hvalue', harray, -⟩ := h _ _ hitems
    obtain hscalar | ⟨value, hvalue, w, hpart, rfl⟩ := part_of_lookup hkeys hvalue'
    · cases value' with
      | array items' => cases hscalar
      | _ => cases harray
    · obtain rfl : value = .array items :=
        Option.some_inj.mp (((Fields.mem_iff_lookup hkeys).mp hvalue).symm.trans hitems)
      have hne : key ≠ "items" := by
        rintro rfl
        cases isArray_items_of_sameShape hkeys h hitems
      rw [part] at hpart
      split at hpart
      · cases hpart
      · obtain rfl := Option.some_inj.mp hpart
        rw [sanitizeAs, if_neg hne, sanitizeValue_array, hp, Bool.true_and] at harray
        cases htuple : isTuple items with
        | false => rfl
        | true =>
          rw [htuple] at harray
          cases harray

theorem quiet_of_newFields (hkeys : fields.keys.Nodup) (h : newFields p fields = fields) :
    Quiet p fields := by
  refine quiet_of_sameShape hkeys fun key value hvalue ↦ ⟨value, ?_, rfl, rfl⟩
  rw [h, hvalue]

theorem sanitizeRecursive_eq_self_iff {v : Value} (hv : v.Distinct) :
    sanitizeRecursive p v = v ↔ Inert p v := by
  induction v using Value.induct with
  | array items ih =>
    have hmap : items.map (sanitizeRecursive p) = items ↔
        ∀ item ∈ items, sanitizeRecursive p item = item := by
      simpa using List.map_eq_map_iff (f := sanitizeRecursive p) (g := id) (l := items)
    rw [sanitizeRecursive_array, inert_array, Value.array.injEq, hmap]
    exact forall₂_congr fun item hitem ↦ ih item hitem (Value.distinct_array.mp hv item hitem)
  | object fields ih =>
    obtain ⟨hkeys, hdistinct⟩ := Value.distinct_object.mp hv
    rw [sanitizeRecursive_object, inert_object, Value.object.injEq]
    constructor
    · intro h
      have hquiet := quiet_of_newFields hkeys h
      refine ⟨hquiet, fun field hfield ↦ (ih field hfield (hdistinct field hfield)).mp ?_⟩
      obtain ⟨key, value⟩ := field
      have hvalue := (Fields.mem_iff_lookup hkeys).mp hfield
      have hlookup := lookup_of_part hkeys hfield (part_of_quiet hquiet hvalue)
      rw [h, hvalue, sanitizeAs_of_quiet hquiet hvalue] at hlookup
      exact (Option.some_inj.mp hlookup).symm
    · rintro ⟨hquiet, hparts⟩
      exact newFields_of_quiet hkeys hquiet fun field hfield ↦
        (ih field hfield (hdistinct field hfield)).mpr (hparts field hfield)
  | _ =>
    rw [sanitizeRecursive_scalar p rfl]
    exact iff_of_true rfl (each_scalar rfl)

end Fixed

end AdkGateway.SchemaSanitizer
