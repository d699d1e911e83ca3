import AdkGateway.KnowledgeGraph.Effects

namespace AdkGateway.KnowledgeGraph

open Foundation

def ObservationRow.toObservation (r : ObservationRow) : Observation := ⟨r.id, r.content⟩

def RelationRow.toRelation (r : RelationRow) : Relation :=
  ⟨r.id, r.source, r.relationType, r.target⟩

namespace Database

variable (db : Database) (u name : String) (id : ℕ)

def observationsOf : List Observation :=
  (db.observations.orderByKey.filter fun r ↦ r.userId = u ∧ r.entityName = name).map
    ObservationRow.toObservation

def entity? : Option Entity :=
  (db.entities.find (u, name)).map fun r ↦ ⟨name, r.entityType, db.observationsOf u name⟩

def relation? : Option Relation :=
  ((db.relations.find id).filter (·.userId = u)).map RelationRow.toRelation

def HasEntities : Prop := ∃ r ∈ db.entities.rows, r.userId = u

end Database

def entityAt (graphs : KeyedMap String UserGraph) (u name : String) : Option Entity :=
  (graphs.lookup u).bind fun g ↦ g.entities.lookup name

def relationAt (graphs : KeyedMap String UserGraph) (u : String) (id : ℕ) : Option Relation :=
  (graphs.lookup u).bind fun g ↦ g.relations.lookup id

theorem entity?_eq_entityAt (kg : KnowledgeGraph) (u name : String) :
    kg.entity? u name = entityAt kg.graphs u name := by
  unfold entity? graph entityAt
  cases kg.graphs.lookup u <;> simp [UserGraph.default]

theorem relation?_eq_relationAt (kg : KnowledgeGraph) (u : String) (id : ℕ) :
    kg.relation? u id = relationAt kg.graphs u id := by
  unfold relation? graph relationAt
  cases kg.graphs.lookup u <;> simp [UserGraph.default]

section LoadEntities

variable (graphs : KeyedMap String UserGraph) (u : String)

theorem entityAt_loadEntity (row : EntityRow) (name : String) :
    entityAt (loadEntity graphs row) u name = if row.key = (u, name) then
      (entityAt graphs u name).or (some ⟨name, row.entityType, []⟩)
    else entityAt graphs u name := by
  unfold entityAt loadEntity
  rw [KeyedMap.lookup_insert_if]
  by_cases hu : u = row.userId
  · subst hu
    simp only [if_true, Option.bind_some, EntityRow.key, Prod.mk.injEq, true_and]
    rw [KeyedMap.lookup_orInsert_if]
    by_cases hn : name = row.name
    · subst hn
      cases graphs.lookup row.userId <;> simp [UserGraph.default]
    · cases graphs.lookup row.userId <;> simp [UserGraph.default, hn, Ne.symm hn]
  · simp [hu, EntityRow.key, Ne.symm hu]

theorem relationAt_loadEntity (row : EntityRow) (id : ℕ) :
    relationAt (loadEntity graphs row) u id = relationAt graphs u id := by
  unfold relationAt loadEntity
  rw [KeyedMap.lookup_insert_if]
  by_cases hu : u = row.userId
  · subst hu
    cases graphs.lookup row.userId <;> simp [UserGraph.default]
  · simp [hu]

theorem isSome_loadEntity (row : EntityRow) : ((loadEntity graphs row).lookup u).isSome ↔
    row.userId = u ∨ (graphs.lookup u).isSome := by
  unfold loadEntity
  rw [KeyedMap.lookup_insert_if]
  by_cases hu : u = row.userId
  · simp [hu]
  · simp [hu, Ne.symm hu]

theorem entityAt_foldl_loadEntity (rows : List EntityRow) (name : String) :
    entityAt (rows.foldl loadEntity graphs) u name = (entityAt graphs u name).or
      ((rows.find? fun r ↦ r.key = (u, name)).map fun r ↦ ⟨name, r.entityType, []⟩) := by
  induction rows generalizing graphs with
  | nil => simp
  | cons row rows ih =>
    rw [List.foldl_cons, ih, entityAt_loadEntity]
    by_cases h : row.key = (u, name)
    · cases he : entityAt graphs u name <;> simp [h]
    · simp [h]

theorem relationAt_foldl_loadEntity (rows : List EntityRow) (id : ℕ) :
    relationAt (rows.foldl loadEntity graphs) u id = relationAt graphs u id := by
  induction rows generalizing graphs with
  | nil => rfl
  | cons row rows ih => rw [List.foldl_cons, ih, relationAt_loadEntity]

theorem isSome_foldl_loadEntity (rows : List EntityRow) :
    ((rows.foldl loadEntity graphs).lookup u).isSome ↔
      (∃ r ∈ rows, r.userId = u) ∨ (graphs.lookup u).isSome := by
  induction rows generalizing graphs with
  | nil => simp
  | cons row rows ih =>
    rw [List.foldl_cons, ih, isSome_loadEntity]
    simp only [List.mem_cons, exists_eq_or_imp]
    rw [or_left_comm, or_assoc]

end LoadEntities

section LoadObservations

variable (graphs : KeyedMap String UserGraph) (u : String)

theorem entityAt_loadObservation (row : ObservationRow) (name : String) :
    entityAt (loadObservation graphs row) u name =
    if row.userId = u ∧ row.entityName = name then (entityAt graphs u name).map fun e ↦
      { e with observations := e.observations ++ [row.toObservation] }
    else entityAt graphs u name := by
  unfold entityAt loadObservation
  rw [KeyedMap.lookup_modify_if]
  by_cases hu : u = row.userId
  · subst hu
    cases graphs.lookup row.userId with
    | none => simp
    | some g =>
      simp only [if_true, Option.map_some, Option.bind_some, KeyedMap.lookup_modify_if, true_and]
      by_cases hn : name = row.entityName
      · subst hn; simp [ObservationRow.toObservation]
      · simp [hn, Ne.symm hn]
  · simp [hu, Ne.symm hu]

theorem relationAt_loadObservation (row : ObservationRow) (id : ℕ) :
    relationAt (loadObservation graphs row) u id = relationAt graphs u id := by
  unfold relationAt loadObservation
  rw [KeyedMap.lookup_modify_if]
  by_cases hu : u = row.userId
  · subst hu
    cases graphs.lookup row.userId <;> simp
  · simp [hu]

theorem isSome_loadObservation (row : ObservationRow) :
    ((loadObservation graphs row).lookup u).isSome = (graphs.lookup u).isSome := by
  unfold loadObservation
  rw [KeyedMap.lookup_modify_if]
  by_cases hu : u = row.userId
  · subst hu; simp
  · simp [hu]

theorem entityAt_foldl_loadObservation (rows : List ObservationRow) (name : String) :
    entityAt (rows.foldl loadObservation graphs) u name = (entityAt graphs u name).map fun e ↦
      { e with
        observations := e.observations ++
          (rows.filter fun r ↦ r.userId = u ∧ r.entityName = name).map
            ObservationRow.toObservation } := by
  induction rows generalizing graphs with
  | nil => cases h : entityAt graphs u name <;> simp [h]
  | cons row rows ih =>
    rw [List.foldl_cons, ih, entityAt_loadObservation]
    by_cases h : row.userId = u ∧ row.entityName = name
    · cases entityAt graphs u name <;> simp [h]
    · cases entityAt graphs u name <;> simp [h]

theorem relationAt_foldl_loadObservation (rows : List ObservationRow) (id : ℕ) :
    relationAt (rows.foldl loadObservation graphs) u id = relationAt graphs u id := by
  induction rows generalizing graphs with
  | nil => rfl
  | cons row rows ih => rw [List.foldl_cons, ih, relationAt_loadObservation]

theorem isSome_foldl_loadObservation (rows : List ObservationRow) :
    ((rows.foldl loadObservation graphs).lookup u).isSome = (graphs.lookup u).isSome := by
  induction rows generalizing graphs with
  | nil => rfl
  | cons row rows ih => rw [List.foldl_cons, ih, isSome_loadObservation]

end LoadObservations

section LoadRelations

variable (graphs : KeyedMap String UserGraph) (u : String)

theorem entityAt_loadRelation (row : RelationRow) (name : String) :
    entityAt (loadRelation graphs row) u name = entityAt graphs u name := by
  unfold entityAt loadRelation
  rw [KeyedMap.lookup_modify_if]
  by_cases hu : u = row.userId
  · subst hu
    cases graphs.lookup row.userId <;> simp
  · simp [hu]

theorem relationAt_loadRelation (row : RelationRow) (id : ℕ) :
    relationAt (loadRelation graphs row) u id =
    if row.userId = u ∧ row.id = id ∧ (graphs.lookup u).isSome then some row.toRelation
    else relationAt graphs u id := by
  unfold relationAt loadRelation
  rw [KeyedMap.lookup_modify_if]
  by_cases hu : u = row.userId
  · subst hu
    cases graphs.lookup row.userId with
    | none => simp
    | some g =>
      by_cases hid : id = row.id
      · subst hid; simp [RelationRow.toRelation]
      · simp [hid, Ne.symm hid]
  · simp [hu, Ne.symm hu]

theorem isSome_loadRelation (row : RelationRow) :
    ((loadRelation graphs row).lookup u).isSome = (graphs.lookup u).isSome := by
  unfold loadRelation
  rw [KeyedMap.lookup_modify_if]
  by_cases hu : u = row.userId
  · subst hu; simp
  · simp [hu]

theorem entityAt_foldl_loadRelation (rows : List RelationRow) (name : String) :
    entityAt (rows.foldl loadRelation graphs) u name = entityAt graphs u name := by
  induction rows generalizing graphs with
  | nil => rfl
  | cons row rows ih => rw [List.foldl_cons, ih, entityAt_loadRelation]

/-- A relation row is loaded if its user has a graph, and with distinct ids
the order of the rows does not matter. -/
theorem relationAt_foldl_loadRelation (rows : List RelationRow) (hn : (rows.map (·.id)).Nodup)
    (id : ℕ) : relationAt (rows.foldl loadRelation graphs) u id =
    if (graphs.lookup u).isSome then
      (((rows.find? fun r ↦ r.id = id).filter (·.userId = u)).map RelationRow.toRelation).or
        (relationAt graphs u id)
    else none := by
  induction rows generalizing graphs with
  | nil =>
    unfold relationAt
    cases h : graphs.lookup u <;> simp [h]
  | cons row rows ih =>
    obtain ⟨hfresh, hn⟩ := List.nodup_cons.mp hn
    rw [List.foldl_cons, ih _ hn, isSome_loadRelation, relationAt_loadRelation]
    by_cases hs : (graphs.lookup u).isSome
    · simp only [hs, if_true, and_true]
      by_cases hid : row.id = id
      · have hnone : rows.find? (fun r ↦ r.id = id) = none := by
          rw [List.find?_eq_none]
          intro r hr he
          exact hfresh (List.mem_map.mpr ⟨r, hr, by simpa [hid] using he⟩)
        by_cases hu : row.userId = u <;> simp [hnone, hid, hu, Option.filter_some]
      · simp [hid]
    · simp [hs]

end LoadRelations

theorem graphs_loadFromDb (db : Database) : (loadFromDb db).graphs =
    db.relations.rows.foldl loadRelation
      (db.observations.orderByKey.foldl loadObservation (db.entities.rows.foldl loadEntity ∅)) :=
  rfl

theorem hasEntities_iff (db : Database) (u : String) :
    ((db.entities.rows.foldl loadEntity ∅).lookup u).isSome ↔ db.HasEntities u := by
  simp [isSome_foldl_loadEntity, Database.HasEntities]

theorem entity?_loadFromDb (db : Database) (u name : String) :
    (loadFromDb db).entity? u name = db.entity? u name := by
  rw [entity?_eq_entityAt, graphs_loadFromDb, entityAt_foldl_loadRelation,
    entityAt_foldl_loadObservation, entityAt_foldl_loadEntity]
  simp only [Database.entity?, Table.find, Database.observationsOf]
  have hnone : entityAt ∅ u name = none := rfl
  rw [hnone, Option.none_or, Option.map_map]
  rfl

theorem relation?_loadFromDb (db : Database) (u : String) (id : ℕ) [Decidable (db.HasEntities u)] :
    (loadFromDb db).relation? u id = if db.HasEntities u then db.relation? u id else none := by
  rw [relation?_eq_relationAt, graphs_loadFromDb,
    relationAt_foldl_loadRelation _ _ _ db.relations.nodup, isSome_foldl_loadObservation,
    relationAt_foldl_loadObservation, relationAt_foldl_loadEntity]
  have hnone : relationAt ∅ u id = none := rfl
  simp only [hasEntities_iff, hnone, Option.or_none, Database.relation?, Table.find]

theorem le_foldl_max {ρ : Type} (f : ρ → ℕ) (rows : List ρ) (m : ℕ) :
    m ≤ rows.foldl (fun m r ↦ max m (f r)) m ∧
      ∀ r ∈ rows, f r ≤ rows.foldl (fun m r ↦ max m (f r)) m := by
  induction rows generalizing m with
  | nil => simp
  | cons row rows ih =>
    obtain ⟨hm, hr⟩ := ih (max m (f row))
    refine ⟨(Nat.le_max_left _ _).trans hm, fun r h ↦ ?_⟩
    rcases List.mem_cons.mp h with rfl | h
    · exact (Nat.le_max_right _ _).trans hm
    · exact hr r h

theorem below_loadFromDb (db : Database) :
    (∀ r ∈ db.observations.rows, r.id < (loadFromDb db).nextId) ∧
      ∀ r ∈ db.relations.rows, r.id < (loadFromDb db).nextId := by
  have hobs := le_foldl_max ObservationRow.id db.observations.orderByKey 0
  have hrel := le_foldl_max RelationRow.id db.relations.rows
    (db.observations.orderByKey.foldl (fun m r ↦ max m r.id) 0)
  constructor
  · intro r hr
    have h := hobs.2 r (Table.mem_orderByKey.mpr hr)
    exact Nat.lt_succ_of_le (h.trans hrel.1)
  · intro r hr
    exact Nat.lt_succ_of_le (hrel.2 r hr)

end AdkGateway.KnowledgeGraph
