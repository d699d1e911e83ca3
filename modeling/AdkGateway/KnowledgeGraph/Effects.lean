import AdkGateway.KnowledgeGraph.Graph

namespace AdkGateway.KnowledgeGraph

open Foundation

def entity? (kg : KnowledgeGraph) (userId name : String) : Option Entity :=
  (kg.graph userId).entities.lookup name

def relation? (kg : KnowledgeGraph) (userId : String) (id : ℕ) : Option Relation :=
  (kg.graph userId).relations.lookup id

section Building

variable (kg : KnowledgeGraph) (u v : String) (g : UserGraph) (n : ℕ)
  (sql : Database → Database)

@[simp] theorem graph_setGraph : (kg.setGraph u g).graph v = if v = u then g else kg.graph v := by
  by_cases h : v = u <;> simp [graph, setGraph, KeyedMap.lookup_insert_if, h]

@[simp] theorem graph_advanceId : (kg.advanceId n).graph v = kg.graph v := rfl

@[simp] theorem graph_execute : (kg.execute sql).graph v = kg.graph v := rfl

@[simp] theorem graph_userGraph : (kg.userGraph u).graph v = kg.graph v := by
  unfold graph userGraph
  rw [KeyedMap.lookup_orInsert_if]
  by_cases h : v = u
  · subst h; cases kg.graphs.lookup v <;> simp
  · rw [if_neg h]

@[simp] theorem nextId_setGraph : (kg.setGraph u g).nextId = kg.nextId := rfl

@[simp] theorem nextId_advanceId : (kg.advanceId n).nextId = kg.nextId + n := rfl

@[simp] theorem nextId_execute : (kg.execute sql).nextId = kg.nextId := rfl

@[simp] theorem nextId_userGraph : (kg.userGraph u).nextId = kg.nextId := rfl

@[simp] theorem db_setGraph : (kg.setGraph u g).db = kg.db := rfl

@[simp] theorem db_advanceId : (kg.advanceId n).db = kg.db := rfl

@[simp] theorem db_execute : (kg.execute sql).db = kg.db.map sql := rfl

@[simp] theorem db_userGraph : (kg.userGraph u).db = kg.db := rfl

theorem lookup_setGraph (h : v ≠ u) : (kg.setGraph u g).graphs.lookup v = kg.graphs.lookup v := by
  simp [setGraph, h]

theorem lookup_userGraph (h : v ≠ u) : (kg.userGraph u).graphs.lookup v = kg.graphs.lookup v := by
  unfold userGraph
  rw [KeyedMap.lookup_orInsert_if, if_neg h]

end Building

theorem mem_numbered {n : ℕ} {contents : List String} {o : Observation}
    (h : o ∈ numbered n contents) : n ≤ o.id ∧ o.id < n + contents.length := by
  induction contents generalizing n with
  | nil => simp [numbered] at h
  | cons c cs ih =>
    rcases List.mem_cons.mp h with rfl | h
    · simp
    · have h' := ih h
      simp only [List.length_cons]
      omega

theorem numbered_pairwise (n : ℕ) (contents : List String) :
    (numbered n contents).Pairwise fun o o' ↦ o.id < o'.id := by
  induction contents generalizing n with
  | nil => exact .nil
  | cons c cs ih =>
    refine List.pairwise_cons.mpr ⟨?_, ih (n + 1)⟩
    intro o ho
    exact (mem_numbered ho).1

def observationRow (userId entityName : String) (o : Observation) : ObservationRow :=
  ⟨o.id, userId, entityName, o.content⟩

theorem foldl_dbInsertObservation (kg : KnowledgeGraph) (u name : String) (os : List Observation) :
    os.foldl (fun kg obs ↦ kg.dbInsertObservation obs.id u name obs.content) kg =
      kg.execute fun db ↦
        { db with observations := db.observations.insertAll (os.map (observationRow u name)) } := by
  induction os generalizing kg with
  | nil => simp [execute, Table.insertAll]
  | cons o os ih =>
    rw [List.foldl_cons, ih]
    simp only [dbInsertObservation, execute, Option.map_map]
    rfl

section CreateEntity

variable (u : String) (kg : KnowledgeGraph) (input : CreateEntityInput)

theorem nextId_createEntity :
    (createEntity u kg input).nextId = kg.nextId + input.observations.length := by
  simp only [createEntity, foldl_dbInsertObservation]
  rfl

theorem db_createEntity : (createEntity u kg input).db = kg.db.map fun db ↦
    { db with
      entities := db.entities.insertOrReplace ⟨u, input.name, input.entityType⟩
      observations := db.observations.insertAll
        ((numbered kg.nextId input.observations).map (observationRow u input.name)) } := by
  simp only [createEntity, foldl_dbInsertObservation, dbUpsertEntity, db_setGraph, db_execute,
    db_advanceId, Option.map_map]
  rfl

theorem lookup_createEntity {v : String} (h : v ≠ u) :
    (createEntity u kg input).graphs.lookup v = kg.graphs.lookup v := by
  simp only [createEntity, foldl_dbInsertObservation]
  exact lookup_setGraph _ _ _ _ h

theorem entity?_createEntity (v name : String) : (createEntity u kg input).entity? v name =
    if v = u ∧ name = input.name then
      some (match kg.entity? u input.name with
        | some e => { e with
            observations := e.observations ++ numbered kg.nextId input.observations }
        | none => ⟨input.name, input.entityType, numbered kg.nextId input.observations⟩)
    else kg.entity? v name := by
  simp only [entity?, createEntity, foldl_dbInsertObservation, dbUpsertEntity, graph_setGraph,
    graph_execute, graph_advanceId]
  by_cases hv : v = u
  · subst hv
    simp only [if_true, true_and]
    exact KeyedMap.lookup_insert_if _ _ _ _
  · simp [hv]

theorem observation_createEntity {v name : String} {e : Entity} {o : Observation}
    (he : (createEntity u kg input).entity? v name = some e) (ho : o ∈ e.observations) :
    (∃ e', kg.entity? v name = some e' ∧ o ∈ e'.observations) ∨
      (v = u ∧ name = input.name) ∧ o ∈ numbered kg.nextId input.observations := by
  rw [entity?_createEntity] at he
  split at he
  case isTrue hcase =>
    obtain ⟨rfl, rfl⟩ := hcase
    cases hold : kg.entity? v input.name with
    | none =>
      simp only [hold, Option.some_inj] at he
      subst he
      exact .inr ⟨⟨rfl, rfl⟩, ho⟩
    | some e' =>
      simp only [hold, Option.some_inj] at he
      subst he
      rcases List.mem_append.mp ho with hbefore | hnew
      · exact .inl ⟨e', rfl, hbefore⟩
      · exact .inr ⟨⟨rfl, rfl⟩, hnew⟩
  case isFalse => exact .inl ⟨e, he, ho⟩

theorem relation?_createEntity (v : String) (id : ℕ) :
    (createEntity u kg input).relation? v id = kg.relation? v id := by
  simp only [relation?, createEntity, foldl_dbInsertObservation, dbUpsertEntity, graph_setGraph,
    graph_execute, graph_advanceId]
  by_cases hv : v = u <;> simp [hv]

end CreateEntity

section CreateRelation

variable (u : String) (kg : KnowledgeGraph) (input : CreateRelationInput)

theorem nextId_createRelation : (createRelation u kg input).nextId = kg.nextId + 1 := rfl

theorem db_createRelation : (createRelation u kg input).db = kg.db.map fun db ↦
    { db with
      relations := db.relations.insertOrReplace
        ⟨kg.nextId, u, input.source, input.relationType, input.target⟩ } := rfl

theorem lookup_createRelation {v : String} (h : v ≠ u) :
    (createRelation u kg input).graphs.lookup v = kg.graphs.lookup v :=
  lookup_setGraph _ _ _ _ h

theorem entity?_createRelation (v name : String) :
    (createRelation u kg input).entity? v name = kg.entity? v name := by
  by_cases hv : v = u <;> simp [entity?, createRelation, dbInsertRelation, hv]

theorem relation?_createRelation (v : String) (id : ℕ) : (createRelation u kg input).relation? v id =
    if v = u ∧ id = kg.nextId then
      some ⟨kg.nextId, input.source, input.relationType, input.target⟩
    else kg.relation? v id := by
  by_cases hv : v = u <;>
    simp [relation?, createRelation, dbInsertRelation, hv, KeyedMap.lookup_insert_if]

end CreateRelation

section AddObservation

variable (u name : String) (kg : KnowledgeGraph) (content : String)

theorem nextId_addObservation : (addObservation u name kg content).nextId = kg.nextId + 1 := rfl

theorem db_addObservation : (addObservation u name kg content).db = kg.db.map fun db ↦
    { db with observations :=
        db.observations.insertOrReplace ⟨kg.nextId, u, name, content⟩ } := rfl

theorem lookup_addObservation {v : String} (h : v ≠ u) :
    (addObservation u name kg content).graphs.lookup v = kg.graphs.lookup v :=
  lookup_setGraph _ _ _ _ h

theorem entity?_addObservation (v m : String) : (addObservation u name kg content).entity? v m =
    if v = u ∧ m = name then
      (kg.entity? u name).map fun e ↦
        { e with observations := e.observations ++ [⟨kg.nextId, content⟩] }
    else kg.entity? v m := by
  by_cases hv : v = u <;>
    simp [entity?, addObservation, dbInsertObservation, hv, KeyedMap.lookup_modify_if]

theorem relation?_addObservation (v : String) (id : ℕ) :
    (addObservation u name kg content).relation? v id = kg.relation? v id := by
  by_cases hv : v = u <;> simp [relation?, addObservation, dbInsertObservation, hv]

end AddObservation

section DeleteEntity

variable (u name : String) (kg : KnowledgeGraph)

theorem nextId_deleteEntity : (deleteEntity u kg name).nextId = kg.nextId := rfl

theorem db_deleteEntity : (deleteEntity u kg name).db = kg.db.map fun db ↦
    { entities := db.entities.deleteWhere fun r ↦ r.userId = u ∧ r.name = name
      observations := db.observations.deleteWhere fun r ↦ r.userId = u ∧ r.entityName = name
      relations := db.relations.deleteWhere fun r ↦
        r.userId = u ∧ (r.source = name ∨ r.target = name) } := rfl

theorem lookup_deleteEntity {v : String} (h : v ≠ u) :
    (deleteEntity u kg name).graphs.lookup v = kg.graphs.lookup v :=
  lookup_setGraph _ _ _ _ h

theorem entity?_deleteEntity (v m : String) : (deleteEntity u kg name).entity? v m =
    if v = u ∧ m = name then none else kg.entity? v m := by
  by_cases hv : v = u <;>
    simp [entity?, deleteEntity, dbDeleteEntity, hv, KeyedMap.lookup_erase_if]

/-- The relations of a graph are filed under their own ids, so the collected
ids are those of exactly the relations that touch the entity. -/
theorem mem_toRemove (hkey : ∀ id r, kg.relation? u id = some r → r.id = id) (id : ℕ) :
    id ∈ (kg.graph u).toRemove name ↔
      ∃ r, kg.relation? u id = some r ∧ (r.source = name ∨ r.target = name) := by
  simp only [UserGraph.toRemove, List.mem_map, List.mem_filter, KeyedMap.mem_values,
    decide_eq_true_eq]
  constructor
  · rintro ⟨r, ⟨⟨k, hk⟩, ht⟩, rfl⟩
    rw [hkey k r hk]
    exact ⟨r, hk, ht⟩
  · rintro ⟨r, hr, ht⟩
    exact ⟨r, ⟨⟨id, hr⟩, ht⟩, hkey id r hr⟩

theorem relation?_deleteEntity (v : String) (id : ℕ) : (deleteEntity u kg name).relation? v id =
    if v = u ∧ id ∈ (kg.graph u).toRemove name then none else kg.relation? v id := by
  by_cases hv : v = u <;>
    simp [relation?, deleteEntity, dbDeleteEntity, hv, KeyedMap.lookup_foldl_erase]

end DeleteEntity

def HoldsObservation (kg : KnowledgeGraph) (u : String) (id : ℕ) : Prop :=
  ∃ name e, kg.entity? u name = some e ∧ ∃ o ∈ e.observations, o.id = id

theorem mem_deletedFrom {idSet : List ℕ} {e : Entity} {id : ℕ} :
    id ∈ deletedFrom idSet e ↔ id ∈ idSet ∧ ∃ o ∈ e.observations, o.id ∈ idSet := by
  have hlen : 0 < e.observations.length - (e.observations.filter (·.id ∉ idSet)).length ↔
      ∃ o ∈ e.observations, o.id ∈ idSet := by
    rw [Nat.sub_pos_iff_lt, List.length_filter_lt_length_iff_exists]
    simp
  unfold deletedFrom
  simp only [hlen]
  by_cases h : ∃ o ∈ e.observations, o.id ∈ idSet
  · rw [if_pos h]
    simp only [List.mem_filter, h, and_true, and_iff_left_iff_imp]
    intro hid
    simp only [Bool.not_eq_true', List.any_eq_false, List.mem_filter, decide_eq_true_eq]
    rintro o ⟨_, ho⟩ rfl
    exact ho hid
  · rw [if_neg h]
    simp [h]

section DeleteObservations

variable (kg : KnowledgeGraph) (u : String) (ids : List ℕ)

theorem mem_deleteObservations (id : ℕ) : id ∈ (kg.deleteObservations u ids).1 ↔
    id ∈ ids ∧ ∃ id' ∈ ids, kg.HoldsObservation u id' := by
  simp only [deleteObservations, List.mem_dedup, List.mem_insertionSort, List.mem_flatMap,
    mem_deletedFrom, KeyedMap.mem_values, graph_userGraph]
  constructor
  · rintro ⟨e, ⟨name, he⟩, hid, o, ho, hoid⟩
    exact ⟨hid, o.id, hoid, name, e, he, o, ho, rfl⟩
  · rintro ⟨hid, id', hid', name, e, he, o, ho, rfl⟩
    exact ⟨e, ⟨name, he⟩, hid, o, ho, hid'⟩

theorem nextId_deleteObservations : (kg.deleteObservations u ids).2.nextId = kg.nextId := rfl

theorem db_deleteObservations : (kg.deleteObservations u ids).2.db = kg.db.map fun db ↦
    { db with
      observations := db.observations.deleteWhere (·.id ∈ (kg.deleteObservations u ids).1) } := by
  simp only [deleteObservations, dbDeleteObservations, Table.foldl_deleteWhere]
  rfl

theorem lookup_deleteObservations {v : String} (h : v ≠ u) :
    (kg.deleteObservations u ids).2.graphs.lookup v = kg.graphs.lookup v :=
  (lookup_setGraph _ _ _ _ h).trans (lookup_userGraph _ _ _ h)

theorem entity?_deleteObservations (v name : String) :
    (kg.deleteObservations u ids).2.entity? v name =
    if v = u then (kg.entity? u name).map fun e ↦
      { e with observations := e.observations.filter (·.id ∉ ids) }
    else kg.entity? v name := by
  by_cases hv : v = u
  · subst hv
    simp [entity?, deleteObservations, dbDeleteObservations, List.mem_dedup]
  · simp [entity?, deleteObservations, dbDeleteObservations, hv]

theorem relation?_deleteObservations (v : String) (id : ℕ) :
    (kg.deleteObservations u ids).2.relation? v id = kg.relation? v id := by
  by_cases hv : v = u <;> simp [relation?, deleteObservations, dbDeleteObservations, hv]

end DeleteObservations

section TrimObservations

variable (kg : KnowledgeGraph) (u : String) (maxPerEntity : ℕ)

def drainedFrom (e : Entity) : List Observation :=
  e.observations.take (e.observations.length - maxPerEntity)

/-- The ids `trimObservations` deletes from the database. -/
def drainedIds : List ℕ :=
  ((KeyedMap.values (kg.graph u).entities).flatMap (drainedFrom maxPerEntity)).map (·.id)

theorem mem_drainedIds {id : ℕ} : id ∈ drainedIds kg u maxPerEntity ↔
    ∃ name e, kg.entity? u name = some e ∧ ∃ o ∈ drainedFrom maxPerEntity e, o.id = id := by
  simp only [drainedIds, List.mem_map, List.mem_flatMap, KeyedMap.mem_values]
  constructor
  · rintro ⟨o, ⟨e, ⟨name, he⟩, ho⟩, rfl⟩
    exact ⟨name, e, he, o, ho, rfl⟩
  · rintro ⟨name, e, he, o, ho, rfl⟩
    exact ⟨o, ⟨e, ⟨name, he⟩, ho⟩, rfl⟩

theorem nextId_trimObservations :
    (kg.trimObservations u maxPerEntity).2.nextId = kg.nextId := rfl

theorem db_trimObservations : (kg.trimObservations u maxPerEntity).2.db = kg.db.map fun db ↦
    { db with
      observations := db.observations.deleteWhere (·.id ∈ drainedIds kg u maxPerEntity) } := by
  simp only [trimObservations, dbDeleteObservations, Table.foldl_deleteWhere, graph_userGraph]
  rfl

theorem lookup_trimObservations {v : String} (h : v ≠ u) :
    (kg.trimObservations u maxPerEntity).2.graphs.lookup v = kg.graphs.lookup v :=
  (lookup_setGraph _ _ _ _ h).trans (lookup_userGraph _ _ _ h)

theorem entity?_trimObservations (v name : String) :
    (kg.trimObservations u maxPerEntity).2.entity? v name =
    if v = u then (kg.entity? u name).map fun e ↦ { e with
      observations := e.observations.drop (e.observations.length - maxPerEntity) }
    else kg.entity? v name := by
  by_cases hv : v = u
  · subst hv
    simp [entity?, trimObservations, dbDeleteObservations]
  · simp [entity?, trimObservations, dbDeleteObservations, hv]

theorem relation?_trimObservations (v : String) (id : ℕ) :
    (kg.trimObservations u maxPerEntity).2.relation? v id = kg.relation? v id := by
  by_cases hv : v = u <;> simp [relation?, trimObservations, dbDeleteObservations, hv]

end TrimObservations

section DeleteRelations

variable (kg : KnowledgeGraph) (u : String) (ids : List ℕ)

theorem removeRelation_snd (deleted : List ℕ) (id : ℕ) :
    (removeRelation u (deleted, kg) id).2.db = kg.db ∧
    (removeRelation u (deleted, kg) id).2.nextId = kg.nextId ∧
    (∀ v, v ≠ u →
      (removeRelation u (deleted, kg) id).2.graphs.lookup v = kg.graphs.lookup v) ∧
    (∀ v name, (removeRelation u (deleted, kg) id).2.entity? v name = kg.entity? v name) ∧
    (∀ v id', (removeRelation u (deleted, kg) id).2.relation? v id' =
      if v = u ∧ id' = id then none else kg.relation? v id') := by
  unfold removeRelation
  by_cases h : ((kg.graph u).relations.lookup id).isSome
  · simp only [h, if_true, db_setGraph, nextId_setGraph, true_and]
    refine ⟨fun v hv ↦ lookup_setGraph _ _ _ _ hv, fun v name ↦ ?_, fun v id' ↦ ?_⟩
    · by_cases hv : v = u <;> simp [entity?, hv]
    · by_cases hv : v = u <;> simp [relation?, hv, KeyedMap.lookup_erase_if]
  · simp only [h, Bool.false_eq_true, if_false, implies_true, true_and]
    intro v id'
    by_cases hv : v = u ∧ id' = id
    · obtain ⟨rfl, rfl⟩ := hv
      simpa [relation?] using h
    · simp [hv]

theorem foldl_removeRelation (deleted : List ℕ) :
    (ids.foldl (removeRelation u) (deleted, kg)).2.db = kg.db ∧
    (ids.foldl (removeRelation u) (deleted, kg)).2.nextId = kg.nextId ∧
    (∀ v, v ≠ u →
      (ids.foldl (removeRelation u) (deleted, kg)).2.graphs.lookup v = kg.graphs.lookup v) ∧
    (∀ v name,
      (ids.foldl (removeRelation u) (deleted, kg)).2.entity? v name = kg.entity? v name) ∧
    (∀ v id, (ids.foldl (removeRelation u) (deleted, kg)).2.relation? v id =
      if v = u ∧ id ∈ ids then none else kg.relation? v id) ∧
    (∀ id, id ∈ (ids.foldl (removeRelation u) (deleted, kg)).1 ↔
      id ∈ deleted ∨ id ∈ ids ∧ (kg.relation? u id).isSome) := by
  induction ids generalizing kg deleted with
  | nil => simp
  | cons id ids ih =>
    obtain ⟨hdb, hnext, hlook, hent, hrel⟩ := removeRelation_snd kg u deleted id
    obtain ⟨hdb', hnext', hlook', hent', hrel', hdel'⟩ :=
      ih (removeRelation u (deleted, kg) id).2 (removeRelation u (deleted, kg) id).1
    rw [List.foldl_cons]
    refine ⟨hdb'.trans hdb, hnext'.trans hnext, fun v hv ↦ (hlook' v hv).trans (hlook v hv),
      fun v name ↦ (hent' v name).trans (hent v name), fun v id' ↦ ?_, fun id' ↦ ?_⟩
    · rw [hrel', hrel]
      by_cases hv : v = u <;> by_cases h : id' = id <;> simp [hv, h]
    · have hone : (removeRelation u (deleted, kg) id).1 =
          if (kg.relation? u id).isSome then deleted ++ [id] else deleted :=
        apply_ite Prod.fst _ _ _
      rw [hdel', hrel, hone]
      by_cases h : id' = id
      · subst h
        by_cases hs : (kg.relation? u id').isSome <;> simp [hs]
      · by_cases hs : (kg.relation? u id).isSome <;> simp [hs, h]

theorem mem_deleteRelations (id : ℕ) :
    id ∈ (kg.deleteRelations u ids).1 ↔ id ∈ ids ∧ (kg.relation? u id).isSome := by
  have h := (foldl_removeRelation (kg.userGraph u) u ids []).2.2.2.2.2 id
  simpa [relation?, deleteRelations] using h

theorem nextId_deleteRelations : (kg.deleteRelations u ids).2.nextId = kg.nextId :=
  (foldl_removeRelation (kg.userGraph u) u ids []).2.1

theorem db_deleteRelations : (kg.deleteRelations u ids).2.db = kg.db.map fun db ↦
    { db with
      relations := db.relations.deleteWhere (·.id ∈ (kg.deleteRelations u ids).1) } := by
  have h := (foldl_removeRelation (kg.userGraph u) u ids []).1
  simp only [deleteRelations, dbDeleteRelations, Table.foldl_deleteWhere, db_execute]
  rw [h, db_userGraph]

theorem lookup_deleteRelations {v : String} (h : v ≠ u) :
    (kg.deleteRelations u ids).2.graphs.lookup v = kg.graphs.lookup v :=
  ((foldl_removeRelation (kg.userGraph u) u ids []).2.2.1 v h).trans (lookup_userGraph _ _ _ h)

theorem entity?_deleteRelations (v name : String) :
    (kg.deleteRelations u ids).2.entity? v name = kg.entity? v name := by
  have h := (foldl_removeRelation (kg.userGraph u) u ids []).2.2.2.1 v name
  simpa [entity?, deleteRelations, dbDeleteRelations] using h

theorem relation?_deleteRelations (v : String) (id : ℕ) :
    (kg.deleteRelations u ids).2.relation? v id =
    if v = u ∧ id ∈ ids then none else kg.relation? v id := by
  have h := (foldl_removeRelation (kg.userGraph u) u ids []).2.2.2.2.1 v id
  simpa [relation?, deleteRelations, dbDeleteRelations] using h

end DeleteRelations

section DeleteUserGraph

variable (kg : KnowledgeGraph) (u : String)

theorem nextId_deleteUserGraph : (kg.deleteUserGraph u).2.nextId = kg.nextId := by
  unfold deleteUserGraph
  cases kg.graphs.lookup u <;> rfl

theorem db_deleteUserGraph : (kg.deleteUserGraph u).2.db =
    if (kg.graphs.lookup u).isSome then kg.db.map fun db ↦
      { entities := db.entities.deleteWhere (·.userId = u)
        observations := db.observations.deleteWhere (·.userId = u)
        relations := db.relations.deleteWhere (·.userId = u) }
    else kg.db := by
  unfold deleteUserGraph
  cases kg.graphs.lookup u <;> rfl

theorem lookup_deleteUserGraph (v : String) : (kg.deleteUserGraph u).2.graphs.lookup v =
    if v = u then none else kg.graphs.lookup v := by
  unfold deleteUserGraph
  cases h : kg.graphs.lookup u with
  | none =>
    by_cases hv : v = u
    · subst hv; simp [h]
    · simp [hv]
  | some g => exact KeyedMap.lookup_erase_if kg.graphs u v

theorem entity?_deleteUserGraph (v name : String) : (kg.deleteUserGraph u).2.entity? v name =
    if v = u then none else kg.entity? v name := by
  simp only [entity?, graph, lookup_deleteUserGraph]
  by_cases hv : v = u <;> simp [hv, UserGraph.default]

theorem relation?_deleteUserGraph (v : String) (id : ℕ) :
    (kg.deleteUserGraph u).2.relation? v id = if v = u then none else kg.relation? v id := by
  simp only [relation?, graph, lookup_deleteUserGraph]
  by_cases hv : v = u <;> simp [hv, UserGraph.default]

end DeleteUserGraph

@[simp] theorem entity?_userGraph (kg : KnowledgeGraph) (u v name : String) :
    (kg.userGraph u).entity? v name = kg.entity? v name := by simp [entity?]

@[simp] theorem relation?_userGraph (kg : KnowledgeGraph) (u v : String) (id : ℕ) :
    (kg.userGraph u).relation? v id = kg.relation? v id := by simp [relation?]

section Loops

variable (kg : KnowledgeGraph) (u : String)

theorem createRelations_snd (inputs : List CreateRelationInput) :
    (kg.createRelations u inputs).2 = inputs.foldl (createRelation u) (kg.userGraph u) :=
  (List.foldl_hom Prod.snd fun _ _ ↦ rfl).symm

theorem addObservations_snd (name : String) (contents : List String) :
    (kg.addObservations u name contents).2 = if (kg.entity? u name).isSome then
      contents.foldl (addObservation u name) (kg.userGraph u) else kg.userGraph u := by
  have he : ((kg.userGraph u).graph u).entities.lookup name = kg.entity? u name := by
    rw [graph_userGraph]; rfl
  simp only [addObservations, he]
  cases kg.entity? u name with
  | none => rfl
  | some e => exact (List.foldl_hom Prod.snd fun _ _ ↦ rfl).symm

theorem deleteEntities_snd (names : List String) :
    (kg.deleteEntities u names).2 = names.foldl
      (fun kg name ↦ if (kg.entity? u name).isSome then deleteEntity u kg name else kg)
      (kg.userGraph u) := by
  refine (List.foldl_hom Prod.snd ?_).symm
  intro p name
  obtain ⟨deleted, kg'⟩ := p
  exact (apply_ite Prod.snd ((kg'.entity? u name).isSome = true)
    (deleted ++ [name], deleteEntity u kg' name) (deleted, kg')).symm

end Loops

end AdkGateway.KnowledgeGraph
