import AdkGateway.KnowledgeGraph.Ownership

namespace AdkGateway.KnowledgeGraph

open Foundation

namespace Database

variable {db db' : Database} {u v name m : String}

theorem relation?_eq_some_iff {id : ℕ} {x : Relation} : db.relation? u id = some x ↔
    ∃ r ∈ db.relations.rows, r.userId = u ∧ r.id = id ∧ r.toRelation = x := by
  simp only [relation?, Option.map_eq_some_iff, Option.filter_eq_some_iff, Table.find_eq_some_iff]
  constructor
  · rintro ⟨r, ⟨⟨hr, hid⟩, hu⟩, hx⟩
    exact ⟨r, hr, of_decide_eq_true hu, hid, hx⟩
  · rintro ⟨r, hr, hu, hid, hx⟩
    exact ⟨r, ⟨⟨hr, hid⟩, decide_eq_true hu⟩, hx⟩

theorem relation?_deleteWhere {p : RelationRow → Bool}
    (hrels : db'.relations = db.relations.deleteWhere p) {id : ℕ} {x : Relation} :
    db'.relation? u id = some x ↔ ∃ r ∈ db.relations.rows,
      p r = false ∧ r.userId = u ∧ r.id = id ∧ r.toRelation = x := by
  rw [relation?_eq_some_iff, hrels]
  simp only [Table.mem_rows_deleteWhere, and_assoc]

theorem relation?_of_deleteWhere {p : RelationRow → Bool}
    (hrels : db'.relations = db.relations.deleteWhere p) {id : ℕ} {x : Relation}
    (hx : db'.relation? u id = some x) : db.relation? u id = some x := by
  obtain ⟨r, hr, -, hrest⟩ := (relation?_deleteWhere hrels).mp hx
  exact relation?_eq_some_iff.mpr ⟨r, hr, hrest⟩

theorem relation?_deleteWhere_iff {p : RelationRow → Bool}
    (hrels : db'.relations = db.relations.deleteWhere p) {r : RelationRow}
    (hr : r ∈ db.relations.rows) :
    db'.relation? r.userId r.id = some r.toRelation ↔ p r = false := by
  rw [relation?_deleteWhere hrels]
  constructor
  · intro h
    obtain ⟨r', hr', hp, _, hid, _⟩ := h
    rwa [← db.relations.key_inj hr' hr hid]
  · intro hp
    exact ⟨r, hr, hp, rfl, rfl, rfl⟩

theorem mem_observationsOf {o : Observation} (h : o ∈ db.observationsOf u name) :
    ∃ r ∈ db.observations.rows, r.userId = u ∧ r.entityName = name ∧ r.id = o.id := by
  obtain ⟨r, hr, rfl⟩ := List.mem_map.mp h
  obtain ⟨hmem, hcase⟩ := List.mem_filter.mp hr
  obtain ⟨hu, hn⟩ := of_decide_eq_true hcase
  exact ⟨r, Table.mem_orderByKey.mp hmem, hu, hn, rfl⟩

theorem observationsOf_pairwise :
    (db.observationsOf u name).Pairwise fun o o' ↦ o.id < o'.id := by
  have hle := db.observations.pairwise_orderByKey
  have hne : db.observations.orderByKey.Pairwise fun r r' ↦ r.id ≠ r'.id := by
    have hn : (db.observations.orderByKey.map ObservationRow.id).Nodup :=
      (db.observations.perm_orderByKey.map _).nodup_iff.mpr db.observations.nodup
    exact List.pairwise_map.mp hn
  have hlt := (hle.and hne).imp fun h ↦ lt_of_le_of_ne h.1 h.2
  exact List.pairwise_map.mpr (hlt.filter _)

theorem observationsOf_congr (h : db'.observations = db.observations) :
    db'.observationsOf u name = db.observationsOf u name := by
  rw [observationsOf, observationsOf, h]

theorem observationsOf_insertAll {os : List Observation}
    (hobs : db'.observations = db.observations.insertAll (os.map (observationRow u name)))
    (hs : os.Pairwise fun o o' ↦ o.id < o'.id)
    (habove : ∀ o ∈ os, ∀ r ∈ db.observations.rows, r.id < o.id) :
    db'.observationsOf v m = if v = u ∧ m = name then db.observationsOf v m ++ os
      else db.observationsOf v m := by
  have horder : db'.observations.orderByKey =
      db.observations.orderByKey ++ os.map (observationRow u name) := by
    rw [hobs, Table.orderByKey_insertAll_above]
    · exact List.pairwise_map.mpr hs
    · intro r hr
      obtain ⟨o, ho, rfl⟩ := List.mem_map.mp hr
      exact habove o ho
  have hback : ObservationRow.toObservation ∘ observationRow u name = id := rfl
  rw [observationsOf, horder, List.filter_append, List.map_append]
  by_cases hcase : v = u ∧ m = name
  · obtain ⟨rfl, rfl⟩ := hcase
    have hown : (os.map (observationRow v m)).filter (fun r ↦ r.userId = v ∧ r.entityName = m) =
        os.map (observationRow v m) := List.filter_eq_self.mpr (by simp [observationRow])
    rw [if_pos ⟨rfl, rfl⟩, hown, List.map_map, hback, List.map_id]
    rfl
  · have hother : (os.map (observationRow u name)).filter
        (fun r ↦ r.userId = v ∧ r.entityName = m) = [] := by
      refine List.filter_eq_nil_iff.mpr fun r hr ↦ ?_
      obtain ⟨o, _, rfl⟩ := List.mem_map.mp hr
      intro h
      obtain ⟨hu, hn⟩ := of_decide_eq_true h
      exact hcase ⟨hu.symm, hn.symm⟩
    rw [if_neg hcase, hother, List.map_nil, List.append_nil]
    rfl

theorem observationsOf_deleteWhere {p : ObservationRow → Bool} {q : ℕ → Bool}
    (hobs : db'.observations = db.observations.deleteWhere p)
    (hp : ∀ r ∈ db.observations.rows, r.userId = u → r.entityName = name → p r = q r.id) :
    db'.observationsOf u name = (db.observationsOf u name).filter fun o ↦ !q o.id := by
  rw [observationsOf, hobs, Table.orderByKey_deleteWhere, List.filter_filter, observationsOf,
    List.filter_map, List.filter_filter]
  congr 1
  refine List.filter_congr fun r hr ↦ ?_
  by_cases hcase : r.userId = u ∧ r.entityName = name
  · have hpr := hp r (Table.mem_orderByKey.mp hr) hcase.1 hcase.2
    simp [hcase, hpr, ObservationRow.toObservation]
  · simp [hcase]

theorem observationsOf_deleteWhere_of {p : ObservationRow → Bool}
    (hobs : db'.observations = db.observations.deleteWhere p)
    (hp : ∀ r ∈ db.observations.rows, r.userId = u → r.entityName = name → p r = false) :
    db'.observationsOf u name = db.observationsOf u name := by
  rw [observationsOf_deleteWhere (q := fun _ ↦ false) hobs hp]
  simp

end Database

def HasEntity (kg : KnowledgeGraph) (u : String) : Prop := ∃ name, (kg.entity? u name).isSome

/-- The memory holds what the database describes, except for relation rows of
users without entities, which are not loaded. -/
structure MirroredBy (kg : KnowledgeGraph) (db : Database) : Prop where
  stored : kg.db = some db
  entity : ∀ u name, kg.entity? u name = db.entity? u name
  relation_stored : ∀ u id x, kg.relation? u id = some x → db.relation? u id = some x
  relation : ∀ u, kg.HasEntity u → ∀ id, kg.relation? u id = db.relation? u id

theorem hasEntities_iff_hasEntity {kg : KnowledgeGraph} {db : Database} (h : MirroredBy kg db)
    (u : String) : db.HasEntities u ↔ kg.HasEntity u := by
  simp only [HasEntity, h.entity, Database.entity?, Option.isSome_map, Option.isSome_iff_exists,
    Table.find_eq_some_iff, Database.HasEntities]
  constructor
  · rintro ⟨r, hr, rfl⟩
    exact ⟨r.name, r, hr, rfl⟩
  · rintro ⟨name, r, hr, hkey⟩
    exact ⟨r, hr, congrArg Prod.fst hkey⟩

theorem mirroredBy_loadFromDb (db : Database) : MirroredBy (loadFromDb db) db := by
  classical
  have hent : ∀ u, (loadFromDb db).HasEntity u → db.HasEntities u := by
    intro u h
    obtain ⟨name, he⟩ := h
    rw [entity?_loadFromDb, Database.entity?, Option.isSome_map] at he
    obtain ⟨r, hr⟩ := Option.isSome_iff_exists.mp he
    obtain ⟨hmem, hkey⟩ := Table.find_eq_some_iff.mp hr
    exact ⟨r, hmem, congrArg Prod.fst hkey⟩
  refine ⟨rfl, entity?_loadFromDb db, fun u id x hx ↦ ?_, fun u hu id ↦ ?_⟩
  · rw [relation?_loadFromDb] at hx
    split at hx
    · exact hx
    · cases hx
  · rw [relation?_loadFromDb, if_pos (hent u hu)]

/-- A step that leaves all relations alone and gives no user a first entity. -/
theorem MirroredBy.of_entities {kg kg' : KnowledgeGraph} {db db' : Database}
    (h : MirroredBy kg db) (hdb : kg'.db = some db') (hrows : db'.relations = db.relations)
    (hrel : ∀ u id, kg'.relation? u id = kg.relation? u id)
    (hhas : ∀ u, kg'.HasEntity u → kg.HasEntity u)
    (hent : ∀ u name, kg'.entity? u name = db'.entity? u name) : MirroredBy kg' db' := by
  have hstored : ∀ u id, db'.relation? u id = db.relation? u id := by
    intro u id
    rw [Database.relation?, hrows, Database.relation?]
  refine ⟨hdb, hent, fun u id x hx ↦ ?_, fun u hu id ↦ ?_⟩
  · rw [hstored]
    exact h.relation_stored u id x (hrel u id ▸ hx)
  · rw [hrel, hstored]
    exact h.relation u (hhas u hu) id

theorem MirroredBy.of_deleteWhere {kg kg' : KnowledgeGraph} {db db' : Database}
    {gone : String → ℕ → Prop} [∀ v id, Decidable (gone v id)] {p : RelationRow → Bool}
    (h : MirroredBy kg db) (hdb : kg'.db = some db')
    (hrels : db'.relations = db.relations.deleteWhere p)
    (hrel : ∀ v id, kg'.relation? v id = if gone v id then none else kg.relation? v id)
    (hgone : ∀ r ∈ db.relations.rows, kg.relation? r.userId r.id = some r.toRelation →
      (p r = true ↔ gone r.userId r.id))
    (hhas : ∀ u, kg'.HasEntity u → kg.HasEntity u)
    (hent : ∀ u name, kg'.entity? u name = db'.entity? u name) : MirroredBy kg' db' := by
  have hback : ∀ u id x, kg'.relation? u id = some x → kg.relation? u id = some x := by
    intro u id x hx
    rw [hrel] at hx
    split at hx
    · cases hx
    · exact hx
  have hsame : ∀ u id x, kg.relation? u id = some x → db.relation? u id = some x →
      (kg'.relation? u id = some x ↔ db'.relation? u id = some x) := by
    intro u id x hx hst
    obtain ⟨r, hr, rfl, rfl, rfl⟩ := Database.relation?_eq_some_iff.mp hst
    rw [Database.relation?_deleteWhere_iff hrels hr, hrel, hx, ← Bool.not_eq_true, hgone r hr hx]
    by_cases hid : gone r.userId r.id
    · simp [hid]
    · simp [hid]
  refine ⟨hdb, hent, fun u id x hx ↦ ?_, fun u hu id ↦ Option.ext fun x ↦ ?_⟩
  · have hkg := hback u id x hx
    exact (hsame u id x hkg (h.relation_stored u id x hkg)).mp hx
  · have heq := h.relation u (hhas u hu) id
    constructor
    · intro hx
      have hkg := hback u id x hx
      exact (hsame u id x hkg (heq ▸ hkg)).mp hx
    · intro hx
      have hst := Database.relation?_of_deleteWhere hrels hx
      exact (hsame u id x (heq ▸ hst) hst).mpr hx

section Steps

variable {u : String} {kg : KnowledgeGraph} {db : Database}

theorem mirroredBy_userGraph (h : MirroredBy kg db) : MirroredBy (kg.userGraph u) db := by
  refine h.of_entities (by rw [db_userGraph, h.stored]) rfl (relation?_userGraph kg u) ?_ ?_
  · intro v hv
    obtain ⟨name, he⟩ := hv
    exact ⟨name, by rwa [entity?_userGraph] at he⟩
  · intro v name
    rw [entity?_userGraph, h.entity]

theorem observation_below (h : MirroredBy kg db) (ho : Owned kg) {r : ObservationRow}
    (hr : r ∈ db.observations.rows) : r.id < kg.nextId :=
  ho.observation.filed_below r.userId r.id
    ((filed_observationLedger h.stored _ _).mpr ⟨r, hr, rfl, rfl⟩)

theorem relation_below (h : MirroredBy kg db) (ho : Owned kg) {r : RelationRow}
    (hr : r ∈ db.relations.rows) : r.id < kg.nextId :=
  ho.relation.filed_below r.userId r.id
    ((filed_relationLedger h.stored _ _).mpr ⟨r, hr, rfl, rfl⟩)

/-- What one entity to create may meet: an entity of its own type, or no trace
of its name and no relation row of the user that was not loaded. -/
def CreatesCleanly (kg : KnowledgeGraph) (u : String) (input : CreateEntityInput) : Prop :=
  match kg.entity? u input.name with
  | some e => e.entityType = input.entityType
  | none => ∀ db ∈ kg.db,
      (∀ r ∈ db.observations.rows, r.userId = u → r.entityName ≠ input.name) ∧
        ∀ r ∈ db.relations.rows, r.userId = u → (kg.relation? u r.id).isSome

theorem mirroredBy_createEntity (h : MirroredBy kg db) (ho : Owned kg) {input : CreateEntityInput}
    (hclean : CreatesCleanly kg u input) : ∃ db', MirroredBy (createEntity u kg input) db' := by
  have hdb := db_createEntity u kg input
  rw [h.stored, Option.map_some] at hdb
  obtain ⟨db', hdb', hents, hobs, hrels⟩ : ∃ db', (createEntity u kg input).db = some db' ∧
      db'.entities = db.entities.insertOrReplace ⟨u, input.name, input.entityType⟩ ∧
      db'.observations = db.observations.insertAll
        ((numbered kg.nextId input.observations).map (observationRow u input.name)) ∧
      db'.relations = db.relations := ⟨_, hdb, rfl, rfl, rfl⟩
  have hos : ∀ v m, db'.observationsOf v m = if v = u ∧ m = input.name then
      db.observationsOf v m ++ numbered kg.nextId input.observations
      else db.observationsOf v m := fun v m ↦
    Database.observationsOf_insertAll hobs (numbered_pairwise kg.nextId input.observations)
      fun o hmem r hr ↦ (observation_below h ho hr).trans_le (mem_numbered hmem).1
  have hstored : ∀ v id, db'.relation? v id = db.relation? v id := fun v id ↦ by
    rw [Database.relation?, hrels, Database.relation?]
  have hold := h.entity u input.name
  refine ⟨db', hdb', fun v m ↦ ?_, fun v id x hx ↦ ?_, fun v hv id ↦ ?_⟩
  · rw [entity?_createEntity, Database.entity?, hents, Table.find_insertOrReplace, hos]
    by_cases hcase : v = u ∧ m = input.name
    · obtain ⟨rfl, rfl⟩ := hcase
      simp only [and_self, if_true, EntityRow.key, Option.map_some, Option.some_inj]
      cases he : kg.entity? v input.name with
      | some e =>
        -- the row is replaced by one of the same type
        have htype : e.entityType = input.entityType := by
          rw [CreatesCleanly, he] at hclean
          exact hclean
        rw [he] at hold
        obtain ⟨r, hr, hre⟩ := Option.map_eq_some_iff.mp hold.symm
        subst hre
        simp only at htype ⊢
        rw [htype]
      | none =>
        have hnil : db.observationsOf v input.name = [] := by
          rw [CreatesCleanly, he] at hclean
          refine List.eq_nil_iff_forall_not_mem.mpr fun o hmem ↦ ?_
          obtain ⟨r, hr, hu, hn, _⟩ := Database.mem_observationsOf hmem
          exact (hclean db h.stored).1 r hr hu hn
        rw [hnil, List.nil_append]
    · have hkey : (v, m) ≠ EntityRow.key ⟨u, input.name, input.entityType⟩ := fun heq ↦
        hcase ⟨congrArg Prod.fst heq, congrArg Prod.snd heq⟩
      rw [if_neg hcase, if_neg hkey, if_neg hcase, h.entity, Database.entity?]
  · rw [hstored]
    rw [relation?_createEntity] at hx
    exact h.relation_stored v id x hx
  · rw [relation?_createEntity, hstored]
    by_cases hhas : kg.HasEntity v
    · exact h.relation v hhas id
    · obtain ⟨m, hm⟩ := hv
      rw [entity?_createEntity] at hm
      split at hm
      · rename_i hcase
        obtain ⟨rfl, rfl⟩ := hcase
        -- a first entity: every relation row of the user is in memory already
        have hnone : kg.entity? v input.name = none := by
          refine Option.not_isSome_iff_eq_none.mp fun hsome ↦ hhas ⟨input.name, hsome⟩
        rw [CreatesCleanly, hnone] at hclean
        refine Option.ext fun x ↦ ⟨h.relation_stored v id x, fun hx ↦ ?_⟩
        obtain ⟨r, hr, hu, rfl, _⟩ := Database.relation?_eq_some_iff.mp hx
        obtain ⟨y, hy⟩ := Option.isSome_iff_exists.mp ((hclean db h.stored).2 r hr hu)
        have hxy := h.relation_stored v r.id y hy
        rw [hx] at hxy
        rw [hy, hxy]
      · exact absurd ⟨m, hm⟩ hhas

theorem mirroredBy_createRelation (h : MirroredBy kg db) (ho : Owned kg)
    (input : CreateRelationInput) : ∃ db', MirroredBy (createRelation u kg input) db' := by
  have hdb := db_createRelation u kg input
  rw [h.stored, Option.map_some] at hdb
  obtain ⟨db', hdb', hents, hobs, hrels⟩ : ∃ db', (createRelation u kg input).db = some db' ∧
      db'.entities = db.entities ∧ db'.observations = db.observations ∧
      db'.relations = db.relations.insertOrReplace
        ⟨kg.nextId, u, input.source, input.relationType, input.target⟩ := ⟨_, hdb, rfl, rfl, rfl⟩
  have hstored : ∀ v id, db'.relation? v id = if v = u ∧ id = kg.nextId then
      some ⟨kg.nextId, input.source, input.relationType, input.target⟩
      else db.relation? v id := by
    intro v id
    rw [Database.relation?, hrels, Table.find_insertOrReplace]
    by_cases hid : id = kg.nextId
    · subst hid
      have hfree : db.relation? v kg.nextId = none := by
        refine Option.eq_none_iff_forall_ne_some.mpr fun x hx ↦ ?_
        obtain ⟨r, hr, _, hid, _⟩ := Database.relation?_eq_some_iff.mp hx
        have := relation_below h ho hr
        omega
      by_cases hv : v = u
      · simp [hv, Option.filter_some, RelationRow.toRelation]
      · simp [hv, Ne.symm hv, hfree]
    · simp [hid, Database.relation?]
  refine ⟨db', hdb', fun v m ↦ ?_, fun v id x hx ↦ ?_, fun v hv id ↦ ?_⟩
  · rw [entity?_createRelation, h.entity, Database.entity?, Database.entity?, hents,
      Database.observationsOf_congr hobs]
  · rw [relation?_createRelation] at hx
    rw [hstored]
    split
    · rwa [if_pos ‹_›] at hx
    · rw [if_neg ‹_›] at hx
      exact h.relation_stored v id x hx
  · have hhas : kg.HasEntity v := by
      obtain ⟨m, hm⟩ := hv
      exact ⟨m, by rwa [entity?_createRelation] at hm⟩
    rw [relation?_createRelation, hstored, h.relation v hhas]

theorem mirroredBy_addObservation (h : MirroredBy kg db) (ho : Owned kg) (name content : String) :
    ∃ db', MirroredBy (addObservation u name kg content) db' := by
  have hdb := db_addObservation u name kg content
  rw [h.stored, Option.map_some] at hdb
  obtain ⟨db', hdb', hents, hobs, hrels⟩ : ∃ db', (addObservation u name kg content).db = some db' ∧
      db'.entities = db.entities ∧
      db'.observations = db.observations.insertAll
        ([⟨kg.nextId, content⟩].map (observationRow u name)) ∧
      db'.relations = db.relations := ⟨_, hdb, rfl, rfl, rfl⟩
  have hos : ∀ v m, db'.observationsOf v m = if v = u ∧ m = name then
      db.observationsOf v m ++ [⟨kg.nextId, content⟩] else db.observationsOf v m := fun v m ↦
    Database.observationsOf_insertAll hobs (List.pairwise_singleton _ _) fun o hmem r hr ↦ by
      rw [List.mem_singleton.mp hmem]
      exact observation_below h ho hr
  have hent : ∀ v m, (addObservation u name kg content).entity? v m = db'.entity? v m := by
    intro v m
    rw [entity?_addObservation, Database.entity?, hents, hos]
    by_cases hcase : v = u ∧ m = name
    · obtain ⟨rfl, rfl⟩ := hcase
      rw [if_pos ⟨rfl, rfl⟩, if_pos ⟨rfl, rfl⟩, h.entity, Database.entity?, Option.map_map]
      rfl
    · rw [if_neg hcase, if_neg hcase, h.entity, Database.entity?]
  refine ⟨db', h.of_entities hdb' hrels (relation?_addObservation u name kg content) ?_ hent⟩
  intro v hv
  obtain ⟨m, hm⟩ := hv
  rw [entity?_addObservation] at hm
  split at hm
  · rename_i hcase
    rw [Option.isSome_map] at hm
    exact ⟨name, hcase.1 ▸ hm⟩
  · exact ⟨m, hm⟩

theorem MirroredBy.relation_id (h : MirroredBy kg db) {v : String} {id : ℕ} {x : Relation}
    (hx : kg.relation? v id = some x) : x.id = id := by
  obtain ⟨r, _, _, hid, rfl⟩ := Database.relation?_eq_some_iff.mp (h.relation_stored v id x hx)
  exact hid

theorem mirroredBy_deleteEntity (h : MirroredBy kg db) (name : String) :
    ∃ db', MirroredBy (deleteEntity u kg name) db' := by
  have hdb := db_deleteEntity u name kg
  rw [h.stored, Option.map_some] at hdb
  obtain ⟨db', hdb', hents, hobs, hrels⟩ : ∃ db', (deleteEntity u kg name).db = some db' ∧
      db'.entities = db.entities.deleteWhere (fun r ↦ r.userId = u ∧ r.name = name) ∧
      db'.observations = db.observations.deleteWhere
        (fun r ↦ r.userId = u ∧ r.entityName = name) ∧
      db'.relations = db.relations.deleteWhere
        (fun r ↦ r.userId = u ∧ (r.source = name ∨ r.target = name)) := ⟨_, hdb, rfl, rfl, rfl⟩
  have htouch := mem_toRemove u name kg fun id x hx ↦ h.relation_id hx
  refine ⟨db', h.of_deleteWhere hdb' hrels (relation?_deleteEntity u name kg) (fun r _ hx ↦ ?_)
    (fun v hv ↦ ?_) fun v m ↦ ?_⟩
  · rw [decide_eq_true_eq]
    refine and_congr_right fun hu ↦ ?_
    rw [htouch, ← hu, hx]
    simp [RelationRow.toRelation]
  · obtain ⟨m, hm⟩ := hv
    rw [entity?_deleteEntity] at hm
    split at hm
    · cases hm
    · exact ⟨m, hm⟩
  · rw [entity?_deleteEntity, h.entity, Database.entity?, Database.entity?, hents,
      Table.find_deleteWhere]
    by_cases hcase : v = u ∧ m = name
    · rw [if_pos hcase]
      cases hfind : db.entities.find (v, m) with
      | none => rfl
      | some r =>
        have hkey := (Table.find_eq_some_iff.mp hfind).2
        have hu : r.userId = u := (congrArg Prod.fst hkey).trans hcase.1
        have hn : r.name = name := (congrArg Prod.snd hkey).trans hcase.2
        simp [Option.filter_some, hu, hn]
    · have hkept : db'.observationsOf v m = db.observationsOf v m := by
        refine Database.observationsOf_deleteWhere_of hobs fun r _ hu hn ↦ ?_
        exact decide_eq_false fun hr ↦ hcase ⟨hu.symm.trans hr.1, hn.symm.trans hr.2⟩
      rw [if_neg hcase, hkept]
      cases hfind : db.entities.find (v, m) with
      | none => rfl
      | some r =>
        have hkey := (Table.find_eq_some_iff.mp hfind).2
        have hr : ¬ (r.userId = u ∧ r.name = name) := fun hr ↦
          hcase ⟨(congrArg Prod.fst hkey).symm.trans hr.1, (congrArg Prod.snd hkey).symm.trans hr.2⟩
        simp [Option.filter_some, hr]

/-- User `u` deletes observations in memory as `f` says and, in the database,
every row with an id in `deleted`. -/
theorem MirroredBy.of_deletedIds (h : MirroredBy kg db) {kg' : KnowledgeGraph} {deleted : List ℕ}
    {f : Entity → List Observation}
    (hdb : kg'.db = kg.db.map fun db ↦
      { db with observations := db.observations.deleteWhere (·.id ∈ deleted) })
    (hrel : ∀ v id, kg'.relation? v id = kg.relation? v id)
    (hmem : ∀ v m, kg'.entity? v m = if v = u then
      (kg.entity? u m).map fun e ↦ { e with observations := f e } else kg.entity? v m)
    (hkept : ∀ v m e, kg.entity? v m = some e →
      e.observations.filter (fun o ↦ !decide (o.id ∈ deleted)) =
        if v = u then f e else e.observations) : ∃ db', MirroredBy kg' db' := by
  rw [h.stored, Option.map_some] at hdb
  obtain ⟨db', hdb', hents, hobs, hrels⟩ : ∃ db', kg'.db = some db' ∧
      db'.entities = db.entities ∧
      db'.observations = db.observations.deleteWhere (·.id ∈ deleted) ∧
      db'.relations = db.relations := ⟨_, hdb, rfl, rfl, rfl⟩
  refine ⟨db', h.of_entities hdb' hrels hrel (fun v hv ↦ ?_) fun v m ↦ ?_⟩
  · obtain ⟨m, hm⟩ := hv
    rw [hmem] at hm
    split at hm
    · rename_i hv
      rw [Option.isSome_map] at hm
      exact ⟨m, hv ▸ hm⟩
    · exact ⟨m, hm⟩
  · have hos : db'.observationsOf v m =
        (db.observationsOf v m).filter fun o ↦ !decide (o.id ∈ deleted) :=
      Database.observationsOf_deleteWhere (q := fun id ↦ decide (id ∈ deleted)) hobs
        fun _ _ _ _ ↦ rfl
    have hold := h.entity v m
    rw [Database.entity?] at hold
    rw [hmem, Database.entity?, hents, hos]
    cases hfind : db.entities.find (v, m) with
    | none =>
      rw [hfind, Option.map_none] at hold
      split
      · rename_i hv
        rw [← hv, hold]; rfl
      · exact hold
    | some r =>
      rw [hfind, Option.map_some] at hold
      have hfilter := hkept v m _ hold
      simp only at hfilter
      rw [Option.map_some, hfilter]
      split
      · rename_i hv
        subst hv
        rw [hold]; rfl
      · exact hold

/-- Ids leave the database without a user's id, so no other user may hold them. -/
theorem mirroredBy_deleteObservations (h : MirroredBy kg db) {ids : List ℕ}
    (hown : (∃ id ∈ ids, kg.HoldsObservation u id) →
      ∀ v, v ≠ u → ∀ id ∈ ids, ¬ kg.HoldsObservation v id) :
    ∃ db', MirroredBy (kg.deleteObservations u ids).2 db' := by
  refine h.of_deletedIds (db_deleteObservations kg u ids) (relation?_deleteObservations kg u ids)
    (entity?_deleteObservations kg u ids) fun v m e he ↦ ?_
  have hheld : ∀ o ∈ e.observations, kg.HoldsObservation v o.id := fun o ho ↦ ⟨m, e, he, o, ho, rfl⟩
  split
  · rename_i hv
    subst hv
    refine List.filter_congr fun o ho ↦ ?_
    have hiff : o.id ∈ (kg.deleteObservations v ids).1 ↔ o.id ∈ ids := by
      rw [mem_deleteObservations]
      exact ⟨And.left, fun hid ↦ ⟨hid, o.id, hid, hheld o ho⟩⟩
    simp [hiff]
  · rename_i hv
    refine List.filter_eq_self.mpr fun o ho ↦ ?_
    have hkept : o.id ∉ (kg.deleteObservations u ids).1 := by
      intro hdel
      obtain ⟨hid, hsome⟩ := (mem_deleteObservations kg u ids o.id).mp hdel
      exact hown hsome v hv o.id hid (hheld o ho)
    simp [hkept]

theorem MirroredBy.holder_unique (h : MirroredBy kg db) {v w m n : String} {e e' : Entity}
    {o o' : Observation} (he : kg.entity? v m = some e) (he' : kg.entity? w n = some e')
    (ho : o ∈ e.observations) (ho' : o' ∈ e'.observations) (hid : o.id = o'.id) :
    v = w ∧ m = n := by
  rw [h.entity] at he he'
  obtain ⟨_, _, rfl⟩ := Option.map_eq_some_iff.mp he
  obtain ⟨_, _, rfl⟩ := Option.map_eq_some_iff.mp he'
  obtain ⟨r, hr, hu, hn, hrid⟩ := Database.mem_observationsOf ho
  obtain ⟨r', hr', hu', hn', hrid'⟩ := Database.mem_observationsOf ho'
  have hrr : r = r' := db.observations.key_inj hr hr' (hrid.trans (hid.trans hrid'.symm))
  subst hrr
  exact ⟨hu.symm.trans hu', hn.symm.trans hn'⟩

theorem MirroredBy.observations_pairwise (h : MirroredBy kg db) {v m : String} {e : Entity}
    (he : kg.entity? v m = some e) : e.observations.Pairwise fun o o' ↦ o.id < o'.id := by
  rw [h.entity] at he
  obtain ⟨_, _, rfl⟩ := Option.map_eq_some_iff.mp he
  exact Database.observationsOf_pairwise

theorem filter_eq_drop {α : Type} {p : α → Bool} {l : List α} {k : ℕ}
    (htake : ∀ x ∈ l.take k, p x = false) (hdrop : ∀ x ∈ l.drop k, p x = true) :
    l.filter p = l.drop k := by
  have hfirst : (l.take k).filter p = [] :=
    List.filter_eq_nil_iff.mpr fun x hx ↦ by simp [htake x hx]
  have hlast : (l.drop k).filter p = l.drop k := List.filter_eq_self.mpr hdrop
  rw [← List.take_append_drop k l, List.filter_append, hfirst, hlast, List.nil_append,
    List.take_append_drop]

theorem mirroredBy_trimObservations (h : MirroredBy kg db) (maxPerEntity : ℕ) :
    ∃ db', MirroredBy (kg.trimObservations u maxPerEntity).2 db' := by
  refine h.of_deletedIds (db_trimObservations kg u maxPerEntity)
    (relation?_trimObservations kg u maxPerEntity) (entity?_trimObservations kg u maxPerEntity)
    fun v m e he ↦ ?_
  split
  · rename_i hv
    subst hv
    refine filter_eq_drop (fun o ho ↦ ?_) fun o ho ↦ ?_
    · have hdrained : o.id ∈ drainedIds kg v maxPerEntity :=
        (mem_drainedIds kg v maxPerEntity).mpr ⟨m, e, he, o, ho, rfl⟩
      simp [hdrained]
    · have hkept : o.id ∉ drainedIds kg v maxPerEntity := by
        intro hdrained
        obtain ⟨n, e', he', o', ho', hid⟩ := (mem_drainedIds kg v maxPerEntity).mp hdrained
        -- the entity that drained this id is the one we look at
        obtain ⟨_, rfl⟩ := h.holder_unique he' he (List.mem_of_mem_take ho')
          (List.mem_of_mem_drop ho) hid
        obtain rfl := Option.some_inj.mp (he'.symm.trans he)
        have hsorted := h.observations_pairwise he
        rw [← List.take_append_drop (e'.observations.length - maxPerEntity) e'.observations]
          at hsorted
        have hlt := (List.pairwise_append.mp hsorted).2.2 o' ho' o ho
        omega
      simp [hkept]
  · rename_i hv
    refine List.filter_eq_self.mpr fun o ho ↦ ?_
    have hkept : o.id ∉ drainedIds kg u maxPerEntity := by
      intro hdrained
      obtain ⟨n, e', he', o', ho', hid⟩ := (mem_drainedIds kg u maxPerEntity).mp hdrained
      exact hv (h.holder_unique he' he (List.mem_of_mem_take ho') ho hid).1.symm
    simp [hkept]

theorem mirroredBy_deleteRelations (h : MirroredBy kg db) (ho : Owned kg) (ids : List ℕ) :
    ∃ db', MirroredBy (kg.deleteRelations u ids).2 db' := by
  have hdb := db_deleteRelations kg u ids
  rw [h.stored, Option.map_some] at hdb
  obtain ⟨db', hdb', hents, hobs, hrels⟩ : ∃ db', (kg.deleteRelations u ids).2.db = some db' ∧
      db'.entities = db.entities ∧ db'.observations = db.observations ∧
      db'.relations = db.relations.deleteWhere (·.id ∈ (kg.deleteRelations u ids).1) :=
    ⟨_, hdb, rfl, rfl, rfl⟩
  refine ⟨db', h.of_deleteWhere hdb' hrels (relation?_deleteRelations kg u ids)
    (fun r hr hx ↦ ?_) (fun v hv ↦ ?_) fun v m ↦ ?_⟩
  · rw [decide_eq_true_eq, mem_deleteRelations]
    by_cases hu : r.userId = u
    · subst hu
      simp [hx]
    · -- the user does not hold the id of another user's row
      have hforeign : ¬ (kg.relation? u r.id).isSome := fun hholds ↦
        hu (ho.relation.owner u r.userId r.id hholds
          ((filed_relationLedger h.stored _ _).mpr ⟨r, hr, rfl, rfl⟩))
      simp [hu, hforeign]
  · obtain ⟨m, hm⟩ := hv
    exact ⟨m, by rwa [entity?_deleteRelations] at hm⟩
  · rw [entity?_deleteRelations, h.entity, Database.entity?, Database.entity?, hents,
      Database.observationsOf_congr hobs]

theorem mirroredBy_deleteUserGraph (h : MirroredBy kg db) :
    ∃ db', MirroredBy (kg.deleteUserGraph u).2 db' := by
  have hdb := db_deleteUserGraph kg u
  cases hg : kg.graphs.lookup u with
  | none =>
    have hsame : kg.deleteUserGraph u = (false, kg) := by rw [deleteUserGraph, hg]
    rw [hsame]
    exact ⟨db, h⟩
  | some g =>
    rw [hg, h.stored, Option.isSome_some, if_pos rfl, Option.map_some] at hdb
    obtain ⟨db', hdb', hents, hobs, hrels⟩ : ∃ db', (kg.deleteUserGraph u).2.db = some db' ∧
        db'.entities = db.entities.deleteWhere (·.userId = u) ∧
        db'.observations = db.observations.deleteWhere (·.userId = u) ∧
        db'.relations = db.relations.deleteWhere (·.userId = u) := ⟨_, hdb, rfl, rfl, rfl⟩
    refine ⟨db', h.of_deleteWhere hdb' hrels (relation?_deleteUserGraph kg u)
      (fun r _ _ ↦ decide_eq_true_iff) (fun v hv ↦ ?_) fun v m ↦ ?_⟩
    · obtain ⟨m, hm⟩ := hv
      rw [entity?_deleteUserGraph] at hm
      split at hm
      · cases hm
      · exact ⟨m, hm⟩
    · rw [entity?_deleteUserGraph, h.entity, Database.entity?, Database.entity?, hents,
        Table.find_deleteWhere]
      by_cases hv : v = u
      · rw [if_pos hv]
        cases hfind : db.entities.find (v, m) with
        | none => rfl
        | some r =>
          have hu : r.userId = u :=
            (congrArg Prod.fst (Table.find_eq_some_iff.mp hfind).2).trans hv
          simp [Option.filter_some, hu]
      · have hkept : db'.observationsOf v m = db.observationsOf v m :=
          Database.observationsOf_deleteWhere_of hobs fun r _ hu _ ↦
            decide_eq_false fun hr ↦ hv (hu.symm.trans hr)
        rw [if_neg hv, hkept]
        cases hfind : db.entities.find (v, m) with
        | none => rfl
        | some r =>
          have hu : r.userId ≠ u := fun hr ↦
            hv ((congrArg Prod.fst (Table.find_eq_some_iff.mp hfind).2).symm.trans hr)
          simp [Option.filter_some, hu]

end Steps

end AdkGateway.KnowledgeGraph
