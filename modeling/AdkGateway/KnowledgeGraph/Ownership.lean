import AdkGateway.Foundation.FreshIds
import AdkGateway.KnowledgeGraph.Loading

namespace AdkGateway.KnowledgeGraph

open Foundation FreshIds

inductive Reachable : KnowledgeGraph → Prop
  | opened (db : Option Database) : Reachable (withPersistence db)
  | apply {kg : KnowledgeGraph} (u : String) (op : Op) : Reachable kg → Reachable (kg.apply u op)

theorem Reachable.run {kg : KnowledgeGraph} (h : Reachable kg) (ops : List (String × Op)) :
    Reachable (kg.run ops) := by
  induction ops generalizing kg with
  | nil => exact h
  | cons op ops ih => exact ih (h.apply op.1 op.2)

def observationLedger (kg : KnowledgeGraph) : Ledger String where
  next := kg.nextId
  holds := kg.HoldsObservation
  filed u id := ∃ db ∈ kg.db, ∃ r ∈ db.observations.rows, r.userId = u ∧ r.id = id

def relationLedger (kg : KnowledgeGraph) : Ledger String where
  next := kg.nextId
  holds u id := (kg.relation? u id).isSome
  filed u id := ∃ db ∈ kg.db, ∃ r ∈ db.relations.rows, r.userId = u ∧ r.id = id

structure UserStep (u : String) (kg kg' : KnowledgeGraph) : Prop where
  observation : (observationLedger kg).Step u (observationLedger kg')
  relation : (relationLedger kg).Step u (relationLedger kg')

structure Owned (kg : KnowledgeGraph) : Prop where
  observation : (observationLedger kg).Owned
  relation : (relationLedger kg).Owned

theorem UserStep.refl (u : String) (kg : KnowledgeGraph) : UserStep u kg kg := ⟨.refl _ _, .refl _ _⟩

theorem UserStep.trans {u : String} {kg₁ kg₂ kg₃ : KnowledgeGraph} (h : UserStep u kg₁ kg₂)
    (h' : UserStep u kg₂ kg₃) : UserStep u kg₁ kg₃ :=
  ⟨h.observation.trans h'.observation, h.relation.trans h'.relation⟩

theorem UserStep.foldl {α : Type} {u : String} {f : KnowledgeGraph → α → KnowledgeGraph}
    (h : ∀ kg x, UserStep u kg (f kg x)) (xs : List α) (kg : KnowledgeGraph) :
    UserStep u kg (xs.foldl f kg) := by
  induction xs generalizing kg with
  | nil => exact .refl u kg
  | cons x xs ih => exact (h kg x).trans (ih (f kg x))

theorem Owned.step {u : String} {kg kg' : KnowledgeGraph} (ho : Owned kg) (h : UserStep u kg kg') :
    Owned kg' := ⟨ho.observation.step h.observation, ho.relation.step h.relation⟩

theorem UserStep.of_delete (u : String) {kg kg' : KnowledgeGraph} (sql : Database → Database)
    (hn : kg'.nextId = kg.nextId) (hdb : kg'.db = kg.db.map sql)
    (ho : ∀ v id, kg'.HoldsObservation v id → kg.HoldsObservation v id)
    (hr : ∀ v id, (kg'.relation? v id).isSome → (kg.relation? v id).isSome)
    (hor : ∀ db, ∀ r ∈ (sql db).observations.rows, r ∈ db.observations.rows)
    (hrr : ∀ db, ∀ r ∈ (sql db).relations.rows, r ∈ db.relations.rows) : UserStep u kg kg' := by
  refine ⟨.of_subset u hn ho fun v id h ↦ ?_, .of_subset u hn hr fun v id h ↦ ?_⟩
  · obtain ⟨db', hdb', r, hmem, he⟩ := h
    rw [hdb] at hdb'
    obtain ⟨db, hd, rfl⟩ := Option.map_eq_some_iff.mp hdb'
    exact ⟨db, hd, r, hor db r hmem, he⟩
  · obtain ⟨db', hdb', r, hmem, he⟩ := h
    rw [hdb] at hdb'
    obtain ⟨db, hd, rfl⟩ := Option.map_eq_some_iff.mp hdb'
    exact ⟨db, hd, r, hrr db r hmem, he⟩

theorem holdsObservation_congr {kg kg' : KnowledgeGraph}
    (h : ∀ v name, kg'.entity? v name = kg.entity? v name) (v : String) (id : ℕ) :
    kg'.HoldsObservation v id ↔ kg.HoldsObservation v id := by
  simp [HoldsObservation, h]

section Steps

variable (u : String) (kg : KnowledgeGraph)

theorem userStep_userGraph : UserStep u kg (kg.userGraph u) := by
  refine .of_delete u id rfl (by simp) (fun v id h ↦ ?_) (by simp) (by simp) (by simp)
  exact (holdsObservation_congr (entity?_userGraph kg u) v id).mp h

theorem userStep_createEntity (input : CreateEntityInput) :
    UserStep u kg (createEntity u kg input) := by
  have hn : (createEntity u kg input).nextId = kg.nextId + input.observations.length :=
    nextId_createEntity u kg input
  refine ⟨⟨?_, fun v id h ↦ ?_, fun v id h ↦ ?_⟩, ⟨?_, fun v id h ↦ ?_, fun v id h ↦ ?_⟩⟩
  · simp [observationLedger, hn]
  · obtain ⟨name, e, he, o, ho, rfl⟩ := h
    simp only [observationLedger, hn]
    rcases observation_createEntity u kg input he ho with ⟨e', hold, hbefore⟩ | ⟨⟨rfl, rfl⟩, hnew⟩
    · exact .inl ⟨name, e', hold, o, hbefore, rfl⟩
    · exact .inr ⟨rfl, mem_numbered hnew⟩
  · obtain ⟨db', hdb', r, hr, rfl, rfl⟩ := h
    rw [db_createEntity] at hdb'
    obtain ⟨db, hd, rfl⟩ := Option.map_eq_some_iff.mp hdb'
    simp only [observationLedger, hn]
    rcases Table.mem_rows_insertAll hr with hr | hr
    · exact .inl ⟨db, hd, r, hr, rfl, rfl⟩
    · obtain ⟨o, ho, rfl⟩ := List.mem_map.mp hr
      exact .inr ⟨rfl, mem_numbered ho⟩
  · simp [relationLedger, hn]
  · simp only [relationLedger, relation?_createEntity] at h ⊢
    exact .inl h
  · obtain ⟨db', hdb', r, hr, he⟩ := h
    rw [db_createEntity] at hdb'
    obtain ⟨db, hd, rfl⟩ := Option.map_eq_some_iff.mp hdb'
    exact .inl ⟨db, hd, r, hr, he⟩

theorem userStep_createRelation (input : CreateRelationInput) :
    UserStep u kg (createRelation u kg input) := by
  refine ⟨⟨?_, fun v id h ↦ ?_, fun v id h ↦ ?_⟩, ⟨?_, fun v id h ↦ ?_, fun v id h ↦ ?_⟩⟩
  · simp [observationLedger, nextId_createRelation]
  · exact .inl ((holdsObservation_congr (entity?_createRelation u kg input) v id).mp h)
  · obtain ⟨db', hdb', r, hr, he⟩ := h
    rw [db_createRelation] at hdb'
    obtain ⟨db, hd, rfl⟩ := Option.map_eq_some_iff.mp hdb'
    exact .inl ⟨db, hd, r, hr, he⟩
  · simp [relationLedger, nextId_createRelation]
  · simp only [relationLedger, relation?_createRelation, nextId_createRelation] at h ⊢
    by_cases hnew : v = u ∧ id = kg.nextId
    · exact .inr ⟨hnew.1, by omega⟩
    · rw [if_neg hnew] at h
      exact .inl h
  · obtain ⟨db', hdb', r, hr, rfl, rfl⟩ := h
    rw [db_createRelation] at hdb'
    obtain ⟨db, hd, rfl⟩ := Option.map_eq_some_iff.mp hdb'
    simp only [relationLedger, nextId_createRelation]
    rcases Table.mem_rows_insertOrReplace.mp hr with ⟨hr, _⟩ | rfl
    · exact .inl ⟨db, hd, r, hr, rfl, rfl⟩
    · exact .inr ⟨rfl, le_rfl, Nat.lt_succ_self _⟩

theorem userStep_addObservation (name content : String) :
    UserStep u kg (addObservation u name kg content) := by
  refine ⟨⟨?_, fun v id h ↦ ?_, fun v id h ↦ ?_⟩, ⟨?_, fun v id h ↦ ?_, fun v id h ↦ ?_⟩⟩
  · simp [observationLedger, nextId_addObservation]
  · obtain ⟨m, e, he, o, ho, rfl⟩ := h
    rw [entity?_addObservation] at he
    simp only [observationLedger, nextId_addObservation]
    split at he
    · rename_i hcase
      obtain ⟨rfl, rfl⟩ := hcase
      obtain ⟨e', hold, rfl⟩ := Option.map_eq_some_iff.mp he
      rcases List.mem_append.mp ho with ho | ho
      · exact .inl ⟨m, e', hold, o, ho, rfl⟩
      · rw [List.mem_singleton.mp ho]
        exact .inr ⟨rfl, le_rfl, Nat.lt_succ_self _⟩
    · exact .inl ⟨m, e, he, o, ho, rfl⟩
  · obtain ⟨db', hdb', r, hr, rfl, rfl⟩ := h
    rw [db_addObservation] at hdb'
    obtain ⟨db, hd, rfl⟩ := Option.map_eq_some_iff.mp hdb'
    simp only [observationLedger, nextId_addObservation]
    rcases Table.mem_rows_insertOrReplace.mp hr with ⟨hr, _⟩ | rfl
    · exact .inl ⟨db, hd, r, hr, rfl, rfl⟩
    · exact .inr ⟨rfl, le_rfl, Nat.lt_succ_self _⟩
  · simp [relationLedger, nextId_addObservation]
  · simp only [relationLedger, relation?_addObservation] at h ⊢
    exact .inl h
  · obtain ⟨db', hdb', r, hr, he⟩ := h
    rw [db_addObservation] at hdb'
    obtain ⟨db, hd, rfl⟩ := Option.map_eq_some_iff.mp hdb'
    exact .inl ⟨db, hd, r, hr, he⟩

theorem userStep_deleteEntity (name : String) : UserStep u kg (deleteEntity u kg name) := by
  refine .of_delete u _ rfl (db_deleteEntity u name kg) (fun v id h ↦ ?_) (fun v id h ↦ ?_)
    (fun db r hr ↦ (Table.mem_rows_deleteWhere.mp hr).1)
    (fun db r hr ↦ (Table.mem_rows_deleteWhere.mp hr).1)
  · obtain ⟨m, e, he, ho⟩ := h
    rw [entity?_deleteEntity] at he
    split at he
    · cases he
    · exact ⟨m, e, he, ho⟩
  · rw [relation?_deleteEntity] at h
    split at h
    · cases h
    · exact h

theorem userStep_deleteObservations (ids : List ℕ) :
    UserStep u kg (kg.deleteObservations u ids).2 := by
  refine .of_delete u _ rfl (db_deleteObservations kg u ids) (fun v id h ↦ ?_) (fun v id h ↦ ?_)
    (fun db r hr ↦ (Table.mem_rows_deleteWhere.mp hr).1) (fun db r hr ↦ hr)
  · obtain ⟨name, e, he, o, ho, rfl⟩ := h
    rw [entity?_deleteObservations] at he
    split at he
    · rename_i hv
      obtain ⟨e', hold, rfl⟩ := Option.map_eq_some_iff.mp he
      exact ⟨name, e', hv ▸ hold, o, (List.mem_filter.mp ho).1, rfl⟩
    · exact ⟨name, e, he, o, ho, rfl⟩
  · rwa [relation?_deleteObservations] at h

theorem userStep_trimObservations (maxPerEntity : ℕ) :
    UserStep u kg (kg.trimObservations u maxPerEntity).2 := by
  refine .of_delete u _ rfl (db_trimObservations kg u maxPerEntity) (fun v id h ↦ ?_)
    (fun v id h ↦ ?_) (fun db r hr ↦ (Table.mem_rows_deleteWhere.mp hr).1) (fun db r hr ↦ hr)
  · obtain ⟨name, e, he, o, ho, rfl⟩ := h
    rw [entity?_trimObservations] at he
    split at he
    · rename_i hv
      obtain ⟨e', hold, rfl⟩ := Option.map_eq_some_iff.mp he
      exact ⟨name, e', hv ▸ hold, o, List.mem_of_mem_drop ho, rfl⟩
    · exact ⟨name, e, he, o, ho, rfl⟩
  · rwa [relation?_trimObservations] at h

theorem userStep_deleteRelations (ids : List ℕ) : UserStep u kg (kg.deleteRelations u ids).2 := by
  refine .of_delete u _ (nextId_deleteRelations kg u ids) (db_deleteRelations kg u ids)
    (fun v id h ↦ ?_) (fun v id h ↦ ?_) (fun db r hr ↦ hr)
    (fun db r hr ↦ (Table.mem_rows_deleteWhere.mp hr).1)
  · exact (holdsObservation_congr (entity?_deleteRelations kg u ids) v id).mp h
  · rw [relation?_deleteRelations] at h
    split at h
    · cases h
    · exact h

theorem userStep_deleteUserGraph : UserStep u kg (kg.deleteUserGraph u).2 := by
  have hobs : ∀ v id, (kg.deleteUserGraph u).2.HoldsObservation v id → kg.HoldsObservation v id := by
    intro v id h
    obtain ⟨name, e, he, ho⟩ := h
    rw [entity?_deleteUserGraph] at he
    split at he
    · cases he
    · exact ⟨name, e, he, ho⟩
  have hrel : ∀ v id, ((kg.deleteUserGraph u).2.relation? v id).isSome →
      (kg.relation? v id).isSome := by
    intro v id h
    rw [relation?_deleteUserGraph] at h
    split at h
    · cases h
    · exact h
  have hdb := db_deleteUserGraph kg u
  have hn := nextId_deleteUserGraph kg u
  split at hdb
  · exact .of_delete u _ hn hdb hobs hrel (fun db r hr ↦ (Table.mem_rows_deleteWhere.mp hr).1)
      (fun db r hr ↦ (Table.mem_rows_deleteWhere.mp hr).1)
  · exact .of_delete u id hn (by rw [hdb]; simp) hobs hrel (fun db r hr ↦ hr)
      (fun db r hr ↦ hr)

theorem userStep_apply (op : Op) : UserStep u kg (kg.apply u op) := by
  have htouch := userStep_userGraph u kg
  cases op with
  | createEntities inputs => exact htouch.trans (.foldl (userStep_createEntity u) inputs _)
  | createRelations inputs =>
    rw [apply, createRelations_snd]
    exact htouch.trans (.foldl (userStep_createRelation u) inputs _)
  | addObservations name contents =>
    rw [apply, addObservations_snd]
    split
    · exact htouch.trans (.foldl (fun kg c ↦ userStep_addObservation u kg name c) contents _)
    · exact htouch
  | deleteEntities names =>
    rw [apply, deleteEntities_snd]
    refine htouch.trans (.foldl (fun kg name ↦ ?_) names _)
    split
    · exact userStep_deleteEntity u kg name
    · exact .refl u kg
  | deleteObservations ids => exact userStep_deleteObservations u kg ids
  | deleteRelations ids => exact userStep_deleteRelations u kg ids
  | deleteUserGraph => exact userStep_deleteUserGraph u kg
  | trimObservations maxPerEntity => exact userStep_trimObservations u kg maxPerEntity
  | query => exact htouch

end Steps

theorem filed_observationLedger {kg : KnowledgeGraph} {db : Database} (hdb : kg.db = some db)
    (u : String) (id : ℕ) : (observationLedger kg).filed u id ↔
      ∃ r ∈ db.observations.rows, r.userId = u ∧ r.id = id := by
  simp [observationLedger, hdb]

theorem filed_relationLedger {kg : KnowledgeGraph} {db : Database} (hdb : kg.db = some db)
    (u : String) (id : ℕ) : (relationLedger kg).filed u id ↔
      ∃ r ∈ db.relations.rows, r.userId = u ∧ r.id = id := by
  simp [relationLedger, hdb]

theorem owned_loadFromDb (db : Database) : Owned (loadFromDb db) := by
  have hdb : (loadFromDb db).db = some db := rfl
  have hfo := filed_observationLedger hdb
  have hfr := filed_relationLedger hdb
  refine ⟨.of_filed ?_ ?_ ?_, .of_filed ?_ ?_ ?_⟩
  · intro u id h
    obtain ⟨name, e, he, o, ho, rfl⟩ := h
    rw [entity?_loadFromDb] at he
    obtain ⟨row, _, rfl⟩ := Option.map_eq_some_iff.mp he
    obtain ⟨r, hr, rfl⟩ := List.mem_map.mp ho
    obtain ⟨hmem, hr⟩ := List.mem_filter.mp hr
    exact (hfo u _).mpr ⟨r, Table.mem_orderByKey.mp hmem, (of_decide_eq_true hr).1, rfl⟩
  · intro u id h
    obtain ⟨r, hr, _, rfl⟩ := (hfo u id).mp h
    exact (below_loadFromDb db).1 r hr
  · intro u v id h h'
    obtain ⟨r, hr, rfl, rfl⟩ := (hfo u id).mp h
    obtain ⟨r', hr', rfl, he⟩ := (hfo v r.id).mp h'
    rw [db.observations.key_inj hr' hr he]
  · classical
    intro u id h
    simp only [relationLedger, relation?_loadFromDb] at h
    split at h
    · obtain ⟨x, hx⟩ := Option.isSome_iff_exists.mp h
      obtain ⟨r, hr, _⟩ := Option.map_eq_some_iff.mp hx
      obtain ⟨hfind, hu⟩ := Option.filter_eq_some_iff.mp hr
      obtain ⟨hmem, hid⟩ := Table.find_eq_some_iff.mp hfind
      exact (hfr u id).mpr ⟨r, hmem, of_decide_eq_true hu, hid⟩
    · cases h
  · intro u id h
    obtain ⟨r, hr, _, rfl⟩ := (hfr u id).mp h
    exact (below_loadFromDb db).2 r hr
  · intro u v id h h'
    obtain ⟨r, hr, rfl, rfl⟩ := (hfr u id).mp h
    obtain ⟨r', hr', rfl, he⟩ := (hfr v r.id).mp h'
    rw [db.relations.key_inj hr' hr he]

theorem owned_new : Owned new := by
  refine ⟨⟨fun u id h ↦ ?_, fun u id h ↦ ?_, fun u v id h h' ↦ ?_⟩,
    ⟨fun u id h ↦ ?_, fun u id h ↦ ?_, fun u v id h h' ↦ ?_⟩⟩
  · obtain ⟨name, e, he, _⟩ := h
    cases he
  · obtain ⟨db, hdb, _⟩ := h
    cases hdb
  · obtain ⟨db, hdb, _⟩ := h'
    cases hdb
  · cases h
  · obtain ⟨db, hdb, _⟩ := h
    cases hdb
  · obtain ⟨db, hdb, _⟩ := h'
    cases hdb

theorem Reachable.owned {kg : KnowledgeGraph} (h : Reachable kg) : Owned kg := by
  induction h with
  | opened db =>
    cases db with
    | none => exact owned_new
    | some db => exact owned_loadFromDb db
  | apply u op _ ih => exact ih.step (userStep_apply u _ op)

end AdkGateway.KnowledgeGraph
