import AdkGateway.KnowledgeGraph.Restart

namespace AdkGateway.KnowledgeGraph

open Foundation FreshIds

inductive Place
  | observations (userId name : String)
  | relations (userId : String)

def Place.user : Place → String
  | .observations u _ => u
  | .relations u => u

def Holds (kg : KnowledgeGraph) : Place → ℕ → Prop
  | .observations u name, id => ∃ e, kg.entity? u name = some e ∧ ∃ o ∈ e.observations, o.id = id
  | .relations u, id => (kg.relation? u id).isSome

def Database.Files (db : Database) : Place → ℕ → Prop
  | .observations u name, id =>
    ∃ r ∈ db.observations.rows, r.userId = u ∧ r.entityName = name ∧ r.id = id
  | .relations u, id => ∃ r ∈ db.relations.rows, r.userId = u ∧ r.id = id

def Knows (kg : KnowledgeGraph) (p : Place) (id : ℕ) : Prop :=
  kg.Holds p id ∨ ∃ db ∈ kg.db, db.Files p id

/-- All places draw from one counter, and none of them may share an id with another. -/
def ledger (kg : KnowledgeGraph) : Ledger Place := ⟨kg.nextId, kg.Knows, kg.Knows⟩

structure Identified (kg : KnowledgeGraph) : Prop where
  owned : (ledger kg).Owned
  ordered : ∀ u name e, kg.entity? u name = some e → e.observations.Pairwise (·.id < ·.id)
  keyed : ∀ u id r, kg.relation? u id = some r → r.id = id

theorem Step.of_knows (p : Place) {kg kg' : KnowledgeGraph} (hle : kg.nextId ≤ kg'.nextId)
    (h : ∀ q id, kg'.Knows q id → kg.Knows q id ∨ q = p ∧ kg.nextId ≤ id ∧ id < kg'.nextId) :
    (ledger kg).Step p (ledger kg') := ⟨hle, h, h⟩

theorem Identified.of_delete {kg kg' : KnowledgeGraph} (hi : Identified kg)
    (sql : Database → Database) (hn : kg'.nextId = kg.nextId) (hdb : kg'.db = kg.db.map sql)
    (hentity : ∀ u name e', kg'.entity? u name = some e' →
      ∃ e, kg.entity? u name = some e ∧ e'.observations.Sublist e.observations)
    (hrelation : ∀ u id r, kg'.relation? u id = some r → kg.relation? u id = some r)
    (hor : ∀ db, ∀ r ∈ (sql db).observations.rows, r ∈ db.observations.rows)
    (hrr : ∀ db, ∀ r ∈ (sql db).relations.rows, r ∈ db.relations.rows) : Identified kg' := by
  have hknows : ∀ p id, kg'.Knows p id → kg.Knows p id := by
    intro p id h
    cases p with
    | observations u name =>
      rcases h with ⟨e', he', o, ho, hid⟩ | ⟨db', hdb', r, hr, hrow⟩
      · obtain ⟨e, he, hsub⟩ := hentity u name e' he'
        exact .inl ⟨e, he, o, hsub.subset ho, hid⟩
      · rw [hdb] at hdb'
        obtain ⟨db, hdb, rfl⟩ := Option.map_eq_some_iff.mp hdb'
        exact .inr ⟨db, hdb, r, hor db r hr, hrow⟩
    | relations u =>
      rcases h with hr | ⟨db', hdb', r, hr, hrow⟩
      · obtain ⟨r, hr⟩ := Option.isSome_iff_exists.mp hr
        exact .inl (Option.isSome_iff_exists.mpr ⟨r, hrelation u id r hr⟩)
      · rw [hdb] at hdb'
        obtain ⟨db, hdb, rfl⟩ := Option.map_eq_some_iff.mp hdb'
        exact .inr ⟨db, hdb, r, hrr db r hr, hrow⟩
  refine ⟨hi.owned.step (.of_subset (.relations "") hn hknows hknows), ?_, ?_⟩
  · intro u name e' he'
    obtain ⟨e, he, hsub⟩ := hentity u name e' he'
    exact (hi.ordered u name e he).sublist hsub
  · exact fun u id r hr ↦ hi.keyed u id r (hrelation u id r hr)

section Steps

variable {kg : KnowledgeGraph} (hi : Identified kg) (u : String)

include hi

theorem identified_userGraph : Identified (kg.userGraph u) := by
  refine hi.of_delete id rfl (by simp) ?_ ?_ (fun _ _ h ↦ h) fun _ _ h ↦ h
  · intro v name e he
    rw [entity?_userGraph] at he
    exact ⟨e, he, .refl _⟩
  · intro v id r hr
    rwa [relation?_userGraph] at hr

theorem observation_lt {v name : String} {e : Entity} (he : kg.entity? v name = some e)
    {o : Observation} (ho : o ∈ e.observations) : o.id < kg.nextId :=
  hi.owned.holds_below (.observations v name) o.id (.inl ⟨e, he, o, ho, rfl⟩)

theorem identified_createEntity (input : CreateEntityInput) :
    Identified (createEntity u kg input) := by
  have hn : (createEntity u kg input).nextId = kg.nextId + input.observations.length :=
    nextId_createEntity u kg input
  refine ⟨hi.owned.step (Step.of_knows (.observations u input.name) (by omega) ?_), ?_, ?_⟩
  · intro q id h
    rw [hn]
    cases q with
    | observations v name =>
      rcases h with ⟨e, he, o, ho, rfl⟩ | ⟨db', hdb', r, hr, rfl, rfl, rfl⟩
      · rcases observation_createEntity u kg input he ho with
          ⟨e', hold, hbefore⟩ | ⟨⟨rfl, rfl⟩, hnew⟩
        · exact .inl (.inl ⟨e', hold, o, hbefore, rfl⟩)
        · exact .inr ⟨rfl, mem_numbered hnew⟩
      · rw [db_createEntity] at hdb'
        obtain ⟨db, hdb, rfl⟩ := Option.map_eq_some_iff.mp hdb'
        rcases Table.mem_rows_insertAll hr with hr | hr
        · exact .inl (.inr ⟨db, hdb, r, hr, rfl, rfl, rfl⟩)
        · obtain ⟨o, ho, rfl⟩ := List.mem_map.mp hr
          exact .inr ⟨rfl, mem_numbered ho⟩
    | relations v =>
      rcases h with hr | ⟨db', hdb', r, hr, hrow⟩
      · rw [Holds, relation?_createEntity] at hr
        exact .inl (.inl hr)
      · rw [db_createEntity] at hdb'
        obtain ⟨db, hdb, rfl⟩ := Option.map_eq_some_iff.mp hdb'
        exact .inl (.inr ⟨db, hdb, r, hr, hrow⟩)
  · intro v name e he
    rw [entity?_createEntity] at he
    split at he
    case isTrue hcase =>
      obtain ⟨rfl, rfl⟩ := hcase
      cases hold : kg.entity? v input.name with
      | none =>
        simp only [hold, Option.some_inj] at he
        subst he
        exact numbered_pairwise _ _
      | some e' =>
        simp only [hold, Option.some_inj] at he
        subst he
        refine List.pairwise_append.mpr
          ⟨hi.ordered v input.name e' hold, numbered_pairwise _ _, ?_⟩
        intro o ho o' ho'
        have hlt := observation_lt hi hold ho
        have hle := (mem_numbered ho').1
        omega
    case isFalse => exact hi.ordered v name e he
  · intro v id r hr
    rw [relation?_createEntity] at hr
    exact hi.keyed v id r hr

theorem identified_createRelation (input : CreateRelationInput) :
    Identified (createRelation u kg input) := by
  have hn : (createRelation u kg input).nextId = kg.nextId + 1 := nextId_createRelation u kg input
  refine ⟨hi.owned.step (Step.of_knows (.relations u) (by omega) ?_), ?_, ?_⟩
  · intro q id h
    rw [hn]
    cases q with
    | observations v name =>
      rcases h with ⟨e, he, ho⟩ | ⟨db', hdb', hrow⟩
      · rw [entity?_createRelation] at he
        exact .inl (.inl ⟨e, he, ho⟩)
      · rw [db_createRelation] at hdb'
        obtain ⟨db, hdb, rfl⟩ := Option.map_eq_some_iff.mp hdb'
        exact .inl (.inr ⟨db, hdb, hrow⟩)
    | relations v =>
      rcases h with hr | ⟨db', hdb', r, hr, rfl, rfl⟩
      · rw [Holds, relation?_createRelation] at hr
        split at hr
        case isTrue hcase => exact .inr ⟨by rw [hcase.1], by omega⟩
        case isFalse => exact .inl (.inl hr)
      · rw [db_createRelation] at hdb'
        obtain ⟨db, hdb, rfl⟩ := Option.map_eq_some_iff.mp hdb'
        rcases Table.mem_rows_insertOrReplace.mp hr with ⟨hr, -⟩ | rfl
        · exact .inl (.inr ⟨db, hdb, r, hr, rfl, rfl⟩)
        · exact .inr ⟨rfl, le_rfl, Nat.lt_succ_self _⟩
  · intro v name e he
    rw [entity?_createRelation] at he
    exact hi.ordered v name e he
  · intro v id r hr
    rw [relation?_createRelation] at hr
    split at hr
    case isTrue hcase => rw [← Option.some_inj.mp hr, hcase.2]
    case isFalse => exact hi.keyed v id r hr

theorem identified_addObservation (name content : String) :
    Identified (addObservation u name kg content) := by
  have hn : (addObservation u name kg content).nextId = kg.nextId + 1 :=
    nextId_addObservation u name kg content
  refine ⟨hi.owned.step (Step.of_knows (.observations u name) (by omega) ?_), ?_, ?_⟩
  · intro q id h
    rw [hn]
    cases q with
    | observations v m =>
      rcases h with ⟨e, he, o, ho, rfl⟩ | ⟨db', hdb', r, hr, rfl, rfl, rfl⟩
      · rw [entity?_addObservation] at he
        split at he
        case isTrue hcase =>
          obtain ⟨rfl, rfl⟩ := hcase
          obtain ⟨e', hold, rfl⟩ := Option.map_eq_some_iff.mp he
          rcases List.mem_append.mp ho with ho | ho
          · exact .inl (.inl ⟨e', hold, o, ho, rfl⟩)
          · rw [List.mem_singleton.mp ho]
            exact .inr ⟨rfl, le_rfl, Nat.lt_succ_self _⟩
        case isFalse => exact .inl (.inl ⟨e, he, o, ho, rfl⟩)
      · rw [db_addObservation] at hdb'
        obtain ⟨db, hdb, rfl⟩ := Option.map_eq_some_iff.mp hdb'
        rcases Table.mem_rows_insertOrReplace.mp hr with ⟨hr, -⟩ | rfl
        · exact .inl (.inr ⟨db, hdb, r, hr, rfl, rfl, rfl⟩)
        · exact .inr ⟨rfl, le_rfl, Nat.lt_succ_self _⟩
    | relations v =>
      rcases h with hr | ⟨db', hdb', hrow⟩
      · rw [Holds, relation?_addObservation] at hr
        exact .inl (.inl hr)
      · rw [db_addObservation] at hdb'
        obtain ⟨db, hdb, rfl⟩ := Option.map_eq_some_iff.mp hdb'
        exact .inl (.inr ⟨db, hdb, hrow⟩)
  · intro v m e he
    rw [entity?_addObservation] at he
    split at he
    case isTrue hcase =>
      obtain ⟨rfl, rfl⟩ := hcase
      obtain ⟨e', hold, rfl⟩ := Option.map_eq_some_iff.mp he
      refine List.pairwise_append.mpr ⟨hi.ordered v m e' hold, List.pairwise_singleton _ _, ?_⟩
      intro o ho o' ho'
      rw [List.mem_singleton.mp ho']
      exact observation_lt hi hold ho
    case isFalse => exact hi.ordered v m e he
  · intro v id r hr
    rw [relation?_addObservation] at hr
    exact hi.keyed v id r hr

theorem identified_deleteEntity (name : String) : Identified (deleteEntity u kg name) := by
  refine hi.of_delete _ rfl (db_deleteEntity u name kg) ?_ ?_
    (fun db r hr ↦ (Table.mem_rows_deleteWhere.mp hr).1)
    fun db r hr ↦ (Table.mem_rows_deleteWhere.mp hr).1
  · intro v m e he
    rw [entity?_deleteEntity] at he
    split at he
    · cases he
    · exact ⟨e, he, .refl _⟩
  · intro v id r hr
    rw [relation?_deleteEntity] at hr
    split at hr
    · cases hr
    · exact hr

theorem identified_deleteObservations (ids : List ℕ) :
    Identified (kg.deleteObservations u ids).2 := by
  refine hi.of_delete _ rfl (db_deleteObservations kg u ids) ?_ ?_
    (fun db r hr ↦ (Table.mem_rows_deleteWhere.mp hr).1) fun db r hr ↦ hr
  · intro v name e he
    rw [entity?_deleteObservations] at he
    split at he
    case isTrue hv =>
      obtain ⟨e', he', rfl⟩ := Option.map_eq_some_iff.mp he
      exact ⟨e', hv ▸ he', List.filter_sublist⟩
    case isFalse => exact ⟨e, he, .refl _⟩
  · intro v id r hr
    rwa [relation?_deleteObservations] at hr

theorem identified_trimObservations (maxPerEntity : ℕ) :
    Identified (kg.trimObservations u maxPerEntity).2 := by
  refine hi.of_delete _ rfl (db_trimObservations kg u maxPerEntity) ?_ ?_
    (fun db r hr ↦ (Table.mem_rows_deleteWhere.mp hr).1) fun db r hr ↦ hr
  · intro v name e he
    rw [entity?_trimObservations] at he
    split at he
    case isTrue hv =>
      obtain ⟨e', he', rfl⟩ := Option.map_eq_some_iff.mp he
      exact ⟨e', hv ▸ he', List.drop_sublist _ _⟩
    case isFalse => exact ⟨e, he, .refl _⟩
  · intro v id r hr
    rwa [relation?_trimObservations] at hr

theorem identified_deleteRelations (ids : List ℕ) : Identified (kg.deleteRelations u ids).2 := by
  refine hi.of_delete _ (nextId_deleteRelations kg u ids) (db_deleteRelations kg u ids) ?_ ?_
    (fun db r hr ↦ hr) fun db r hr ↦ (Table.mem_rows_deleteWhere.mp hr).1
  · intro v name e he
    rw [entity?_deleteRelations] at he
    exact ⟨e, he, .refl _⟩
  · intro v id r hr
    rw [relation?_deleteRelations] at hr
    split at hr
    · cases hr
    · exact hr

theorem identified_deleteUserGraph : Identified (kg.deleteUserGraph u).2 := by
  have hentity : ∀ v name e, (kg.deleteUserGraph u).2.entity? v name = some e →
      ∃ e', kg.entity? v name = some e' ∧ e.observations.Sublist e'.observations := by
    intro v name e he
    rw [entity?_deleteUserGraph] at he
    split at he
    · cases he
    · exact ⟨e, he, .refl _⟩
  have hrelation : ∀ v id r, (kg.deleteUserGraph u).2.relation? v id = some r →
      kg.relation? v id = some r := by
    intro v id r hr
    rw [relation?_deleteUserGraph] at hr
    split at hr
    · cases hr
    · exact hr
  have hdb := db_deleteUserGraph kg u
  have hn := nextId_deleteUserGraph kg u
  split at hdb
  · exact hi.of_delete _ hn hdb hentity hrelation
      (fun db r hr ↦ (Table.mem_rows_deleteWhere.mp hr).1)
      fun db r hr ↦ (Table.mem_rows_deleteWhere.mp hr).1
  · exact hi.of_delete id hn (by rw [hdb]; simp) hentity hrelation (fun _ _ h ↦ h) fun _ _ h ↦ h

end Steps

theorem Identified.foldl {α : Type} {f : KnowledgeGraph → α → KnowledgeGraph}
    (h : ∀ kg x, Identified kg → Identified (f kg x)) (xs : List α) {kg : KnowledgeGraph}
    (hi : Identified kg) : Identified (xs.foldl f kg) := by
  induction xs generalizing kg with
  | nil => exact hi
  | cons x xs ih => exact ih (h kg x hi)

theorem identified_apply {kg : KnowledgeGraph} (hi : Identified kg) (u : String) (op : Op) :
    Identified (kg.apply u op) := by
  have htouch := identified_userGraph hi u
  cases op with
  | createEntities inputs =>
    exact .foldl (fun kg input hi ↦ identified_createEntity hi u input) inputs htouch
  | createRelations inputs =>
    rw [apply, createRelations_snd]
    exact .foldl (fun kg input hi ↦ identified_createRelation hi u input) inputs htouch
  | addObservations name contents =>
    rw [apply, addObservations_snd]
    split
    · exact .foldl (fun kg c hi ↦ identified_addObservation hi u name c) contents htouch
    · exact htouch
  | deleteEntities names =>
    rw [apply, deleteEntities_snd]
    refine .foldl (fun kg name hi ↦ ?_) names htouch
    split
    · exact identified_deleteEntity hi u name
    · exact hi
  | deleteObservations ids => exact identified_deleteObservations hi u ids
  | deleteRelations ids => exact identified_deleteRelations hi u ids
  | deleteUserGraph => exact identified_deleteUserGraph hi u
  | trimObservations maxPerEntity => exact identified_trimObservations hi u maxPerEntity
  | query => exact htouch

def Database.Apart (db : Database) : Prop :=
  ∀ r ∈ db.observations.rows, ∀ r' ∈ db.relations.rows, r.id ≠ r'.id

theorem files_of_knows_loadFromDb {db : Database} {p : Place} {id : ℕ}
    (h : (loadFromDb db).Knows p id) : db.Files p id := by
  rcases h with hheld | ⟨db', hdb', hfiles⟩
  · cases p with
    | observations u name =>
      obtain ⟨e, he, o, ho, rfl⟩ := hheld
      rw [entity?_loadFromDb] at he
      obtain ⟨row, -, rfl⟩ := Option.map_eq_some_iff.mp he
      exact Database.mem_observationsOf ho
    | relations u =>
      classical
      rw [Holds, relation?_loadFromDb] at hheld
      split at hheld
      · obtain ⟨x, hx⟩ := Option.isSome_iff_exists.mp hheld
        obtain ⟨r, hr, -⟩ := Option.map_eq_some_iff.mp hx
        obtain ⟨hfind, hu⟩ := Option.filter_eq_some_iff.mp hr
        obtain ⟨hmem, hid⟩ := Table.find_eq_some_iff.mp hfind
        exact ⟨r, hmem, of_decide_eq_true hu, hid⟩
      · cases hheld
  · rw [Option.mem_some.mp hdb']
    exact hfiles

theorem Database.Apart.owner {db : Database} (h : db.Apart) {p q : Place} {id : ℕ}
    (hp : db.Files p id) (hq : db.Files q id) : q = p := by
  cases p with
  | observations u name =>
    obtain ⟨r, hr, rfl, rfl, rfl⟩ := hp
    cases q with
    | observations v m =>
      obtain ⟨r', hr', rfl, rfl, hid⟩ := hq
      rw [db.observations.key_inj hr' hr hid]
    | relations v =>
      obtain ⟨r', hr', -, hid⟩ := hq
      exact absurd hid.symm (h r hr r' hr')
  | relations u =>
    obtain ⟨r, hr, rfl, rfl⟩ := hp
    cases q with
    | observations v m =>
      obtain ⟨r', hr', -, -, hid⟩ := hq
      exact absurd hid (h r' hr' r hr)
    | relations v =>
      obtain ⟨r', hr', rfl, hid⟩ := hq
      rw [db.relations.key_inj hr' hr hid]

theorem identified_loadFromDb {db : Database} (h : db.Apart) : Identified (loadFromDb db) := by
  have hbelow := below_loadFromDb db
  have hlt : ∀ p id, (loadFromDb db).Knows p id → id < (loadFromDb db).nextId := by
    intro p id hknows
    have hfiles := files_of_knows_loadFromDb hknows
    cases p with
    | observations u name =>
      obtain ⟨r, hr, -, -, rfl⟩ := hfiles
      exact hbelow.1 r hr
    | relations u =>
      obtain ⟨r, hr, -, rfl⟩ := hfiles
      exact hbelow.2 r hr
  refine ⟨⟨hlt, hlt, ?_⟩, ?_, ?_⟩
  · intro p q id hp hq
    exact h.owner (files_of_knows_loadFromDb hp) (files_of_knows_loadFromDb hq)
  · intro u name e he
    rw [entity?_loadFromDb] at he
    obtain ⟨row, -, rfl⟩ := Option.map_eq_some_iff.mp he
    exact Database.observationsOf_pairwise
  · classical
    intro u id x hx
    rw [relation?_loadFromDb] at hx
    split at hx
    · obtain ⟨r, hr, rfl⟩ := Option.map_eq_some_iff.mp hx
      exact (Table.find_eq_some_iff.mp (Option.filter_eq_some_iff.mp hr).1).2
    · cases hx

theorem identified_new : Identified new := by
  have hnone : ∀ p id, ¬ new.Knows p id := by
    intro p id h
    cases p with
    | observations u name =>
      rcases h with ⟨e, he, -⟩ | ⟨db, hdb, -⟩
      · cases he
      · cases hdb
    | relations u =>
      rcases h with hr | ⟨db, hdb, -⟩
      · cases hr
      · cases hdb
  refine ⟨⟨?_, ?_, ?_⟩, ?_, ?_⟩
  · exact fun p id h ↦ absurd h (hnone p id)
  · exact fun p id h ↦ absurd h (hnone p id)
  · exact fun p q id h _ ↦ absurd h (hnone p id)
  · intro u name e he
    cases he
  · intro u id r hr
    cases hr

/-- The rows of a running store keep their ids apart, so it can be opened again. -/
theorem Identified.apart {kg : KnowledgeGraph} (hi : Identified kg) {db : Database}
    (hdb : kg.db = some db) : db.Apart := by
  intro r hr r' hr' hid
  have howner := hi.owned.owner (.observations r.userId r.entityName) (.relations r'.userId) r.id
    (.inr ⟨db, hdb, r, hr, rfl, rfl, rfl⟩) (.inr ⟨db, hdb, r', hr', rfl, hid.symm⟩)
  cases howner

/-- The states of a store over all its lives: opened on no database or on one whose ids are apart,
such as an empty one, used by any users, and opened again on what it has written. -/
inductive Lived : KnowledgeGraph → Prop
  | opened (db : Option Database) (h : ∀ d ∈ db, d.Apart) : Lived (withPersistence db)
  | apply {kg : KnowledgeGraph} (u : String) (op : Op) : Lived kg → Lived (kg.apply u op)
  | restart {kg : KnowledgeGraph} : Lived kg → Lived kg.restart

theorem identified_withPersistence {db : Option Database} (h : ∀ d ∈ db, d.Apart) :
    Identified (withPersistence db) := by
  cases db with
  | none => exact identified_new
  | some db => exact identified_loadFromDb (h db rfl)

theorem Lived.identified {kg : KnowledgeGraph} (h : Lived kg) : Identified kg := by
  induction h with
  | opened db h => exact identified_withPersistence h
  | apply u op _ ih => exact identified_apply ih u op
  | restart _ ih => exact identified_withPersistence fun _ hdb ↦ ih.apart hdb

end AdkGateway.KnowledgeGraph
