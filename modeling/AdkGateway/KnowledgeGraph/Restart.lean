import AdkGateway.KnowledgeGraph.Mirror

namespace AdkGateway.KnowledgeGraph

open Foundation

/-- The store is dropped and its database opened again. -/
def restart (kg : KnowledgeGraph) : KnowledgeGraph := withPersistence kg.db

/-- Every user has the same entities, observation by observation, and the same relations. -/
def SameGraphs (kg kg' : KnowledgeGraph) : Prop :=
  ∀ u, (∀ name, kg'.entity? u name = kg.entity? u name) ∧
    ∀ id, kg'.relation? u id = kg.relation? u id

/-- The call changes memory and database alike: entities are created under
their own type and without leftover rows, and observations are not deleted
together with those of another user. -/
def WritesThrough (kg : KnowledgeGraph) (u : String) : Op → Prop
  | .createEntities inputs => (∀ input ∈ inputs, CreatesCleanly kg u input) ∧
      inputs.Pairwise fun i j ↦ i.name = j.name → i.entityType = j.entityType
  | .deleteObservations ids => (∃ id ∈ ids, kg.HoldsObservation u id) →
      ∀ v, v ≠ u → ∀ id ∈ ids, ¬ kg.HoldsObservation v id
  | _ => True

def WritesThroughRun (kg : KnowledgeGraph) : List (String × Op) → Prop
  | [] => True
  | op :: ops => WritesThrough kg op.1 op.2 ∧ WritesThroughRun (kg.apply op.1 op.2) ops

section Steps

variable {u : String} {kg : KnowledgeGraph}

theorem createsCleanly_userGraph {input : CreateEntityInput} (h : CreatesCleanly kg u input) :
    CreatesCleanly (kg.userGraph u) u input := by
  simp only [CreatesCleanly, entity?_userGraph, db_userGraph, relation?_userGraph] at h ⊢
  exact h

theorem createsCleanly_createEntity {i j : CreateEntityInput} (hi : CreatesCleanly kg u i)
    (hj : CreatesCleanly kg u j) (hij : i.name = j.name → i.entityType = j.entityType) :
    CreatesCleanly (createEntity u kg i) u j := by
  rw [CreatesCleanly, entity?_createEntity]
  by_cases hname : j.name = i.name
  · rw [if_pos ⟨rfl, hname⟩]
    rw [CreatesCleanly] at hi
    cases he : kg.entity? u i.name with
    | some e =>
      rw [he] at hi
      exact hi.trans (hij hname.symm)
    | none => exact hij hname.symm
  · rw [if_neg fun h ↦ hname h.2]
    rw [CreatesCleanly] at hj
    cases he : kg.entity? u j.name with
    | some e =>
      rw [he] at hj
      exact hj
    | none =>
      rw [he] at hj
      intro db' hdb'
      rw [db_createEntity] at hdb'
      obtain ⟨db, hdb, rfl⟩ := Option.map_eq_some_iff.mp hdb'
      refine ⟨fun r hr hu ↦ ?_, fun r hr hu ↦ ?_⟩
      · rcases Table.mem_rows_insertAll hr with hr | hr
        · exact (hj db hdb).1 r hr hu
        · obtain ⟨o, _, rfl⟩ := List.mem_map.mp hr
          exact fun h ↦ hname h.symm
      · rw [relation?_createEntity]
        exact (hj db hdb).2 r hr hu

theorem mirroredBy_createEntities {inputs : List CreateEntityInput} {db : Database}
    (h : MirroredBy kg db) (ho : Owned kg) (hclean : ∀ input ∈ inputs, CreatesCleanly kg u input)
    (hagree : inputs.Pairwise fun i j ↦ i.name = j.name → i.entityType = j.entityType) :
    ∃ db', MirroredBy (inputs.foldl (createEntity u) kg) db' := by
  induction inputs generalizing kg db with
  | nil => exact ⟨db, h⟩
  | cons i is ih =>
    obtain ⟨hi, his⟩ := List.pairwise_cons.mp hagree
    have hfirst : CreatesCleanly kg u i := hclean i List.mem_cons_self
    obtain ⟨db', h'⟩ := mirroredBy_createEntity h ho hfirst
    refine ih h' (ho.step (userStep_createEntity u kg i)) (fun j hj ↦ ?_) his
    exact createsCleanly_createEntity hfirst (hclean j (List.mem_cons_of_mem _ hj)) (hi j hj)

/-- A loop over steps that keep the mirror; ownership carries the loop. -/
theorem MirroredBy.foldl {α : Type} {f : KnowledgeGraph → α → KnowledgeGraph} {db : Database}
    (hstep : ∀ kg x, UserStep u kg (f kg x))
    (hmirror : ∀ kg x db, MirroredBy kg db → Owned kg → ∃ db', MirroredBy (f kg x) db')
    (xs : List α) (h : MirroredBy kg db) (ho : Owned kg) :
    ∃ db', MirroredBy (xs.foldl f kg) db' := by
  induction xs generalizing kg db with
  | nil => exact ⟨db, h⟩
  | cons x xs ih =>
    obtain ⟨db', h'⟩ := hmirror kg x db h ho
    exact ih h' (ho.step (hstep kg x))

theorem mirroredBy_apply {db : Database} (h : MirroredBy kg db) (ho : Owned kg) {op : Op}
    (hop : WritesThrough kg u op) : ∃ db', MirroredBy (kg.apply u op) db' := by
  have htouch : MirroredBy (kg.userGraph u) db := mirroredBy_userGraph h
  have ho' : Owned (kg.userGraph u) := ho.step (userStep_userGraph u kg)
  cases op with
  | createEntities inputs =>
    exact mirroredBy_createEntities htouch ho'
      (fun input hi ↦ createsCleanly_userGraph (hop.1 input hi)) hop.2
  | createRelations inputs =>
    rw [apply, createRelations_snd]
    exact htouch.foldl (userStep_createRelation u)
      (fun _ x _ h ho ↦ mirroredBy_createRelation h ho x) inputs ho'
  | addObservations name contents =>
    rw [apply, addObservations_snd]
    split
    · exact htouch.foldl (fun kg c ↦ userStep_addObservation u kg name c)
        (fun _ c _ h ho ↦ mirroredBy_addObservation h ho name c) contents ho'
    · exact ⟨db, htouch⟩
  | deleteEntities names =>
    rw [apply, deleteEntities_snd]
    refine htouch.foldl (u := u) (fun kg name ↦ ?_) (fun kg name db h _ ↦ ?_) names ho'
    · split
      · exact userStep_deleteEntity u kg name
      · exact .refl u kg
    · split
      · exact mirroredBy_deleteEntity h name
      · exact ⟨db, h⟩
  | deleteObservations ids => exact mirroredBy_deleteObservations h hop
  | deleteRelations ids => exact mirroredBy_deleteRelations h ho ids
  | deleteUserGraph => exact mirroredBy_deleteUserGraph h
  | trimObservations maxPerEntity => exact mirroredBy_trimObservations h maxPerEntity
  | query => exact ⟨db, htouch⟩

theorem mirroredBy_run {ops : List (String × Op)} {db : Database} (h : MirroredBy kg db)
    (ho : Owned kg) (hops : WritesThroughRun kg ops) : ∃ db', MirroredBy (kg.run ops) db' := by
  induction ops generalizing kg db with
  | nil => exact ⟨db, h⟩
  | cons op ops ih =>
    obtain ⟨db', h'⟩ := mirroredBy_apply h ho hops.1
    exact ih h' (ho.step (userStep_apply op.1 kg op.2)) hops.2

end Steps

/-- Under a mirror, a restart loses the relations of users without entities
and nothing else. -/
theorem sameGraphs_restart_iff {kg : KnowledgeGraph} {db : Database} (h : MirroredBy kg db) :
    SameGraphs kg (restart kg) ↔ ∀ u id, (kg.relation? u id).isSome → kg.HasEntity u := by
  classical
  have hback : restart kg = loadFromDb db := by rw [restart, h.stored, withPersistence]
  rw [hback]
  constructor
  · intro hsame u id hsome
    rw [← (hsame u).2 id, relation?_loadFromDb] at hsome
    split at hsome
    · rename_i hu
      exact (hasEntities_iff_hasEntity h u).mp hu
    · cases hsome
  · intro hrel u
    refine ⟨fun name ↦ by rw [entity?_loadFromDb, h.entity], fun id ↦ ?_⟩
    rw [relation?_loadFromDb]
    by_cases hu : kg.HasEntity u
    · rw [if_pos ((hasEntities_iff_hasEntity h u).mpr hu), h.relation u hu]
    · have hnone : kg.relation? u id = none :=
        Option.not_isSome_iff_eq_none.mp fun hsome ↦ hu (hrel u id hsome)
      rw [if_neg fun hh ↦ hu ((hasEntities_iff_hasEntity h u).mp hh), hnone]

/-- Restart equivalence: after calls that write through, the reopened database
gives every user's graph back if and only if every user with a relation has an
entity. -/
theorem sameGraphs_restart_run (db : Database) (ops : List (String × Op))
    (hops : WritesThroughRun (withPersistence (some db)) ops) :
    SameGraphs (run (withPersistence (some db)) ops) (restart (run (withPersistence (some db)) ops)) ↔
      ∀ u id, ((run (withPersistence (some db)) ops).relation? u id).isSome →
        (run (withPersistence (some db)) ops).HasEntity u := by
  obtain ⟨db', h⟩ := mirroredBy_run (mirroredBy_loadFromDb db) (owned_loadFromDb db) hops
  exact sameGraphs_restart_iff h

def selfRelated : List (String × Op) :=
  [("alice", .createEntities [⟨"rust", "language", ["likes it"]⟩]),
    ("alice", .createRelations [⟨"rust", "compiles", "rust"⟩])]

theorem sameGraphs_restart_run_selfRelated :
    SameGraphs (run (withPersistence (some .empty)) selfRelated)
      (restart (run (withPersistence (some .empty)) selfRelated)) ↔
    ∀ u id, ((run (withPersistence (some .empty)) selfRelated).relation? u id).isSome →
      (run (withPersistence (some .empty)) selfRelated).HasEntity u := by
  refine sameGraphs_restart_run .empty selfRelated ⟨⟨fun input hi ↦ ?_, ?_⟩, trivial, trivial⟩
  · rw [List.mem_singleton.mp hi]
    intro db hdb
    obtain rfl := Option.some_inj.mp hdb
    exact ⟨fun r hr ↦ absurd hr List.not_mem_nil, fun r hr ↦ absurd hr List.not_mem_nil⟩
  · exact List.pairwise_singleton _ _

/-- An entity created twice keeps its first type in memory and gets the second
one in the database. -/
def retyped : List (String × Op) :=
  [("alice", .createEntities [⟨"rust", "language", []⟩]),
    ("alice", .createEntities [⟨"rust", "oxide", []⟩])]

theorem not_sameGraphs_restart : ¬ ∀ (db : Database) (ops : List (String × Op)),
    SameGraphs (run (withPersistence (some db)) ops)
      (restart (run (withPersistence (some db)) ops)) := by
  intro h
  have hrust := (h .empty retyped "alice").1 "rust"
  have hne : (restart (run (withPersistence (some .empty)) retyped)).entity? "alice" "rust" ≠
      (run (withPersistence (some .empty)) retyped).entity? "alice" "rust" := by decide
  exact hne hrust

end AdkGateway.KnowledgeGraph
