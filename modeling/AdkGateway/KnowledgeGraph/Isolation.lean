import AdkGateway.KnowledgeGraph.Ownership

namespace AdkGateway.KnowledgeGraph

open Foundation

def Database.rowsOf (db : Database) (v : String) :
    List EntityRow × List ObservationRow × List RelationRow :=
  (db.entities.select (·.userId = v), db.observations.select (·.userId = v),
    db.relations.select (·.userId = v))

/-- Neither the graph in memory nor the rows of user `v` have changed. -/
structure SameFor (v : String) (kg kg' : KnowledgeGraph) : Prop where
  graph : kg'.graphs.lookup v = kg.graphs.lookup v
  rows : kg'.db.map (·.rowsOf v) = kg.db.map (·.rowsOf v)

section Same

variable {u v : String} {kg kg₁ kg₂ : KnowledgeGraph}

theorem SameFor.refl (v : String) (kg : KnowledgeGraph) : SameFor v kg kg := ⟨rfl, rfl⟩

theorem SameFor.trans (h : SameFor v kg kg₁) (h' : SameFor v kg₁ kg₂) : SameFor v kg kg₂ :=
  ⟨h'.graph.trans h.graph, h'.rows.trans h.rows⟩

theorem SameFor.of_execute {sql : Database → Database}
    (hg : kg₁.graphs.lookup v = kg.graphs.lookup v) (hdb : kg₁.db = kg.db.map sql)
    (h : ∀ db ∈ kg.db, (sql db).rowsOf v = db.rowsOf v) : SameFor v kg kg₁ := by
  refine ⟨hg, ?_⟩
  rw [hdb, Option.map_map]
  exact Option.map_congr h

/-- A loop over steps of `u` that each leave `v` alone; ownership carries the loop. -/
theorem SameFor.foldl {α : Type} {f : KnowledgeGraph → α → KnowledgeGraph}
    (hstep : ∀ kg x, UserStep u kg (f kg x)) (hsame : ∀ kg x, Owned kg → SameFor v kg (f kg x))
    (xs : List α) (ho : Owned kg) : SameFor v kg (xs.foldl f kg) := by
  induction xs generalizing kg with
  | nil => exact .refl v kg
  | cons x xs ih =>
    have ho' : Owned (f kg x) := ho.step (hstep kg x)
    exact (hsame kg x ho).trans (ih ho')

theorem sameFor_userGraph (hv : v ≠ u) : SameFor v kg (kg.userGraph u) :=
  ⟨lookup_userGraph kg u v hv, by rw [db_userGraph]⟩

theorem sameFor_createEntity (hv : v ≠ u) (ho : Owned kg) (input : CreateEntityInput) :
    SameFor v kg (createEntity u kg input) := by
  refine .of_execute (lookup_createEntity u kg input hv) (db_createEntity u kg input) ?_
  intro db hdb
  have hent : (db.entities.insertOrReplace ⟨u, input.name, input.entityType⟩).select
      (·.userId = v) = db.entities.select (·.userId = v) := by
    refine Table.select_insertOrReplace_of (by simp [hv.symm]) ?_
    intro x _ hkey
    have hu : x.userId = u := congrArg Prod.fst hkey
    simp [hu, hv.symm]
  have hobs : (db.observations.insertAll ((numbered kg.nextId input.observations).map
      (observationRow u input.name))).select (·.userId = v) =
      db.observations.select (·.userId = v) := by
    refine Table.select_insertAll_of ?_ ?_
    · intro r hr
      obtain ⟨o, _, rfl⟩ := List.mem_map.mp hr
      simp [observationRow, hv.symm]
    · intro r hr x hx hkey
      obtain ⟨o, hmem, rfl⟩ := List.mem_map.mp hr
      have hlow := (mem_numbered hmem).1
      have hbelow : x.id < kg.nextId :=
        ho.observation.filed_below x.userId x.id ⟨db, hdb, x, hx, rfl, rfl⟩
      have hid : x.id = o.id := hkey
      omega
  simp only [Database.rowsOf, hent, hobs]

theorem sameFor_createRelation (hv : v ≠ u) (ho : Owned kg) (input : CreateRelationInput) :
    SameFor v kg (createRelation u kg input) := by
  refine .of_execute (lookup_createRelation u kg input hv) (db_createRelation u kg input) ?_
  intro db hdb
  have hrel : (db.relations.insertOrReplace
      ⟨kg.nextId, u, input.source, input.relationType, input.target⟩).select (·.userId = v) =
      db.relations.select (·.userId = v) := by
    refine Table.select_insertOrReplace_of (by simp [hv.symm]) ?_
    intro x hx hkey
    have hbelow : x.id < kg.nextId :=
      ho.relation.filed_below x.userId x.id ⟨db, hdb, x, hx, rfl, rfl⟩
    have hid : x.id = kg.nextId := hkey
    omega
  simp only [Database.rowsOf, hrel]

theorem sameFor_addObservation (hv : v ≠ u) (ho : Owned kg) (name content : String) :
    SameFor v kg (addObservation u name kg content) := by
  refine .of_execute (lookup_addObservation u name kg content hv)
    (db_addObservation u name kg content) ?_
  intro db hdb
  have hobs : (db.observations.insertOrReplace ⟨kg.nextId, u, name, content⟩).select
      (·.userId = v) = db.observations.select (·.userId = v) := by
    refine Table.select_insertOrReplace_of (by simp [hv.symm]) ?_
    intro x hx hkey
    have hbelow : x.id < kg.nextId :=
      ho.observation.filed_below x.userId x.id ⟨db, hdb, x, hx, rfl, rfl⟩
    have hid : x.id = kg.nextId := hkey
    omega
  simp only [Database.rowsOf, hobs]

theorem sameFor_deleteEntity (hv : v ≠ u) (name : String) :
    SameFor v kg (deleteEntity u kg name) := by
  refine .of_execute (lookup_deleteEntity u name kg hv) (db_deleteEntity u name kg) ?_
  intro db _
  have hne : ∀ w, w = v → w ≠ u := fun w hw ↦ hw ▸ hv
  simp only [Database.rowsOf]
  rw [Table.select_deleteWhere_of, Table.select_deleteWhere_of, Table.select_deleteWhere_of]
  all_goals
    intro x _ hx
    simp [hne _ (of_decide_eq_true hx)]

/-- The ids go to the database without the user's id: exactly the rows of `v`
among the deleted ids are lost. -/
theorem sameFor_deleteObservations_iff (hv : v ≠ u) (ids : List ℕ) :
    SameFor v kg (kg.deleteObservations u ids).2 ↔ ∀ db ∈ kg.db, ∀ r ∈ db.observations.rows,
      r.userId = v → r.id ∉ (kg.deleteObservations u ids).1 := by
  have hdb := db_deleteObservations kg u ids
  constructor
  · intro h db hmem r hr hrv hid
    have hrows := h.rows
    rw [hdb, Option.mem_def.mp hmem] at hrows
    simp only [Option.map_some, Option.some_inj, Database.rowsOf, Prod.mk.injEq, true_and,
      and_true] at hrows
    have hsel : r ∈ db.observations.select (·.userId = v) := by simp [hr, hrv]
    rw [← hrows] at hsel
    have hkept := (Table.mem_rows_deleteWhere.mp (Table.mem_select.mp hsel).1).2
    simp [hid] at hkept
  · intro h
    refine .of_execute (lookup_deleteObservations kg u ids hv) hdb ?_
    intro db hmem
    simp only [Database.rowsOf]
    rw [Table.select_deleteWhere_of]
    intro x hx hxv
    exact decide_eq_false (h db hmem x hx (of_decide_eq_true hxv))

theorem sameFor_trimObservations (hv : v ≠ u) (ho : Owned kg) (maxPerEntity : ℕ) :
    SameFor v kg (kg.trimObservations u maxPerEntity).2 := by
  refine .of_execute (lookup_trimObservations kg u maxPerEntity hv)
    (db_trimObservations kg u maxPerEntity) ?_
  intro db hdb
  simp only [Database.rowsOf]
  rw [Table.select_deleteWhere_of]
  intro x hx hxv
  refine decide_eq_false fun hid ↦ hv ?_
  obtain ⟨name, e, he, o, hmem, hoid⟩ := (mem_drainedIds kg u maxPerEntity).mp hid
  have hholds : kg.HoldsObservation u x.id := ⟨name, e, he, o, List.mem_of_mem_take hmem, hoid⟩
  exact ho.observation.owner u v x.id hholds ⟨db, hdb, x, hx, of_decide_eq_true hxv, rfl⟩

theorem sameFor_deleteRelations (hv : v ≠ u) (ho : Owned kg) (ids : List ℕ) :
    SameFor v kg (kg.deleteRelations u ids).2 := by
  refine .of_execute (lookup_deleteRelations kg u ids hv) (db_deleteRelations kg u ids) ?_
  intro db hdb
  simp only [Database.rowsOf]
  rw [Table.select_deleteWhere_of]
  intro x hx hxv
  refine decide_eq_false fun hid ↦ hv ?_
  have hholds : (kg.relation? u x.id).isSome := ((mem_deleteRelations kg u ids x.id).mp hid).2
  exact ho.relation.owner u v x.id hholds ⟨db, hdb, x, hx, of_decide_eq_true hxv, rfl⟩

theorem sameFor_deleteUserGraph (hv : v ≠ u) : SameFor v kg (kg.deleteUserGraph u).2 := by
  have hg : (kg.deleteUserGraph u).2.graphs.lookup v = kg.graphs.lookup v := by
    rw [lookup_deleteUserGraph, if_neg hv]
  have hdb := db_deleteUserGraph kg u
  split at hdb
  · refine .of_execute hg hdb ?_
    intro db _
    have hne : ∀ w, w = v → w ≠ u := fun w hw ↦ hw ▸ hv
    simp only [Database.rowsOf]
    rw [Table.select_deleteWhere_of, Table.select_deleteWhere_of, Table.select_deleteWhere_of]
    all_goals
      intro x _ hx
      simp [hne _ (of_decide_eq_true hx)]
  · exact ⟨hg, by rw [hdb]⟩

end Same

/-- The operation deletes observations, at least one of them the user's own,
and one of the ids is that of another user's row. -/
def HitsForeignRow (kg : KnowledgeGraph) (u : String) : Op → Prop
  | .deleteObservations ids => (∃ id ∈ ids, kg.HoldsObservation u id) ∧
      ∃ db ∈ kg.db, ∃ r ∈ db.observations.rows, r.userId ≠ u ∧ r.id ∈ ids
  | _ => False

theorem sameFor_apply {u v : String} {kg : KnowledgeGraph} (ho : Owned kg) (hv : v ≠ u) (op : Op)
    (hop : ¬ HitsForeignRow kg u op) : SameFor v kg (kg.apply u op) := by
  have htouch : SameFor v kg (kg.userGraph u) := sameFor_userGraph hv
  have ho' : Owned (kg.userGraph u) := ho.step (userStep_userGraph u kg)
  cases op with
  | createEntities inputs =>
    exact htouch.trans (.foldl (userStep_createEntity u)
      (fun _ x h ↦ sameFor_createEntity hv h x) inputs ho')
  | createRelations inputs =>
    rw [apply, createRelations_snd]
    exact htouch.trans (.foldl (userStep_createRelation u)
      (fun _ x h ↦ sameFor_createRelation hv h x) inputs ho')
  | addObservations name contents =>
    rw [apply, addObservations_snd]
    split
    · exact htouch.trans (.foldl (fun kg c ↦ userStep_addObservation u kg name c)
        (fun _ c h ↦ sameFor_addObservation hv h name c) contents ho')
    · exact htouch
  | deleteEntities names =>
    rw [apply, deleteEntities_snd]
    refine htouch.trans (.foldl (u := u) (fun kg name ↦ ?_) (fun kg name _ ↦ ?_) names ho')
    · split
      · exact userStep_deleteEntity u kg name
      · exact .refl u kg
    · split
      · exact sameFor_deleteEntity hv name
      · exact .refl v kg
  | deleteObservations ids =>
    refine (sameFor_deleteObservations_iff hv ids).mpr fun db hdb r hr hrv hid ↦ hop ?_
    obtain ⟨hmem, hown⟩ := (mem_deleteObservations kg u ids r.id).mp hid
    exact ⟨hown, db, hdb, r, hr, hrv ▸ hv, hmem⟩
  | deleteRelations ids => exact sameFor_deleteRelations hv ho ids
  | deleteUserGraph => exact sameFor_deleteUserGraph hv
  | trimObservations maxPerEntity => exact sameFor_trimObservations hv ho maxPerEntity
  | query => exact htouch

/-- An operation changes what is stored for another user exactly when it is a
deletion of observations that hits another user's row. -/
theorem apply_isolated_iff {kg : KnowledgeGraph} (h : Reachable kg) (u : String) (op : Op) :
    (∀ v, v ≠ u → SameFor v kg (kg.apply u op)) ↔ ¬ HitsForeignRow kg u op := by
  constructor
  · intro hsame hhit
    cases op with
    | deleteObservations ids =>
      obtain ⟨hown, db, hdb, r, hr, hru, hid⟩ := hhit
      refine (sameFor_deleteObservations_iff hru ids).mp (hsame r.userId hru) db hdb r hr rfl ?_
      exact (mem_deleteObservations kg u ids r.id).mpr ⟨hid, hown⟩
    | _ => exact hhit
  · intro hop v hv
    exact sameFor_apply h.owned hv op hop

def twoUsers : KnowledgeGraph :=
  run (withPersistence (some .empty))
    [("alice", .createEntities [⟨"rust", "language", ["likes it"]⟩]),
      ("bob", .createEntities [⟨"go", "language", ["uses it"]⟩])]

theorem reachable_twoUsers : Reachable twoUsers := (Reachable.opened (some .empty)).run _

theorem apply_isolated_iff_twoUsers :
    (∀ v, v ≠ "alice" → SameFor v twoUsers (twoUsers.apply "alice" (.deleteObservations [1]))) ↔
      ¬ HitsForeignRow twoUsers "alice" (.deleteObservations [1]) :=
  apply_isolated_iff reachable_twoUsers "alice" (.deleteObservations [1])

/-- Alice lists her own id and Bob's: Bob's row is gone. -/
theorem not_isolated : ¬ ∀ kg, Reachable kg → ∀ u op v, v ≠ u → SameFor v kg (kg.apply u op) := by
  intro h
  have hrows := (h twoUsers reachable_twoUsers "alice" (.deleteObservations [1, 2]) "bob"
    (by decide)).rows
  have hlost : (twoUsers.apply "alice" (.deleteObservations [1, 2])).db.map (·.rowsOf "bob") ≠
      twoUsers.db.map (·.rowsOf "bob") := by decide
  exact hlost hrows

end AdkGateway.KnowledgeGraph
