import AdkGateway.KnowledgeGraph.Identity
import AdkGateway.KnowledgeGraph.Ownership

namespace AdkGateway.KnowledgeGraph

open Foundation

section Deletions

variable {kg : KnowledgeGraph} {u : String} {ids : List ℕ}

/-- The answer of a deletion is what it has done, and it has done nothing else. -/
structure Truthful (kg : KnowledgeGraph) (u : String) (ids : List ℕ) : Prop where
  returned : ∀ id, id ∈ (kg.deleteObservations u ids).1 ↔ id ∈ ids ∧ kg.HoldsObservation u id
  once : (kg.deleteObservations u ids).1.Nodup
  gone : ∀ id ∈ (kg.deleteObservations u ids).1,
    ¬ (kg.deleteObservations u ids).2.HoldsObservation u id
  kept : ∀ name, (kg.deleteObservations u ids).2.entity? u name =
    (kg.entity? u name).map fun e ↦ { e with
      observations := e.observations.filter (·.id ∉ (kg.deleteObservations u ids).1) }
  relations : ∀ id, (kg.deleteObservations u ids).2.relation? u id = kg.relation? u id
  users : ∀ v, v ≠ u → (kg.deleteObservations u ids).2.graphs.lookup v = kg.graphs.lookup v
  counter : (kg.deleteObservations u ids).2.nextId = kg.nextId
  rows : (kg.deleteObservations u ids).2.db = kg.db.map fun db ↦ { db with
    observations := db.observations.deleteWhere fun r ↦
      r.userId = u ∧ r.id ∈ (kg.deleteObservations u ids).1 }

def AllOrNone (kg : KnowledgeGraph) (u : String) (ids : List ℕ) : Prop :=
  (∀ id ∈ ids, kg.HoldsObservation u id) ∨ ∀ id ∈ ids, ¬ kg.HoldsObservation u id

theorem mem_deleteObservations_of_allOrNone (h : AllOrNone kg u ids) (id : ℕ) :
    id ∈ (kg.deleteObservations u ids).1 ↔ id ∈ ids ∧ kg.HoldsObservation u id := by
  rw [mem_deleteObservations]
  constructor
  · intro hmem
    obtain ⟨hid, id', hid', hheld⟩ := hmem
    rcases h with hall | hnone
    · exact ⟨hid, hall id hid⟩
    · exact absurd hheld (hnone id' hid')
  · intro hmem
    exact ⟨hmem.1, id, hmem⟩

theorem not_holds_deleteObservations {id : ℕ} (hid : id ∈ ids) :
    ¬ (kg.deleteObservations u ids).2.HoldsObservation u id := by
  intro h
  obtain ⟨name, e, he, o, ho, rfl⟩ := h
  rw [entity?_deleteObservations, if_pos rfl] at he
  obtain ⟨e', -, rfl⟩ := Option.map_eq_some_iff.mp he
  simpa [hid] using List.of_mem_filter ho

theorem deleteWhere_of_owned (ho : Owned kg) {db : Database} (hdb : kg.db = some db)
    {deleted : List ℕ} (hheld : ∀ id ∈ deleted, kg.HoldsObservation u id) :
    db.observations.deleteWhere (·.id ∈ deleted) =
      db.observations.deleteWhere fun r ↦ r.userId = u ∧ r.id ∈ deleted := by
  ext1
  refine List.filter_congr fun r hr ↦ ?_
  by_cases hid : r.id ∈ deleted
  · have hfiled : (observationLedger kg).filed r.userId r.id :=
      (filed_observationLedger hdb r.userId r.id).mpr ⟨r, hr, rfl, rfl⟩
    have howner := ho.observation.owner u r.userId r.id (hheld r.id hid) hfiled
    simp [hid, howner]
  · simp [hid]

/-- A deletion tells the truth just if the ids are all the user's or none of them is. -/
theorem truthful_iff (hreach : Reachable kg) (u : String) (ids : List ℕ) :
    Truthful kg u ids ↔ AllOrNone kg u ids := by
  constructor
  · intro h
    by_cases hsome : ∃ id ∈ ids, kg.HoldsObservation u id
    · left
      intro id hid
      exact ((h.returned id).mp ((mem_deleteObservations kg u ids id).mpr ⟨hid, hsome⟩)).2
    · right
      intro id hid hheld
      exact hsome ⟨id, hid, hheld⟩
  · intro h
    have hreturned := mem_deleteObservations_of_allOrNone h
    refine ⟨hreturned, List.nodup_dedup _, ?_, ?_, ?_, ?_, rfl, ?_⟩
    · intro id hid
      exact not_holds_deleteObservations ((hreturned id).mp hid).1
    · intro name
      rw [entity?_deleteObservations, if_pos rfl]
      cases he : kg.entity? u name with
      | none => rfl
      | some e =>
        have hsame : e.observations.filter (·.id ∉ ids) =
            e.observations.filter (·.id ∉ (kg.deleteObservations u ids).1) := by
          refine List.filter_congr fun o ho ↦ ?_
          have hheld : kg.HoldsObservation u o.id := ⟨name, e, he, o, ho, rfl⟩
          exact decide_eq_decide.mpr (not_congr ((hreturned o.id).trans (and_iff_left hheld)).symm)
        rw [Option.map_some, Option.map_some, hsame]
    · exact relation?_deleteObservations kg u ids u
    · exact fun v hv ↦ lookup_deleteObservations kg u ids hv
    · rw [db_deleteObservations]
      cases hdb : kg.db with
      | none => rfl
      | some db =>
        rw [Option.map_some, Option.map_some, deleteWhere_of_owned hreach.owned hdb]
        exact fun id hid ↦ ((hreturned id).mp hid).2

section Vectors

def likesRust : KnowledgeGraph :=
  new.run [("alice", .createEntities [⟨"rust", "language", ["likes it"]⟩])]

theorem reachable_likesRust : Reachable likesRust := (Reachable.opened none).run _

theorem truthful_iff_likesRust :
    Truthful likesRust "alice" [1, 1] ↔ AllOrNone likesRust "alice" [1, 1] :=
  truthful_iff reachable_likesRust "alice" [1, 1]

/-- An id that nobody holds is told to be deleted together with one that is. -/
theorem not_truthful : ¬ ∀ kg : KnowledgeGraph, Reachable kg →
    ∀ (u : String) (ids : List ℕ), Truthful kg u ids := by
  intro h
  have htruthful := h likesRust reachable_likesRust "alice" [1, 99]
  have htold : 99 ∈ (likesRust.deleteObservations "alice" [1, 99]).1 := by decide
  have hheld := ((htruthful.returned 99).mp htold).2
  have hbelow := reachable_likesRust.owned.observation.holds_below "alice" 99 hheld
  exact absurd hbelow (by decide)

end Vectors

end Deletions

def UserGraph.ids (graph : UserGraph) : List ℕ :=
  (KeyedMap.values graph.entities).flatMap (fun e ↦ e.observations.map (·.id)) ++
    (KeyedMap.values graph.relations).flatMap fun r ↦ [r.id]

def allIds (kg : KnowledgeGraph) : List ℕ := (KeyedMap.values kg.graphs).flatMap UserGraph.ids

section Ids

variable {kg : KnowledgeGraph} {u : String} {graph : UserGraph}

theorem graph_of_lookup (h : kg.graphs.lookup u = some graph) : kg.graph u = graph := by
  rw [KnowledgeGraph.graph, h]
  rfl

theorem holds_of_observation (h : kg.graphs.lookup u = some graph) {name : String} {e : Entity}
    (he : graph.entities.lookup name = some e) {id : ℕ} (hid : id ∈ e.observations.map (·.id)) :
    kg.Holds (.observations u name) id := by
  obtain ⟨o, ho, rfl⟩ := List.mem_map.mp hid
  exact ⟨e, by rw [entity?, graph_of_lookup h, he], o, ho, rfl⟩

theorem holds_of_relation (hi : Identified kg) (h : kg.graphs.lookup u = some graph) {k : ℕ}
    {r : Relation} (hr : graph.relations.lookup k = some r) :
    kg.Holds (.relations u) r.id ∧ r.id = k := by
  have hrelation : kg.relation? u k = some r := by rw [relation?, graph_of_lookup h, hr]
  have hkey := hi.keyed u k r hrelation
  refine ⟨?_, hkey⟩
  rw [Holds, hkey, hrelation]
  rfl

theorem holds_of_mem_ids (hi : Identified kg) (h : kg.graphs.lookup u = some graph) {id : ℕ}
    (hid : id ∈ graph.ids) : ∃ p, p.user = u ∧ kg.Holds p id := by
  rcases List.mem_append.mp hid with hid | hid
  · obtain ⟨e, he, hid⟩ := List.mem_flatMap.mp hid
    obtain ⟨name, he⟩ := KeyedMap.mem_values.mp he
    exact ⟨.observations u name, rfl, holds_of_observation h he hid⟩
  · obtain ⟨r, hr, hid⟩ := List.mem_flatMap.mp hid
    obtain ⟨k, hr⟩ := KeyedMap.mem_values.mp hr
    rw [List.mem_singleton.mp hid]
    exact ⟨.relations u, rfl, (holds_of_relation hi h hr).1⟩

theorem place_unique (hi : Identified kg) {p q : Place} {id : ℕ} (hp : kg.Holds p id)
    (hq : kg.Holds q id) : q = p := hi.owned.owner p q id (.inl hp) (.inl hq)

theorem nodup_ids (hi : Identified kg) (h : kg.graphs.lookup u = some graph) :
    graph.ids.Nodup := by
  refine List.nodup_append.mpr ⟨?_, ?_, ?_⟩
  · refine KeyedMap.nodup_flatMap_values ?_ ?_
    · intro name e he
      have hordered := hi.ordered u name e (by rw [entity?, graph_of_lookup h, he])
      exact List.pairwise_map.mpr (hordered.imp fun hlt ↦ hlt.ne)
    · intro name name' e e' id he he' hid hid'
      have heq := place_unique hi (holds_of_observation h he hid) (holds_of_observation h he' hid')
      cases heq
      rfl
  · refine KeyedMap.nodup_flatMap_values ?_ ?_
    · exact fun k r _ ↦ List.nodup_singleton r.id
    · intro k k' r r' id hr hr' hid hid'
      rw [← (holds_of_relation hi h hr).2, ← (holds_of_relation hi h hr').2,
        ← List.mem_singleton.mp hid, ← List.mem_singleton.mp hid']
  · intro id hid id' hid' heq
    subst heq
    obtain ⟨e, he, hid⟩ := List.mem_flatMap.mp hid
    obtain ⟨name, he⟩ := KeyedMap.mem_values.mp he
    obtain ⟨r, hr, hid'⟩ := List.mem_flatMap.mp hid'
    obtain ⟨k, hr⟩ := KeyedMap.mem_values.mp hr
    rw [List.mem_singleton.mp hid'] at hid
    cases place_unique hi (holds_of_observation h he hid) (holds_of_relation hi h hr).1

theorem nodup_allIds (hi : Identified kg) : kg.allIds.Nodup := by
  refine KeyedMap.nodup_flatMap_values (fun u graph h ↦ nodup_ids hi h) ?_
  intro u v graph graph' id h h' hid hid'
  obtain ⟨p, rfl, hp⟩ := holds_of_mem_ids hi h hid
  obtain ⟨q, rfl, hq⟩ := holds_of_mem_ids hi h' hid'
  rw [place_unique hi hp hq]

theorem lt_of_mem_allIds (hi : Identified kg) {id : ℕ} (hid : id ∈ kg.allIds) :
    id < kg.nextId := by
  obtain ⟨graph, hgraph, hid⟩ := List.mem_flatMap.mp hid
  obtain ⟨u, h⟩ := KeyedMap.mem_values.mp hgraph
  obtain ⟨p, -, hp⟩ := holds_of_mem_ids hi h hid
  exact hi.owned.holds_below p id (.inl hp)

def Database.ids (db : Database) : List ℕ :=
  db.observations.rows.map ObservationRow.id ++ db.relations.rows.map RelationRow.id

theorem files_of_mem_ids {db : Database} {id : ℕ} (hid : id ∈ db.ids) : ∃ p, db.Files p id := by
  obtain hid | hid := List.mem_append.mp hid
  · obtain ⟨r, hr, rfl⟩ := List.mem_map.mp hid
    exact ⟨.observations r.userId r.entityName, r, hr, rfl, rfl, rfl⟩
  · obtain ⟨r, hr, rfl⟩ := List.mem_map.mp hid
    exact ⟨.relations r.userId, r, hr, rfl, rfl⟩

theorem nodup_storedIds (hi : Identified kg) {db : Database} (hdb : kg.db = some db) :
    db.ids.Nodup := by
  refine List.nodup_append.mpr ⟨db.observations.nodup, db.relations.nodup, ?_⟩
  intro id hid id' hid' heq
  subst heq
  obtain ⟨r, hr, rfl⟩ := List.mem_map.mp hid
  obtain ⟨r', hr', heq⟩ := List.mem_map.mp hid'
  have hobservation : kg.Knows (.observations r.userId r.entityName) r.id :=
    .inr ⟨db, hdb, r, hr, rfl, rfl, rfl⟩
  have hrelation : kg.Knows (.relations r'.userId) r.id := .inr ⟨db, hdb, r', hr', rfl, heq⟩
  cases hi.owned.owner _ _ _ hobservation hrelation

theorem lt_of_mem_storedIds (hi : Identified kg) {db : Database} (hdb : kg.db = some db) {id : ℕ}
    (hid : id ∈ db.ids) : id < kg.nextId := by
  obtain ⟨p, hp⟩ := files_of_mem_ids hid
  exact hi.owned.holds_below p id (.inr ⟨db, hdb, hp⟩)

end Ids

/-- The deleted names are gone with the relations that mention them, and nothing else of the
user's is. -/
structure Cascaded (u : String) (kg : KnowledgeGraph) (deleted : List String)
    (kg' : KnowledgeGraph) : Prop where
  entity : ∀ name, kg'.entity? u name = if name ∈ deleted then none else kg.entity? u name
  relation : ∀ id, kg'.relation? u id =
    (kg.relation? u id).filter fun r ↦ r.source ∉ deleted ∧ r.target ∉ deleted

section Cascade

variable {kg kg' : KnowledgeGraph} {u : String} {deleted : List String}

theorem cascaded_userGraph (kg : KnowledgeGraph) (u : String) :
    Cascaded u kg [] (kg.userGraph u) := by
  constructor
  · intro name
    simp [entity?_userGraph]
  · intro id
    rw [relation?_userGraph]
    cases kg.relation? u id with
    | none => rfl
    | some r => simp [Option.filter_some]

theorem Cascaded.deleteEntity (hi : Identified kg) (h : Cascaded u kg deleted kg') (name : String) :
    Cascaded u kg (deleted ++ [name]) (deleteEntity u kg' name) := by
  constructor
  · intro m
    rw [entity?_deleteEntity, h.entity]
    by_cases hm : m = name
    · simp [hm]
    · simp [hm]
  · intro id
    have hkey : ∀ id r, kg'.relation? u id = some r → r.id = id := by
      intro id r hr
      rw [h.relation] at hr
      exact hi.keyed u id r (Option.filter_eq_some_iff.mp hr).1
    have hmem := mem_toRemove u name kg' hkey id
    rw [relation?_deleteEntity]
    rw [h.relation] at hmem ⊢
    cases hr : kg.relation? u id with
    | none => simp
    | some r =>
      rw [hr, Option.filter_some] at hmem
      rw [Option.filter_some, Option.filter_some]
      by_cases hin : r.source ∉ deleted ∧ r.target ∉ deleted
      · by_cases ht : r.source = name ∨ r.target = name
        · rcases ht with ht | ht
          · simp [hmem, hin, ht]
          · simp [hmem, hin, ht]
        · rw [not_or] at ht
          simp [hmem, hin, ht]
      · have hin' : ¬ (r.source ∉ deleted ++ [name] ∧ r.target ∉ deleted ++ [name]) := by
          intro h
          exact hin ⟨fun hs ↦ h.1 (List.mem_append_left _ hs),
            fun ht ↦ h.2 (List.mem_append_left _ ht)⟩
        simp only [hin, hin', decide_false, Bool.false_eq_true, if_false, ite_self]

theorem Cascaded.foldl (hi : Identified kg)
    {f : List String × KnowledgeGraph → String → List String × KnowledgeGraph}
    (hf : ∀ deleted kg' name, f (deleted, kg') name =
      if (kg'.entity? u name).isSome then
        (deleted ++ [name], KnowledgeGraph.deleteEntity u kg' name)
      else (deleted, kg'))
    (names : List String) (h : Cascaded u kg deleted kg') :
    Cascaded u kg (names.foldl f (deleted, kg')).1 (names.foldl f (deleted, kg')).2 ∧
      ∀ m, m ∈ (names.foldl f (deleted, kg')).1 ↔
        m ∈ deleted ∨ m ∈ names ∧ (kg.entity? u m).isSome := by
  induction names generalizing deleted kg' with
  | nil => exact ⟨h, by simp⟩
  | cons name names ih =>
    rw [List.foldl_cons, hf]
    have hentity := h.entity name
    split
    case isTrue hsome =>
      obtain ⟨hcascaded, hmem⟩ := ih (h.deleteEntity hi name)
      have hheld : (kg.entity? u name).isSome := by
        rw [hentity] at hsome
        split at hsome
        · cases hsome
        · exact hsome
      refine ⟨hcascaded, fun m ↦ ?_⟩
      rw [hmem, List.mem_append, List.mem_singleton, List.mem_cons, or_assoc, or_and_right]
      refine or_congr_right (or_congr_left ?_)
      exact (and_iff_left_of_imp fun he ↦ he ▸ hheld).symm
    case isFalse hnone =>
      obtain ⟨hcascaded, hmem⟩ := ih h
      refine ⟨hcascaded, fun m ↦ ?_⟩
      rw [hmem, List.mem_cons, or_and_right, ← or_assoc]
      refine or_congr_left (or_iff_left_of_imp ?_).symm
      intro hm
      obtain ⟨rfl, hheld⟩ := hm
      by_cases hin : m ∈ deleted
      · exact hin
      · rw [hentity, if_neg hin] at hnone
        exact absurd hheld hnone

theorem cascaded_deleteEntities (hi : Identified kg) (u : String) (names : List String) :
    Cascaded u kg (kg.deleteEntities u names).1 (kg.deleteEntities u names).2 ∧
      ∀ name, name ∈ (kg.deleteEntities u names).1 ↔
        name ∈ names ∧ (kg.entity? u name).isSome := by
  have hfold : Cascaded u kg (kg.deleteEntities u names).1 (kg.deleteEntities u names).2 ∧
      ∀ name, name ∈ (kg.deleteEntities u names).1 ↔
        name ∈ [] ∨ name ∈ names ∧ (kg.entity? u name).isSome := by
    refine (cascaded_userGraph kg u).foldl hi ?_ names
    intro deleted kg' name
    rfl
  refine ⟨hfold.1, fun name ↦ (hfold.2 name).trans ?_⟩
  exact or_iff_right List.not_mem_nil

end Cascade

/-- In every life of a store the ids are apart and below the next one, in memory and in the rows
that are stored, and a deletion of entities takes exactly the relations along that mention them. -/
theorem Lived.identity_and_cascade {kg : KnowledgeGraph} (h : Lived kg) :
    kg.allIds.Nodup ∧ (∀ id ∈ kg.allIds, id < kg.nextId) ∧
      (∀ db, kg.db = some db → db.ids.Nodup ∧ ∀ id ∈ db.ids, id < kg.nextId) ∧
      ∀ u names, Cascaded u kg (kg.deleteEntities u names).1 (kg.deleteEntities u names).2 ∧
        ∀ name, name ∈ (kg.deleteEntities u names).1 ↔
          name ∈ names ∧ (kg.entity? u name).isSome :=
  ⟨nodup_allIds h.identified, fun _ ↦ lt_of_mem_allIds h.identified,
    fun _ hdb ↦ ⟨nodup_storedIds h.identified hdb, fun _ ↦ lt_of_mem_storedIds h.identified hdb⟩,
    cascaded_deleteEntities h.identified⟩

/-- Two users write, trim and relate, and the store is opened again. -/
def reopened : KnowledgeGraph :=
  (((withPersistence (some .empty)).run
    [("alice", .createEntities [⟨"rust", "language", ["likes it", "uses it"]⟩]),
      ("bob", .createEntities [⟨"lean", "language", ["new"]⟩]),
      ("alice", .trimObservations 1),
      ("alice", .createRelations [⟨"rust", "runs", "gateway"⟩])])).restart

theorem Lived.run {kg : KnowledgeGraph} (h : Lived kg) (ops : List (String × Op)) :
    Lived (kg.run ops) := by
  induction ops generalizing kg with
  | nil => exact h
  | cons op ops ih => exact ih (h.apply op.1 op.2)

theorem lived_reopened : Lived reopened := by
  refine Lived.restart ((Lived.opened (some .empty) ?_).run _)
  intro d hd
  rw [← Option.some_inj.mp hd]
  intro r hr
  cases hr

theorem identity_and_cascade_reopened :
    reopened.allIds.Nodup ∧ (∀ id ∈ reopened.allIds, id < reopened.nextId) ∧
      (∀ db, reopened.db = some db → db.ids.Nodup ∧ ∀ id ∈ db.ids, id < reopened.nextId) ∧
      ∀ u names, Cascaded u reopened (reopened.deleteEntities u names).1
          (reopened.deleteEntities u names).2 ∧
        ∀ name, name ∈ (reopened.deleteEntities u names).1 ↔
          name ∈ names ∧ (reopened.entity? u name).isSome :=
  Lived.identity_and_cascade lived_reopened

end AdkGateway.KnowledgeGraph
