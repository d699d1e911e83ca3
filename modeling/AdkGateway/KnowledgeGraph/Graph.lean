import AdkGateway.Foundation.KeyedMap
import AdkGateway.Foundation.Table
import Mathlib.Data.List.Dedup

namespace AdkGateway

open Foundation

namespace KnowledgeGraph

/-- Ids are drawn from a 64-bit counter that starts at 1. A natural number
stands for it: the counter cannot be driven to its end. -/
structure Observation where
  id : ℕ
  content : String
  deriving DecidableEq, Repr

structure Entity where
  name : String
  entityType : String
  observations : List Observation
  deriving DecidableEq, Repr

structure Relation where
  id : ℕ
  source : String
  relationType : String
  target : String
  deriving DecidableEq, Repr

structure CreateEntityInput where
  name : String
  entityType : String
  observations : List String
  deriving DecidableEq, Repr

structure CreateRelationInput where
  source : String
  relationType : String
  target : String
  deriving DecidableEq, Repr

structure UserGraph where
  entities : KeyedMap String Entity
  relations : KeyedMap ℕ Relation
  deriving DecidableEq

def UserGraph.default : UserGraph := ⟨∅, ∅⟩

structure EntityRow where
  userId : String
  name : String
  entityType : String
  deriving DecidableEq, Repr

/-- `PRIMARY KEY (user_id, name)`. -/
def EntityRow.key (r : EntityRow) : String × String := (r.userId, r.name)

structure ObservationRow where
  id : ℕ
  userId : String
  entityName : String
  content : String
  deriving DecidableEq, Repr

structure RelationRow where
  id : ℕ
  userId : String
  source : String
  relationType : String
  target : String
  deriving DecidableEq, Repr

structure Database where
  entities : Table EntityRow.key
  observations : Table ObservationRow.id
  relations : Table RelationRow.id

def Database.empty : Database := ⟨.empty, .empty, .empty⟩

end KnowledgeGraph

open KnowledgeGraph

structure KnowledgeGraph where
  graphs : KeyedMap String UserGraph
  nextId : ℕ
  db : Option Database

namespace KnowledgeGraph

def new : KnowledgeGraph := ⟨∅, 1, none⟩

def graph (kg : KnowledgeGraph) (userId : String) : UserGraph :=
  (kg.graphs.lookup userId).getD .default

/-- Every operation but `deleteUserGraph` begins by creating the user's graph. -/
def userGraph (kg : KnowledgeGraph) (userId : String) : KnowledgeGraph :=
  { kg with graphs := KeyedMap.orInsert userId .default kg.graphs }

def setGraph (kg : KnowledgeGraph) (userId : String) (graph : UserGraph) : KnowledgeGraph :=
  { kg with graphs := kg.graphs.insert userId graph }

def advanceId (kg : KnowledgeGraph) (n : ℕ) : KnowledgeGraph := { kg with nextId := kg.nextId + n }

def execute (kg : KnowledgeGraph) (sql : Database → Database) : KnowledgeGraph :=
  { kg with db := kg.db.map sql }

def dbUpsertEntity (kg : KnowledgeGraph) (userId name entityType : String) : KnowledgeGraph :=
  kg.execute fun db ↦ { db with entities := db.entities.insertOrReplace ⟨userId, name, entityType⟩ }

def dbInsertObservation (kg : KnowledgeGraph) (id : ℕ) (userId entityName content : String) :
    KnowledgeGraph :=
  kg.execute fun db ↦
    { db with observations := db.observations.insertOrReplace ⟨id, userId, entityName, content⟩ }

def dbInsertRelation (kg : KnowledgeGraph) (id : ℕ) (userId source relationType target : String) :
    KnowledgeGraph :=
  kg.execute fun db ↦
    { db with relations := db.relations.insertOrReplace ⟨id, userId, source, relationType, target⟩ }

def dbDeleteEntity (kg : KnowledgeGraph) (userId name : String) : KnowledgeGraph :=
  kg.execute fun db ↦
    { entities := db.entities.deleteWhere fun r ↦ r.userId = userId ∧ r.name = name
      observations := db.observations.deleteWhere fun r ↦ r.userId = userId ∧ r.entityName = name
      relations := db.relations.deleteWhere fun r ↦
        r.userId = userId ∧ (r.source = name ∨ r.target = name) }

def dbDeleteObservations (kg : KnowledgeGraph) (ids : List ℕ) : KnowledgeGraph :=
  kg.execute fun db ↦
    { db with observations := ids.foldl (fun t id ↦ t.deleteWhere (·.id = id)) db.observations }

def dbDeleteRelations (kg : KnowledgeGraph) (ids : List ℕ) : KnowledgeGraph :=
  kg.execute fun db ↦
    { db with relations := ids.foldl (fun t id ↦ t.deleteWhere (·.id = id)) db.relations }

def dbDeleteUser (kg : KnowledgeGraph) (userId : String) : KnowledgeGraph :=
  kg.execute fun db ↦
    { entities := db.entities.deleteWhere (·.userId = userId)
      observations := db.observations.deleteWhere (·.userId = userId)
      relations := db.relations.deleteWhere (·.userId = userId) }

def numbered : ℕ → List String → List Observation
  | _, [] => []
  | id, content :: contents => ⟨id, content⟩ :: numbered (id + 1) contents

def createEntity (userId : String) (kg : KnowledgeGraph) (input : CreateEntityInput) :
    KnowledgeGraph :=
  let observations := numbered kg.nextId input.observations
  let kg := kg.advanceId input.observations.length
  let kg := kg.dbUpsertEntity userId input.name input.entityType
  let kg := observations.foldl
    (fun kg obs ↦ kg.dbInsertObservation obs.id userId input.name obs.content) kg
  let graph := kg.graph userId
  kg.setGraph userId { graph with
    entities := graph.entities.insert input.name <|
      match graph.entities.lookup input.name with
      | some existing => { existing with observations := existing.observations ++ observations }
      | none => ⟨input.name, input.entityType, observations⟩ }

def createEntities (kg : KnowledgeGraph) (userId : String) (inputs : List CreateEntityInput) :
    List String × KnowledgeGraph :=
  (inputs.map (·.name), inputs.foldl (createEntity userId) (kg.userGraph userId))

def createRelation (userId : String) (kg : KnowledgeGraph) (input : CreateRelationInput) :
    KnowledgeGraph :=
  let id := kg.nextId
  let kg := kg.advanceId 1
  let kg := kg.dbInsertRelation id userId input.source input.relationType input.target
  let graph := kg.graph userId
  kg.setGraph userId { graph with
    relations := graph.relations.insert id ⟨id, input.source, input.relationType, input.target⟩ }

def createRelations (kg : KnowledgeGraph) (userId : String) (inputs : List CreateRelationInput) :
    List ℕ × KnowledgeGraph :=
  inputs.foldl (fun (ids, kg) input ↦ (ids ++ [kg.nextId], createRelation userId kg input))
    ([], kg.userGraph userId)

def addObservation (userId entityName : String) (kg : KnowledgeGraph) (content : String) :
    KnowledgeGraph :=
  let id := kg.nextId
  let kg := kg.advanceId 1
  let kg := kg.dbInsertObservation id userId entityName content
  let graph := kg.graph userId
  kg.setGraph userId { graph with
    entities := KeyedMap.modify entityName
      (fun e ↦ { e with observations := e.observations ++ [⟨id, content⟩] }) graph.entities }

def addObservations (kg : KnowledgeGraph) (userId entityName : String) (contents : List String) :
    Option (List ℕ) × KnowledgeGraph :=
  let kg := kg.userGraph userId
  match (kg.graph userId).entities.lookup entityName with
  | none => (none, kg)
  | some _ =>
    let (ids, kg) := contents.foldl
      (fun (ids, kg) content ↦ (ids ++ [kg.nextId], addObservation userId entityName kg content))
      ([], kg)
    (some ids, kg)

def UserGraph.toRemove (graph : UserGraph) (name : String) : List ℕ :=
  ((KeyedMap.values graph.relations).filter fun r ↦ r.source = name ∨ r.target = name).map (·.id)

def deleteEntity (userId : String) (kg : KnowledgeGraph) (name : String) : KnowledgeGraph :=
  let graph := kg.graph userId
  let kg := kg.setGraph userId
    { entities := graph.entities.erase name
      relations := (graph.toRemove name).foldl (fun m id ↦ m.erase id) graph.relations }
  kg.dbDeleteEntity userId name

def deleteEntities (kg : KnowledgeGraph) (userId : String) (names : List String) :
    List String × KnowledgeGraph :=
  names.foldl
    (fun (deleted, kg) name ↦
      if ((kg.graph userId).entities.lookup name).isSome then
        (deleted ++ [name], deleteEntity userId kg name)
      else (deleted, kg))
    ([], kg.userGraph userId)

/-- The ids one entity contributes to the deletion list: once any of its
observations goes, every listed id that it does not hold afterwards. -/
def deletedFrom (idSet : List ℕ) (entity : Entity) : List ℕ :=
  let kept := entity.observations.filter (·.id ∉ idSet)
  if 0 < entity.observations.length - kept.length then
    idSet.filter fun id ↦ !kept.any (·.id = id)
  else []

def deleteObservations (kg : KnowledgeGraph) (userId : String) (observationIds : List ℕ) :
    List ℕ × KnowledgeGraph :=
  let kg := kg.userGraph userId
  let graph := kg.graph userId
  let idSet := observationIds.dedup
  let deleted := (KeyedMap.values graph.entities).flatMap (deletedFrom idSet)
  let deleted := (deleted.insertionSort (· ≤ ·)).dedup
  let kg := kg.setGraph userId { graph with
    entities := KeyedMap.mapVal
      (fun e ↦ { e with observations := e.observations.filter (·.id ∉ idSet) }) graph.entities }
  (deleted, kg.dbDeleteObservations deleted)

/-- One turn of the loop of `deleteRelations`. -/
def removeRelation (userId : String) : List ℕ × KnowledgeGraph → ℕ → List ℕ × KnowledgeGraph
  | (deleted, kg), id =>
    let graph := kg.graph userId
    if (graph.relations.lookup id).isSome then
      (deleted ++ [id], kg.setGraph userId { graph with relations := graph.relations.erase id })
    else (deleted, kg)

def deleteRelations (kg : KnowledgeGraph) (userId : String) (relationIds : List ℕ) :
    List ℕ × KnowledgeGraph :=
  let (deleted, kg) := relationIds.foldl (removeRelation userId) ([], kg.userGraph userId)
  (deleted, kg.dbDeleteRelations deleted)

def deleteUserGraph (kg : KnowledgeGraph) (userId : String) : Bool × KnowledgeGraph :=
  match kg.graphs.lookup userId with
  | none => (false, kg)
  | some _ => (true, ({ kg with graphs := kg.graphs.erase userId }).dbDeleteUser userId)

def trimObservations (kg : KnowledgeGraph) (userId : String) (maxPerEntity : ℕ) :
    ℕ × KnowledgeGraph :=
  let kg := kg.userGraph userId
  let graph := kg.graph userId
  let excess := fun e : Entity ↦ e.observations.length - maxPerEntity
  let drained := (KeyedMap.values graph.entities).flatMap fun e ↦ e.observations.take (excess e)
  let kg := kg.setGraph userId { graph with
    entities := KeyedMap.mapVal
      (fun e ↦ { e with observations := e.observations.drop (excess e) }) graph.entities }
  (drained.length, kg.dbDeleteObservations (drained.map (·.id)))

def loadEntity (graphs : KeyedMap String UserGraph) (row : EntityRow) :
    KeyedMap String UserGraph :=
  let graph := (graphs.lookup row.userId).getD .default
  graphs.insert row.userId { graph with
    entities := KeyedMap.orInsert row.name ⟨row.name, row.entityType, []⟩ graph.entities }

def loadObservation (graphs : KeyedMap String UserGraph) (row : ObservationRow) :
    KeyedMap String UserGraph :=
  KeyedMap.modify row.userId
    (fun graph ↦ { graph with
      entities := KeyedMap.modify row.entityName
        (fun e ↦ { e with observations := e.observations ++ [⟨row.id, row.content⟩] })
        graph.entities })
    graphs

def loadRelation (graphs : KeyedMap String UserGraph) (row : RelationRow) :
    KeyedMap String UserGraph :=
  KeyedMap.modify row.userId
    (fun graph ↦ { graph with
      relations := graph.relations.insert row.id
        ⟨row.id, row.source, row.relationType, row.target⟩ })
    graphs

def loadFromDb (db : Database) : KnowledgeGraph :=
  let graphs := db.entities.rows.foldl loadEntity ∅
  let observations := db.observations.orderByKey
  let graphs := observations.foldl loadObservation graphs
  let graphs := db.relations.rows.foldl loadRelation graphs
  let maxId := observations.foldl (fun m r ↦ max m r.id) 0
  let maxId := db.relations.rows.foldl (fun m r ↦ max m r.id) maxId
  ⟨graphs, maxId + 1, some db⟩

/-- The store opened at a path; `none` is a path where SQLite fails. -/
def withPersistence : Option Database → KnowledgeGraph
  | none => new
  | some db => loadFromDb db

/-- The operations of one user. The read-only ones (`search_nodes`, `open_nodes`,
`read_graph`, `build_entity_summary`) change the store only by creating the
user's graph, which is `query`. -/
inductive Op
  | createEntities (inputs : List CreateEntityInput)
  | createRelations (inputs : List CreateRelationInput)
  | addObservations (entityName : String) (contents : List String)
  | deleteEntities (names : List String)
  | deleteObservations (ids : List ℕ)
  | deleteRelations (ids : List ℕ)
  | deleteUserGraph
  | trimObservations (maxPerEntity : ℕ)
  | query

def apply (kg : KnowledgeGraph) (userId : String) : Op → KnowledgeGraph
  | .createEntities inputs => (kg.createEntities userId inputs).2
  | .createRelations inputs => (kg.createRelations userId inputs).2
  | .addObservations entityName contents => (kg.addObservations userId entityName contents).2
  | .deleteEntities names => (kg.deleteEntities userId names).2
  | .deleteObservations ids => (kg.deleteObservations userId ids).2
  | .deleteRelations ids => (kg.deleteRelations userId ids).2
  | .deleteUserGraph => (kg.deleteUserGraph userId).2
  | .trimObservations maxPerEntity => (kg.trimObservations userId maxPerEntity).2
  | .query => kg.userGraph userId

def run (kg : KnowledgeGraph) (ops : List (String × Op)) : KnowledgeGraph :=
  ops.foldl (fun kg op ↦ kg.apply op.1 op.2) kg

end KnowledgeGraph

end AdkGateway
