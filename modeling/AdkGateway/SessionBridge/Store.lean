import AdkGateway.Foundation.Json
import AdkGateway.Foundation.KeyedMap
import AdkGateway.Foundation.Table
import AdkGateway.Foundation.Time

namespace AdkGateway.SessionBridge

open Foundation

structure SessionKey where
  appName : String
  userId : String
  sessionId : String
  deriving DecidableEq

abbrev SessionState := KeyedMap String Json

structure EventActions where
  stateDelta : SessionState
  others : Json

structure Event where
  id : String
  timestamp : DateTime
  invocationId : String
  branch : String
  author : String
  llmResponse : Json
  actions : EventActions
  longRunningToolIds : List String

structure CreateRequest where
  appName : String
  userId : String
  sessionId : Option String
  state : SessionState

structure GetRequest where
  appName : String
  userId : String
  sessionId : String
  numRecentEvents : Option ℕ
  after : Option DateTime

def GetRequest.key (req : GetRequest) : SessionKey := ⟨req.appName, req.userId, req.sessionId⟩

/-- The key of the session to be created, with the id drawn for it if it has none. -/
def CreateRequest.key (req : CreateRequest) (uuid : String) : SessionKey :=
  ⟨req.appName, req.userId, req.sessionId.getD uuid⟩

structure Session where
  key : SessionKey
  state : SessionState
  events : List Event
  updatedAt : DateTime

namespace SessionState

def toJson (state : SessionState) : Json := .object (state.entries.map fun e ↦ (e.1, e.2))

def fromJson? : Json → Option SessionState
  | .object fields => some (fields.foldl (fun state field ↦ state.insert field.1 field.2) ∅)
  | _ => none

def extend (state delta : SessionState) : SessionState :=
  delta.entries.foldl (fun acc e ↦ acc.insert e.1 e.2) state

theorem lookup_extend (state delta : SessionState) (name : String) :
    (state.extend delta).lookup name = (delta.lookup name).or (state.lookup name) := by
  have h := KeyedMap.lookup_foldl_insert id delta state name
  rwa [Option.map_id] at h

theorem fromJson?_toJson (state : SessionState) :
    ∃ state', fromJson? state.toJson = some state' ∧
      ∀ name, state'.lookup name = state.lookup name := by
  refine ⟨_, rfl, fun name ↦ ?_⟩
  have h := lookup_extend ∅ state name
  rw [extend, AList.lookup_empty, Option.or_none] at h
  rwa [List.foldl_map]

end SessionState

inductive Text
  | json (value : Json)
  | other (text : String)

def Text.state? : Text → Option SessionState
  | .json value => SessionState.fromJson? value
  | .other _ => none

structure SessionRow where
  key : SessionKey
  state : Text
  createdAt : DateTime
  updatedAt : DateTime

structure EventRow where
  session : SessionKey
  event : Event

def EventRow.key (row : EventRow) : String × SessionKey := (row.event.id, row.session)

structure Sqlite where
  sessions : Table SessionRow.key
  events : Table EventRow.key
  foreign_key : ∀ row ∈ events.rows, row.session ∈ sessions.rows.map SessionRow.key

inductive Statement
  | lookup
  | select
  | update
  | insert
  deriving DecidableEq

namespace Sqlite

def empty : Sqlite := ⟨.empty, .empty, nofun⟩

/-- Faults from outside the database: the statements that fail, with the reason. -/
abbrev Faults := Statement → Option String

def noFaults : Faults := fun _ ↦ none

theorem map_key_updateWhere {p : SessionRow → Bool} {f : SessionRow → SessionRow}
    (hf : ∀ row, (f row).key = row.key) (t : Table SessionRow.key) :
    (t.updateWhere p f hf).rows.map SessionRow.key = t.rows.map SessionRow.key := by
  rw [Table.updateWhere, List.map_map]
  refine List.map_congr_left fun row _ ↦ ?_
  rw [Function.comp_apply]
  split
  · exact hf row
  · rfl

def updateSessions (faults : Faults) (key : SessionKey) (f : SessionRow → SessionRow)
    (hf : ∀ row, (f row).key = row.key) (db : Sqlite) : Except String Sqlite :=
  match faults .update with
  | some e => .error ("update failed: " ++ e)
  | none => .ok
    { db with
      sessions := db.sessions.updateWhere (fun row ↦ row.key = key) f hf
      foreign_key := fun row hrow ↦ by
        rw [map_key_updateWhere]
        exact db.foreign_key row hrow }

def touch (faults : Faults) (key : SessionKey) (event : Event) (db : Sqlite) :
    Except String Sqlite :=
  if event.actions.stateDelta.entries.isEmpty then
    db.updateSessions faults key (fun row ↦ { row with updatedAt := event.timestamp }) fun _ ↦ rfl
  else
    match faults .select with
    | some e => .error ("query failed: " ++ e)
    | none =>
      match db.sessions.find key with
      | none => .error "query failed: Query returned no rows"
      | some found =>
        let state := (found.state.state?.getD ∅).extend event.actions.stateDelta
        db.updateSessions faults key
          (fun row ↦ { row with state := .json state.toJson, updatedAt := event.timestamp })
          fun _ ↦ rfl

def insertEvent (faults : Faults) (key : SessionKey) (event : Event) (db : Sqlite) :
    Except String Sqlite :=
  match faults .insert with
  | some e => .error ("insert event failed: " ++ e)
  | none =>
    match h : db.events.insert? ⟨key, event⟩ with
    | none => .error ("insert event failed: UNIQUE constraint failed: events.id, " ++
        "events.app_name, events.user_id, events.session_id")
    | some events =>
      if hkey : key ∈ db.sessions.rows.map SessionRow.key then
        .ok
          { db with
            events := events
            foreign_key := fun row hrow ↦ by
              rw [(Table.insert?_eq_some h).2, List.mem_append, List.mem_singleton] at hrow
              rcases hrow with hrow | rfl
              · exact db.foreign_key row hrow
              · exact hkey }
      else .error "insert event failed: FOREIGN KEY constraint failed"

def appendEvent (faults : Faults) (sessionId : String) (event : Event) (db : Sqlite) :
    Except String Unit × Sqlite :=
  match faults .lookup, db.sessions.rows.find? (fun row ↦ row.key.sessionId = sessionId) with
  | none, some row =>
    match db.touch faults row.key event with
    | .error e => (.error e, db)
    | .ok touched =>
      match touched.insertEvent faults row.key event with
      | .error e => (.error e, touched)
      | .ok db' => (.ok (), db')
  | _, _ => (.error "session not found", db)

def create (req : CreateRequest) (uuid : String) (now : DateTime) (db : Sqlite) :
    Except String Session × Sqlite :=
  match h : db.sessions.insert? ⟨req.key uuid, .json req.state.toJson, now, now⟩ with
  | none => (.error ("insert failed: UNIQUE constraint failed: sessions.app_name, " ++
      "sessions.user_id, sessions.session_id"), db)
  | some sessions => (.ok ⟨req.key uuid, req.state, [], now⟩,
    { db with
      sessions := sessions
      foreign_key := fun row hrow ↦ by
        rw [(Table.insert?_eq_some h).2, List.map_append]
        exact List.mem_append_left _ (db.foreign_key row hrow) })

theorem create_of_known {db : Sqlite} {req : CreateRequest} {uuid : String}
    (h : req.key uuid ∈ db.sessions.rows.map SessionRow.key) (now : DateTime) :
    ∃ e, db.create req uuid now = (.error e, db) := by
  unfold create
  split
  · exact ⟨_, rfl⟩
  · next hinsert =>
    exact absurd h (Table.find_eq_none_iff.mp (Table.insert?_eq_some hinsert).1)

theorem create_of_new {db : Sqlite} {req : CreateRequest} {uuid : String}
    (h : req.key uuid ∉ db.sessions.rows.map SessionRow.key) (now : DateTime) :
    ∃ db', db.create req uuid now = (.ok ⟨req.key uuid, req.state, [], now⟩, db') ∧
      db'.sessions.rows = db.sessions.rows ++ [⟨req.key uuid, .json req.state.toJson, now, now⟩] := by
  unfold create
  split
  · next hinsert =>
    rw [Table.insert?_eq_none_iff, Table.find_eq_none_iff.mpr h] at hinsert
    cases hinsert
  · next hinsert => exact ⟨_, rfl, (Table.insert?_eq_some hinsert).2⟩

def recent (req : GetRequest) (events : List Event) : List Event :=
  let events := match req.numRecentEvents with
    | none => events
    | some num => events.drop (events.length - num)
  match req.after with
  | none => events
  | some after => events.filter fun event ↦ decide (after ≤ event.timestamp)

/-- `textLe` orders times as their texts are ordered. -/
def storedEvents (textLe : DateTime → DateTime → Bool) (key : SessionKey) (db : Sqlite) :
    List Event :=
  ((db.events.select fun row ↦ row.session = key).map EventRow.event).insertionSort
    fun a b ↦ textLe a.timestamp b.timestamp = true

def get (textLe : DateTime → DateTime → Bool) (req : GetRequest) (db : Sqlite) :
    Except String Session :=
  match db.sessions.find req.key with
  | none => .error "session not found"
  | some row =>
    match row.state.state? with
    | none => .error "deserialize failed: " -- without the parser's own words
    | some state => .ok ⟨req.key, state, recent req (db.storedEvents textLe req.key), row.updatedAt⟩

end Sqlite

structure PgRow where
  session : SessionKey
  state : Json
  createdAt : DateTime
  updatedAt : DateTime

def PgRow.key (row : PgRow) : String := row.session.sessionId

/-- There is no table of events. -/
structure Postgres where
  sessions : Table PgRow.key

namespace Postgres

def empty : Postgres := ⟨.empty⟩

def create (req : CreateRequest) (uuid : String) (now : DateTime) (db : Postgres) :
    Except String Session × Postgres :=
  match db.sessions.insert? ⟨req.key uuid, req.state.toJson, now, now⟩ with
  | none => (.error ("insert failed: duplicate key value violates unique constraint " ++
      "\"sessions_pkey\""), db)
  | some sessions => (.ok ⟨req.key uuid, req.state, [], now⟩, ⟨sessions⟩)

theorem create_of_known {db : Postgres} {req : CreateRequest} {uuid : String}
    (h : (req.key uuid).sessionId ∈ db.sessions.rows.map PgRow.key) (now : DateTime) :
    ∃ e, db.create req uuid now = (.error e, db) := by
  unfold create
  split
  · exact ⟨_, rfl⟩
  · next hinsert =>
    exact absurd h (Table.find_eq_none_iff.mp (Table.insert?_eq_some hinsert).1)

theorem create_of_new {db : Postgres} {req : CreateRequest} {uuid : String}
    (h : (req.key uuid).sessionId ∉ db.sessions.rows.map PgRow.key) (now : DateTime) :
    ∃ db', db.create req uuid now = (.ok ⟨req.key uuid, req.state, [], now⟩, db') ∧
      db'.sessions.rows = db.sessions.rows ++ [⟨req.key uuid, req.state.toJson, now, now⟩] := by
  unfold create
  split
  · next hinsert =>
    rw [Table.insert?_eq_none_iff, PgRow.key, Table.find_eq_none_iff.mpr h] at hinsert
    cases hinsert
  · next hinsert => exact ⟨_, rfl, (Table.insert?_eq_some hinsert).2⟩

def get (req : GetRequest) (db : Postgres) : Except String Session :=
  match db.sessions.rows.find? fun row ↦ row.session = req.key with
  | none => .error "session not found"
  | some row =>
    match SessionState.fromJson? row.state with
    | none => .error "deserialize failed: " -- without the parser's own words
    | some state => .ok ⟨req.key, state, [], row.updatedAt⟩

def appendEvent (sessionId : String) (event : Event) (db : Postgres) :
    Except String Unit × Postgres :=
  if event.actions.stateDelta.entries.isEmpty then
    (.ok (), ⟨db.sessions.updateWhere (fun row ↦ row.key = sessionId)
      (fun row ↦ { row with updatedAt := event.timestamp }) fun _ ↦ rfl⟩)
  else
    match db.sessions.find sessionId with
    | none => (.error "session not found", db)
    | some found =>
      let state := ((SessionState.fromJson? found.state).getD ∅).extend event.actions.stateDelta
      (.ok (), ⟨db.sessions.updateWhere (fun row ↦ row.key = sessionId)
        (fun row ↦ { row with state := state.toJson, updatedAt := event.timestamp }) fun _ ↦ rfl⟩)

def touchedRow (event : Event) (row : PgRow) : PgRow :=
  { row with
    state := if event.actions.stateDelta.entries.isEmpty then row.state
      else (((SessionState.fromJson? row.state).getD ∅).extend event.actions.stateDelta).toJson
    updatedAt := event.timestamp }

theorem key_touchedRow (event : Event) (row : PgRow) : (touchedRow event row).key = row.key := rfl

theorem appendEvent_of_known {db : Postgres} {sessionId : String} {row : PgRow}
    (hrow : db.sessions.find sessionId = some row) (event : Event) :
    db.appendEvent sessionId event =
      (.ok (), ⟨db.sessions.updateWhere (fun row ↦ row.key = sessionId) (touchedRow event)
        (key_touchedRow event)⟩) := by
  unfold appendEvent
  split
  · next hempty =>
    refine Prod.ext rfl (congrArg Postgres.mk (Table.updateWhere_congr hrow ?_))
    rw [touchedRow, if_pos hempty]
  · next hempty =>
    rw [hrow]
    refine Prod.ext rfl (congrArg Postgres.mk (Table.updateWhere_congr hrow ?_))
    rw [touchedRow, if_neg hempty]

end Postgres

end AdkGateway.SessionBridge
