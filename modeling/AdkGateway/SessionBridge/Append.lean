import AdkGateway.SessionBridge.Store

namespace AdkGateway.SessionBridge

open Foundation

/-- What a state text says about each name. -/
def Text.content (text : Text) : Option (String → Option Json) :=
  text.state?.map fun state name ↦ state.lookup name

theorem Text.content_toJson (state : SessionState) :
    (Text.json state.toJson).content = some fun name ↦ state.lookup name := by
  obtain ⟨state', hread, hlookup⟩ := state.fromJson?_toJson
  rw [Text.content, Text.state?, hread, Option.map_some, funext hlookup]

namespace Sqlite

section Specification

def storedState (db : Sqlite) (key : SessionKey) : Option (Option (String → Option Json)) :=
  (db.sessions.find key).map fun row ↦ row.state.content

/-- Nothing that is stored has changed. -/
def Kept (db db' : Sqlite) : Prop :=
  db'.events.rows = db.events.rows ∧ ∀ key, db'.storedState key = db.storedState key

def Merged (delta : SessionState) (old new : Text) : Prop :=
  if delta.entries.isEmpty then new.content = old.content
  else ∃ state, old.state? = some state ∧
    new.content = some fun name ↦ (delta.lookup name).or (state.lookup name)

def Gained (key : SessionKey) (event : Event) (db db' : Sqlite) : Prop :=
  (∃ row row', db.sessions.find key = some row ∧ db'.sessions.find key = some row' ∧
    Merged event.actions.stateDelta row.state row'.state) ∧
  db'.events.rows = db.events.rows ++ [⟨key, event⟩] ∧
  ∀ other, other ≠ key → db'.sessions.find other = db.sessions.find other

/-- All or nothing, for the session that is meant. -/
def Atomic (faults : Faults) (key : SessionKey) (event : Event) (db : Sqlite) : Prop :=
  let result := db.appendEvent faults key.sessionId event
  match result.1 with
  | .error _ => Kept db result.2
  | .ok () => Gained key event db result.2

end Specification

section Condition

variable (faults : Faults) (sessionId : String) (event : Event) (db : Sqlite)

def Touches (row : SessionRow) : Prop :=
  faults .lookup = none ∧
  db.sessions.rows.find? (fun row ↦ row.key.sessionId = sessionId) = some row ∧
  (event.actions.stateDelta.entries.isEmpty = true ∨ faults .select = none) ∧
  faults .update = none

def Inserts (key : SessionKey) : Prop :=
  faults .insert = none ∧ db.events.find (event.id, key) = none

def NothingNew (delta : SessionState) (old : Text) : Prop :=
  delta.entries.isEmpty = true ∨
    ∃ state, old.state? = some state ∧ ∀ name, (delta.lookup name).or (state.lookup name) =
      state.lookup name

/-- The insert cannot fail after a change, and the session found is the one meant. -/
def Safe (key : SessionKey) : Prop :=
  ∀ row, Touches faults key.sessionId event db row →
    (Inserts faults event db row.key → row.key = key ∧
      (event.actions.stateDelta.entries.isEmpty = true ∨ row.state.state?.isSome = true)) ∧
    (¬ Inserts faults event db row.key → NothingNew event.actions.stateDelta row.state)

end Condition

section Statements

variable {faults : Faults} {key : SessionKey} {event : Event} {db db' : Sqlite} {row : SessionRow}

def touchedRow (event : Event) (row : SessionRow) : SessionRow :=
  { row with
    state := if event.actions.stateDelta.entries.isEmpty then row.state
      else .json ((row.state.state?.getD ∅).extend event.actions.stateDelta).toJson
    updatedAt := event.timestamp }

theorem key_touchedRow (event : Event) (row : SessionRow) :
    (touchedRow event row).key = row.key := rfl

theorem updateSessions_ok {f : SessionRow → SessionRow} {hf : ∀ row, (f row).key = row.key}
    (h : db.updateSessions faults key f hf = .ok db') :
    db'.events = db.events ∧
      db'.sessions = db.sessions.updateWhere (fun row ↦ row.key = key) f hf := by
  unfold updateSessions at h
  split at h
  · cases h
  · cases h
    exact ⟨rfl, rfl⟩

theorem touch_ok (hrow : db.sessions.find key = some row)
    (h : db.touch faults key event = .ok db') :
    db'.events = db.events ∧
      db'.sessions = db.sessions.updateWhere (fun row ↦ row.key = key) (touchedRow event)
        (key_touchedRow event) := by
  unfold touch at h
  split at h
  · next hempty =>
    obtain ⟨hevents, hsessions⟩ := updateSessions_ok h
    refine ⟨hevents, hsessions.trans (Table.updateWhere_congr hrow ?_)⟩
    rw [touchedRow, if_pos hempty]
  · next hempty =>
    split at h
    · cases h
    · rw [hrow] at h
      obtain ⟨hevents, hsessions⟩ := updateSessions_ok h
      refine ⟨hevents, hsessions.trans (Table.updateWhere_congr hrow ?_)⟩
      rw [touchedRow, if_neg hempty]

theorem find_touch (hrow : db.sessions.find key = some row)
    (h : db.touch faults key event = .ok db') (k : SessionKey) : db'.sessions.find k =
      if k = key then some (touchedRow event row) else db.sessions.find k := by
  rw [(touch_ok hrow h).2, Table.find_updateWhere]
  split
  · next hk => rw [hk, hrow, Option.map_some]
  · rfl

theorem touch_isOk_iff (hrow : db.sessions.find key = some row) :
    (∃ db', db.touch faults key event = .ok db') ↔
      (event.actions.stateDelta.entries.isEmpty = true ∨ faults .select = none) ∧
        faults .update = none := by
  unfold touch updateSessions
  cases event.actions.stateDelta.entries.isEmpty <;> cases faults .select <;>
    cases faults .update <;> simp [hrow]

theorem insertEvent_ok (h : db.insertEvent faults key event = .ok db') :
    Inserts faults event db key ∧ db'.sessions = db.sessions ∧
      db'.events.rows = db.events.rows ++ [⟨key, event⟩] := by
  unfold insertEvent at h
  split at h
  · cases h
  · next hfault =>
    split at h
    · cases h
    · next hinsert =>
      split at h
      · cases h
        obtain ⟨hnew, hrows⟩ := Table.insert?_eq_some hinsert
        exact ⟨⟨hfault, hnew⟩, rfl, hrows⟩
      · cases h

theorem insertEvent_isOk (hkey : key ∈ db.sessions.rows.map SessionRow.key)
    (h : Inserts faults event db key) : ∃ db', db.insertEvent faults key event = .ok db' := by
  unfold insertEvent
  rw [h.1]
  dsimp only
  split
  · next hinsert =>
    rw [Table.insert?_eq_none_iff, EventRow.key, h.2] at hinsert
    cases hinsert
  · exact ⟨_, dif_pos hkey⟩

theorem find_of_touches (h : Touches faults key.sessionId event db row) :
    db.sessions.find row.key = some row :=
  Table.find_eq_some_iff.mpr ⟨List.mem_of_find?_eq_some h.2.1, rfl⟩

theorem exists_touched (h : Touches faults key.sessionId event db row) :
    ∃ touched, db.touch faults row.key event = .ok touched :=
  (touch_isOk_iff (find_of_touches h)).mpr h.2.2

theorem appendEvent_of_not_touches (h : ∀ row, ¬ Touches faults key.sessionId event db row) :
    ∃ e, db.appendEvent faults key.sessionId event = (.error e, db) := by
  unfold appendEvent
  split
  · next row hlookup hfound =>
    have hrow : db.sessions.find row.key = some row :=
      Table.find_eq_some_iff.mpr ⟨List.mem_of_find?_eq_some hfound, rfl⟩
    cases htouch : db.touch faults row.key event with
    | error e => exact ⟨e, rfl⟩
    | ok touched =>
      have hok := (touch_isOk_iff hrow).mp ⟨touched, htouch⟩
      exact absurd ⟨hlookup, hfound, hok⟩ (h row)
  · exact ⟨_, rfl⟩

theorem appendEvent_of_touches (h : Touches faults key.sessionId event db row) {touched : Sqlite}
    (htouch : db.touch faults row.key event = .ok touched) :
    db.appendEvent faults key.sessionId event =
      match touched.insertEvent faults row.key event with
      | .error e => (.error e, touched)
      | .ok db' => (.ok (), db') := by
  cases hinsert : touched.insertEvent faults row.key event with
  | error e => simp only [appendEvent, h.1, h.2.1, htouch, hinsert]
  | ok db' => simp only [appendEvent, h.1, h.2.1, htouch, hinsert]

theorem inserts_touched {touched : Sqlite} (hevents : touched.events = db.events) :
    Inserts faults event touched row.key ↔ Inserts faults event db row.key := by
  rw [Inserts, Inserts, hevents]

theorem appendEvent_of_not_inserts (h : Touches faults key.sessionId event db row)
    (hinserts : ¬ Inserts faults event db row.key) {touched : Sqlite}
    (htouch : db.touch faults row.key event = .ok touched) :
    ∃ e, db.appendEvent faults key.sessionId event = (.error e, touched) := by
  rw [appendEvent_of_touches h htouch]
  cases hinsert : touched.insertEvent faults row.key event with
  | error e => exact ⟨e, rfl⟩
  | ok db' =>
    have hevents := (touch_ok (find_of_touches h) htouch).1
    exact absurd ((inserts_touched hevents).mp (insertEvent_ok hinsert).1) hinserts

theorem appendEvent_of_inserts (h : Touches faults key.sessionId event db row)
    (hinserts : Inserts faults event db row.key) {touched : Sqlite}
    (htouch : db.touch faults row.key event = .ok touched) :
    ∃ db', db.appendEvent faults key.sessionId event = (.ok (), db') ∧
      db'.sessions = touched.sessions ∧
      db'.events.rows = db.events.rows ++ [⟨row.key, event⟩] := by
  obtain ⟨hevents, -⟩ := touch_ok (find_of_touches h) htouch
  have hkey : row.key ∈ touched.sessions.rows.map SessionRow.key := by
    have hrow : touched.sessions.find row.key = some (touchedRow event row) := by
      rw [find_touch (find_of_touches h) htouch, if_pos rfl]
    by_contra hnone
    rw [Table.find_eq_none_iff.mpr hnone] at hrow
    cases hrow
  obtain ⟨db', hinsert⟩ := insertEvent_isOk hkey ((inserts_touched hevents).mpr hinserts)
  obtain ⟨-, hsessions, hrows⟩ := insertEvent_ok hinsert
  refine ⟨db', ?_, hsessions, hevents ▸ hrows⟩
  rw [appendEvent_of_touches h htouch, hinsert]

end Statements

section Outcome

variable {faults : Faults} {key : SessionKey} {event : Event} {db db' : Sqlite} {row : SessionRow}

theorem content_touchedRow (hdelta : event.actions.stateDelta.entries.isEmpty = false) :
    (touchedRow event row).state.content = some fun name ↦
      (event.actions.stateDelta.lookup name).or ((row.state.state?.getD ∅).lookup name) := by
  simp only [touchedRow, hdelta, Bool.false_eq_true, if_false, Text.content_toJson,
    SessionState.lookup_extend]

theorem state_touchedRow (hdelta : event.actions.stateDelta.entries.isEmpty = true) :
    (touchedRow event row).state = row.state := by
  simp only [touchedRow, hdelta, if_true]

theorem content_touchedRow_eq_iff : (touchedRow event row).state.content = row.state.content ↔
    NothingNew event.actions.stateDelta row.state := by
  cases hdelta : event.actions.stateDelta.entries.isEmpty with
  | true => exact iff_of_true (by rw [state_touchedRow hdelta]) (.inl hdelta)
  | false =>
    rw [content_touchedRow hdelta, NothingNew, hdelta, Text.content]
    cases hstate : row.state.state? with
    | none => simp
    | some state => simp [funext_iff]

theorem merged_touchedRow_iff :
    Merged event.actions.stateDelta row.state (touchedRow event row).state ↔
      (event.actions.stateDelta.entries.isEmpty = true ∨ row.state.state?.isSome = true) := by
  cases hdelta : event.actions.stateDelta.entries.isEmpty with
  | true =>
    rw [Merged, if_pos hdelta, state_touchedRow hdelta]
    exact iff_of_true rfl (.inl rfl)
  | false =>
    rw [Merged, hdelta, if_neg Bool.false_ne_true, content_touchedRow hdelta]
    cases hstate : row.state.state? with
    | none => simp
    | some state => simp

theorem kept_touched_iff (hrow : db.sessions.find row.key = some row)
    (hevents : db'.events = db.events) (hfind : ∀ k, db'.sessions.find k =
      if k = row.key then some (touchedRow event row) else db.sessions.find k) :
    Kept db db' ↔ NothingNew event.actions.stateDelta row.state := by
  rw [← content_touchedRow_eq_iff]
  constructor
  · rintro ⟨-, hstate⟩
    have h := hstate row.key
    rw [storedState, storedState, hfind, if_pos rfl, hrow] at h
    exact Option.some_inj.mp h
  · intro hcontent
    refine ⟨by rw [hevents], fun k ↦ ?_⟩
    rw [storedState, storedState, hfind]
    split
    · next hk => rw [hk, hrow, Option.map_some, Option.map_some, hcontent]
    · rfl

theorem gained_iff (key : SessionKey) (hrow : db.sessions.find row.key = some row)
    (hrows : db'.events.rows = db.events.rows ++ [⟨row.key, event⟩])
    (hfind : ∀ k, db'.sessions.find k =
      if k = row.key then some (touchedRow event row) else db.sessions.find k) :
    Gained key event db db' ↔ row.key = key ∧
      (event.actions.stateDelta.entries.isEmpty = true ∨ row.state.state?.isSome = true) := by
  rw [← merged_touchedRow_iff]
  constructor
  · rintro ⟨⟨row₁, row₂, h₁, h₂, hmerged⟩, hevents, -⟩
    have hkey : row.key = key := by
      rw [hrows] at hevents
      exact congrArg EventRow.session (List.singleton_inj.mp (List.append_cancel_left hevents))
    subst hkey
    rw [hrow] at h₁
    rw [hfind, if_pos rfl] at h₂
    cases h₁
    cases h₂
    exact ⟨rfl, hmerged⟩
  · rintro ⟨rfl, hmerged⟩
    refine ⟨⟨row, touchedRow event row, hrow, by rw [hfind, if_pos rfl], hmerged⟩, hrows, ?_⟩
    intro other hother
    rw [hfind, if_neg hother]

theorem atomic_iff_safe (faults : Faults) (key : SessionKey) (event : Event) (db : Sqlite) :
    Atomic faults key event db ↔ Safe faults event db key := by
  by_cases htouches : ∃ row, Touches faults key.sessionId event db row
  · obtain ⟨row, htouch⟩ := htouches
    have hsafe : Safe faults event db key ↔
        (Inserts faults event db row.key → row.key = key ∧
          (event.actions.stateDelta.entries.isEmpty = true ∨ row.state.state?.isSome = true)) ∧
        (¬ Inserts faults event db row.key → NothingNew event.actions.stateDelta row.state) := by
      refine ⟨fun h ↦ h row htouch, fun h row' htouch' ↦ ?_⟩
      cases htouch.2.1.symm.trans htouch'.2.1
      exact h
    have hrow := find_of_touches htouch
    obtain ⟨touched, hok⟩ := exists_touched htouch
    have hevents := (touch_ok hrow hok).1
    have hfind := find_touch hrow hok
    rw [hsafe]
    by_cases hinserts : Inserts faults event db row.key
    · obtain ⟨db', happend, hsessions, hrows⟩ := appendEvent_of_inserts htouch hinserts hok
      have hgained := gained_iff key hrow hrows (hsessions ▸ hfind)
      simp only [Atomic, happend, hgained, hinserts, true_imp_iff, not_true_eq_false,
        false_imp_iff, and_true]
    · obtain ⟨e, happend⟩ := appendEvent_of_not_inserts htouch hinserts hok
      simp only [Atomic, happend, kept_touched_iff hrow hevents hfind, hinserts, false_imp_iff,
        not_false_eq_true, true_imp_iff, true_and]
  · have hnone : ∀ row, ¬ Touches faults key.sessionId event db row := not_exists.mp htouches
    obtain ⟨e, happend⟩ := appendEvent_of_not_touches hnone
    have hkept : Kept db db := ⟨rfl, fun _ ↦ rfl⟩
    simp only [Atomic, happend]
    exact iff_of_true hkept fun row h ↦ absurd h (hnone row)

end Outcome

section Failures

def greeting (delta : SessionState) : Event :=
  ⟨"e", 0, "i", "", "user", .object [], ⟨delta, .object []⟩, []⟩

def topicDelta : SessionState := AList.singleton "topic" (.string "tea")

def sessionOf (userId : String) : SessionKey := ⟨"gateway", userId, "s"⟩

def sessionRow (userId : String) : SessionRow := ⟨sessionOf userId, .json (.object []), 0, 0⟩

/-- The event has been stored before. -/
def repeated : Sqlite where
  sessions := ⟨[sessionRow "alice"], by decide⟩
  events := ⟨[⟨sessionOf "alice", greeting ∅⟩], by decide⟩
  foreign_key := by decide

/-- Two users have sessions of one id. -/
def shared : Sqlite where
  sessions := ⟨[sessionRow "alice", sessionRow "bob"], by decide⟩
  events := .empty
  foreign_key := nofun

theorem not_atomic :
    ¬ Atomic noFaults (sessionOf "alice") (greeting topicDelta) repeated ∧
      ¬ Atomic noFaults (sessionOf "bob") (greeting ∅) shared := by
  constructor
  · intro h
    have hkept : Kept repeated
        (repeated.appendEvent noFaults "s" (greeting topicDelta)).2 := h
    have htopic := congrArg (Option.map (Option.map fun content ↦ content "topic"))
      (hkept.2 (sessionOf "alice"))
    revert htopic
    decide
  · intro h
    have hgained : Gained (sessionOf "bob") (greeting ∅) shared
        (shared.appendEvent noFaults "s" (greeting ∅)).2 := h
    have hevents := congrArg (List.map EventRow.session) hgained.2.1
    revert hevents
    decide

end Failures

end Sqlite

end AdkGateway.SessionBridge
