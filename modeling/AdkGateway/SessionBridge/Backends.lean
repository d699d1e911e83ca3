import AdkGateway.Foundation.Machine
import AdkGateway.SessionBridge.Append
import AdkGateway.SessionBridge.Store

namespace AdkGateway.SessionBridge

open Foundation

inductive Op
  | create (req : CreateRequest) (uuid : String) (now : DateTime)
  | append (sessionId : String) (event : Event)
  | get (req : GetRequest)

abbrev Reply := Except String (Option Session)

def Sqlite.answer (textLe : DateTime → DateTime → Bool) (db : Sqlite) : Op → Reply × Sqlite
  | .create req uuid now => ((db.create req uuid now).1.map some, (db.create req uuid now).2)
  | .append sessionId event =>
    ((db.appendEvent noFaults sessionId event).1.map fun _ ↦ none,
      (db.appendEvent noFaults sessionId event).2)
  | .get req => ((db.get textLe req).map some, db)

def Postgres.answer (db : Postgres) : Op → Reply × Postgres
  | .create req uuid now => ((db.create req uuid now).1.map some, (db.create req uuid now).2)
  | .append sessionId event =>
    ((db.appendEvent sessionId event).1.map fun _ ↦ none, (db.appendEvent sessionId event).2)
  | .get req => ((db.get req).map some, db)

/-- The state of each session as the left fold of the deltas appended to it. -/
abbrev Ledger := SessionKey → Option (String → Option Json)

def Ledger.record (ledger : Ledger) : Op → Ledger
  | .create req uuid _ => fun key ↦
    if key = req.key uuid then (ledger key).or (some fun name ↦ req.state.lookup name)
    else ledger key
  | .append sessionId event => fun key ↦
    if key.sessionId = sessionId then
      (ledger key).map fun state name ↦ (event.actions.stateDelta.lookup name).or (state name)
    else ledger key
  | .get _ => ledger

theorem Ledger.record_create (ledger : Ledger) (req : CreateRequest) (uuid : String)
    (now : DateTime) (key : SessionKey) : ledger.record (.create req uuid now) key =
      if key = req.key uuid then (ledger key).or (some fun name ↦ req.state.lookup name)
      else ledger key := rfl

theorem Ledger.record_append (ledger : Ledger) (sessionId : String) (event : Event)
    (key : SessionKey) : ledger.record (.append sessionId event) key =
      if key.sessionId = sessionId then
        (ledger key).map fun state name ↦ (event.actions.stateDelta.lookup name).or (state name)
      else ledger key := rfl

def Session.view (session : Session) : SessionKey × (String → Option Json) × List Event :=
  (session.key, fun name ↦ session.state.lookup name, session.events)

def view : Reply → Option (Option (SessionKey × (String → Option Json) × List Event))
  | .error _ => none
  | .ok session => some (session.map Session.view)

structure Backends where
  sqlite : Sqlite
  postgres : Postgres
  ledger : Ledger

namespace Backends

def empty : Backends := ⟨.empty, .empty, fun _ ↦ none⟩

structure Answers where
  sqlite : Reply
  postgres : Reply
  ledger : Ledger

/-- Both services are sent one request. -/
def step (textLe : DateTime → DateTime → Bool) (b : Backends) (op : Op) : Answers × Backends :=
  let sqlite := b.sqlite.answer textLe op
  let postgres := b.postgres.answer op
  let ledger := b.ledger.record op
  (⟨sqlite.1, postgres.1, ledger⟩, ⟨sqlite.2, postgres.2, ledger⟩)

structure Agree (answers : Answers) : Prop where
  same : view answers.sqlite = view answers.postgres
  folded : ∀ session, answers.sqlite = .ok (some session) →
    answers.ledger session.key = some fun name ↦ session.state.lookup name

/-- No session of this id belongs to someone else; an appended event goes to a session and is
new there, or has a delta; nothing stored is asked for. -/
def Covered (textLe : DateTime → DateTime → Bool) (b : Backends) : Op → Prop
  | .create req uuid _ => ∀ row ∈ b.sqlite.sessions.rows,
    row.key.sessionId = (req.key uuid).sessionId → row.key = req.key uuid
  | .append sessionId event =>
    match b.sqlite.sessions.rows.find? fun row ↦ row.key.sessionId = sessionId with
    | some row => b.sqlite.events.find (event.id, row.key) = none
    | none => event.actions.stateDelta.entries.isEmpty = false
  | .get req => Sqlite.recent req (b.sqlite.storedEvents textLe req.key) = []

end Backends

def PgRow.toSqlite (row : PgRow) : SessionRow :=
  ⟨row.session, .json row.state, row.createdAt, row.updatedAt⟩

namespace Backends

structure Related (b : Backends) : Prop where
  rows : b.sqlite.sessions.rows = b.postgres.sessions.rows.map PgRow.toSqlite
  known : ∀ row ∈ b.postgres.sessions.rows, ∃ state, SessionState.fromJson? row.state = some state ∧
    b.ledger row.session = some fun name ↦ state.lookup name
  unknown : ∀ key, (∀ row ∈ b.postgres.sessions.rows, row.session ≠ key) → b.ledger key = none

section Rows

variable {b : Backends}

theorem Related.mem_keys (h : b.Related) (key : SessionKey) :
    key ∈ b.sqlite.sessions.rows.map SessionRow.key ↔
      ∃ row ∈ b.postgres.sessions.rows, row.session = key := by
  rw [h.rows, List.map_map, List.mem_map]
  rfl

theorem Related.notMem_keys (h : b.Related) {key : SessionKey}
    (hkey : ∀ row ∈ b.postgres.sessions.rows, row.session ≠ key) :
    key ∉ b.sqlite.sessions.rows.map SessionRow.key := by
  rw [h.mem_keys]
  exact fun ⟨row, hrow, hsession⟩ ↦ hkey row hrow hsession

theorem Related.find? (h : b.Related) (sessionId : String) :
    (b.sqlite.sessions.rows.find? fun row ↦ row.key.sessionId = sessionId) =
      (b.postgres.sessions.find sessionId).map PgRow.toSqlite := by
  rw [h.rows, List.find?_map]
  rfl

theorem Related.find (h : b.Related) (key : SessionKey) :
    b.sqlite.sessions.find key =
      (b.postgres.sessions.rows.find? fun row ↦ row.session = key).map PgRow.toSqlite := by
  rw [Table.find, h.rows, List.find?_map]
  rfl

theorem eq_of_sessionId {row row' : PgRow} (hrow : row ∈ b.postgres.sessions.rows)
    (hrow' : row' ∈ b.postgres.sessions.rows)
    (hid : row.session.sessionId = row'.session.sessionId) : row = row' :=
  b.postgres.sessions.key_inj hrow hrow' hid

theorem agree_of_errors {answers : Answers} (hsqlite : ∃ e, answers.sqlite = .error e)
    (hpostgres : ∃ e, answers.postgres = .error e) : Agree answers := by
  obtain ⟨e, hsqlite⟩ := hsqlite
  obtain ⟨e', hpostgres⟩ := hpostgres
  refine ⟨by rw [hsqlite, hpostgres, view, view], fun session hsession ↦ ?_⟩
  cases hsqlite.symm.trans hsession

end Rows

section Create

variable {textLe : DateTime → DateTime → Bool} {b : Backends} {req : CreateRequest} {uuid : String}
  {now : DateTime}

theorem record_create_of_known (h : b.Related) (hkey : ∃ row ∈ b.postgres.sessions.rows,
    row.session = req.key uuid) (now : DateTime) : b.ledger.record (.create req uuid now) = b.ledger := by
  obtain ⟨row, hrow, hsession⟩ := hkey
  obtain ⟨state, -, hledger⟩ := h.known row hrow
  funext key
  rw [Ledger.record_create]
  split
  · next hk => rw [hk, ← hsession, hledger, Option.some_or]
  · rfl

theorem create_known (h : b.Related) (hkey : ∃ row ∈ b.postgres.sessions.rows,
    row.session = req.key uuid) :
    (Agree (step textLe b (.create req uuid now)).1 ↔ Covered textLe b (.create req uuid now)) ∧
      (Covered textLe b (.create req uuid now) → (step textLe b (.create req uuid now)).2.Related) := by
  obtain ⟨row, hrow, hsession⟩ := hkey
  obtain ⟨e, hsqlite⟩ := Sqlite.create_of_known ((h.mem_keys _).mpr ⟨row, hrow, hsession⟩) now
  have hid : (req.key uuid).sessionId ∈ b.postgres.sessions.rows.map PgRow.key :=
    List.mem_map.mpr ⟨row, hrow, congrArg SessionKey.sessionId hsession⟩
  obtain ⟨e', hpostgres⟩ := Postgres.create_of_known hid now
  have hledger := record_create_of_known h ⟨row, hrow, hsession⟩ now
  have hcovered : Covered textLe b (.create req uuid now) := by
    intro row' hrow' hid
    rw [h.rows] at hrow'
    obtain ⟨pgRow, hpgRow, rfl⟩ := List.mem_map.mp hrow'
    have heq := eq_of_sessionId hpgRow hrow (hid.trans (congrArg SessionKey.sessionId hsession.symm))
    rw [heq]
    exact hsession
  refine ⟨iff_of_true (agree_of_errors ⟨e, ?_⟩ ⟨e', ?_⟩) hcovered, fun _ ↦ ?_⟩
  · simp only [step, Sqlite.answer, hsqlite, Except.map]
  · simp only [step, Postgres.answer, hpostgres, Except.map]
  · simp only [step, Sqlite.answer, Postgres.answer, hsqlite, hpostgres, hledger]
    exact h

theorem create_taken (textLe : DateTime → DateTime → Bool) (h : b.Related) (hkey : ∀ row ∈ b.postgres.sessions.rows,
    row.session ≠ req.key uuid)
    (hid : (req.key uuid).sessionId ∈ b.postgres.sessions.rows.map PgRow.key) (now : DateTime) :
    ¬ Agree (step textLe b (.create req uuid now)).1 ∧
      ¬ Covered textLe b (.create req uuid now) := by
  obtain ⟨db', hsqlite, -⟩ := Sqlite.create_of_new (h.notMem_keys hkey) now
  obtain ⟨e, hpostgres⟩ := Postgres.create_of_known hid now
  constructor
  · rintro ⟨hsame, -⟩
    simp only [step, Sqlite.answer, Postgres.answer, hsqlite, hpostgres] at hsame
    cases hsame
  · intro hcovered
    obtain ⟨row, hrow, hrowid⟩ := List.mem_map.mp hid
    have hmem : row.toSqlite ∈ b.sqlite.sessions.rows := by
      rw [h.rows]
      exact List.mem_map_of_mem hrow
    exact hkey row hrow (hcovered row.toSqlite hmem hrowid)

theorem create_new (textLe : DateTime → DateTime → Bool) (h : b.Related)
    (hid : (req.key uuid).sessionId ∉ b.postgres.sessions.rows.map PgRow.key) (now : DateTime) :
    Agree (step textLe b (.create req uuid now)).1 ∧ Covered textLe b (.create req uuid now) ∧
      (step textLe b (.create req uuid now)).2.Related := by
  have hother : ∀ row ∈ b.postgres.sessions.rows, row.session.sessionId ≠ (req.key uuid).sessionId :=
    fun row hrow heq ↦ hid (List.mem_map.mpr ⟨row, hrow, heq⟩)
  have hkey : ∀ row ∈ b.postgres.sessions.rows, row.session ≠ req.key uuid :=
    fun row hrow heq ↦ hother row hrow (congrArg SessionKey.sessionId heq)
  obtain ⟨db₁, hsqlite, hrows₁⟩ := Sqlite.create_of_new (h.notMem_keys hkey) now
  obtain ⟨db₂, hpostgres, hrows₂⟩ := Postgres.create_of_new hid now
  have hledger : b.ledger.record (.create req uuid now) (req.key uuid) =
      some fun name ↦ req.state.lookup name := by
    rw [Ledger.record_create, if_pos rfl, h.unknown _ hkey, Option.none_or]
  refine ⟨⟨?_, ?_⟩, ?_, ?_⟩
  · simp only [step, Sqlite.answer, Postgres.answer, hsqlite, hpostgres]
  · simp only [step, Sqlite.answer, hsqlite]
    rintro session ⟨⟩
    exact hledger
  · intro row hrow heq
    rw [h.rows] at hrow
    obtain ⟨pgRow, hpgRow, rfl⟩ := List.mem_map.mp hrow
    exact absurd heq (hother pgRow hpgRow)
  · simp only [step, Sqlite.answer, Postgres.answer, hsqlite, hpostgres]
    refine ⟨?_, ?_, ?_⟩
    · rw [hrows₁, hrows₂, List.map_append, h.rows]
      rfl
    · intro row hrow
      rw [hrows₂, List.mem_append, List.mem_singleton] at hrow
      rcases hrow with hrow | rfl
      · obtain ⟨state, hread, hrowledger⟩ := h.known row hrow
        refine ⟨state, hread, ?_⟩
        dsimp only
        rw [Ledger.record_create, if_neg (hkey row hrow), hrowledger]
      · obtain ⟨state, hread, hlookup⟩ := req.state.fromJson?_toJson
        exact ⟨state, hread, by simp only [hledger, hlookup]⟩
    · intro key hunknown
      rw [hrows₂] at hunknown
      have hne : key ≠ req.key uuid :=
        fun heq ↦ hunknown _ (List.mem_append_right _ (.head _)) heq.symm
      dsimp only
      rw [Ledger.record_create, if_neg hne]
      exact h.unknown key fun row hrow ↦ hunknown row (List.mem_append_left _ hrow)

end Create

section Append

variable {textLe : DateTime → DateTime → Bool} {b : Backends} {sessionId : String} {event : Event}
  {row : PgRow}

theorem append_unknown (h : b.Related) (hrow : b.postgres.sessions.find sessionId = none) :
    (Agree (step textLe b (.append sessionId event)).1 ↔
      Covered textLe b (.append sessionId event)) ∧
      (Covered textLe b (.append sessionId event) →
        (step textLe b (.append sessionId event)).2.Related) := by
  have hfind := h.find? sessionId
  rw [hrow, Option.map_none] at hfind
  have hsqlite : b.sqlite.appendEvent Sqlite.noFaults sessionId event =
      (.error "session not found", b.sqlite) := by
    rw [Sqlite.appendEvent, hfind]
    rfl
  have hledger : b.ledger.record (.append sessionId event) = b.ledger := by
    funext key
    rw [Ledger.record_append]
    split
    · next hid =>
      have hnone : b.ledger key = none := by
        refine h.unknown key fun row hmem hkey ↦ Table.find_eq_none_iff.mp hrow ?_
        exact List.mem_map.mpr ⟨row, hmem, (congrArg SessionKey.sessionId hkey).trans hid⟩
      rw [hnone, Option.map_none]
    · rfl
  have hcovered : Covered textLe b (.append sessionId event) ↔
      event.actions.stateDelta.entries.isEmpty = false := by
    rw [Covered, hfind]
  rw [hcovered]
  cases hdelta : event.actions.stateDelta.entries.isEmpty with
  | true =>
    refine ⟨iff_of_false ?_ (by decide), fun hfalse ↦ absurd hfalse (by decide)⟩
    rintro ⟨hsame, -⟩
    simp only [step, Sqlite.answer, Postgres.answer, hsqlite, Postgres.appendEvent, hdelta,
      if_true] at hsame
    cases hsame
  | false =>
    have hpostgres : b.postgres.appendEvent sessionId event =
        (.error "session not found", b.postgres) := by
      rw [Postgres.appendEvent, hdelta, if_neg Bool.false_ne_true, hrow]
    refine ⟨iff_of_true (agree_of_errors ⟨"session not found", ?_⟩
      ⟨"session not found", ?_⟩) rfl, fun _ ↦ ?_⟩
    · simp only [step, Sqlite.answer, hsqlite, Except.map]
    · simp only [step, Postgres.answer, hpostgres, Except.map]
    · simp only [step, Sqlite.answer, Postgres.answer, hsqlite, hpostgres, hledger]
      exact h

theorem toSqlite_touchedRow (event : Event) (row : PgRow) :
    (Postgres.touchedRow event row).toSqlite = Sqlite.touchedRow event row.toSqlite := by
  simp only [PgRow.toSqlite, Postgres.touchedRow, Sqlite.touchedRow, Text.state?]
  split <;> rfl

theorem fromJson?_touchedRow (event : Event) {row : PgRow} {state : SessionState}
    (hread : SessionState.fromJson? row.state = some state) :
    ∃ state', SessionState.fromJson? (Postgres.touchedRow event row).state = some state' ∧
      ∀ name, state'.lookup name = (event.actions.stateDelta.lookup name).or (state.lookup name) := by
  rw [Postgres.touchedRow]
  split
  · next hempty =>
    have hnone (name : String) : event.actions.stateDelta.lookup name = none := by
      rw [AList.lookup, List.isEmpty_iff.mp hempty, List.dlookup_nil]
    exact ⟨state, hread, fun name ↦ by rw [hnone, Option.none_or]⟩
  · obtain ⟨state', hread', hlookup⟩ :=
      (state.extend event.actions.stateDelta).fromJson?_toJson
    rw [hread, Option.getD_some]
    exact ⟨state', hread', fun name ↦ by rw [hlookup, SessionState.lookup_extend]⟩

/-- The event and its delta go to the one session of the id in both databases. -/
theorem related_append (h : b.Related) (hrow : b.postgres.sessions.find sessionId = some row)
    {db : Sqlite}
    (hdb : db.sessions = b.sqlite.sessions.updateWhere (fun r ↦ r.key = row.session)
      (Sqlite.touchedRow event) (Sqlite.key_touchedRow event)) :
    Related ⟨db, ⟨b.postgres.sessions.updateWhere (fun r ↦ r.key = sessionId)
      (Postgres.touchedRow event) (Postgres.key_touchedRow event)⟩,
      b.ledger.record (.append sessionId event)⟩ := by
  obtain ⟨hmem, hid⟩ := Table.find_eq_some_iff.mp hrow
  have hsame : ∀ r ∈ b.postgres.sessions.rows, r.key = sessionId → r = row :=
    fun r hr hrid ↦ eq_of_sessionId hr hmem (hrid.trans hid.symm)
  refine ⟨?_, ?_, ?_⟩
  · dsimp only
    rw [hdb, Table.rows_updateWhere, Table.rows_updateWhere, h.rows, List.map_map, List.map_map]
    refine List.map_congr_left fun r hr ↦ ?_
    simp only [Function.comp_apply, decide_eq_true_eq]
    by_cases hrid : r.key = sessionId
    · have hkey : r.toSqlite.key = row.session := congrArg PgRow.session (hsame r hr hrid)
      rw [if_pos hrid, if_pos hkey, toSqlite_touchedRow]
    · have hkey : r.toSqlite.key ≠ row.session :=
        fun heq ↦ hrid ((congrArg SessionKey.sessionId heq).trans hid)
      rw [if_neg hrid, if_neg hkey]
  · intro r' hr'
    obtain ⟨r, hr, rfl⟩ := List.mem_map.mp hr'
    obtain ⟨state, hread, hledger⟩ := h.known r hr
    simp only [decide_eq_true_eq]
    split
    · next hrid =>
      obtain ⟨state', hread', hlookup⟩ := fromJson?_touchedRow event hread
      refine ⟨state', hread', ?_⟩
      have hsession : (Postgres.touchedRow event r).session = r.session := rfl
      have hsid : r.session.sessionId = sessionId := hrid
      rw [hsession, Ledger.record_append, if_pos hsid, hledger, Option.map_some, funext hlookup]
    · next hrid =>
      have hsid : ¬ r.session.sessionId = sessionId := hrid
      exact ⟨state, hread, by rw [Ledger.record_append, if_neg hsid, hledger]⟩
  · intro key hunknown
    have hnone : b.ledger key = none := by
      refine h.unknown key fun r hr hkey ↦ ?_
      refine hunknown _ (List.mem_map_of_mem hr) ?_
      split <;> exact hkey
    dsimp only
    rw [Ledger.record_append, hnone, Option.map_none, ite_self]

theorem append_known (h : b.Related) (hrow : b.postgres.sessions.find sessionId = some row) :
    (Agree (step textLe b (.append sessionId event)).1 ↔
      Covered textLe b (.append sessionId event)) ∧
      (Covered textLe b (.append sessionId event) →
        (step textLe b (.append sessionId event)).2.Related) := by
  have hid : row.session.sessionId = sessionId := (Table.find_eq_some_iff.mp hrow).2
  have hfind := h.find? sessionId
  rw [hrow, Option.map_some] at hfind
  have htouches : Sqlite.Touches Sqlite.noFaults row.session.sessionId event b.sqlite row.toSqlite :=
    ⟨rfl, hid ▸ hfind, .inr rfl, rfl⟩
  obtain ⟨touched, htouch⟩ := Sqlite.exists_touched htouches
  obtain ⟨-, hsessions⟩ := Sqlite.touch_ok (Sqlite.find_of_touches htouches) htouch
  have hpostgres := Postgres.appendEvent_of_known hrow event
  have hcovered : Covered textLe b (.append sessionId event) ↔
      Sqlite.Inserts Sqlite.noFaults event b.sqlite row.session := by
    rw [Covered, hfind]
    exact (and_iff_right rfl).symm
  rw [hcovered]
  by_cases hinserts : Sqlite.Inserts Sqlite.noFaults event b.sqlite row.session
  · obtain ⟨db', happend, hdb', -⟩ := Sqlite.appendEvent_of_inserts htouches hinserts htouch
    rw [hid] at happend
    refine ⟨iff_of_true ⟨?_, ?_⟩ hinserts, fun _ ↦ ?_⟩
    · simp only [step, Sqlite.answer, Postgres.answer, happend, hpostgres]
    · simp only [step, Sqlite.answer, happend]
      intro session hsession
      cases hsession
    · simp only [step, Sqlite.answer, Postgres.answer, happend, hpostgres]
      exact related_append h hrow (hdb'.trans hsessions)
  · obtain ⟨e, happend⟩ := Sqlite.appendEvent_of_not_inserts htouches hinserts htouch
    rw [hid] at happend
    refine ⟨iff_of_false ?_ hinserts, fun hfalse ↦ absurd hfalse hinserts⟩
    rintro ⟨hsame, -⟩
    simp only [step, Sqlite.answer, Postgres.answer, happend, hpostgres] at hsame
    cases hsame

end Append

section Get

variable {textLe : DateTime → DateTime → Bool} {b : Backends} {req : GetRequest}

theorem recent_nil (req : GetRequest) : Sqlite.recent req [] = [] := by
  unfold Sqlite.recent
  cases req.numRecentEvents <;> cases req.after <;> simp

theorem storedEvents_of_unknown {db : Sqlite} {key : SessionKey}
    (h : key ∉ db.sessions.rows.map SessionRow.key) : db.storedEvents textLe key = [] := by
  have hselect : db.events.select (fun row ↦ row.session = key) = [] := by
    refine List.filter_eq_nil_iff.mpr fun row hrow hkey ↦ h ?_
    rw [← of_decide_eq_true hkey]
    exact db.foreign_key row hrow
  rw [Sqlite.storedEvents, hselect, List.map_nil, List.insertionSort_nil]

theorem get_step (h : b.Related) :
    (Agree (step textLe b (.get req)).1 ↔ Covered textLe b (.get req)) ∧
      (Covered textLe b (.get req) → (step textLe b (.get req)).2.Related) := by
  refine ⟨?_, fun _ ↦ h⟩
  have hfind := h.find req.key
  rw [Covered]
  cases hrow : b.postgres.sessions.rows.find? (fun row ↦ row.session = req.key) with
  | none =>
    rw [hrow, Option.map_none] at hfind
    rw [storedEvents_of_unknown (Table.find_eq_none_iff.mp hfind), recent_nil]
    refine iff_of_true (agree_of_errors ⟨"session not found", ?_⟩ ⟨"session not found", ?_⟩) rfl
    · simp only [step, Sqlite.answer, Sqlite.get, hfind, Except.map]
    · simp only [step, Postgres.answer, Postgres.get, hrow, Except.map]
  | some row =>
    rw [hrow, Option.map_some] at hfind
    obtain ⟨state, hread, hledger⟩ := h.known row (List.mem_of_find?_eq_some hrow)
    have hkey : row.session = req.key := by simpa using List.find?_some hrow
    have hsqlite : b.sqlite.get textLe req = .ok ⟨req.key, state,
        Sqlite.recent req (b.sqlite.storedEvents textLe req.key), row.updatedAt⟩ := by
      simp only [Sqlite.get, hfind, PgRow.toSqlite, Text.state?, hread]
    have hpostgres : b.postgres.get req = .ok ⟨req.key, state, [], row.updatedAt⟩ := by
      simp only [Postgres.get, hrow, hread]
    constructor
    · rintro ⟨hsame, -⟩
      simp only [step, Sqlite.answer, Postgres.answer, hsqlite, hpostgres, Except.map, view,
        Option.map_some, Session.view, Option.some_inj, Prod.mk.injEq] at hsame
      exact hsame.2.2
    · intro hnil
      refine ⟨?_, ?_⟩
      · simp only [step, Sqlite.answer, Postgres.answer, hsqlite, hpostgres, hnil]
      · simp only [step, Sqlite.answer, hsqlite]
        rintro session ⟨⟩
        rw [← hkey]
        exact hledger

end Get

section Runs

variable (textLe : DateTime → DateTime → Bool)

theorem related_empty : Related empty := ⟨rfl, nofun, fun _ _ ↦ rfl⟩

theorem related_step (b : Backends) (op : Op) (h : b.Related) :
    (Agree (step textLe b op).1 ↔ Covered textLe b op) ∧
      (Covered textLe b op → (step textLe b op).2.Related) := by
  cases op with
  | create req uuid now =>
    by_cases hkey : ∃ row ∈ b.postgres.sessions.rows, row.session = req.key uuid
    · exact create_known h hkey
    · have hnew : ∀ row ∈ b.postgres.sessions.rows, row.session ≠ req.key uuid :=
        fun row hrow heq ↦ hkey ⟨row, hrow, heq⟩
      by_cases hid : (req.key uuid).sessionId ∈ b.postgres.sessions.rows.map PgRow.key
      · obtain ⟨hagree, hcovered⟩ := create_taken textLe h hnew hid now
        exact ⟨iff_of_false hagree hcovered, fun hc ↦ absurd hc hcovered⟩
      · obtain ⟨hagree, hcovered, hrelated⟩ := create_new textLe h hid now
        exact ⟨iff_of_true hagree hcovered, fun _ ↦ hrelated⟩
  | append sessionId event =>
    cases hrow : b.postgres.sessions.find sessionId with
    | none => exact append_unknown h hrow
    | some row => exact append_known h hrow
  | get req => exact get_step h

/-- Both services give the same answers just as long as no request shows their difference. -/
theorem agree_iff_covered (ops : List Op) :
    (∀ answers ∈ Machine.outputs (step textLe) empty ops, Agree answers) ↔
      Machine.Along (step textLe) (Covered textLe) empty ops :=
  Machine.forall_outputs_iff (step textLe) (related_step textLe) related_empty ops

def timeLe (a b : DateTime) : Bool := decide (a ≤ b)

def createAlice : Op := .create ⟨"gateway", "alice", some "s", ∅⟩ "u" 0

def getAlice : Op := .get ⟨"gateway", "alice", "s", none, none⟩

theorem not_agree :
    (¬ ∀ answers ∈ Machine.outputs (step timeLe) empty
      [createAlice, .append "s" (Sqlite.greeting ∅), getAlice], Agree answers) ∧
    ¬ ∀ answers ∈ Machine.outputs (step timeLe) empty [.append "s" (Sqlite.greeting ∅)],
      Agree answers := by
  constructor
  · intro h
    have hsame := (h _ (.tail _ (.tail _ (.head _)))).same
    have hevents := congrArg (Option.map (Option.map fun session ↦ session.2.2.length)) hsame
    revert hevents
    decide
  · intro h
    have hsame := congrArg Option.isSome (h _ (.head _)).same
    revert hsame
    decide

end Runs

end Backends

end AdkGateway.SessionBridge
