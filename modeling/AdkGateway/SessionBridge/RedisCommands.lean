import AdkGateway.Foundation.Machine
import AdkGateway.Foundation.Script
import AdkGateway.SessionBridge.Redis

namespace AdkGateway.SessionBridge.Redis.Commands

open Foundation Interleaving

inductive Command
  | get (key : String)
  | set (key : String) (text : RedisText)
  | smembers (key : String)
  | sadd (key id : String)
  | srem (key id : String)
  | del (keys : List String)

abbrev Command.Answer : Command → Type
  | .get _ => Except String (Option RedisText)
  | .smembers _ => Except String (List String)
  | .sadd _ _ | .srem _ _ => Except String Unit
  | .set _ _ | .del _ => Unit

/-- A command that fails changes nothing. -/
def exec (o : Command) (_ : Unit) (db : Redis) : Redis × o.Answer :=
  match o with
  | .get key => (db, getText key db)
  | .set key text => (db.insert key (.text text), ())
  | .smembers key => (db, smembers key db)
  | .sadd key id => ((sadd key id db).toOption.getD db, (sadd key id db).map fun _ ↦ ())
  | .srem key id => ((srem key id db).toOption.getD db, (srem key id db).map fun _ ↦ ())
  | .del keys => (keys.foldl (fun db key ↦ db.erase key) db, ())

abbrev Code : Type → Type := Script Command Command.Answer

section Services

def call (o : Command) : Code o.Answer := .perform o

def create (req : CreateRequest) (uuid : String) (now : DateTime) : Code RedisReply := do
  let key := req.key uuid
  let data : RedisSessionData := ⟨key, req.state, now, now⟩
  call (.set (sessionKey key) (.json data))
  call (.set (reverseKey key.sessionId) (.name (sessionKey key)))
  match ← call (.sadd (indexKey key.appName key.userId) key.sessionId) with
  | .error e => pure (.error ("SADD failed: " ++ e))
  | .ok _ => pure (.session data)

def get (key : SessionKey) : Code RedisReply := do
  match ← call (.get (sessionKey key)) with
  | .error e => pure (.error ("GET failed: " ++ e))
  | .ok none => pure (.error "session not found")
  | .ok (some text) =>
    match text.data? with
    | none => pure (.error "deserialize failed: ")
    | some data => pure (.session data)

def load (appName userId : String) : List String → Code (Except String (List RedisSessionData))
  | [] => pure (.ok [])
  | id :: ids => do
    match ← call (.get (sessionKey ⟨appName, userId, id⟩)) with
    | .error e => pure (.error ("GET failed: " ++ e))
    | .ok text =>
      let sessions ← load appName userId ids
      pure (sessions.map fun sessions ↦ (text.bind RedisText.data?).toList ++ sessions)

def list (req : ListRequest) : Code RedisReply := do
  match ← call (.smembers (indexKey req.appName req.userId)) with
  | .error e => pure (.error ("SMEMBERS failed: " ++ e))
  | .ok ids =>
    match ← load req.appName req.userId ids with
    | .error e => pure (.error e)
    | .ok sessions =>
      let sessions := sessions.insertionSort fun a b ↦ b.updatedAt ≤ a.updatedAt
      pure (.sessions
        ((sessions.drop (req.offset.getD 0)).take (req.limit.getD sessions.length)))

def appendTo (event : Event) : Except String (Option RedisText) → Code RedisReply
  | .error e => pure (.error ("GET reverse key failed: " ++ e))
  | .ok none => pure (.error "session not found")
  | .ok (some (.json _)) => pure (.error "session not found") -- no key has an object for its name
  | .ok (some (.name fullKey)) => do
    match ← call (.get fullKey) with
    | .error e => pure (.error ("GET failed: " ++ e))
    | .ok none => pure (.error "session not found")
    | .ok (some text) =>
      match text.data? with
      | none => pure (.error "deserialize failed: ")
      | some data =>
        call (.set fullKey (.json (touched event data)))
        pure .done

def appendEvent (sessionId : String) (event : Event) : Code RedisReply := do
  appendTo event (← call (.get (reverseKey sessionId)))

def delete (key : SessionKey) : Code RedisReply := do
  call (.del [sessionKey key, reverseKey key.sessionId])
  match ← call (.srem (indexKey key.appName key.userId) key.sessionId) with
  | .error e => pure (.error ("SREM failed: " ++ e))
  | .ok _ => pure .done

def delEach (appName userId : String) : List String → Code Unit
  | [] => pure ()
  | id :: ids => do
    call (.del [sessionKey ⟨appName, userId, id⟩, reverseKey id])
    delEach appName userId ids

def deleteAllSessions (appName userId : String) : Code RedisReply := do
  match ← call (.smembers (indexKey appName userId)) with
  | .error e => pure (.error ("SMEMBERS failed: " ++ e))
  | .ok ids =>
    delEach appName userId ids
    call (.del [indexKey appName userId])
    pure .done

def code : RedisOp → Code RedisReply
  | .create req uuid now => create req uuid now
  | .get key => get key
  | .list req => list req
  | .append sessionId event => appendEvent sessionId event
  | .delete key => delete key
  | .deleteAll appName userId => deleteAllSessions appName userId

end Services

section Alone

variable (db : Redis)

def perform {α : Type} (m : Code α) (db : Redis) : Redis × α := m.run exec (fun _ ↦ ()) db

theorem perform_bind {α β : Type} (m : Code α) (f : α → Code β) :
    perform (m >>= f) db = perform (f (perform m db).2) (perform m db).1 :=
  Script.run_bind exec (fun _ ↦ ()) m f db

theorem perform_pure {α : Type} (x : α) : perform (pure x) db = (db, x) := rfl

theorem perform_call (o : Command) : perform (call o) db = exec o () db := rfl

theorem perform_load (appName userId : String) (ids : List String) :
    perform (load appName userId ids) db = (db, Redis.load appName userId db ids) := by
  induction ids with
  | nil => rfl
  | cons id ids ih =>
    rw [load, Redis.load, perform_bind, perform_call, exec]
    cases getText (sessionKey ⟨appName, userId, id⟩) db with
    | error e => rfl
    | ok text => rw [perform_bind, ih, perform_pure]

theorem perform_delEach (appName userId : String) (ids : List String) :
    perform (delEach appName userId ids) db =
      (ids.foldl (fun db id ↦ del ⟨appName, userId, id⟩ db) db, ()) := by
  induction ids generalizing db with
  | nil => rfl
  | cons id ids ih =>
    rw [delEach, perform_bind, ih, List.foldl_cons]
    rfl

theorem perform_appendEvent (sessionId : String) (event : Event) :
    perform (appendEvent sessionId event) db =
      ((Redis.appendEvent sessionId event db).2, (Redis.appendEvent sessionId event db).1) := by
  rw [appendEvent, Redis.appendEvent, perform_bind, perform_call, exec]
  cases getText (reverseKey sessionId) db with
  | error e => rfl
  | ok text =>
    cases text with
    | none => rfl
    | some text =>
      cases text with
      | json data => rfl
      | name fullKey =>
        rw [appendTo, perform_bind, perform_call, exec]
        dsimp only
        cases getText fullKey db with
        | error e => rfl
        | ok found =>
          cases found with
          | none => rfl
          | some text => cases text <;> rfl

theorem perform_code (op : RedisOp) :
    perform (code op) db = ((answer db op).2, (answer db op).1) := by
  cases op with
  | create req uuid now =>
    rw [code, create, answer, Redis.create, perform_bind, perform_call, exec, perform_bind,
      perform_call, exec, perform_bind, perform_call, exec]
    dsimp only
    generalize sadd (indexKey (req.key uuid).appName (req.key uuid).userId)
      (req.key uuid).sessionId _ = added
    cases added <;> rfl
  | get key =>
    rw [code, get, answer, Redis.get, perform_bind, perform_call, exec]
    cases getText (sessionKey key) db with
    | error e => rfl
    | ok text =>
      cases text with
      | none => rfl
      | some text => cases text <;> rfl
  | list req =>
    rw [code, list, answer, Redis.list, perform_bind, perform_call, exec]
    cases smembers (indexKey req.appName req.userId) db with
    | error e => rfl
    | ok ids =>
      dsimp only
      rw [perform_bind, perform_load]
      cases Redis.load req.appName req.userId db ids <;> rfl
  | append sessionId event => exact perform_appendEvent db sessionId event
  | delete key =>
    have hdel : [sessionKey key, reverseKey key.sessionId].foldl (fun db key ↦ db.erase key) db =
      del key db := rfl
    rw [code, delete, answer, Redis.delete, perform_bind, perform_call, exec, perform_bind,
      perform_call, exec]
    dsimp only
    rw [hdel]
    cases srem (indexKey key.appName key.userId) key.sessionId (del key db) <;> rfl
  | deleteAll appName userId =>
    rw [code, deleteAllSessions, answer, Redis.deleteAllSessions, perform_bind, perform_call, exec]
    cases smembers (indexKey appName userId) db with
    | error e => rfl
    | ok ids =>
      dsimp only
      rw [perform_bind, perform_delEach]
      rfl

end Alone

section Ledger

abbrev Call := Thread Redis RedisOp Command Command.Answer RedisReply

abbrev Happening := Occurrence Redis RedisOp Command Command.Answer

abbrev concurrent : Program Redis RedisOp Call RedisReply Unit Happening :=
  Threads.program exec code

abbrev Ledger := String → Option RedisSessionData

/-- What a command is to the sessions: that of an append adds its event. -/
def Ledger.apply (ledger : Ledger) (op : RedisOp) : Command → Ledger
  | .set key (.json data) =>
    match op with
    | .append _ event => Function.update ledger key ((ledger key).map (touched event))
    | _ => Function.update ledger key (some data)
  | .del keys => fun key ↦ if key ∈ keys then none else ledger key
  | _ => ledger

def Ledger.record (ledger : Ledger) : Happening → Ledger
  | .did op done => ledger.apply op done.op
  | .returned _ _ => ledger

def ledgerOf (h : List Happening) : Ledger :=
  h.foldl Ledger.record fun _ ↦ none

def Mirrors (db : Redis) (ledger : Ledger) : Prop := ∀ key : SessionKey,
  db.lookup (sessionKey key) = (ledger (sessionKey key)).map fun data ↦ .text (.json data)

def Fresh (op : RedisOp) (db : Redis) : Command → Prop
  | .set key (.json data) =>
    match op with
    | .append _ event =>
      ∃ found, db.lookup key = some (.text (.json found)) ∧ data = touched event found
    | _ => True
  | _ => True

def IsFresh : Happening → Prop
  | .did op done => Fresh op done.state done.op
  | .returned _ _ => True

/-- Before the event the database has the sessions that the history says. -/
def Mirrored (h : List Happening) : Happening → Prop
  | .did _ done => Mirrors done.state (ledgerOf h)
  | .returned _ _ => True

end Ledger

section Kinds

variable {db : Redis} {o : Command} {ledger : Ledger}

def Allowed : Command → Prop
  | .set key (.json _) => ∃ session, key = sessionKey session
  | .set key (.name name) => ∃ id session, key = reverseKey id ∧ name = sessionKey session
  | .sadd key _ | .srem key _ => ∃ appName userId, key = indexKey appName userId
  | _ => True

def Named (db : Redis) : Prop := ∀ id e, db.lookup (reverseKey id) = some e →
  ∃ session, e = .text (.name (sessionKey session))

theorem lookup_sadd {key key' : String} (h : key' ≠ key) (id : String) :
    ((sadd key id db).toOption.getD db).lookup key' = db.lookup key' := by
  rw [sadd]
  split
  · exact AList.lookup_insert_ne h
  · dsimp only [Except.toOption, Option.getD_some]
    split
    · rfl
    · exact AList.lookup_insert_ne h
  · rfl

theorem lookup_srem {key key' : String} (h : key' ≠ key) (id : String) :
    ((srem key id db).toOption.getD db).lookup key' = db.lookup key' := by
  rw [srem]
  split
  · rfl
  · dsimp only [Except.toOption, Option.getD_some]
    split
    · exact AList.lookup_erase_ne h
    · exact AList.lookup_insert_ne h
  · rfl

theorem lookup_del (keys : List String) (key : String) :
    (keys.foldl (fun db key ↦ db.erase key) db).lookup key =
      if key ∈ keys then none else db.lookup key := by
  induction keys generalizing db with
  | nil => rfl
  | cons k keys ih =>
    rw [List.foldl_cons, ih, KeyedMap.lookup_erase_if]
    by_cases hk : key = k <;> simp [hk]

theorem Named.exec (h : Named db) (ho : Allowed o) : Named (exec o () db).1 := by
  intro id e he
  match o, ho with
  | .get _, _ | .smembers _, _ => exact h id e he
  | .set _ (.json data), ⟨session, hkey⟩ =>
    subst hkey
    exact h id e ((AList.lookup_insert_ne sessionKey_ne_reverseKey.symm).symm.trans he)
  | .set _ (.name _), ⟨id', session, hkey, hname⟩ =>
    subst hkey hname
    rw [Commands.exec, KeyedMap.lookup_insert_if] at he
    split at he
    · exact ⟨session, (Option.some.inj he).symm⟩
    · exact h id e he
  | .sadd _ member, ⟨appName, userId, hkey⟩ =>
    subst hkey
    exact h id e ((lookup_sadd reverseKey_ne_indexKey member).symm.trans he)
  | .srem _ member, ⟨appName, userId, hkey⟩ =>
    subst hkey
    exact h id e ((lookup_srem reverseKey_ne_indexKey member).symm.trans he)
  | .del keys, _ =>
    rw [Commands.exec, lookup_del] at he
    split at he
    · cases he
    · exact h id e he

theorem Mirrors.of_lookup {db' : Redis} (h : Mirrors db ledger)
    (hsame : ∀ key, db'.lookup (sessionKey key) = db.lookup (sessionKey key)) :
    Mirrors db' ledger := fun key ↦ (hsame key).trans (h key)

theorem Mirrors.insert_iff (h : Mirrors db ledger) (key : SessionKey) (data : RedisSessionData)
    (recorded : Option RedisSessionData) :
    Mirrors (db.insert (sessionKey key) (.text (.json data)))
      (Function.update ledger (sessionKey key) recorded) ↔ recorded = some data := by
  constructor
  · intro hmirrors
    have hkey := hmirrors key
    rw [AList.lookup_insert, Function.update_self] at hkey
    cases recorded with
    | none => cases hkey
    | some _ =>
      cases hkey
      rfl
  · rintro rfl key'
    rw [KeyedMap.lookup_insert_if, Function.update_apply]
    split
    · rfl
    · exact h key'

theorem mirrors_exec_iff (h : Mirrors db ledger) (op : RedisOp) (ho : Allowed o) :
    Mirrors (exec o () db).1 (ledger.apply op o) ↔ Fresh op db o := by
  match o, ho with
  | .get _, _ | .smembers _, _ => exact iff_of_true h trivial
  | .set _ (.json data), ⟨key, hkey⟩ =>
    subst hkey
    cases op with
    | append _ event =>
      refine (h.insert_iff key data _).trans ?_
      rw [Fresh, h key]
      cases ledger (sessionKey key) with
      | none => simp
      | some found => simp [eq_comm]
    | _ => exact iff_of_true ((h.insert_iff key data _).mpr rfl) trivial
  | .set _ (.name _), ⟨id, _, hkey, _⟩ =>
    subst hkey
    exact iff_of_true (h.of_lookup fun _ ↦ AList.lookup_insert_ne sessionKey_ne_reverseKey) trivial
  | .sadd _ member, ⟨appName, userId, hkey⟩ =>
    subst hkey
    exact iff_of_true (h.of_lookup fun _ ↦ lookup_sadd sessionKey_ne_indexKey member) trivial
  | .srem _ member, ⟨appName, userId, hkey⟩ =>
    subst hkey
    exact iff_of_true (h.of_lookup fun _ ↦ lookup_srem sessionKey_ne_indexKey member) trivial
  | .del keys, _ =>
    refine iff_of_true (fun key ↦ ?_) trivial
    rw [Commands.exec, lookup_del, Ledger.apply, h key]
    dsimp only
    split <;> rfl

end Kinds

section Concurrent

/-- A call keeps to the keys, or it is still to ask for the key of its session. -/
def Orderly (p : Code RedisReply) : Prop :=
  p.Only Allowed ∨ ∃ sessionId event, p = appendEvent sessionId event

theorem only_load (appName userId : String) (ids : List String) :
    (load appName userId ids).Only Allowed := by
  induction ids with
  | nil => exact Script.only_pure _
  | cons id ids ih =>
    refine Script.only_perform_bind.mpr ⟨trivial, fun found ↦ ?_⟩
    cases found with
    | error e => exact Script.only_pure _
    | ok text => exact Script.only_bind ih fun _ ↦ Script.only_pure _

theorem only_delEach (appName userId : String) (ids : List String) :
    (delEach appName userId ids).Only Allowed := by
  induction ids with
  | nil => exact Script.only_pure _
  | cons id ids ih => exact Script.only_perform_bind.mpr ⟨trivial, fun _ ↦ ih⟩

theorem only_appendTo {db : Redis} (hdb : Named db) (sessionId : String) (event : Event) :
    (appendTo event (getText (reverseKey sessionId) db)).Only Allowed := by
  rw [getText]
  cases hnamed : db.lookup (reverseKey sessionId) with
  | none => exact Script.only_pure _
  | some e =>
    obtain ⟨key, rfl⟩ := hdb _ _ hnamed
    refine Script.only_perform_bind.mpr ⟨trivial, fun found ↦ ?_⟩
    obtain e | (_ | (data | name)) := found
    · exact Script.only_pure _
    · exact Script.only_pure _
    · exact Script.only_perform_bind.mpr ⟨⟨key, rfl⟩, fun _ ↦ Script.only_pure _⟩
    · exact Script.only_pure _

theorem orderly_code (op : RedisOp) : Orderly (code op) := by
  cases op with
  | append sessionId event => exact .inr ⟨sessionId, event, rfl⟩
  | create req uuid now =>
    refine .inl ⟨⟨_, rfl⟩, fun _ ↦ ⟨⟨_, _, rfl, rfl⟩, fun _ ↦ ⟨⟨_, _, rfl⟩, fun added ↦ ?_⟩⟩⟩
    cases added <;> exact Script.only_pure _
  | get key =>
    refine .inl ⟨trivial, fun found ↦ ?_⟩
    obtain e | (_ | (data | name)) := found <;> exact Script.only_pure _
  | list req =>
    refine .inl (Script.only_perform_bind.mpr ⟨trivial, fun ids ↦ ?_⟩)
    cases ids with
    | error e => exact Script.only_pure _
    | ok ids =>
      refine Script.only_bind (only_load _ _ ids) fun sessions ↦ ?_
      cases sessions <;> exact Script.only_pure _
  | delete key =>
    refine .inl ⟨trivial, fun _ ↦ ⟨⟨_, _, rfl⟩, fun removed ↦ ?_⟩⟩
    cases removed <;> exact Script.only_pure _
  | deleteAll appName userId =>
    refine .inl (Script.only_perform_bind.mpr ⟨trivial, fun ids ↦ ?_⟩)
    cases ids with
    | error e => exact Script.only_pure _
    | ok ids =>
      exact Script.only_bind (only_delEach _ _ ids) fun _ ↦ ⟨trivial, fun _ ↦ Script.only_pure _⟩

structure Ordered (c : Config Redis Call Happening) : Prop where
  named : Named c.shared
  orderly : ∀ p ∈ c.inFlight, Orderly p.code
  mirrored : Machine.EachFits Mirrored [] c.history ∧ Mirrors c.shared (ledgerOf c.history) ↔
    ∀ e ∈ c.history, IsFresh e

/-- The first command of an orderly call is allowed, and it goes on in an orderly way. -/
theorem orderly_next {db : Redis} (hdb : Named db) {o : Command} {next : o.Answer → Code RedisReply}
    (h : Orderly (.op o next)) : Allowed o ∧ Orderly (next (exec o () db).2) := by
  obtain h | ⟨sessionId, event, h⟩ := h
  · exact ⟨h.1, .inl (h.2 _)⟩
  · cases h
    exact ⟨trivial, .inl (only_appendTo hdb sessionId event)⟩

theorem mirrored_concat {h : List Happening} {e : Happening} {db : Redis} :
    Machine.EachFits Mirrored [] (h ++ [e]) ∧ Mirrors db (ledgerOf (h ++ [e])) ↔
      (Machine.EachFits Mirrored [] h ∧ Mirrored h e) ∧ Mirrors db ((ledgerOf h).record e) := by
  rw [Machine.eachFits_append, ledgerOf, List.foldl_append]
  simp only [Machine.EachFits, and_true, List.nil_append]
  rfl

theorem mirrored_iff {c : Config Redis Call Happening} (hc : Reachable concurrent ∅ c) :
    Machine.EachFits Mirrored [] c.history ∧ Mirrors c.shared (ledgerOf c.history) ↔
      ∀ e ∈ c.history, IsFresh e := by
  refine (Threads.invariant (I := Ordered) (Q := fun _ ↦ True) hc (fun _ _ ↦ trivial)
    ⟨nofun, nofun, iff_of_true ⟨trivial, fun _ ↦ rfl⟩ nofun⟩ ?_ ?_ ?_).mirrored
  · intro s l r h op _ hI
    refine ⟨hI.named, ?_, hI.mirrored⟩
    intro p hp
    obtain rfl | hp := List.mem_cons.mp (List.perm_middle.mem_iff.mp hp)
    · exact orderly_code op
    · exact hI.orderly p hp
  · intro s l r h op past x _ hI
    refine ⟨hI.named, fun p hp ↦ hI.orderly p ?_, ?_⟩
    · exact List.perm_middle.mem_iff.mpr (.tail _ hp)
    · rw [mirrored_concat, List.forall_mem_append, ← hI.mirrored]
      simp [Mirrored, IsFresh, Ledger.record]
  · intro s l r h op past o next i _ _ hI
    obtain ⟨hallowed, hnext⟩ :=
      orderly_next hI.named (hI.orderly _ (List.perm_middle.mem_iff.mpr (.head _)))
    refine ⟨hI.named.exec hallowed, ?_, ?_⟩
    · intro p hp
      obtain rfl | hp := List.mem_cons.mp (List.perm_middle.mem_iff.mp hp)
      · exact hnext
      · exact hI.orderly p (List.perm_middle.mem_iff.mpr (.tail _ hp))
    · rw [mirrored_concat, List.forall_mem_append, ← hI.mirrored]
      simp only [List.mem_singleton, forall_eq]
      exact and_congr_right fun hbefore ↦ mirrors_exec_iff hbefore.2 op hallowed

def milk : Event :=
  ⟨"f", 2, "i", "", "user", .null, ⟨AList.singleton "drink" (.string "milk"), .object []⟩, []⟩

/-- Both appends read the session before the first writes it. -/
def race : List (Move RedisOp Unit) :=
  [.call (.create ⟨"gateway", "telegram:7", some "s", ∅⟩ "" 0), .act 0 (), .act 0 (), .act 0 (),
    .act 0 (), .call (.append "s" tea), .call (.append "s" milk), .act 0 (), .act 0 (), .act 1 (),
    .act 1 (), .act 0 (), .act 1 ()]

theorem mirrored_iff_race : ∃ c, play concurrent (initial ∅) race = some c ∧
    ¬ (Machine.EachFits Mirrored [] c.history ∧ Mirrors c.shared (ledgerOf c.history)) := by
  refine ⟨_, rfl, (mirrored_iff (run_of_play race rfl)).not.mpr fun hfresh ↦ ?_⟩
  obtain ⟨found, hfound, hdata⟩ := hfresh _ (List.getLast_mem (List.cons_ne_nil _ _))
  cases hfound
  have htopic := congrArg (fun data ↦ data.state.lookup "topic") hdata
  cases htopic

end Concurrent

end AdkGateway.SessionBridge.Redis.Commands
