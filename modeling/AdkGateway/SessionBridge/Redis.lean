import AdkGateway.Foundation.Machine
import AdkGateway.Foundation.Separator
import AdkGateway.SessionBridge.Store
import Mathlib.Data.List.Sort

namespace AdkGateway.SessionBridge

open Foundation

structure RedisSessionData where
  key : SessionKey
  state : SessionState
  createdAt : DateTime
  updatedAt : DateTime

inductive RedisText
  | json (data : RedisSessionData)
  | name (key : String)

def RedisText.data? : RedisText → Option RedisSessionData
  | json data => some data
  | name _ => none

inductive Entry
  | text (t : RedisText)
  | members (ids : List String)

abbrev Redis := KeyedMap String Entry

structure ListRequest where
  appName : String
  userId : String
  limit : Option ℕ
  offset : Option ℕ

inductive RedisOp
  | create (req : CreateRequest) (uuid : String) (now : DateTime)
  | get (key : SessionKey)
  | list (req : ListRequest)
  | append (sessionId : String) (event : Event)
  | delete (key : SessionKey)
  | deleteAll (appName userId : String)

inductive RedisReply
  | done
  | session (data : RedisSessionData)
  | sessions (all : List RedisSessionData)
  | error (e : String)

namespace Redis

def wrongType : String :=
  "WRONGTYPE: Operation against a key holding the wrong kind of value"

def sessionKey (key : SessionKey) : String :=
  "session:" ++ key.appName ++ ":" ++ key.userId ++ ":" ++ key.sessionId

def indexKey (appName userId : String) : String := "session_index:" ++ appName ++ ":" ++ userId

def reverseKey (sessionId : String) : String := "session_reverse:" ++ sessionId

section Commands

def getText (key : String) (db : Redis) : Except String (Option RedisText) :=
  match db.lookup key with
  | none => .ok none
  | some (.text t) => .ok (some t)
  | some (.members _) => .error wrongType

def smembers (key : String) (db : Redis) : Except String (List String) :=
  match db.lookup key with
  | none => .ok []
  | some (.members ids) => .ok ids
  | some (.text _) => .error wrongType

def sadd (key id : String) (db : Redis) : Except String Redis :=
  match db.lookup key with
  | none => .ok (db.insert key (.members [id]))
  | some (.members ids) => .ok (if id ∈ ids then db else db.insert key (.members (ids ++ [id])))
  | some (.text _) => .error wrongType

def srem (key id : String) (db : Redis) : Except String Redis :=
  match db.lookup key with
  | none => .ok db
  | some (.members ids) =>
    let rest := ids.filter fun x ↦ x ≠ id
    .ok (if rest = [] then db.erase key else db.insert key (.members rest))
  | some (.text _) => .error wrongType

end Commands

def create (req : CreateRequest) (uuid : String) (now : DateTime) (db : Redis) :
    RedisReply × Redis :=
  let key := req.key uuid
  let data : RedisSessionData := ⟨key, req.state, now, now⟩
  let db := db.insert (sessionKey key) (.text (.json data))
  let db := db.insert (reverseKey key.sessionId) (.text (.name (sessionKey key)))
  match sadd (indexKey key.appName key.userId) key.sessionId db with
  | .error e => (.error ("SADD failed: " ++ e), db)
  | .ok db => (.session data, db)

def get (key : SessionKey) (db : Redis) : RedisReply :=
  match getText (sessionKey key) db with
  | .error e => .error ("GET failed: " ++ e)
  | .ok none => .error "session not found"
  | .ok (some text) =>
    match text.data? with
    | none => .error "deserialize failed: " -- without the parser's own words
    | some data => .session data

def load (appName userId : String) (db : Redis) :
    List String → Except String (List RedisSessionData)
  | [] => .ok []
  | id :: ids =>
    match getText (sessionKey ⟨appName, userId, id⟩) db with
    | .error e => .error ("GET failed: " ++ e)
    | .ok text => (load appName userId db ids).map fun sessions ↦
        (text.bind RedisText.data?).toList ++ sessions

def list (req : ListRequest) (db : Redis) : RedisReply :=
  match smembers (indexKey req.appName req.userId) db with
  | .error e => .error ("SMEMBERS failed: " ++ e)
  | .ok ids =>
    match load req.appName req.userId db ids with
    | .error e => .error e
    | .ok sessions =>
      let sessions := sessions.insertionSort fun a b ↦ b.updatedAt ≤ a.updatedAt
      .sessions ((sessions.drop (req.offset.getD 0)).take (req.limit.getD sessions.length))

def touched (event : Event) (data : RedisSessionData) : RedisSessionData :=
  { data with
    state := if event.actions.stateDelta.entries.isEmpty then data.state
      else data.state.extend event.actions.stateDelta
    updatedAt := event.timestamp }

def appendEvent (sessionId : String) (event : Event) (db : Redis) : RedisReply × Redis :=
  match getText (reverseKey sessionId) db with
  | .error e => (.error ("GET reverse key failed: " ++ e), db)
  | .ok none => (.error "session not found", db)
  | .ok (some (.json _)) => (.error "session not found", db) -- no key has an object for its name
  | .ok (some (.name fullKey)) =>
    match getText fullKey db with
    | .error e => (.error ("GET failed: " ++ e), db)
    | .ok none => (.error "session not found", db)
    | .ok (some text) =>
      match text.data? with
      | none => (.error "deserialize failed: ", db) -- without the parser's own words
      | some data => (.done, db.insert fullKey (.text (.json (touched event data))))

def del (key : SessionKey) (db : Redis) : Redis :=
  (db.erase (sessionKey key)).erase (reverseKey key.sessionId)

def delete (key : SessionKey) (db : Redis) : RedisReply × Redis :=
  let db := del key db
  match srem (indexKey key.appName key.userId) key.sessionId db with
  | .error e => (.error ("SREM failed: " ++ e), db)
  | .ok db => (.done, db)

def deleteAllSessions (appName userId : String) (db : Redis) : RedisReply × Redis :=
  match smembers (indexKey appName userId) db with
  | .error e => (.error ("SMEMBERS failed: " ++ e), db)
  | .ok ids =>
    let db := ids.foldl (fun db id ↦ del ⟨appName, userId, id⟩ db) db
    (.done, db.erase (indexKey appName userId))

def answer (db : Redis) : RedisOp → RedisReply × Redis
  | .create req uuid now => create req uuid now db
  | .get key => (get key db, db)
  | .list req => (list req db, db)
  | .append sessionId event => appendEvent sessionId event db
  | .delete key => delete key db
  | .deleteAll appName userId => deleteAllSessions appName userId db

end Redis

abbrev Sessions := SessionKey → Option RedisSessionData

namespace Sessions

def Known (ledger : Sessions) (sessionId : String) : Prop :=
  ∃ key, key.sessionId = sessionId ∧ (ledger key).isSome

def record (ledger : Sessions) : RedisOp → Sessions
  | .create req uuid now =>
    Function.update ledger (req.key uuid) (some ⟨req.key uuid, req.state, now, now⟩)
  | .append sessionId event => fun key ↦
    if key.sessionId = sessionId then (ledger key).map (Redis.touched event) else ledger key
  | .delete key => Function.update ledger key none
  | .deleteAll appName userId => fun key ↦
    if key.appName = appName ∧ key.userId = userId then none else ledger key
  | .get _ | .list _ => ledger

theorem record_append (ledger : Sessions) (sessionId : String) (event : Event) (key : SessionKey) :
    ledger.record (.append sessionId event) key =
      if key.sessionId = sessionId then (ledger key).map (Redis.touched event)
      else ledger key := rfl

structure Listing (ledger : Sessions) (req : ListRequest) (all : List RedisSessionData) : Prop where
  mem_iff : ∀ data, data ∈ all ↔
    ∃ sessionId, ledger ⟨req.appName, req.userId, sessionId⟩ = some data
  nodup : (all.map RedisSessionData.key).Nodup
  latest_first : all.Pairwise fun a b ↦ b.updatedAt ≤ a.updatedAt

def ofUser (ledger : Sessions) (appName userId : String) (ids : List String) :
    List RedisSessionData := ids.filterMap fun id ↦ ledger ⟨appName, userId, id⟩

theorem ofUser_cons {ledger : Sessions} {appName userId id : String} {data : RedisSessionData}
    (hdata : ledger ⟨appName, userId, id⟩ = some data) (ids : List String) :
    ledger.ofUser appName userId (id :: ids) = data :: ledger.ofUser appName userId ids := by
  rw [ofUser, List.filterMap_cons, hdata]
  rfl

def Answers (ledger : Sessions) : RedisOp → RedisReply → Prop
  | .create req uuid now, reply => reply = .session ⟨req.key uuid, req.state, now, now⟩
  | .get key, reply => reply = match ledger key with
    | none => .error "session not found"
    | some data => .session data
  | .list req, reply => ∃ all, ledger.Listing req all ∧
    reply = .sessions ((all.drop (req.offset.getD 0)).take (req.limit.getD all.length))
  | .append sessionId _, reply =>
    ledger.Known sessionId ∧ reply = .done ∨
      ¬ ledger.Known sessionId ∧ reply = .error "session not found"
  | .delete _, reply | .deleteAll _ _, reply => reply = .done

end Sessions

namespace Redis

def Clean (key : SessionKey) : Prop := ':' ∉ key.appName.toList ∧ ':' ∉ key.sessionId.toList

def Apart (ledger : Sessions) (key : SessionKey) : Prop :=
  ∀ key', (ledger key').isSome → key'.sessionId = key.sessionId → key' = key

def Proper (ledger : Sessions) : RedisOp → Prop
  | .create req uuid _ => Clean (req.key uuid) ∧ Apart ledger (req.key uuid)
  | .get key => Clean key
  | .list req => ':' ∉ req.appName.toList
  | .append _ _ => True
  | .delete key => Clean key ∧ Apart ledger key
  | .deleteAll appName _ => ':' ∉ appName.toList

section Keys

variable {key key' : SessionKey} {appName appName' userId userId' id id' : String}

theorem toList_sessionKey (key : SessionKey) : (sessionKey key).toList =
    "session:".toList ++ Separator.join ':' key.appName.toList
      (Separator.join ':' key.userId.toList key.sessionId.toList) := by
  simp [sessionKey, Separator.join]

theorem toList_indexKey (appName userId : String) : (indexKey appName userId).toList =
    "session_index:".toList ++ Separator.join ':' appName.toList userId.toList := by
  simp [indexKey, Separator.join]

theorem sessionKey_inj (h : Clean key) (h' : Clean key') :
    sessionKey key = sessionKey key' ↔ key = key' := by
  obtain ⟨appName, userId, id⟩ := key
  obtain ⟨appName', userId', id'⟩ := key'
  rw [← String.toList_inj, toList_sessionKey, toList_sessionKey, List.append_cancel_left_eq,
    Separator.join_inj h.1 h'.1, Separator.join_inj_right h.2 h'.2, String.toList_inj,
    String.toList_inj, String.toList_inj, SessionKey.mk.injEq]

theorem indexKey_inj (h : ':' ∉ appName.toList) (h' : ':' ∉ appName'.toList) :
    indexKey appName userId = indexKey appName' userId' ↔
      appName = appName' ∧ userId = userId' := by
  rw [← String.toList_inj, toList_indexKey, toList_indexKey, List.append_cancel_left_eq,
    Separator.join_inj h h', String.toList_inj, String.toList_inj]

theorem reverseKey_inj : reverseKey id = reverseKey id' ↔ id = id' := by
  rw [reverseKey, reverseKey, ← String.toList_inj, String.toList_append, String.toList_append,
    List.append_cancel_left_eq, String.toList_inj]

theorem sessionKey_ne_indexKey : sessionKey key ≠ indexKey appName userId := by
  intro h
  rw [← String.toList_inj, toList_sessionKey, toList_indexKey] at h
  simp at h

theorem sessionKey_ne_reverseKey : sessionKey key ≠ reverseKey id := by
  intro h
  rw [← String.toList_inj, toList_sessionKey, reverseKey, String.toList_append] at h
  simp at h

theorem reverseKey_ne_indexKey : reverseKey id ≠ indexKey appName userId := by
  intro h
  rw [← String.toList_inj, toList_indexKey, reverseKey, String.toList_append] at h
  simp at h

end Keys

section Sets

variable {db : Redis} {key key' id : String} {ids : List String}

theorem smembers_congr {db' : Redis} (h : db.lookup key = db'.lookup key) :
    smembers key db = smembers key db' := by
  rw [smembers, smembers, h]

theorem sadd_spec (h : smembers key db = .ok ids) (hnodup : ids.Nodup) (id : String) :
    ∃ db' ids', sadd key id db = .ok db' ∧ (∀ k, k ≠ key → db'.lookup k = db.lookup k) ∧
      smembers key db' = .ok ids' ∧ ids'.Nodup ∧ ∀ x, x ∈ ids' ↔ x = id ∨ x ∈ ids := by
  rw [smembers] at h
  rw [sadd]
  split at h
  next hnone =>
    cases h
    refine ⟨_, [id], rfl, fun k hk ↦ AList.lookup_insert_ne hk, ?_, by simp, by simp⟩
    rw [smembers, AList.lookup_insert]
  next found hfound =>
    cases h
    by_cases hmem : id ∈ ids
    · refine ⟨db, ids, by rw [if_pos hmem], fun _ _ ↦ rfl, by rw [smembers, hfound], hnodup, ?_⟩
      intro x
      constructor
      · exact .inr
      · rintro (rfl | hx)
        · exact hmem
        · exact hx
    · refine ⟨_, ids ++ [id], by rw [if_neg hmem], fun k hk ↦ AList.lookup_insert_ne hk, ?_, ?_, ?_⟩
      · rw [smembers, AList.lookup_insert]
      · rw [List.nodup_append]
        refine ⟨hnodup, List.nodup_singleton id, fun a ha b hb hab ↦ hmem ?_⟩
        rwa [← List.mem_singleton.mp hb, ← hab]
      · intro x
        rw [List.mem_append, List.mem_singleton, or_comm]
  next => cases h

theorem srem_spec (h : smembers key db = .ok ids) (hnodup : ids.Nodup) (id : String) :
    ∃ db' ids', srem key id db = .ok db' ∧ (∀ k, k ≠ key → db'.lookup k = db.lookup k) ∧
      smembers key db' = .ok ids' ∧ ids'.Nodup ∧ ∀ x, x ∈ ids' ↔ x ∈ ids ∧ x ≠ id := by
  have hrest (x : String) : x ∈ ids.filter (fun x ↦ x ≠ id) ↔ x ∈ ids ∧ x ≠ id := by simp
  rw [smembers] at h
  rw [srem]
  split at h
  next hnone =>
    cases h
    exact ⟨db, [], rfl, fun _ _ ↦ rfl, by rw [smembers, hnone], List.nodup_nil, by simp⟩
  next found hfound =>
    cases h
    refine ⟨_, ids.filter fun x ↦ x ≠ id, rfl, ?_, ?_, hnodup.filter _, hrest⟩
    · intro k hk
      split
      · exact AList.lookup_erase_ne hk
      · exact AList.lookup_insert_ne hk
    · split
      next hempty => rw [smembers, AList.lookup_erase, hempty]
      next => rw [smembers, AList.lookup_insert]
  next => cases h

end Sets

structure Represents (db : Redis) (ledger : Sessions) : Prop where
  clean : ∀ key, (ledger key).isSome → Clean key
  apart : ∀ key, (ledger key).isSome → Apart ledger key
  own : ∀ key data, ledger key = some data → data.key = key
  session : ∀ key, Clean key →
    db.lookup (sessionKey key) = (ledger key).map fun data ↦ .text (.json data)
  reverse : ∀ id e, db.lookup (reverseKey id) = some e ↔
    ∃ key, key.sessionId = id ∧ (ledger key).isSome ∧ e = .text (.name (sessionKey key))
  index : ∀ appName userId, ':' ∉ appName.toList → ∃ ids,
    smembers (indexKey appName userId) db = .ok ids ∧ ids.Nodup ∧
      ∀ id, id ∈ ids ↔ (ledger ⟨appName, userId, id⟩).isSome

namespace Represents

variable {db : Redis} {ledger : Sessions}

theorem empty : Represents ∅ fun _ ↦ none where
  clean _ := nofun
  apart _ := nofun
  own _ _ := nofun
  session _ _ := rfl
  reverse _ _ := ⟨nofun, nofun⟩
  index _ _ _ := ⟨[], rfl, List.nodup_nil, fun _ ↦ ⟨nofun, nofun⟩⟩

theorem getText_sessionKey (h : Represents db ledger) {key : SessionKey} (hkey : Clean key) :
    getText (sessionKey key) db = .ok ((ledger key).map RedisText.json) := by
  rw [getText, h.session key hkey]
  cases ledger key <;> rfl

theorem get (h : Represents db ledger) {key : SessionKey} (hkey : Clean key) :
    ledger.Answers (.get key) (Redis.get key db) := by
  rw [Sessions.Answers, Redis.get, h.getText_sessionKey hkey]
  cases ledger key with
  | none => rfl
  | some data => simp only [Option.map_some, RedisText.data?]

theorem put (h : Represents db ledger) {db' : Redis} {key : SessionKey}
    {data : RedisSessionData} (hkey : Clean key) (hapart : Apart ledger key) (hown : data.key = key)
    (hsession : ∀ key', Clean key' → db'.lookup (sessionKey key') =
      if key' = key then some (.text (.json data)) else db.lookup (sessionKey key'))
    (hreverse : ∀ id, db'.lookup (reverseKey id) =
      if id = key.sessionId then some (.text (.name (sessionKey key)))
      else db.lookup (reverseKey id))
    (hindex : ∀ appName userId ids, ':' ∉ appName.toList →
      smembers (indexKey appName userId) db = .ok ids → ids.Nodup → ∃ ids',
        smembers (indexKey appName userId) db' = .ok ids' ∧ ids'.Nodup ∧
          ∀ id, id ∈ ids' ↔ (⟨appName, userId, id⟩ : SessionKey) = key ∨ id ∈ ids) :
    Represents db' (Function.update ledger key (some data)) := by
  have hsome (key' : SessionKey) : (Function.update ledger key (some data) key').isSome ↔
      key' = key ∨ (ledger key').isSome := by
    rw [Function.update_apply]
    by_cases heq : key' = key <;> simp [heq]
  refine ⟨?_, ?_, ?_, ?_, ?_, ?_⟩
  · intro key' hkey'
    obtain rfl | hkey' := (hsome key').mp hkey'
    · exact hkey
    · exact h.clean key' hkey'
  · intro key' hkey' key'' hkey'' hid
    obtain rfl | hold' := (hsome key').mp hkey' <;> obtain rfl | hold'' := (hsome key'').mp hkey''
    · rfl
    · exact hapart key'' hold'' hid
    · exact (hapart key' hold' hid.symm).symm
    · exact h.apart key' hold' key'' hold'' hid
  · intro key' data' hdata'
    rw [Function.update_apply] at hdata'
    by_cases heq : key' = key
    · rw [if_pos heq] at hdata'
      cases hdata'
      exact hown.trans heq.symm
    · rw [if_neg heq] at hdata'
      exact h.own key' data' hdata'
  · intro key' hclean
    rw [hsession key' hclean, h.session key' hclean, Function.update_apply]
    by_cases heq : key' = key <;> simp [heq]
  · intro id e
    rw [hreverse]
    simp only [hsome]
    by_cases hid : id = key.sessionId
    · rw [if_pos hid]
      constructor
      · intro he
        exact ⟨key, hid.symm, .inl rfl, (Option.some.inj he).symm⟩
      · rintro ⟨key', hid', rfl | hold', rfl⟩
        · rfl
        · rw [hapart key' hold' (hid'.trans hid)]
    · rw [if_neg hid, h.reverse]
      constructor
      · rintro ⟨key', hid', hold', rfl⟩
        exact ⟨key', hid', .inr hold', rfl⟩
      · rintro ⟨key', hid', rfl | hold', rfl⟩
        · exact absurd hid'.symm hid
        · exact ⟨key', hid', hold', rfl⟩
  · intro appName userId happName
    obtain ⟨ids, hids, hnodup, hmem⟩ := h.index appName userId happName
    obtain ⟨ids', hids', hnodup', hmem'⟩ := hindex appName userId ids happName hids hnodup
    refine ⟨ids', hids', hnodup', fun id ↦ ?_⟩
    rw [hmem', hmem, hsome]

theorem remove (h : Represents db ledger) {db' : Redis} {gone : SessionKey → Prop}
    [DecidablePred gone]
    (hsession : ∀ key, Clean key → db'.lookup (sessionKey key) =
      if gone key then none else db.lookup (sessionKey key))
    (hreverse : ∀ id e, db'.lookup (reverseKey id) = some e ↔ db.lookup (reverseKey id) = some e ∧
      ∀ key, (ledger key).isSome → key.sessionId = id → ¬ gone key)
    (hindex : ∀ appName userId ids, ':' ∉ appName.toList →
      smembers (indexKey appName userId) db = .ok ids → ids.Nodup → ∃ ids',
        smembers (indexKey appName userId) db' = .ok ids' ∧ ids'.Nodup ∧
          ∀ id, id ∈ ids' ↔ id ∈ ids ∧ ¬ gone ⟨appName, userId, id⟩) :
    Represents db' fun key ↦ if gone key then none else ledger key := by
  have hsome (key : SessionKey) : (if gone key then none else ledger key).isSome ↔
      (ledger key).isSome ∧ ¬ gone key := by
    by_cases hgone : gone key <;> simp [hgone]
  refine ⟨?_, ?_, ?_, ?_, ?_, ?_⟩
  · intro key hkey
    exact h.clean key ((hsome key).mp hkey).1
  · intro key hkey key' hkey' hid
    exact h.apart key ((hsome key).mp hkey).1 key' ((hsome key').mp hkey').1 hid
  · intro key data hdata
    by_cases hgone : gone key
    · simp [hgone] at hdata
    · exact h.own key data (by simpa [hgone] using hdata)
  · intro key hclean
    rw [hsession key hclean, h.session key hclean]
    by_cases hgone : gone key <;> simp [hgone]
  · intro id e
    rw [hreverse, h.reverse]
    simp only [hsome]
    constructor
    · rintro ⟨⟨key, hid, hold, rfl⟩, hnot⟩
      exact ⟨key, hid, ⟨hold, hnot key hold hid⟩, rfl⟩
    · rintro ⟨key, hid, ⟨hold, hnot⟩, rfl⟩
      refine ⟨⟨key, hid, hold, rfl⟩, fun key' hold' hid' ↦ ?_⟩
      rwa [h.apart key hold key' hold' (hid'.trans hid.symm)]
  · intro appName userId happName
    obtain ⟨ids, hids, hnodup, hmem⟩ := h.index appName userId happName
    obtain ⟨ids', hids', hnodup', hmem'⟩ := hindex appName userId ids happName hids hnodup
    refine ⟨ids', hids', hnodup', fun id ↦ ?_⟩
    rw [hmem', hmem, hsome]

theorem create (h : Represents db ledger) (req : CreateRequest) (uuid : String)
    (now : DateTime) (hkey : Clean (req.key uuid)) (hapart : Apart ledger (req.key uuid)) :
    ledger.Answers (.create req uuid now) (Redis.create req uuid now db).1 ∧
      Represents (Redis.create req uuid now db).2
        (ledger.record (.create req uuid now)) := by
  let key := req.key uuid
  let data : RedisSessionData := ⟨key, req.state, now, now⟩
  let db₁ : Redis := db.insert (sessionKey key) (.text (.json data))
  let db₂ : Redis := db₁.insert (reverseKey key.sessionId) (.text (.name (sessionKey key)))
  have hindex₂ (appName userId : String) :
      smembers (indexKey appName userId) db₂ = smembers (indexKey appName userId) db := by
    refine smembers_congr ?_
    rw [AList.lookup_insert_ne reverseKey_ne_indexKey.symm,
      AList.lookup_insert_ne sessionKey_ne_indexKey.symm]
  obtain ⟨ids, hids, hnodup, -⟩ := h.index key.appName key.userId hkey.1
  obtain ⟨db₃, ids', hsadd, hframe, hids', hnodup', hmem'⟩ :=
    sadd_spec ((hindex₂ _ _).trans hids) hnodup key.sessionId
  have hcreate : Redis.create req uuid now db = (.session data, db₃) := by
    rw [Redis.create]
    change (match sadd (indexKey key.appName key.userId) key.sessionId db₂ with
      | .error e => _
      | .ok db => _) = _
    rw [hsadd]
  rw [hcreate]
  refine ⟨rfl, h.put hkey hapart rfl ?_ ?_ ?_⟩
  · intro key' hclean
    rw [hframe _ sessionKey_ne_indexKey, AList.lookup_insert_ne sessionKey_ne_reverseKey,
      KeyedMap.lookup_insert_if]
    exact if_congr (sessionKey_inj hclean hkey) rfl rfl
  · intro id
    rw [hframe _ reverseKey_ne_indexKey, KeyedMap.lookup_insert_if,
      AList.lookup_insert_ne sessionKey_ne_reverseKey.symm]
    exact if_congr reverseKey_inj rfl rfl
  · intro appName userId found happName hfound hnodupFound
    by_cases hsame : appName = key.appName ∧ userId = key.userId
    · obtain ⟨rfl, rfl⟩ := hsame
      rw [hids] at hfound
      cases hfound
      refine ⟨ids', hids', hnodup', fun id ↦ ?_⟩
      rw [hmem']
      refine or_congr_left ⟨?_, ?_⟩
      · rintro rfl
        rfl
      · intro heq
        exact congrArg SessionKey.sessionId heq
    · have hne : indexKey appName userId ≠ indexKey key.appName key.userId := fun heq ↦
        hsame ((indexKey_inj happName hkey.1).mp heq)
      refine ⟨found, ?_, hnodupFound, fun id ↦ ?_⟩
      · rw [smembers_congr (hframe _ hne), hindex₂, hfound]
      · refine (or_iff_right fun heq ↦ hsame ?_).symm
        exact ⟨congrArg SessionKey.appName heq, congrArg SessionKey.userId heq⟩

theorem known_iff (h : Represents db ledger) (id : String) :
    ledger.Known id ↔ ∃ key data, key.sessionId = id ∧ ledger key = some data ∧
      getText (reverseKey id) db = .ok (some (.name (sessionKey key))) := by
  constructor
  · rintro ⟨key, hid, hsome⟩
    obtain ⟨data, hdata⟩ := Option.isSome_iff_exists.mp hsome
    refine ⟨key, data, hid, hdata, ?_⟩
    rw [getText, (h.reverse id _).mpr ⟨key, hid, hsome, rfl⟩]
  · rintro ⟨key, data, hid, hdata, -⟩
    exact ⟨key, hid, Option.isSome_iff_exists.mpr ⟨data, hdata⟩⟩

theorem getText_of_unknown (h : Represents db ledger) {id : String}
    (hid : ¬ ledger.Known id) : getText (reverseKey id) db = .ok none := by
  have hnone : db.lookup (reverseKey id) = none := by
    refine Option.eq_none_iff_forall_ne_some.mpr fun e he ↦ hid ?_
    obtain ⟨key, hkey, hsome, -⟩ := (h.reverse id e).mp he
    exact ⟨key, hkey, hsome⟩
  rw [getText, hnone]

theorem append (h : Represents db ledger) (sessionId : String) (event : Event) :
    ledger.Answers (.append sessionId event) (appendEvent sessionId event db).1 ∧
      Represents (appendEvent sessionId event db).2
        (ledger.record (.append sessionId event)) := by
  by_cases hknown : ledger.Known sessionId
  · obtain ⟨key, data, hid, hdata, hreverse⟩ := (h.known_iff sessionId).mp hknown
    have hsome : (ledger key).isSome := Option.isSome_iff_exists.mpr ⟨data, hdata⟩
    have hkey : Clean key := h.clean key hsome
    have happend : appendEvent sessionId event db =
        (.done, db.insert (sessionKey key) (.text (.json (touched event data)))) := by
      simp only [appendEvent, hreverse, h.getText_sessionKey hkey, hdata, Option.map_some,
        RedisText.data?]
    have hrecord : ledger.record (.append sessionId event) =
        Function.update ledger key (some (touched event data)) := by
      funext key'
      rw [Sessions.record_append, Function.update_apply]
      by_cases heq : key' = key
      · rw [if_pos heq, heq, if_pos hid, hdata]
        rfl
      · rw [if_neg heq]
        split
        next hid' =>
          have hnone : ledger key' = none := by
            by_contra hne
            exact heq (h.apart key hsome key' (Option.ne_none_iff_isSome.mp hne)
              (hid'.trans hid.symm))
          rw [hnone]
          rfl
        next => rfl
    rw [happend, hrecord]
    refine ⟨.inl ⟨hknown, rfl⟩, h.put hkey (h.apart key hsome) (h.own key data hdata) ?_ ?_ ?_⟩
    · intro key' hclean
      rw [KeyedMap.lookup_insert_if]
      exact if_congr (sessionKey_inj hclean hkey) rfl rfl
    · intro id
      rw [AList.lookup_insert_ne sessionKey_ne_reverseKey.symm]
      split
      next heq => exact (h.reverse id _).mpr ⟨key, heq.symm, hsome, rfl⟩
      next => rfl
    · intro appName userId ids happName hids hnodup
      refine ⟨ids, ?_, hnodup, fun id ↦ (or_iff_right_of_imp ?_).symm⟩
      · rw [← hids]
        exact smembers_congr (AList.lookup_insert_ne sessionKey_ne_indexKey.symm)
      · rintro rfl
        obtain ⟨ids', hids', -, hmem⟩ := h.index appName userId happName
        rw [hids] at hids'
        cases hids'
        exact (hmem id).mpr hsome
  · have hnone := h.getText_of_unknown hknown
    have hrecord : ledger.record (.append sessionId event) = ledger := by
      funext key
      rw [Sessions.record_append]
      split
      next hid =>
        have : ledger key = none := by
          by_contra hne
          exact hknown ⟨key, hid, Option.ne_none_iff_isSome.mp hne⟩
        rw [this]
        rfl
      next => rfl
    rw [hrecord, appendEvent, hnone]
    exact ⟨.inr ⟨hknown, rfl⟩, h⟩

theorem lookup_del (key : SessionKey) (db : Redis) (k : String) : (del key db).lookup k =
    if k = sessionKey key ∨ k = reverseKey key.sessionId then none else db.lookup k := by
  rw [del, KeyedMap.lookup_erase_if, KeyedMap.lookup_erase_if]
  by_cases hreverse : k = reverseKey key.sessionId <;> by_cases hsession : k = sessionKey key <;>
    simp [hreverse, hsession]

theorem lookup_del_indexKey (key : SessionKey) (db : Redis) (appName userId : String) :
    (del key db).lookup (indexKey appName userId) = db.lookup (indexKey appName userId) := by
  rw [lookup_del, if_neg]
  rintro (heq | heq)
  · exact sessionKey_ne_indexKey heq.symm
  · exact reverseKey_ne_indexKey heq.symm

theorem delete (h : Represents db ledger) {key : SessionKey} (hkey : Clean key)
    (hapart : Apart ledger key) :
    ledger.Answers (.delete key) (Redis.delete key db).1 ∧
      Represents (Redis.delete key db).2 (ledger.record (.delete key)) := by
  obtain ⟨ids, hids, hnodup, -⟩ := h.index key.appName key.userId hkey.1
  have hindex (appName userId : String) :
      smembers (indexKey appName userId) (del key db) = smembers (indexKey appName userId) db :=
    smembers_congr (lookup_del_indexKey key db appName userId)
  obtain ⟨db', ids', hsrem, hframe, hids', hnodup', hmem'⟩ :=
    srem_spec ((hindex _ _).trans hids) hnodup key.sessionId
  have hdelete : Redis.delete key db = (.done, db') := by
    rw [Redis.delete]
    simp only [hsrem]
  have hrecord : ledger.record (.delete key) =
      fun key' ↦ if key' = key then none else ledger key' :=
    funext fun key' ↦ Function.update_apply ledger key none key'
  rw [hdelete, hrecord]
  refine ⟨rfl, h.remove ?_ ?_ ?_⟩
  · intro key' hclean
    rw [hframe _ sessionKey_ne_indexKey, lookup_del]
    refine if_congr ?_ rfl rfl
    rw [sessionKey_inj hclean hkey, or_iff_left sessionKey_ne_reverseKey]
  · intro id e
    rw [hframe _ reverseKey_ne_indexKey, lookup_del]
    by_cases hid : id = key.sessionId
    · rw [if_pos (.inr (reverseKey_inj.mpr hid)), h.reverse]
      refine iff_of_false nofun ?_
      rintro ⟨⟨key', hid', hsome, -⟩, hnot⟩
      exact hnot key' hsome hid' (hapart key' hsome (hid'.trans hid))
    · rw [if_neg]
      · refine (and_iff_left ?_).symm
        rintro key' - hid' rfl
        exact hid hid'.symm
      · rintro (heq | heq)
        · exact sessionKey_ne_reverseKey heq.symm
        · exact hid (reverseKey_inj.mp heq)
  · intro appName userId found happName hfound hnodupFound
    by_cases hsame : appName = key.appName ∧ userId = key.userId
    · obtain ⟨rfl, rfl⟩ := hsame
      rw [hids] at hfound
      cases hfound
      refine ⟨ids', hids', hnodup', fun id ↦ ?_⟩
      rw [hmem']
      refine and_congr_right fun _ ↦ not_congr ⟨?_, ?_⟩
      · rintro rfl
        rfl
      · intro heq
        exact congrArg SessionKey.sessionId heq
    · have hne : indexKey appName userId ≠ indexKey key.appName key.userId := fun heq ↦
        hsame ((indexKey_inj happName hkey.1).mp heq)
      refine ⟨found, ?_, hnodupFound, fun id ↦ ?_⟩
      · rw [smembers_congr (hframe _ hne), hindex, hfound]
      · refine (and_iff_left fun heq ↦ hsame ?_).symm
        exact ⟨congrArg SessionKey.appName heq, congrArg SessionKey.userId heq⟩

theorem lookup_foldl_del (appName userId : String) (ids : List String) (db : Redis) (k : String) :
    (ids.foldl (fun db id ↦ del ⟨appName, userId, id⟩ db) db).lookup k =
      if ∃ id ∈ ids, k = sessionKey ⟨appName, userId, id⟩ ∨ k = reverseKey id then none
      else db.lookup k := by
  induction ids generalizing db with
  | nil => simp
  | cons id ids ih =>
    rw [List.foldl_cons, ih, lookup_del]
    by_cases hrest : ∃ id ∈ ids, k = sessionKey ⟨appName, userId, id⟩ ∨ k = reverseKey id
    · rw [if_pos hrest, if_pos (hrest.imp fun _ hid ↦ ⟨.tail _ hid.1, hid.2⟩)]
    · rw [if_neg hrest]
      refine if_congr ?_ rfl rfl
      simp only [List.mem_cons, exists_eq_or_imp, or_iff_left hrest]

theorem deleteAll (h : Represents db ledger) {appName : String}
    (happName : ':' ∉ appName.toList) (userId : String) :
    ledger.Answers (.deleteAll appName userId) (deleteAllSessions appName userId db).1 ∧
      Represents (deleteAllSessions appName userId db).2
        (ledger.record (.deleteAll appName userId)) := by
  obtain ⟨ids, hids, hnodup, hmem⟩ := h.index appName userId happName
  let emptied := ids.foldl (fun db id ↦ del ⟨appName, userId, id⟩ db) db
  have hdelete : deleteAllSessions appName userId db =
      (.done, emptied.erase (indexKey appName userId)) := by
    rw [deleteAllSessions, hids]
  rw [hdelete]
  refine ⟨rfl, h.remove ?_ ?_ ?_⟩
  · intro key hclean
    rw [AList.lookup_erase_ne sessionKey_ne_indexKey, lookup_foldl_del, h.session key hclean]
    by_cases huser : key.appName = appName ∧ key.userId = userId
    · rw [if_pos huser]
      obtain ⟨rfl, rfl⟩ := huser
      cases hsome : ledger key with
      | none =>
        split <;> rfl
      | some data =>
        rw [if_pos]
        exact ⟨key.sessionId, (hmem _).mpr (Option.isSome_iff_exists.mpr ⟨data, hsome⟩), .inl rfl⟩
    · rw [if_neg huser, if_neg]
      rintro ⟨id, hid, heq | heq⟩
      · have hown := h.clean _ ((hmem id).mp hid)
        exact huser ((sessionKey_inj hclean hown).mp heq ▸ ⟨rfl, rfl⟩)
      · exact sessionKey_ne_reverseKey heq
  · intro id e
    rw [AList.lookup_erase_ne reverseKey_ne_indexKey, lookup_foldl_del]
    by_cases hid : id ∈ ids
    · rw [if_pos ⟨id, hid, .inr rfl⟩]
      refine iff_of_false nofun ?_
      rintro ⟨-, hnot⟩
      exact hnot ⟨appName, userId, id⟩ ((hmem id).mp hid) rfl ⟨rfl, rfl⟩
    · rw [if_neg]
      · refine (and_iff_left ?_).symm
        rintro key hsome rfl ⟨rfl, rfl⟩
        exact hid ((hmem _).mpr hsome)
      · rintro ⟨id', hid', heq | heq⟩
        · exact sessionKey_ne_reverseKey heq.symm
        · exact hid (reverseKey_inj.mp heq ▸ hid')
  · intro appName' userId' found happName' hfound hnodupFound
    by_cases hsame : appName' = appName ∧ userId' = userId
    · refine ⟨[], ?_, List.nodup_nil, fun id ↦ iff_of_false nofun fun hid ↦ hid.2 hsame⟩
      rw [hsame.1, hsame.2, smembers, AList.lookup_erase]
    · have hne : indexKey appName' userId' ≠ indexKey appName userId := fun heq ↦
        hsame ((indexKey_inj happName' happName).mp heq)
      refine ⟨found, ?_, hnodupFound, fun id ↦ (and_iff_left hsame).symm⟩
      rw [← hfound]
      refine smembers_congr ?_
      rw [AList.lookup_erase_ne hne, lookup_foldl_del, if_neg]
      rintro ⟨id, -, heq | heq⟩
      · exact sessionKey_ne_indexKey heq.symm
      · exact reverseKey_ne_indexKey heq.symm

theorem load_ids (h : Represents db ledger) {appName userId : String} {ids : List String}
    (hids : ∀ id ∈ ids, (ledger ⟨appName, userId, id⟩).isSome) :
    load appName userId db ids = .ok (ledger.ofUser appName userId ids) := by
  induction ids with
  | nil => rfl
  | cons id ids ih =>
    obtain ⟨hid, hrest⟩ := List.forall_mem_cons.mp hids
    obtain ⟨data, hdata⟩ := Option.isSome_iff_exists.mp hid
    simp only [load, h.getText_sessionKey (h.clean _ hid), ih hrest, hdata, Option.map_some,
      Option.bind_some, RedisText.data?, Sessions.ofUser_cons hdata]
    rfl

theorem keys_ofUser (h : Represents db ledger) {appName userId : String}
    {ids : List String} (hids : ∀ id ∈ ids, (ledger ⟨appName, userId, id⟩).isSome) :
    (ledger.ofUser appName userId ids).map RedisSessionData.key =
      ids.map fun id ↦ ⟨appName, userId, id⟩ := by
  induction ids with
  | nil => rfl
  | cons id ids ih =>
    obtain ⟨hid, hrest⟩ := List.forall_mem_cons.mp hids
    obtain ⟨data, hdata⟩ := Option.isSome_iff_exists.mp hid
    rw [Sessions.ofUser_cons hdata, List.map_cons, List.map_cons, ih hrest, h.own _ data hdata]

theorem list (h : Represents db ledger) (req : ListRequest)
    (happName : ':' ∉ req.appName.toList) :
    ledger.Answers (.list req) (Redis.list req db) := by
  obtain ⟨ids, hids, hnodup, hmem⟩ := h.index req.appName req.userId happName
  have hknown (id : String) (hid : id ∈ ids) := (hmem id).mp hid
  let found := ledger.ofUser req.appName req.userId ids
  refine ⟨found.insertionSort fun a b ↦ b.updatedAt ≤ a.updatedAt, ⟨fun data ↦ ?_, ?_, ?_⟩, ?_⟩
  · refine (List.mem_insertionSort _).trans (List.mem_filterMap.trans ⟨?_, ?_⟩)
    · rintro ⟨id, -, hdata⟩
      exact ⟨id, hdata⟩
    · rintro ⟨id, hdata⟩
      exact ⟨id, (hmem id).mpr (Option.isSome_iff_exists.mpr ⟨data, hdata⟩), hdata⟩
  · rw [((List.perm_insertionSort _ found).map RedisSessionData.key).nodup_iff,
      h.keys_ofUser hknown]
    exact hnodup.map fun _ _ heq ↦ congrArg SessionKey.sessionId heq
  · have : Std.Total fun a b : RedisSessionData ↦ b.updatedAt ≤ a.updatedAt :=
      ⟨fun a b ↦ le_total b.updatedAt a.updatedAt⟩
    have : IsTrans RedisSessionData fun a b ↦ b.updatedAt ≤ a.updatedAt :=
      ⟨fun _ _ _ hab hbc ↦ hbc.trans hab⟩
    exact List.pairwise_insertionSort _ _
  · simp only [Redis.list, hids, h.load_ids hknown]
    rfl

/-- Each request is answered as the sessions say, and the database goes on holding them. -/
theorem answer (h : Represents db ledger) (op : RedisOp) (hop : Proper ledger op) :
    ledger.Answers op (Redis.answer db op).1 ∧
      Represents (Redis.answer db op).2 (ledger.record op) := by
  cases op with
  | create req uuid now => exact h.create req uuid now hop.1 hop.2
  | get key => exact ⟨h.get hop, h⟩
  | list req => exact ⟨h.list req hop, h⟩
  | append sessionId event => exact h.append sessionId event
  | delete key => exact h.delete hop.1 hop.2
  | deleteAll appName userId => exact h.deleteAll hop userId

end Represents

/-- The database and the sessions side by side, with the answer to each request. -/
def step (s : Redis × Sessions) (op : RedisOp) :
    (Sessions × RedisOp × RedisReply) × Redis × Sessions :=
  ((s.2, op, (answer s.1 op).1), (answer s.1 op).2, s.2.record op)

/-- The id of the user holds the separator, as those of the channels do. -/
def telegramKey : SessionKey := ⟨"gateway", "telegram:7", "s"⟩

def tea : Event :=
  ⟨"e", 1, "i", "", "user", .null, ⟨AList.singleton "topic" (.string "tea"), .object []⟩, []⟩

def visit : List RedisOp :=
  [.create ⟨"gateway", "telegram:7", some "s", ∅⟩ "" 0, .append "s" tea,
    .list ⟨"gateway", "telegram:7", none, none⟩, .delete telegramKey, .get telegramKey]

end Redis

end AdkGateway.SessionBridge
