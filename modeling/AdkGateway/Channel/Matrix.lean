import AdkGateway.Foundation.Machine
import AdkGateway.Foundation.Value
import AdkGateway.Reconnect.Backoff
import Mathlib.Data.List.Infix

namespace AdkGateway.Matrix

open Foundation Reconnect Machine
open Value (index)

structure MatrixConfig where
  roomIds : List String
  accountId : String

structure Message where
  accountId : String
  senderId : String
  text : String
  isGroup : Bool
  groupId : Option String
  isMention : Bool
  platformMessageId : String
  deriving DecidableEq

/-- The message of an event of a room, unless it is to be left alone. -/
def inbound (config : MatrixConfig) (botUserId roomId : String) (event : Value) : Option Message :=
  let sender := (index event "sender").asStr.getD ""
  let content := index event "content"
  let text := (index content "body").asStr.getD ""
  if sender = botUserId then none
  else if (index event "type").asStr.getD "" ≠ "m.room.message" then none
  else if (index content "msgtype").asStr.getD "" ≠ "m.text" then none
  else if (index (index content "m.relates_to") "rel_type").asStr = some "m.replace" then none
  else if text = "" then none
  else some
    { accountId := config.accountId
      senderId := sender
      text
      isGroup := true
      groupId := some roomId
      isMention := false
      platformMessageId := (index event "event_id").asStr.getD "" }

def rooms (body : Value) : List (String × List Value) :=
  match index (index body "rooms") "join" with
  | .object fields => fields.filterMap fun field ↦
      (index (index field.2 "timeline") "events").asArray.map fun events ↦ (field.1, events)
  | _ => []

def MatrixConfig.follows (config : MatrixConfig) (roomId : String) : Bool :=
  config.roomIds.isEmpty || config.roomIds.contains roomId

def messages (config : MatrixConfig) (botUserId : String) (body : Value) : List Message :=
  ((rooms body).filter fun room ↦ config.follows room.1).flatMap fun room ↦
    room.2.filterMap (inbound config botUserId room.1)

inductive Event
  | polled (since : Option String)
  | forwarded (msg : Message)
  | waits (delay : Duration)
  | gaveUp

inductive Phase
  | starting
  | polling
  | waiting
  | ended

structure Client where
  sinceToken : Option String
  reconnect : ReconnectState
  phase : Phase

/-- What the channel gets: the reply to its first request, unless that failed; a reply to a poll,
which may be no document; a failure; the end of a wait; or the word to stop. -/
inductive Input
  | initial (body : Option Value)
  | body (body : Value)
  | unparsable
  | failed (now : ℕ)
  | slept
  | shutdown

namespace Client

def new (policy : ReconnectPolicy) : Client := ⟨none, .new policy, .starting⟩

def poll (client : Client) : List Event × Client :=
  ([.polled client.sinceToken], { client with phase := .polling })

def receive (config : MatrixConfig) (botUserId : String) (client : Client) (body : Value) :
    List Event × Client :=
  let client := { client with
    sinceToken := (index body "next_batch").asStr.or client.sinceToken
    reconnect := client.reconnect.reset }
  (client.poll).map ((messages config botUserId body).map .forwarded ++ ·) id

def fail (client : Client) (now : ℕ) : List Event × Client :=
  if client.reconnect.shouldMarkFailed then ([.gaveUp], { client with phase := .ended })
  else ([.waits (client.reconnect.nextDelay now).1],
    { client with reconnect := (client.reconnect.nextDelay now).2, phase := .waiting })

def step (config : MatrixConfig) (botUserId : String) (client : Client) (input : Input) :
    List Event × Client :=
  match client.phase, input with
  | .starting, .initial body =>
    { client with sinceToken := body.bind fun body ↦ (index body "next_batch").asStr }.poll
  | .polling, .body body => client.receive config botUserId body
  | .polling, .unparsable => { client with reconnect := client.reconnect.reset }.poll
  | .polling, .failed now => client.fail now
  | .polling, .shutdown => ([], { client with phase := .ended })
  | .waiting, .slept => client.poll
  | _, _ => ([], client)

/-- What happens in a run, from the start of the channel. -/
def trace (config : MatrixConfig) (botUserId : String) (policy : ReconnectPolicy)
    (inputs : List Input) : List Event :=
  (Machine.outputs (step config botUserId) (new policy) inputs).flatten

end Client

section Homeserver

/-- How many events of a room a reply may list. -/
def timelineLimit : ℕ := 50

/-- What has happened in the rooms, first to last. -/
abbrev Log := List (String × Value)

variable (log : Log) (token : ℕ → String)

def Log.between (roomId : String) (i j : ℕ) : List Value :=
  ((log.take j).drop i).filterMap fun entry ↦ if entry.1 = roomId then some entry.2 else none

/-- The events that a reply lists for a room. -/
def timeline (body : Value) (roomId : String) : List Value :=
  ((rooms body).filter fun room ↦ room.1 = roomId).flatMap Prod.snd

/-- A reply goes from the point of the request to a later one. It lists the last events of each room
up to the limit. -/
structure Spans (i j : ℕ) (body : Value) : Prop where
  le : i ≤ j
  le_length : j ≤ log.length
  next : index body "next_batch" = .string (token j)
  last : ∀ roomId, timeline body roomId <:+ log.between roomId i j
  whole : ∀ roomId, (log.between roomId i j).length ≤ timelineLimit →
    timeline body roomId = log.between roomId i j

/-- What the homeserver replies to a poll. -/
def Serves (client : Client) (input : Input) : Prop :=
  ∀ body, client.phase = .polling → input = .body body →
    ∃ i j, client.sinceToken = some (token i) ∧ Spans log token i j body

/-- No room had more events than a reply may list. -/
def Fitting (client : Client) (input : Input) : Prop :=
  ∀ body i j roomId, client.phase = .polling → input = .body body →
    client.sinceToken = some (token i) → index body "next_batch" = .string (token j) →
    (log.between roomId i j).length ≤ timelineLimit

def wanted (config : MatrixConfig) (botUserId roomId : String) (i j : ℕ) : List Message :=
  if config.follows roomId then (log.between roomId i j).filterMap (inbound config botUserId roomId)
  else []

/-- The messages of a room that are passed on. -/
def forwarded (roomId : String) (events : List Event) : List Message :=
  events.filterMap fun
    | .forwarded msg => if msg.groupId = some roomId then some msg else none
    | _ => none

end Homeserver

section Reading

variable {log : Log} {token : ℕ → String} {config : MatrixConfig} {botUserId roomId : String}

theorem groupId_of_inbound {event : Value} {msg : Message}
    (h : inbound config botUserId roomId event = some msg) : msg.groupId = some roomId := by
  simp only [inbound] at h
  split_ifs at h
  cases h
  rfl

@[simp] theorem forwarded_append (es fs : List Event) :
    forwarded roomId (es ++ fs) = forwarded roomId es ++ forwarded roomId fs :=
  List.filterMap_append

theorem forwarded_map (msgs : List Message) : forwarded roomId (msgs.map .forwarded) =
    msgs.filter fun msg ↦ msg.groupId = some roomId := by
  induction msgs with
  | nil => rfl
  | cons msg msgs ih =>
    rw [List.map_cons, forwarded, List.filterMap_cons, List.filter_cons]
    by_cases hmsg : msg.groupId = some roomId
    · simp only [hmsg, if_true, decide_true]
      exact congrArg _ ih
    · simp only [hmsg, if_false, decide_false, Bool.false_eq_true]
      exact ih

theorem filter_inbound (room : String) (events : List Value) :
    ((events.filterMap (inbound config botUserId room)).filter
        fun msg ↦ msg.groupId = some roomId) =
      if room = roomId then events.filterMap (inbound config botUserId room) else [] := by
  have hgroup : ∀ msg ∈ events.filterMap (inbound config botUserId room),
      msg.groupId = some room := by
    intro msg hmsg
    obtain ⟨event, -, hevent⟩ := List.mem_filterMap.mp hmsg
    exact groupId_of_inbound hevent
  split
  case isTrue h =>
    refine List.filter_eq_self.mpr fun msg hmsg ↦ ?_
    rw [hgroup msg hmsg, h, decide_eq_true rfl]
  case isFalse h =>
    refine List.filter_eq_nil_iff.mpr fun msg hmsg ↦ ?_
    rw [hgroup msg hmsg]
    simpa using h

theorem filter_messages (body : Value) :
    ((messages config botUserId body).filter fun msg ↦ msg.groupId = some roomId) =
      if config.follows roomId then
        (timeline body roomId).filterMap (inbound config botUserId roomId)
      else [] := by
  unfold messages timeline
  induction rooms body with
  | nil => simp
  | cons room rest ih =>
    rw [List.filter_cons, List.filter_cons]
    by_cases hroom : room.1 = roomId
    · rw [if_pos (decide_eq_true hroom), List.flatMap_cons, List.filterMap_append]
      by_cases hfollows : config.follows roomId = true
      · rw [if_pos (hroom ▸ hfollows), List.flatMap_cons, List.filter_append, filter_inbound,
          if_pos hroom, ih, if_pos hfollows, if_pos hfollows, hroom]
      · rw [if_neg (hroom ▸ hfollows), ih, if_neg hfollows, if_neg hfollows]
    · have hother : decide (room.1 = roomId) = false := decide_eq_false hroom
      rw [hother, if_neg Bool.false_ne_true]
      split
      · rw [List.flatMap_cons, List.filter_append, filter_inbound, if_neg hroom,
          List.nil_append, ih]
      · exact ih

theorem between_append {i j k : ℕ} (hij : i ≤ j) (hjk : j ≤ k) (hj : j ≤ log.length) :
    log.between roomId i j ++ log.between roomId j k = log.between roomId i k := by
  have hlen : i ≤ (log.take j).length := by
    rw [List.length_take, Nat.min_eq_left hj]
    exact hij
  have htake : log.take k = log.take j ++ (log.take k).drop j := by
    have hle : (log.take k).take j = log.take j := by
      rw [List.take_take, Nat.min_eq_left hjk]
    rw [← hle, List.take_append_drop]
  have hsplit : (log.take k).drop i = (log.take j).drop i ++ (log.take k).drop j := by
    conv_lhs => rw [htake, List.drop_append_of_le_length hlen]
  rw [Log.between, Log.between, Log.between, ← List.filterMap_append, hsplit]

theorem wanted_append {i j k : ℕ} (hij : i ≤ j) (hjk : j ≤ k) (hj : j ≤ log.length) :
    wanted log config botUserId roomId i j ++ wanted log config botUserId roomId j k =
      wanted log config botUserId roomId i k := by
  unfold wanted
  split
  · rw [← List.filterMap_append, between_append hij hjk hj]
  · rfl

theorem wanted_self (i : ℕ) : wanted log config botUserId roomId i i = [] := by
  have hnone : log.between roomId i i = [] := by
    rw [Log.between, List.drop_eq_nil_of_le (List.length_take_le i log)]
    rfl
  rw [wanted, hnone]
  exact ite_self _

end Reading

section Delivery

variable {log : Log} {token : ℕ → String} {config : MatrixConfig} {botUserId : String}
  {client : Client} {i : ℕ}

/-- What a stretch of a run passes on, between the points where it begins and ends. -/
structure Delivers (log : Log) (token : ℕ → String) (config : MatrixConfig) (botUserId : String)
    (fitting : Prop) (i : ℕ) (events : List Event) (client : Client) (j : ℕ) : Prop where
  le : i ≤ j
  le_length : j ≤ log.length
  since : client.sinceToken = some (token j)
  sublist : ∀ roomId,
    (forwarded roomId events).Sublist (wanted log config botUserId roomId i j)
  whole : fitting → ∀ roomId, forwarded roomId events = wanted log config botUserId roomId i j

theorem delivers_nothing {fitting : Prop} (hi : i ≤ log.length)
    (hsince : client.sinceToken = some (token i)) {events : List Event}
    (hevents : ∀ roomId, forwarded roomId events = []) :
    Delivers log token config botUserId fitting i events client i where
  le := Nat.le_refl i
  le_length := hi
  since := hsince
  sublist roomId := by
    rw [hevents]
    exact List.nil_sublist _
  whole _ roomId := by rw [hevents, wanted_self]

theorem Delivers.trans {fitting fitting' : Prop} {j k : ℕ} {client' : Client}
    {events events' : List Event}
    (h : Delivers log token config botUserId fitting i events client j)
    (h' : Delivers log token config botUserId fitting' j events' client' k) :
    Delivers log token config botUserId (fitting ∧ fitting') i (events ++ events') client' k where
  le := h.le.trans h'.le
  le_length := h'.le_length
  since := h'.since
  sublist roomId := by
    rw [forwarded_append, ← wanted_append h.le h'.le h.le_length]
    exact (h.sublist roomId).append (h'.sublist roomId)
  whole hfitting roomId := by
    rw [forwarded_append, ← wanted_append h.le h'.le h.le_length, h.whole hfitting.1,
      h'.whole hfitting.2]

theorem delivers_receive {body : Value} {j : ℕ} (hphase : client.phase = .polling)
    (hsince : client.sinceToken = some (token i)) (hspans : Spans log token i j body) :
    Delivers log token config botUserId (Fitting log token client (.body body)) i
      (client.receive config botUserId body).1 (client.receive config botUserId body).2 j := by
  have hforwarded : ∀ roomId, forwarded roomId (client.receive config botUserId body).1 =
      if config.follows roomId then
        (timeline body roomId).filterMap (inbound config botUserId roomId)
      else [] := by
    intro roomId
    have hevents : (client.receive config botUserId body).1 =
      (messages config botUserId body).map .forwarded ++
        [.polled ((index body "next_batch").asStr.or client.sinceToken)] := rfl
    have hpolled : ∀ since, forwarded roomId [.polled since] = [] := fun _ ↦ rfl
    rw [hevents, forwarded_append, hpolled, List.append_nil, forwarded_map, filter_messages]
  refine ⟨hspans.le, hspans.le_length, ?_, fun roomId ↦ ?_, fun hfitting roomId ↦ ?_⟩
  · have hnext : (client.receive config botUserId body).2.sinceToken =
      (index body "next_batch").asStr.or client.sinceToken := rfl
    rw [hnext, hspans.next]
    rfl
  · rw [hforwarded, wanted]
    split
    · exact (hspans.last roomId).sublist.filterMap _
    · exact List.nil_sublist _
  · rw [hforwarded, wanted,
      hspans.whole roomId (hfitting body i j roomId hphase rfl hsince hspans.next)]

theorem delivers_step (htoken : token.Injective) (hi : i ≤ log.length)
    (hsince : client.sinceToken = some (token i)) (hphase : client.phase ≠ .starting)
    {input : Input} (hserves : Serves log token client input) :
    (client.step config botUserId input).2.phase ≠ .starting ∧
      ∃ j, Delivers log token config botUserId (Fitting log token client input) i
        (client.step config botUserId input).1 (client.step config botUserId input).2 j := by
  have hquiet : ∀ {fitting : Prop} {client' : Client} {events : List Event},
      client'.sinceToken = client.sinceToken → (∀ roomId, forwarded roomId events = []) →
      ∃ j, Delivers log token config botUserId fitting i events client' j :=
    fun hsame hnone ↦ ⟨i, delivers_nothing hi (hsame.trans hsince) hnone⟩
  unfold Client.step
  split
  case h_1 hstarting => exact absurd hstarting hphase
  case h_2 body hpolling =>
    obtain ⟨i', j, hsince', hspans⟩ := hserves body hpolling rfl
    obtain rfl := htoken (Option.some.inj (hsince.symm.trans hsince'))
    exact ⟨nofun, j, delivers_receive hpolling hsince hspans⟩
  case h_3 => exact ⟨nofun, hquiet rfl fun _ ↦ rfl⟩
  case h_4 now _ =>
    rw [Client.fail]
    split
    · exact ⟨nofun, hquiet rfl fun _ ↦ rfl⟩
    · exact ⟨nofun, hquiet rfl fun _ ↦ rfl⟩
  case h_5 => exact ⟨nofun, hquiet rfl fun _ ↦ rfl⟩
  case h_6 => exact ⟨nofun, hquiet rfl fun _ ↦ rfl⟩
  case h_7 => exact ⟨hphase, hquiet rfl fun _ ↦ rfl⟩

theorem delivers_run (htoken : token.Injective) (hi : i ≤ log.length)
    (hsince : client.sinceToken = some (token i)) (hphase : client.phase ≠ .starting)
    {inputs : List Input}
    (hserves : Along (Client.step config botUserId) (Serves log token) client inputs) :
    ∃ j, Delivers log token config botUserId
      (Along (Client.step config botUserId) (Fitting log token) client inputs) i
      (outputs (Client.step config botUserId) client inputs).flatten
      (run (Client.step config botUserId) client inputs) j := by
  induction inputs generalizing client i with
  | nil => exact ⟨i, delivers_nothing hi hsince fun _ ↦ rfl⟩
  | cons input inputs ih =>
    obtain ⟨hnow, hlater⟩ := hserves
    obtain ⟨hphase', j, hstep⟩ := delivers_step htoken hi hsince hphase hnow
    obtain ⟨k, hrest⟩ := ih hstep.le_length hstep.since hphase' hlater
    exact ⟨k, hstep.trans hrest⟩

end Delivery

/-- Of a first reply that comes from a point of the log, and polls that the homeserver serves, each
room's messages since that point are passed on in order and none twice; and none is left out, if no
reply had to leave out events. -/
theorem delivers_of_serves (config : MatrixConfig) (botUserId : String) (policy : ReconnectPolicy)
    (log : Log) (token : ℕ → String) (htoken : token.Injective) (first : Value) (i : ℕ)
    (hi : i ≤ log.length) (hfirst : index first "next_batch" = .string (token i))
    (inputs : List Input)
    (hserves : Along (Client.step config botUserId) (Serves log token)
      ((Client.new policy).step config botUserId (.initial (some first))).2 inputs) :
    ∃ j, Delivers log token config botUserId
      (Along (Client.step config botUserId) (Fitting log token)
        ((Client.new policy).step config botUserId (.initial (some first))).2 inputs) i
      (Client.trace config botUserId policy (.initial (some first) :: inputs))
      (run (Client.step config botUserId) (Client.new policy) (.initial (some first) :: inputs))
      j := by
  have hsince : ((Client.new policy).step config botUserId (.initial (some first))).2.sinceToken =
      some (token i) := by
    have hstep : ((Client.new policy).step config botUserId (.initial (some first))).2.sinceToken =
      (index first "next_batch").asStr := rfl
    rw [hstep, hfirst]
    rfl
  obtain ⟨j, hrest⟩ := delivers_run htoken hi hsince nofun hserves
  refine ⟨j, hrest.le, hrest.le_length, hrest.since, fun roomId ↦ ?_, fun hfitting roomId ↦ ?_⟩
  · exact hrest.sublist roomId
  · exact hrest.whole hfitting roomId

def sampleEvent (sender text : String) : Value :=
  .object [("type", .string "m.room.message"), ("sender", .string sender),
    ("event_id", .string "$1"),
    ("content", .object [("msgtype", .string "m.text"), ("body", .string text)])]

def sampleLog : Log := [("!r", sampleEvent "@ann" "hello"), ("!r", sampleEvent "@bot" "hi")]

def sampleToken (i : ℕ) : String := String.ofList (List.replicate i 's')

def sampleReply : Value :=
  .object [("next_batch", .string (sampleToken 2)),
    ("rooms", .object [("join", .object [("!r", .object [("timeline", .object [("events",
      .array [sampleEvent "@ann" "hello", sampleEvent "@bot" "hi"])])])])])]

theorem delivers_of_serves_hello : ∃ j, Delivers sampleLog sampleToken ⟨[], "default"⟩ "@bot"
      (Along (Client.step ⟨[], "default"⟩ "@bot") (Fitting sampleLog sampleToken)
        ((Client.new impatientPolicy).step ⟨[], "default"⟩ "@bot"
          (.initial (some (.object [("next_batch", .string "")])))).2 [.body sampleReply]) 0
      (Client.trace ⟨[], "default"⟩ "@bot" impatientPolicy
        [.initial (some (.object [("next_batch", .string "")])), .body sampleReply])
      (run (Client.step ⟨[], "default"⟩ "@bot") (Client.new impatientPolicy)
        [.initial (some (.object [("next_batch", .string "")])), .body sampleReply]) j := by
  have htoken : sampleToken.Injective := by
    intro i j h
    have hlen := congrArg List.length (String.ofList_injective h)
    rwa [List.length_replicate, List.length_replicate] at hlen
  have hlisted : ∀ roomId, timeline sampleReply roomId = sampleLog.between roomId 0 2 := by
    intro roomId
    by_cases hroom : "!r" = roomId
    · subst hroom
      rfl
    · have hnone : sampleLog.between roomId 0 2 = [] := by
        simp [Log.between, sampleLog, hroom]
      have hfields : rooms sampleReply =
          [("!r", [sampleEvent "@ann" "hello", sampleEvent "@bot" "hi"])] := rfl
      rw [hnone, timeline, hfields, List.filter_singleton, decide_eq_false hroom]
      rfl
  have hspans : Spans sampleLog sampleToken 0 2 sampleReply :=
    ⟨Nat.zero_le _, Nat.le_refl _, rfl, fun roomId ↦ hlisted roomId ▸ List.suffix_rfl,
      fun roomId _ ↦ hlisted roomId⟩
  refine delivers_of_serves ⟨[], "default"⟩ "@bot" impatientPolicy sampleLog sampleToken htoken _ 0
    (Nat.zero_le _) rfl [.body sampleReply] ⟨fun body _ hbody ↦ ?_, trivial⟩
  cases hbody
  exact ⟨0, 2, rfl, hspans⟩

end AdkGateway.Matrix
