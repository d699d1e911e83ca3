import AdkGateway.Foundation.KeyedMap
import AdkGateway.Foundation.Machine
import AdkGateway.Foundation.Value
import AdkGateway.Gateway.PairingStep
import AdkGateway.GatewayRoutes.RateLimit

namespace AdkGateway.GatewayRoutes.Webhook

open Foundation Interleaving

section Requests

def maxWebhookTextLength : ℕ := 65536

def maxMetadataEntries : ℕ := 32

def maxMetadataStringLength : ℕ := 1024

structure WebhookRequest where
  text : String
  channel : Option String
  target : Option String
  metadata : Option (KeyedMap String Value)

inductive WebhookError
  | channelClosed
  | payloadTooLarge (field : String) (max : ℕ)

def WebhookError.toString : WebhookError → String
  | .channelClosed => "inbound channel closed"
  | .payloadTooLarge field max =>
    "payload too large: " ++ field ++ " exceeds max " ++ ToString.toString max

/-- The first bytes of a key; a cut within a character panics. -/
def keyHead (key : String) : Option String :=
  (Text.splitAtByte key.toList (min (Text.byteLength key.toList) 32)).map fun (head, _) ↦
    String.ofList head

def isLong (s : String) : Bool := Text.byteLength s.toList > maxMetadataStringLength

/-- Without a result the request is lost in a panic. -/
def validateEntries : List (Σ _ : String, Value) → Option (Except WebhookError Unit)
  | [] => some (.ok ())
  | ⟨key, value⟩ :: entries =>
    if isLong key then
      (keyHead key).map fun head ↦
        .error (.payloadTooLarge ("metadata key '" ++ head ++ "'") maxMetadataStringLength)
    else if value.asStr.any isLong then
      (keyHead key).map fun head ↦
        .error (.payloadTooLarge ("metadata value for '" ++ head ++ "'") maxMetadataStringLength)
    else validateEntries entries

def validateRequest (req : WebhookRequest) : Option (Except WebhookError Unit) :=
  if Text.byteLength req.text.toList > maxWebhookTextLength then
    some (.error (.payloadTooLarge "text" maxWebhookTextLength))
  else
    match req.metadata with
    | none => some (.ok ())
    | some metadata =>
      if KeyedMap.size metadata > maxMetadataEntries then
        some (.error (.payloadTooLarge "metadata entries" maxMetadataEntries))
      else validateEntries metadata.entries

/-- What is asked of a request, whatever order its metadata come in. -/
structure IsWithinLimits (req : WebhookRequest) : Prop where
  text : Text.byteLength req.text.toList ≤ maxWebhookTextLength
  entries : ∀ metadata, req.metadata = some metadata → KeyedMap.size metadata ≤ maxMetadataEntries
  strings : ∀ metadata key value, req.metadata = some metadata → metadata.lookup key = some value →
    isLong key = false ∧ value.asStr.any isLong = false

theorem validateEntries_eq_ok_iff (entries : List (Σ _ : String, Value)) :
    validateEntries entries = some (.ok ()) ↔
      ∀ entry ∈ entries, isLong entry.1 = false ∧ entry.2.asStr.any isLong = false := by
  induction entries with
  | nil => exact iff_of_true rfl nofun
  | cons entry entries ih =>
    rw [validateEntries, List.forall_mem_cons, ← ih]
    cases isLong entry.1 with
    | true => simp
    | false => cases entry.2.asStr.any isLong <;> simp

theorem validateRequest_eq_ok_iff (req : WebhookRequest) :
    validateRequest req = some (.ok ()) ↔ IsWithinLimits req := by
  unfold validateRequest
  split
  next htext => exact iff_of_false nofun fun h ↦ absurd h.text (not_le.mpr htext)
  next htext =>
    cases hmetadata : req.metadata with
    | none =>
      exact iff_of_true rfl ⟨not_lt.mp htext, by simp [hmetadata], by simp [hmetadata]⟩
    | some metadata =>
      dsimp only
      split
      next hsize =>
        exact iff_of_false nofun fun h ↦ absurd (h.entries _ hmetadata) (not_le.mpr hsize)
      next hsize =>
        rw [validateEntries_eq_ok_iff]
        refine ⟨fun h ↦ ⟨not_lt.mp htext, ?_, ?_⟩, fun h entry hentry ↦ ?_⟩
        · intro metadata' heq
          cases hmetadata.symm.trans heq
          exact not_lt.mp hsize
        · intro metadata' key value heq hlookup
          cases hmetadata.symm.trans heq
          exact h _ (KeyedMap.lookup_eq_some_iff.mp hlookup)
        · exact h.strings metadata _ _ hmetadata (KeyedMap.lookup_eq_some_iff.mpr hentry)

theorem validateEntries_ne_closed (entries : List (Σ _ : String, Value)) :
    validateEntries entries ≠ some (.error .channelClosed) := by
  induction entries with
  | nil => nofun
  | cons entry entries ih =>
    rw [validateEntries]
    split
    · simp
    · split
      · simp
      · exact ih

theorem validateRequest_ne_closed (req : WebhookRequest) :
    validateRequest req ≠ some (.error .channelClosed) := by
  unfold validateRequest
  split
  · nofun
  · split
    · nofun
    · split
      · nofun
      · exact validateEntries_ne_closed _

structure Inbound extends Gateway.Incoming where
  senderName : Option String
  platformMessageId : String
  metadata : KeyedMap String Value

def inbound (req : WebhookRequest) (requestId : String) : Inbound :=
  let metadata := req.metadata.getD ∅
  let metadata := req.channel.elim metadata fun channel ↦
    metadata.insert "webhook_channel" (.string channel)
  let metadata := req.target.elim metadata fun target ↦
    metadata.insert "webhook_target" (.string target)
  { message := ⟨.webhook, "", "webhook"⟩
    text := req.text
    source := .webhook requestId
    senderName := some "webhook"
    platformMessageId := requestId
    metadata }

inductive Reply
  | ok (requestId : String)
  | rateLimited
  | disabled
  | unauthorized
  | failed (e : WebhookError)

structure WebhookResponse where
  code : ℕ
  status : String
  requestId : Option String

def Reply.response : Reply → WebhookResponse
  | .ok requestId => ⟨200, "ok", some requestId⟩
  | .rateLimited => ⟨429, "rate limited", none⟩
  | .disabled => ⟨503, "disabled", none⟩
  | .unauthorized => ⟨401, "unauthorized", none⟩
  | .failed e =>
    let code := match e with
      | .payloadTooLarge _ _ => 413
      | .channelClosed => 500
    ⟨code, "error: " ++ e.toString, none⟩

end Requests

section Endpoint

def capacity : ℕ := 256

/-- What the requests share: the hooks of the configuration in force, the limiter, the time it was
last asked at, and the queue of the gateway, until the gateway stops reading it. -/
structure Endpoint where
  hooks : WebhookHandler
  rate : RateCounter
  clock : ℤ
  queue : List Inbound
  isClosed : Bool

def Endpoint.new (hooks : WebhookHandler) (now : ℤ) : Endpoint := ⟨hooks, ⟨now, 0⟩, now, [], false⟩

def acceptsToken (hooks : WebhookHandler) (authorization : Option String) : Bool :=
  match hooks.token with
  | none => true
  | some expected => (authorization.bind (stripPrefix "Bearer ")).any (· = expected)

theorem webhookRoute_eq_checks (gateway : GatewayState) (request : Request) :
    webhookRoute gateway request = ((gateway.rate.permit gateway.now).2 &&
      gateway.webhook.enabled && acceptsToken gateway.webhook request.authorization) := by
  rw [webhookRoute, isWithinRate_eq_permit]
  rfl

inductive Sending
  | sent
  | closed
  | abandoned

inductive Op
  | permit
  | isEnabled
  | validateToken (authorization : Option String)
  | newId
  | send (msg : Inbound)
  | reply (reply : Reply)
  | updateConfig (hooks : WebhookHandler)
  | receive
  | close

abbrev Op.Answer : Op → Type
  | .permit | .isEnabled | .validateToken _ => Bool
  | .newId => String
  | .send _ => Sending
  | .reply _ | .updateConfig _ | .close => Unit
  | .receive => Option Inbound

structure Moment where
  elapsed : ℕ
  uuid : String
  isGone : Bool

/-- The messages that are left when the gateway stops reading are lost. -/
def exec (o : Op) (i : Moment) (g : Endpoint) : Endpoint × o.Answer :=
  match o with
  | .permit =>
    let now := g.clock + i.elapsed
    ({ g with rate := (g.rate.permit now).1, clock := now }, (g.rate.permit now).2)
  | .isEnabled => (g, g.hooks.enabled)
  | .validateToken authorization => (g, acceptsToken g.hooks authorization)
  | .newId => (g, i.uuid)
  | .send msg =>
    if i.isGone then (g, .abandoned)
    else if g.isClosed then (g, .closed)
    else ({ g with queue := g.queue ++ [msg] }, .sent)
  | .reply _ => (g, ())
  | .updateConfig hooks => ({ g with hooks }, ())
  | .receive =>
    match g.queue with
    | [] => (g, none)
    | msg :: queue => ({ g with queue }, some msg)
  | .close => ({ g with queue := [], isClosed := true }, ())

abbrev Code : Type → Type := Script Op Op.Answer

def call (o : Op) : Code o.Answer := .perform o

def processRequest (req : WebhookRequest) : Code Unit :=
  match validateRequest req with
  | none => pure ()
  | some (.error e) => call (.reply (.failed e))
  | some (.ok ()) => do
    let requestId ← call .newId
    match ← call (.send (inbound req requestId)) with
    | .sent => call (.reply (.ok requestId))
    | .closed => call (.reply (.failed .channelClosed))
    | .abandoned => pure ()

def webhookRoute (authorization : Option String) (req : WebhookRequest) : Code Unit := do
  if ← call .permit then
    if ← call .isEnabled then
      if ← call (.validateToken authorization) then processRequest req
      else call (.reply .unauthorized)
    else call (.reply .disabled)
  else call (.reply .rateLimited)

/-- What goes on at the endpoint: requests, hot reloads, and at the other end of the queue the
gateway, for which the channels and the jobs queue messages as well. -/
inductive Call
  | request (authorization : Option String) (req : WebhookRequest)
  | message (msg : Inbound)
  | reload (hooks : WebhookHandler)
  | receive
  | close

def code : Call → Code Unit
  | .request authorization req => webhookRoute authorization req
  | .message msg => do
    let _ ← call (.send msg)
  | .reload hooks => call (.updateConfig hooks)
  | .receive => do
    let _ ← call .receive
  | .close => call .close

abbrev Turn := Done Endpoint Op Op.Answer

abbrev Happening := Occurrence Endpoint Call Op Op.Answer

abbrev InFlight := Thread Endpoint Call Op Op.Answer Unit

abbrev endpoint : Program Endpoint Call InFlight Unit Moment Happening := Threads.program exec code

/-- Who has a message for a full queue waits. -/
def CanGo (c : Config Endpoint InFlight Happening) : Label Call InFlight Moment → Prop
  | .act ⟨_, _, .op (.send _) _⟩ i =>
    c.shared.queue.length < capacity ∨ c.shared.isClosed = true ∨ i.isGone = true
  | _ => True

end Endpoint

section Accounts

def put? (turn : Turn) : Option Inbound :=
  match turn.op, turn.answer with
  | .send msg, .sent => some msg
  | _, _ => none

def taken? (turn : Turn) : Option Inbound :=
  match turn.op, turn.answer with
  | .receive, some msg => some msg
  | _, _ => none

def reply? (turn : Turn) : Option Reply :=
  match turn.op with
  | .reply reply => some reply
  | _ => none

def hooksAfter (hooks : WebhookHandler) (turn : Turn) : WebhookHandler :=
  match turn.op with
  | .updateConfig hooks => hooks
  | _ => hooks

def hooksOf (start : WebhookHandler) (h : List Happening) : WebhookHandler :=
  (Threads.dones h).foldl hooksAfter start

def InForce (start : WebhookHandler) (h : List Happening) : Happening → Prop
  | .did _ turn => turn.state.hooks = hooksOf start h
  | .returned _ _ => True

def LimiterAnswers (turn : Turn) (answer : Bool) : Prop :=
  turn.op = .permit ∧
    ∃ elapsed : ℕ, (turn.state.rate.permit (turn.state.clock + elapsed)).2 = answer

def Checked (authorization : Option String) (past : List Turn) : Prop :=
  ∃ t₁ t₂ t₃ : Turn, [t₁, t₂, t₃].Sublist past ∧ LimiterAnswers t₁ true ∧
    t₂.state.hooks.enabled = true ∧ acceptsToken t₃.state.hooks authorization = true

structure Admitted (authorization : Option String) (req : WebhookRequest) (past : List Turn) :
    Prop where
  checked : Checked authorization past
  limits : IsWithinLimits req

def Because (authorization : Option String) (req : WebhookRequest) (past : List Turn) :
    Reply → Prop
  | .ok requestId => pick put? past = [inbound req requestId]
  | .rateLimited => ∃ turn ∈ past, LimiterAnswers turn false
  | .disabled => ∃ turn ∈ past, turn.state.hooks.enabled = false
  | .unauthorized => ∃ turn ∈ past, acceptsToken turn.state.hooks authorization = false
  | .failed (.payloadTooLarge field max) =>
    validateRequest req = some (.error (.payloadTooLarge field max))
  | .failed .channelClosed => ∃ turn ∈ past, turn.state.isClosed = true

/-- What a call may do after what it has done: a request queues its own message once it is
admitted, and is answered once. -/
def Allows : Call → Op → List Turn → Prop
  | .request authorization req, .send msg, past =>
    Admitted authorization req past ∧ ∃ requestId, msg = inbound req requestId
  | .request authorization req, .reply reply, past =>
    pick reply? past = [] ∧ Because authorization req past reply
  | .request _ _, .updateConfig _, _ | .request _ _, .receive, _ | .request _ _, .close, _ => False
  | .message msg, o, _ => o = .send msg
  | .reload hooks, o, _ => o = .updateConfig hooks
  | .receive, o, _ => o = .receive
  | .close, o, _ => o = .close
  | _, _, _ => True

def Ends : Call → List Turn → Prop
  | .request _ req, past =>
    pick put? past =
      pick (fun reply ↦ reply.response.requestId.map (inbound req)) (pick reply? past)
  | _, _ => True

/-- What is known of a run: the hooks at each turn are those in force, each turn is one of one call
and right for it, and the gateway has taken what was queued, in order and up to what is still there,
or was lost when it stopped. -/
structure Accounted (start : WebhookHandler) (c : Config Endpoint InFlight Happening) : Prop where
  inForce : Machine.EachFits (InForce start) [] c.history
  turns : Machine.EachFits (Threads.Fits Allows Ends) [] c.history
  dones_perm : (Threads.dones c.history).Perm
    ((Threads.pasts c.history).flatten ++ c.inFlight.flatMap Thread.past)
  queued : ∃ lost, pick taken? (Threads.dones c.history) ++ (c.shared.queue ++ lost) =
    pick put? (Threads.dones c.history) ∧ (c.shared.isClosed = false → lost = [])
  capacity : c.shared.queue.length ≤ capacity

end Accounts

section Queue

structure Counted (start : WebhookHandler) (h : List Happening) (g : Endpoint) : Prop where
  hooks : g.hooks = hooksOf start h
  inForce : Machine.EachFits (InForce start) [] h
  queued : ∃ lost, pick taken? (Threads.dones h) ++ (g.queue ++ lost) =
    pick put? (Threads.dones h) ∧ (g.isClosed = false → lost = [])
  capacity : g.queue.length ≤ capacity

variable {start : WebhookHandler} {h : List Happening} {g : Endpoint} {k : Call} {o : Op}
  {i : Moment}

theorem hooks_exec (o : Op) (i : Moment) (g : Endpoint) :
    (exec o i g).1.hooks = hooksAfter g.hooks ⟨g, o, (exec o i g).2⟩ := by
  cases o with
  | send msg =>
    unfold exec
    dsimp only
    split
    · rfl
    · split <;> rfl
  | receive =>
    unfold exec
    dsimp only
    split <;> rfl
  | _ => rfl

theorem queue_exec (o : Op) (i : Moment) (g : Endpoint) (lost : List Inbound)
    (hlost : g.isClosed = false → lost = []) :
    ∃ lost', (taken? ⟨g, o, (exec o i g).2⟩).toList ++ ((exec o i g).1.queue ++ lost') =
        g.queue ++ lost ++ (put? ⟨g, o, (exec o i g).2⟩).toList ∧
      ((exec o i g).1.isClosed = false → lost' = []) := by
  cases o with
  | send msg =>
    unfold exec
    dsimp only
    split
    · exact ⟨lost, by simp [taken?, put?], hlost⟩
    · split
      next hclosed => exact ⟨lost, by simp [taken?, put?], hlost⟩
      next hclosed =>
        obtain rfl := hlost (Bool.eq_false_iff.mpr hclosed)
        exact ⟨[], by simp [taken?, put?], fun _ ↦ rfl⟩
  | receive =>
    unfold exec
    dsimp only
    split
    next hqueue => exact ⟨lost, by simp [taken?, put?, hqueue], hlost⟩
    next msg queue hqueue => exact ⟨lost, by simp [taken?, put?, hqueue], hlost⟩
  | close => exact ⟨g.queue ++ lost, by simp [exec, taken?, put?], nofun⟩
  | _ => exact ⟨lost, by simp [exec, taken?, put?], hlost⟩

theorem length_queue_exec (hcapacity : g.queue.length ≤ capacity)
    (hroom : ∀ msg, o = .send msg →
      g.queue.length < capacity ∨ g.isClosed = true ∨ i.isGone = true) :
    (exec o i g).1.queue.length ≤ capacity := by
  cases o with
  | send msg =>
    have hroom' := hroom msg rfl
    unfold exec
    dsimp only
    split
    · exact hcapacity
    next hgone =>
      split
      · exact hcapacity
      next hclosed =>
        have hlt : g.queue.length < capacity := by simpa [hgone, hclosed] using hroom'
        rw [List.length_append]
        exact hlt
  | receive =>
    unfold exec
    dsimp only
    split
    next hqueue => exact hcapacity
    next msg queue hqueue =>
      rw [hqueue] at hcapacity
      exact (Nat.le_succ _).trans hcapacity
  | close => exact Nat.zero_le _
  | _ => exact hcapacity

theorem Counted.exec (hc : Counted start h g)
    (hroom : ∀ msg, o = .send msg →
      g.queue.length < Webhook.capacity ∨ g.isClosed = true ∨ i.isGone = true) :
    Counted start (h ++ [.did k ⟨g, o, (exec o i g).2⟩]) (exec o i g).1 := by
  have hdones : Threads.dones (h ++ [.did k ⟨g, o, (Webhook.exec o i g).2⟩]) =
      Threads.dones h ++ [⟨g, o, (Webhook.exec o i g).2⟩] := by simp [Threads.dones]
  refine ⟨?_, (Machine.eachFits_append _).mpr ⟨hc.inForce, hc.hooks, trivial⟩, ?_,
    length_queue_exec hc.capacity hroom⟩
  · rw [hooks_exec, hooksOf, hdones, List.foldl_concat, ← hooksOf, hc.hooks]
  · obtain ⟨lost, hqueued, hlost⟩ := hc.queued
    obtain ⟨lost', hmoved, hlost'⟩ := queue_exec o i g lost hlost
    refine ⟨lost', ?_, hlost'⟩
    rw [hdones, pick_append, pick_append, pick_cons, pick_cons, pick_nil, pick_nil, List.append_nil,
      List.append_nil, ← hqueued, List.append_assoc, List.append_assoc, hmoved]

theorem Counted.returned {past : List Turn} (hc : Counted start h g) :
    Counted start (h ++ [.returned k past]) g := by
  have hdones : Threads.dones (h ++ [.returned k past]) = Threads.dones h := by
    simp [Threads.dones]
  refine ⟨?_, (Machine.eachFits_append _).mpr ⟨hc.inForce, trivial, trivial⟩, ?_, hc.capacity⟩
  · rw [hooksOf, hdones]
    exact hc.hooks
  · rw [hdones]
    exact hc.queued

end Queue

section Courses

variable {authorization : Option String} {req : WebhookRequest} {past : List Turn}

theorem follows_reply {reply : Reply} (hnone : pick reply? past = [])
    (hbecause : Because authorization req past reply)
    (hput : pick put? past = (reply.response.requestId.map (inbound req)).toList) :
    (call (.reply reply)).Follows (Threads.genuine exec (Allows (.request authorization req)))
      (fun _ ↦ Ends (.request authorization req)) past := by
  refine ⟨⟨hnone, hbecause⟩, fun _ past' hmoves ↦ ?_⟩
  obtain ⟨g, i, -, rfl⟩ := hmoves
  simp [Script.Follows, Ends, put?, reply?, hnone, hput]

theorem closed_of_send {msg : Inbound} {i : Moment} {g : Endpoint}
    (h : (exec (.send msg) i g).2 = .closed) : g.isClosed = true := by
  unfold exec at h
  dsimp only at h
  split at h
  · cases h
  · split at h
    · assumption
    · cases h

theorem follows_processRequest (hchecked : Checked authorization past) (hput : pick put? past = [])
    (hreply : pick reply? past = []) :
    (processRequest req).Follows (Threads.genuine exec (Allows (.request authorization req)))
      (fun _ ↦ Ends (.request authorization req)) past := by
  unfold processRequest
  split
  next =>
    change pick put? past = pick _ (pick reply? past)
    rw [hput, hreply, pick_nil]
  next e herror =>
    cases e with
    | payloadTooLarge field max => exact follows_reply hreply herror hput
    | channelClosed => exact absurd herror (validateRequest_ne_closed req)
  next hvalid =>
    refine Script.follows_perform trivial fun requestId past' hmoves ↦ ?_
    obtain ⟨g, i, -, rfl⟩ := hmoves
    have hadmitted : Admitted authorization req (past ++ [⟨g, .newId, requestId⟩]) := by
      obtain ⟨t₁, t₂, t₃, hsublist, hchecks⟩ := hchecked
      exact ⟨⟨t₁, t₂, t₃, hsublist.trans (List.sublist_append_left _ _), hchecks⟩,
        (validateRequest_eq_ok_iff req).mp hvalid⟩
    refine Script.follows_perform ⟨hadmitted, requestId, rfl⟩ fun sending past' hmoves ↦ ?_
    obtain ⟨g', i', hsending, rfl⟩ := hmoves
    cases sending with
    | sent =>
      refine follows_reply ?_ ?_ ?_
      · simp [hreply, reply?]
      · simp [Because, hput, put?]
      · simp [hput, put?, Reply.response]
    | closed =>
      refine follows_reply ?_ ⟨_, List.mem_concat_self, closed_of_send hsending.symm⟩ ?_
      · simp [hreply, reply?]
      · simp [hput, put?, Reply.response]
    | abandoned =>
      change pick put? _ = pick _ (pick reply? _)
      simp [hput, hreply, put?, reply?]

theorem follows_webhookRoute (authorization : Option String) (req : WebhookRequest) :
    (webhookRoute authorization req).Follows
      (Threads.genuine exec (Allows (.request authorization req)))
      (fun _ ↦ Ends (.request authorization req)) [] := by
  refine Script.follows_perform trivial fun isPermitted past hmoves ↦ ?_
  obtain ⟨g₁, i₁, h₁, rfl⟩ := hmoves
  cases isPermitted with
  | false => exact follows_reply rfl ⟨_, List.mem_singleton.mpr rfl, rfl, i₁.elapsed, h₁.symm⟩ rfl
  | true =>
    refine Script.follows_perform trivial fun isEnabled past hmoves ↦ ?_
    obtain ⟨g₂, i₂, h₂, rfl⟩ := hmoves
    cases isEnabled with
    | false => exact follows_reply rfl ⟨_, List.mem_concat_self, h₂.symm⟩ rfl
    | true =>
      refine Script.follows_perform trivial fun isValid past hmoves ↦ ?_
      obtain ⟨g₃, i₃, h₃, rfl⟩ := hmoves
      cases isValid with
      | false => exact follows_reply rfl ⟨_, List.mem_concat_self, h₃.symm⟩ rfl
      | true =>
        refine follows_processRequest ?_ rfl rfl
        exact ⟨_, _, _, .refl _, ⟨rfl, i₁.elapsed, h₁.symm⟩, h₂.symm, h₃.symm⟩

theorem follows_code (k : Call) :
    (code k).Follows (Threads.genuine exec (Allows k)) (fun _ ↦ Ends k) [] := by
  cases k with
  | request authorization req => exact follows_webhookRoute authorization req
  | message msg => exact Script.follows_perform rfl fun _ _ _ ↦ trivial
  | reload hooks => exact ⟨rfl, fun _ _ _ ↦ trivial⟩
  | receive => exact Script.follows_perform rfl fun _ _ _ ↦ trivial
  | close => exact ⟨rfl, fun _ _ _ ↦ trivial⟩

end Courses

theorem accounted_of_endpoint {hooks : WebhookHandler} {now : ℤ}
    {c : Config Endpoint InFlight Happening}
    (h : Run endpoint CanGo (initial (.new hooks now)) c) : Accounted hooks c := by
  have hcounted : Counted hooks c.history c.shared := by
    refine Threads.invariant_of_allowed (I := fun c ↦ Counted hooks c.history c.shared)
      (Q := fun _ ↦ True) h (fun _ _ ↦ trivial) ?_ (fun k _ _ hI ↦ hI) (fun _ hI ↦ hI.returned) ?_
    · exact ⟨rfl, trivial, ⟨[], rfl, fun _ ↦ rfl⟩, Nat.zero_le _⟩
    · intro s l r h k past o next i hgo _ hI
      refine hI.exec fun msg hmsg ↦ ?_
      subst hmsg
      exact hgo
  exact ⟨hcounted.inForce, Threads.eachFits_of_run follows_code h, Threads.dones_perm h,
    hcounted.queued, hcounted.capacity⟩

def race : List (Move Call Moment) :=
  let soon : Moment := ⟨1, "id", false⟩
  [.call (.request none ⟨"hi", none, none, none⟩), .act 0 soon, .act 0 soon,
    .call (.reload ⟨false, none⟩), .act 1 soon, .act 0 soon, .act 0 soon, .act 0 soon, .act 0 soon]

theorem accounted_of_endpoint_race : ∃ c,
    play endpoint (initial (.new ⟨true, some "s3cret"⟩ 0)) race = some c ∧
      c.shared.queue.map (·.text) = ["hi"] ∧ Accounted ⟨true, some "s3cret"⟩ c := by
  have hpermits : Permits endpoint CanGo (initial (.new ⟨true, some "s3cret"⟩ 0)) race :=
    .intro trivial <| .intro trivial <| .intro trivial <| .intro trivial <| .intro trivial <|
      .intro trivial <| .intro trivial <| .intro (.inl (by decide)) <| .intro trivial trivial
  exact ⟨_, rfl, rfl, accounted_of_endpoint (run_of_permits hpermits rfl)⟩

end AdkGateway.GatewayRoutes.Webhook
