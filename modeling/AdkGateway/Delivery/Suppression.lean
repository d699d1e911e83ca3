import AdkGateway.Cron.Trigger
import AdkGateway.Delivery.Convergence
import AdkGateway.Delivery.Lossless
import AdkGateway.EventStream.Collector
import AdkGateway.Foundation.Lowercase

namespace AdkGateway.Delivery

open EventStream Foundation Text

/-- What a channel is asked for, whatever it answers. -/
inductive Request
  | send (text : String)
  | edit (text : String)
  deriving DecidableEq

namespace Request

def text : Request → String
  | send text => text
  | edit text => text

end Request

namespace StreamingDelivery

def throttled (d : StreamingDelivery) (o : Outcomes) : Bool :=
  d.sentMessageId.isSome &&
    (d.lastEdit.map fun last ↦ decide (o.now - last < d.editInterval)).getD false

def editRequests (d : StreamingDelivery) (text : String) (o : Outcomes) : List Request :=
  .edit text :: match o.edited with
    | .ok () => []
    | .error e =>
      if contains e "message is not modified" then []
      else [.edit (if d.latestText.isEmpty then text else d.latestText)]

def partialRequests (d : StreamingDelivery) (text : String) (o : Outcomes) : List Request :=
  if d.throttled o then []
  else if d.sentMessageId.isNone then [.send text]
  else editRequests { d with latestText := text } text o

def completeRequests (d : StreamingDelivery) (text : String) (o : Outcomes) : List Request :=
  if d.sentMessageId.isNone then [.send text]
  else editRequests { d with latestText := text } text o

def pushed (msgRef : MessageRef) :
    List (String × Outcomes) → StreamingDelivery → Chat → List Request
  | [], _, _ => []
  | (text, o) :: calls, d, chat =>
    let next := (d.onPartial chat text msgRef o).2
    d.partialRequests text o ++ pushed msgRef calls next.1 next.2

/-- The operations for the chunks, up to the first that fails. -/
def completed (msgRef : MessageRef) :
    List (String × Outcomes) → StreamingDelivery → Chat → List Request
  | [], _, _ => []
  | (text, o) :: calls, d, chat =>
    d.completeRequests text o ++ match d.onComplete chat text msgRef o with
      | (.ok (), d, chat) => completed msgRef calls d chat
      | (.error _, _, _) => []

variable {d : StreamingDelivery} {chat : Chat} {msgRef : MessageRef} {text : String} {o : Outcomes}

theorem text_of_editRequests (hlatest : d.latestText = text) :
    ∀ q ∈ d.editRequests text o, q.text = text := by
  intro q hq
  have hretry : (if d.latestText.isEmpty then text else d.latestText) = text := by
    rw [hlatest, ite_self]
  rw [editRequests, hretry] at hq
  rcases List.mem_cons.mp hq with rfl | hq
  · rfl
  · split at hq
    · cases hq
    · split at hq
      · cases hq
      · rw [List.mem_singleton.mp hq]
        rfl

theorem forall_partialRequests_iff (P : String → Prop) :
    (∀ q ∈ d.partialRequests text o, P q.text) ↔ d.throttled o = true ∨ P text := by
  rw [partialRequests]
  by_cases hthrottled : d.throttled o = true
  · rw [if_pos hthrottled]
    exact iff_of_true (by simp) (.inl hthrottled)
  rw [if_neg hthrottled, or_iff_right hthrottled]
  by_cases hnone : d.sentMessageId.isNone = true
  · rw [if_pos hnone, List.forall_mem_singleton]
    rfl
  · rw [if_neg hnone]
    refine ⟨fun h ↦ h (.edit text) List.mem_cons_self, fun h q hq ↦ ?_⟩
    rwa [text_of_editRequests rfl q hq]

theorem mem_edit {msg : EditMessage} {answer : Except String Unit} {m : ChatMessage}
    (h : m ∈ (edit chat msg answer).2) : (∃ m' ∈ chat, m'.text = m.text) ∨ msg.text = m.text := by
  cases answer with
  | error e => exact .inl ⟨m, h, rfl⟩
  | ok u =>
    obtain ⟨m', hm', rfl⟩ := List.mem_map.mp h
    split
    · exact .inr rfl
    · exact .inl ⟨m', hm', rfl⟩

theorem mem_tryEdit {messageId : String} {m : ChatMessage}
    (h : m ∈ (d.tryEdit chat msgRef text messageId o).2) :
    (∃ m' ∈ chat, m'.text = m.text) ∨ ∃ q ∈ d.editRequests text o, q.text = m.text := by
  unfold tryEdit at h
  cases hedited : o.edited with
  | ok u =>
    rw [hedited] at h
    have hedit : m ∈ (edit chat ⟨msgRef.channelType, msgRef.accountId, messageId,
        msgRef.recipientId, text⟩ (.ok u)).2 := h
    rcases mem_edit hedit with hold | hnew
    · exact .inl hold
    · exact .inr ⟨.edit text, List.mem_cons_self, hnew⟩
  | error e =>
    simp only [hedited, edit_error] at h
    split at h
    case isTrue => exact .inl ⟨m, h, rfl⟩
    case isFalse hcontains =>
      rcases mem_edit h with hold | hnew
      · exact .inl hold
      · refine .inr ⟨.edit _, ?_, hnew⟩
        rw [editRequests, hedited]
        simp only [hcontains, Bool.false_eq_true, if_false]
        exact List.mem_cons_of_mem _ List.mem_cons_self

theorem mem_onPartial {m : ChatMessage} (h : m ∈ (d.onPartial chat text msgRef o).2.2) :
    (∃ m' ∈ chat, m'.text = m.text) ∨ ∃ q ∈ d.partialRequests text o, q.text = m.text := by
  unfold onPartial at h
  cases hsent : d.sentMessageId with
  | none =>
    have hrequests : d.partialRequests text o = [.send text] := by
      simp [partialRequests, throttled, hsent]
    rw [hrequests]
    simp only [hsent] at h
    cases ho : o.sent with
    | error e =>
      simp only [ho, send] at h
      exact .inl ⟨m, h, rfl⟩
    | ok id =>
      simp only [ho, send] at h
      rcases List.mem_append.mp h with hold | hnew
      · exact .inl ⟨m, hold, rfl⟩
      · rw [List.mem_singleton.mp hnew]
        exact .inr ⟨.send text, List.mem_cons_self, rfl⟩
  | some messageId =>
    simp only [hsent] at h
    split at h
    case isTrue => exact .inl ⟨m, h, rfl⟩
    case isFalse hopen =>
      have hrequests : d.partialRequests text o =
          editRequests { d with latestText := text } text o := by
        rw [partialRequests, throttled, hsent]
        simp only [Option.isSome_some, Bool.true_and, hopen, Bool.false_eq_true, if_false,
          Option.isNone_some]
      rw [hrequests]
      exact mem_tryEdit h

theorem mem_partials (calls : List (String × Outcomes)) {m : ChatMessage}
    (h : m ∈ (partials msgRef calls).2) : ∃ q ∈ pushed msgRef calls new [], q.text = m.text := by
  have hrun : ∀ (calls : List (String × Outcomes)) (d : StreamingDelivery) (chat : Chat),
      m ∈ (calls.foldl (fun st call ↦ (st.1.onPartial st.2 call.1 msgRef call.2).2) (d, chat)).2 →
        (∃ m' ∈ chat, m'.text = m.text) ∨ ∃ q ∈ pushed msgRef calls d chat, q.text = m.text := by
    intro calls
    induction calls with
    | nil => exact fun d chat h ↦ .inl ⟨m, h, rfl⟩
    | cons call calls ih =>
      intro d chat h
      obtain ⟨m', hm', htext⟩ | ⟨q, hq, htext⟩ := ih _ _ h
      · rw [← htext]
        rcases mem_onPartial hm' with hold | ⟨q, hq, hnew⟩
        · exact .inl hold
        · exact .inr ⟨q, List.mem_append_left _ hq, hnew⟩
      · exact .inr ⟨q, List.mem_append_right _ hq, htext⟩
  rcases hrun calls new [] h with ⟨m', hm', -⟩ | hpushed
  · cases hm'
  · exact hpushed

theorem completeRequests_succeed (ho : o.Succeed) :
    (d.completeRequests text o).map Request.text = [text] ∧
      ∃ d' chat', d.onComplete chat text msgRef o = (.ok (), d', chat') := by
  obtain ⟨id, hsent⟩ := ho.sent
  rw [completeRequests, onComplete]
  cases d.sentMessageId with
  | none => exact ⟨rfl, _, _, by simp only [hsent, send]; rfl⟩
  | some messageId =>
    refine ⟨?_, _, _, by simp only [tryEdit, edit, ho.edited]; rfl⟩
    rw [if_neg (by simp), editRequests, ho.edited]
    rfl

/-- Calls that do not fail ask for each chunk. -/
theorem text_completed {calls : List (String × Outcomes)} (hcalls : ∀ call ∈ calls, call.2.Succeed)
    (d : StreamingDelivery) (chat : Chat) :
    (completed msgRef calls d chat).map Request.text = calls.map Prod.fst := by
  induction calls generalizing d chat with
  | nil => rfl
  | cons call calls ih =>
    obtain ⟨text, o⟩ := call
    obtain ⟨hcall, hcalls⟩ := List.forall_mem_cons.mp hcalls
    obtain ⟨htext, d', chat', hok⟩ := @completeRequests_succeed d chat msgRef text o hcall
    rw [completed, List.map_append, htext, hok, List.map_cons]
    exact congrArg (text :: ·) (ih hcalls d' chat')

end StreamingDelivery

namespace BatchDelivery

def completed : List (String × Outcomes) → List Request
  | [] => []
  | (text, o) :: calls =>
    .send text :: match o.sent with
      | .ok _ => completed calls
      | .error _ => []

theorem text_completed {calls : List (String × Outcomes)}
    (hcalls : ∀ call ∈ calls, call.2.Succeed) :
    (completed calls).map Request.text = calls.map Prod.fst := by
  induction calls with
  | nil => rfl
  | cons call calls ih =>
    obtain ⟨text, o⟩ := call
    obtain ⟨hcall, hcalls⟩ := List.forall_mem_cons.mp hcalls
    obtain ⟨⟨id, hsent⟩, -⟩ := hcall
    rw [completed, hsent, List.map_cons, List.map_cons, ih hcalls]
    rfl

end BatchDelivery

section Scheduled

/-- `select_strategy`: whether it is the streaming one -/
def useStreaming (supportsEditing : Bool) (streamMode : Option String) : Bool :=
  supportsEditing && (streamMode.map fun m ↦ m != "complete").getD true

/-- What stands for the text of the agent where it gave none. -/
def finalResponse (collected : CollectedResponse) : String :=
  if collected.text.isEmpty then
    if collected.maxIterationsReached then
      "I hit the maximum processing limit" ++
        (collected.iterationCount.map fun c ↦ " after " ++ toString c ++ " iterations").getD "" ++
        " while working on your request. The task may be too complex for a single message " ++
        "— try breaking it into smaller steps."
    else if collected.toolCalls ≠ [] then
      "I completed the requested actions but didn't generate a text summary. " ++
        "Let me know if you need details about what was done."
    else
      "I received your message but couldn't generate a response. " ++
        "This may be a temporary issue — please try again."
  else collected.text

/-- The run of a job: the config and the channel, the events of the agent, and what comes of the
operations for the partial texts, and when. -/
structure ScheduledRun where
  w : Cron.Surroundings
  jobId : String
  channelType : ChannelType
  supportsEditing : Bool
  streamMode : Option String
  msgRef : MessageRef
  stream : List (Except AgentError Event)
  duration : ℕ
  outcomes : ℕ → Outcomes

def callsFor (outcomes : ℕ → Outcomes) (texts : List String) : List (String × Outcomes) :=
  texts.zipIdx.map fun (text, i) ↦ (text, outcomes i)

namespace ScheduledRun

variable (r : ScheduledRun)

def streaming : Bool := useStreaming r.supportsEditing r.streamMode

def collected : Option CollectedResponse × List String := collectInner r.stream r.duration

def response : Option String := r.collected.1.map finalResponse

def calls : List (String × Outcomes) := callsFor r.outcomes r.collected.2

def pushed : List Request :=
  if r.streaming then StreamingDelivery.pushed r.msgRef r.calls .new [] else []

def suppresses (response : String) : Bool :=
  (r.w.suppressKeyword r.jobId).any (r.w.isSuppressed · response)

/-- Nothing more is asked for where the splitting panics. -/
def completed (outcomes : ℕ → Outcomes) (response : String) : List Request :=
  let chunks := (splitMessage response r.channelType.maxMessageLength).getD []
  if r.streaming then
    let st := StreamingDelivery.partials r.msgRef r.calls
    StreamingDelivery.completed r.msgRef (callsFor outcomes chunks) st.1 st.2
  else BatchDelivery.completed (callsFor outcomes chunks)

def issued (outcomes : ℕ → Outcomes) : List Request :=
  r.pushed ++ match r.response with
    | none => []
    | some response => if r.suppresses response then [] else r.completed outcomes response

end ScheduledRun

end Scheduled

section Property

variable (r : ScheduledRun)

def CarriesPart (text response : String) : Prop :=
  ∃ part : List Char, part ≠ [] ∧ part <:+: response.toList ∧ part <:+: text.toList

structure Unrelated (w : Cron.Surroundings) (keyword response : String) : Prop where
  ne : (w.toLowercase (trim response)).toList ≠ (w.toLowercase keyword).toList
  starts : ¬ (w.toLowercase keyword).toList <+: (w.toLowercase (trim response)).toList
  ends : ¬ (w.toLowercase keyword).toList <:+ (w.toLowercase (trim response)).toList
  within : ¬ (w.toLowercase (trim response)).toList <+: (w.toLowercase keyword).toList

def NeverSeen : Prop :=
  ∀ response, r.response = some response → r.suppresses response = true →
    ∀ outcomes, ∀ q ∈ r.issued outcomes, ¬ CarriesPart q.text response

def Relevant (response : String) : Prop :=
  r.response = some response ∧ 5 < byteLength (trim response).toList ∧
    ∃ keyword, r.w.suppressKeyword r.jobId = some keyword ∧ Unrelated r.w keyword response

/-- The response is asked for, with nothing left out but space, by calls that do not fail. -/
def Delivered : Prop :=
  ∀ response, Relevant r response → ∀ outcomes : ℕ → Outcomes, (∀ i, (outcomes i).Succeed) →
    ∃ requests, r.issued outcomes = r.pushed ++ requests ∧
      Rejoins (requests.map Request.text) response.toList

def Quiet (msgRef : MessageRef) (response : String) :
    List (String × Outcomes) → StreamingDelivery → Chat → Prop
  | [], _, _ => True
  | (text, o) :: calls, d, chat =>
    (d.throttled o = true ∨ ¬ CarriesPart text response) ∧
      Quiet msgRef response calls (d.onPartial chat text msgRef o).2.1
        (d.onPartial chat text msgRef o).2.2

structure StaysQuiet : Prop where
  quiet : ∀ response, r.response = some response → r.suppresses response = true →
    r.streaming = true → Quiet r.msgRef response r.calls .new []
  fits : ∀ response, Relevant r response →
    Fits (r.channelType.maxMessageLength - 1) response.toList

end Property

section Theorems

variable {r : ScheduledRun} {msgRef : MessageRef} {response : String}

theorem carriesPart_iff {text : String} :
    CarriesPart text response ↔ ∃ c ∈ response.toList, c ∈ text.toList := by
  constructor
  · intro h
    obtain ⟨part, hne, hresponse, htext⟩ := h
    obtain ⟨c, hc⟩ := List.exists_mem_of_ne_nil part hne
    exact ⟨c, hresponse.subset hc, htext.subset hc⟩
  · intro h
    obtain ⟨c, hresponse, htext⟩ := h
    exact ⟨[c], List.cons_ne_nil _ _, (List.singleton_infix_iff c _).mpr hresponse,
      (List.singleton_infix_iff c _).mpr htext⟩

theorem forall_pushed_iff (calls : List (String × Outcomes)) (d : StreamingDelivery) (chat : Chat) :
    (∀ q ∈ StreamingDelivery.pushed msgRef calls d chat, ¬ CarriesPart q.text response) ↔
      Quiet msgRef response calls d chat := by
  induction calls generalizing d chat with
  | nil => exact iff_of_true (fun q hq ↦ by cases hq) trivial
  | cons call calls ih =>
    obtain ⟨text, o⟩ := call
    rw [StreamingDelivery.pushed, List.forall_mem_append, Quiet, ih]
    exact and_congr_left' (StreamingDelivery.forall_partialRequests_iff (¬ CarriesPart · response))

theorem not_suppresses (h : Relevant r response) : r.suppresses response = false := by
  obtain ⟨-, hlong, keyword, hkeyword, hunrelated⟩ := h
  rw [ScheduledRun.suppresses, hkeyword, Option.any_some, Cron.Surroundings.isSuppressed]
  simp only [Bool.or_eq_false_iff, Bool.and_eq_false_imp, decide_eq_true_eq, beq_eq_false_iff_ne]
  refine ⟨⟨⟨⟨hunrelated.ne, ?_⟩, ?_⟩, ?_⟩, fun hshort ↦ absurd hshort (by omega)⟩
  · exact Bool.eq_false_iff.mpr fun hyes ↦ hunrelated.starts (List.isPrefixOf_iff_prefix.mp hyes)
  · exact Bool.eq_false_iff.mpr fun hyes ↦ hunrelated.ends (List.isSuffixOf_iff_suffix.mp hyes)
  · exact Bool.eq_false_iff.mpr fun hyes ↦ hunrelated.within (List.isPrefixOf_iff_prefix.mp hyes)

theorem neverSeen_iff : NeverSeen r ↔ ∀ response, r.response = some response →
    r.suppresses response = true → r.streaming = true →
      Quiet r.msgRef response r.calls .new [] := by
  refine forall_congr' fun response ↦ forall_congr' fun hresponse ↦ forall_congr' fun hyes ↦ ?_
  have hissued : ∀ outcomes, r.issued outcomes = r.pushed := by
    intro outcomes
    rw [ScheduledRun.issued, hresponse]
    simp only [if_pos hyes, List.append_nil]
  simp only [hissued, ScheduledRun.pushed]
  by_cases hstreaming : r.streaming = true
  · rw [if_pos hstreaming, forall_pushed_iff]
    exact ⟨fun h _ ↦ h r.outcomes, fun h _ ↦ h hstreaming⟩
  · rw [if_neg hstreaming]
    exact iff_of_true (fun _ q hq ↦ by cases hq) fun h ↦ absurd h hstreaming

theorem callsFor_fst (outcomes : ℕ → Outcomes) (texts : List String) :
    (callsFor outcomes texts).map Prod.fst = texts := by
  rw [callsFor, List.map_map]
  exact List.zipIdx_map_fst 0 texts

theorem succeed_callsFor {outcomes : ℕ → Outcomes} (h : ∀ i, (outcomes i).Succeed)
    (texts : List String) : ∀ call ∈ callsFor outcomes texts, call.2.Succeed := by
  intro call hcall
  obtain ⟨⟨text, i⟩, -, rfl⟩ := List.mem_map.mp hcall
  exact h i

theorem text_completed {outcomes : ℕ → Outcomes} (h : ∀ i, (outcomes i).Succeed)
    (response : String) : (r.completed outcomes response).map Request.text =
      (splitMessage response r.channelType.maxMessageLength).getD [] := by
  have hcalls := succeed_callsFor h
    ((splitMessage response r.channelType.maxMessageLength).getD [])
  rw [ScheduledRun.completed]
  dsimp only
  split_ifs
  · rw [StreamingDelivery.text_completed hcalls, callsFor_fst]
  · rw [BatchDelivery.text_completed hcalls, callsFor_fst]

/-- The chunks are the text again just if a character begins wherever one may have to end. -/
theorem rejoins_splitMessage_iff {text : String} {n : ℕ} (hne : text ≠ "") :
    Rejoins ((splitMessage text (n + 1)).getD []) text.toList ↔ Fits n text.toList := by
  rw [splitMessage]
  by_cases hshort : byteLength text.toList ≤ n + 1
  · rw [if_pos hshort]
    have hjoin := @Rejoins.cons text [] [] [] (fun c hc ↦ by cases hc) Rejoins.nil
    rw [List.append_nil, List.append_nil] at hjoin
    exact iff_of_true hjoin (.short hshort)
  rw [if_neg hshort]
  constructor
  · intro h
    cases hchunks : splitLoop n text.toList with
    | none =>
      rw [hchunks] at h
      generalize hchars : text.toList = cs at h
      cases h
      exact absurd (String.toList_eq_nil_iff.mp hchars) hne
    | some chunks => exact fits_of_splitLoop hchunks
  · intro h
    obtain ⟨chunks, hchunks, -, hjoin⟩ := lossless_of_fits h
    rw [hchunks]
    exact hjoin

theorem delivered_iff : Delivered r ↔ ∀ response, Relevant r response →
    Fits (r.channelType.maxMessageLength - 1) response.toList := by
  refine forall_congr' fun response ↦ forall_congr' fun hrelevant ↦ ?_
  have hissued : ∀ outcomes, r.issued outcomes = r.pushed ++ r.completed outcomes response := by
    intro outcomes
    rw [ScheduledRun.issued, hrelevant.1]
    simp only [not_suppresses hrelevant, Bool.false_eq_true, if_false]
  have hne : response ≠ "" := by
    intro heq
    have hlong := hrelevant.2.1
    rw [heq] at hlong
    exact absurd hlong (by decide)
  have hmax : r.channelType.maxMessageLength = r.channelType.maxMessageLength - 1 + 1 := by
    cases r.channelType <;> rfl
  rw [← rejoins_splitMessage_iff hne, ← hmax]
  constructor
  · intro h
    have hsucceed : (⟨0, .ok none, 0, .ok (), .ok ()⟩ : Outcomes).Succeed := ⟨⟨none, rfl⟩, rfl⟩
    obtain ⟨requests, heq, hjoin⟩ := h (fun _ ↦ _) fun _ ↦ hsucceed
    rw [hissued, List.append_cancel_left_eq] at heq
    rwa [← heq, text_completed fun _ ↦ hsucceed] at hjoin
  · intro h outcomes hsucceed
    refine ⟨r.completed outcomes response, hissued outcomes, ?_⟩
    rwa [text_completed hsucceed]

/-- A suppressed response is never seen, and an unrelated one is delivered, just if the run stays
quiet. -/
theorem neverSeen_and_delivered_iff (r : ScheduledRun) :
    (NeverSeen r ∧ Delivered r) ↔ StaysQuiet r := by
  rw [neverSeen_iff, delivered_iff]
  exact ⟨fun h ↦ ⟨h.1, h.2⟩, fun h ↦ ⟨h.quiet, h.fits⟩⟩

theorem quiet_of_forall {calls : List (String × Outcomes)}
    (h : ∀ call ∈ calls, ¬ CarriesPart call.1 response) (d : StreamingDelivery) (chat : Chat) :
    Quiet msgRef response calls d chat := by
  induction calls generalizing d chat with
  | nil => trivial
  | cons call calls ih =>
    obtain ⟨hcall, hcalls⟩ := List.forall_mem_cons.mp h
    exact ⟨.inr hcall, ih hcalls _ _⟩

/-- As long as every send fails there is nothing to edit, and each partial text is sent. -/
theorem forall_of_quiet {calls : List (String × Outcomes)}
    (hfail : ∀ call ∈ calls, call.2.sent = .error "") {d : StreamingDelivery} {chat : Chat}
    (hnone : d.sentMessageId = none) (h : Quiet msgRef response calls d chat) :
    ∀ call ∈ calls, ¬ CarriesPart call.1 response := by
  induction calls generalizing d chat with
  | nil => exact fun call hcall ↦ by cases hcall
  | cons call calls ih =>
    obtain ⟨text, o⟩ := call
    obtain ⟨hsent, hfail⟩ := List.forall_mem_cons.mp hfail
    have hsent' : o.sent = .error "" := hsent
    have hopen : d.throttled o = false := by
      rw [StreamingDelivery.throttled, hnone]
      rfl
    have hstill : (d.onPartial chat text msgRef o).2.1.sentMessageId = none := by
      rw [StreamingDelivery.onPartial]
      simp only [hnone, hsent', send]
    obtain ⟨hquiet, hrest⟩ := h
    rw [List.forall_mem_cons]
    refine ⟨hquiet.resolve_left ?_, ih hfail hstill hrest⟩
    rw [hopen]
    exact Bool.false_ne_true

/-- Whatever the channel answers, and whenever, nothing of a suppressed response is seen just if the
partial texts have nothing of it, or the channel is not edited. -/
theorem forall_neverSeen_iff (r : ScheduledRun) :
    (∀ outcomes, NeverSeen { r with outcomes := outcomes }) ↔
      ∀ response, r.response = some response → r.suppresses response = true →
        r.streaming = true → ∀ text ∈ r.collected.2, ¬ CarriesPart text response := by
  have hmem (outcomes : ℕ → Outcomes) (response : String) :
      (∀ call ∈ callsFor outcomes r.collected.2, ¬ CarriesPart call.1 response) ↔
        ∀ text ∈ r.collected.2, ¬ CarriesPart text response := by
    rw [← List.forall_mem_map (f := Prod.fst) (P := (¬ CarriesPart · response)), callsFor_fst]
  constructor
  · intro h response hresponse hyes hstreaming
    have hquiet := neverSeen_iff.mp (h fun _ ↦ ⟨0, .error "", 0, .ok (), .ok ()⟩) response hresponse
      hyes hstreaming
    rw [← hmem fun _ ↦ ⟨0, .error "", 0, .ok (), .ok ()⟩]
    refine forall_of_quiet (fun call hcall ↦ ?_) rfl hquiet
    obtain ⟨⟨text, i⟩, -, rfl⟩ := List.mem_map.mp hcall
    rfl
  · intro h outcomes
    refine neverSeen_iff.mpr fun response hresponse hyes hstreaming ↦ ?_
    exact quiet_of_forall ((hmem outcomes response).mpr (h response hresponse hyes hstreaming)) _ _

end Theorems

section Example

def okEvent : Event := ⟨"agent", ⟨true, none, none, some [.text "HEARTBEAT_OK"]⟩, []⟩

def heartbeatRun : ScheduledRun where
  w := ⟨CaseTable.ascii.toLowercase, [], []⟩
  jobId := "heartbeat"
  channelType := .telegram
  supportsEditing := true
  streamMode := none
  msgRef := ⟨.telegram, "default", "1", none, none⟩
  stream := [.ok okEvent]
  duration := 0
  outcomes _ := ⟨0, .ok (some "7"), 0, .ok (), .ok ()⟩

/-- The response is sent as a partial text before it is suppressed. -/
theorem not_neverSeen_of_heartbeat : ¬ (NeverSeen heartbeatRun ∧ Delivered heartbeatRun) := by
  intro h
  have hresponse : heartbeatRun.response = some "HEARTBEAT_OK" := by decide
  have hyes : heartbeatRun.suppresses "HEARTBEAT_OK" = true := by decide
  have hsent : .send "HEARTBEAT_OK" ∈ heartbeatRun.issued heartbeatRun.outcomes := by decide
  exact h.1 _ hresponse hyes _ _ hsent (carriesPart_iff.mpr ⟨'H', by decide, by decide⟩)

end Example

end AdkGateway.Delivery
