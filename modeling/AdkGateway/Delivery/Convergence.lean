import AdkGateway.Delivery.Lossless
import AdkGateway.Delivery.Strategy

namespace AdkGateway.Delivery

open Foundation

/-- What the gateway says of a response it delivers: there is no message to edit yet. -/
def gatewayRef (channelType : ChannelType) (accountId recipientId platformMessageId : String) :
    MessageRef := ⟨channelType, accountId, recipientId, none, some platformMessageId⟩

structure Outcomes.Succeed (o : Outcomes) : Prop where
  sent : ∃ id, o.sent = .ok id
  edited : o.edited = .ok ()

namespace StreamingDelivery

/-- The calls for the partial texts; their errors are only logged. -/
def partials (msgRef : MessageRef) (calls : List (String × Outcomes)) : StreamingDelivery × Chat :=
  calls.foldl (fun st call ↦ (st.1.onPartial st.2 call.1 msgRef call.2).2) (new, [])

/-- The final calls, one for each chunk, up to the first that fails. -/
def finals (msgRef : MessageRef) : List (String × Outcomes) → StreamingDelivery → Chat → Chat
  | [], _, chat => chat
  | call :: calls, d, chat =>
    match d.onComplete chat call.1 msgRef call.2 with
    | (.ok (), d, chat) => finals msgRef calls d chat
    | (.error _, _, chat) => chat

def texts (chat : Chat) : List String := chat.map ChatMessage.text

/-- The messages whose id the channel did not tell. -/
def idless (chat : Chat) : List String := texts (chat.filter fun m ↦ m.id.isNone)

def Placed (d : StreamingDelivery) (chat : Chat) : Prop :=
  ∃ old, (∀ m ∈ old, m.id = none) ∧
    match d.sentMessageId with
    | none => chat = old
    | some id => ∃ text, chat = old ++ [⟨some id, text⟩]

variable {d : StreamingDelivery} {chat : Chat} {msgRef : MessageRef} {text : String} {o : Outcomes}

section Edits

variable {old : Chat} {id : String}

theorem edit_placeholder (hold : ∀ m ∈ old, m.id = none) (shown text : String)
    (channelType : ChannelType) (accountId recipientId : String) (u : Unit) :
    edit (old ++ [⟨some id, shown⟩]) ⟨channelType, accountId, id, recipientId, text⟩ (.ok u) =
      (.ok (), old ++ [⟨some id, text⟩]) := by
  have hkeep : (old.map fun m ↦ if m.id = some id then { m with text := text } else m) = old := by
    refine (List.map_congr_left fun m hm ↦ ?_).trans (List.map_id old)
    rw [if_neg (by simp [hold m hm]), id_eq]
  rw [edit, List.map_append, hkeep, List.map_singleton, if_pos rfl]

theorem edit_error (chat : Chat) (msg : EditMessage) (e : String) :
    edit chat msg (.error e) = (.error e, chat) := rfl

/-- Whatever an edit comes to, only the text of the placeholder can change. -/
theorem tryEdit_placeholder (hold : ∀ m ∈ old, m.id = none) (shown : String) :
    ∃ shown', (d.tryEdit (old ++ [⟨some id, shown⟩]) msgRef text id o).2 =
      old ++ [⟨some id, shown'⟩] := by
  unfold tryEdit
  cases hedited : o.edited with
  | ok u =>
    refine ⟨text, ?_⟩
    dsimp only
    rw [edit_placeholder hold]
  | error e =>
    simp only [edit_error]
    split
    · exact ⟨shown, rfl⟩
    · cases hretried : o.retried with
      | ok u =>
        refine ⟨if d.latestText.isEmpty then text else d.latestText, ?_⟩
        rw [edit_placeholder hold]
      | error e' => exact ⟨shown, rfl⟩

theorem tryEdit_succeed (hold : ∀ m ∈ old, m.id = none) (shown : String) (ho : o.Succeed) :
    d.tryEdit (old ++ [⟨some id, shown⟩]) msgRef text id o = (.ok (), old ++ [⟨some id, text⟩]) := by
  unfold tryEdit
  dsimp only
  rw [ho.edited, edit_placeholder hold]

end Edits

theorem placed_onPartial (hmid : msgRef.messageId = none) (h : d.Placed chat) :
    (d.onPartial chat text msgRef o).2.1.Placed (d.onPartial chat text msgRef o).2.2 := by
  obtain ⟨old, hold, hchat⟩ := h
  unfold onPartial
  cases hsent : d.sentMessageId with
  | none =>
    rw [hsent] at hchat
    subst hchat
    cases ho : o.sent with
    | error e => exact ⟨chat, hold, rfl⟩
    | ok sentId =>
      cases sentId with
      | none =>
        refine ⟨chat ++ [⟨none, text⟩], fun m hm ↦ ?_, by simp [send, hmid]⟩
        rcases List.mem_append.mp hm with hm | hm
        · exact hold m hm
        · rw [List.mem_singleton.mp hm]
      | some id => exact ⟨chat, hold, text, rfl⟩
  | some id =>
    rw [hsent] at hchat
    obtain ⟨shown, rfl⟩ := hchat
    dsimp only
    split
    · exact ⟨old, hold, shown, rfl⟩
    · exact ⟨old, hold, tryEdit_placeholder hold shown⟩

theorem placed_partials (hmid : msgRef.messageId = none) (calls : List (String × Outcomes)) :
    (partials msgRef calls).1.Placed (partials msgRef calls).2 :=
  List.foldlRecOn (motive := fun st : StreamingDelivery × Chat ↦ st.1.Placed st.2) calls _
    ⟨[], fun _ hm ↦ absurd hm List.not_mem_nil, rfl⟩ fun _ h _ _ ↦ placed_onPartial hmid h

/-- With no placeholder to edit, every chunk becomes a message of its own. -/
theorem texts_finals_send {calls : List (String × Outcomes)} (hsent : d.sentMessageId = none)
    (hok : ∀ call ∈ calls, call.2.Succeed) :
    texts (finals msgRef calls d chat) = texts chat ++ calls.map Prod.fst := by
  induction calls generalizing d chat with
  | nil => exact (List.append_nil _).symm
  | cons call calls ih =>
    obtain ⟨⟨⟨id, hid⟩, -⟩, hrest⟩ := List.forall_mem_cons.mp hok
    have hstep : d.onComplete chat call.1 msgRef call.2 =
        (.ok (), { d with latestText := call.1 }, chat ++ [⟨id, call.1⟩]) := by
      simp [onComplete, hsent, hid, send]
    rw [finals, hstep]
    dsimp only
    rw [ih (by exact hsent) hrest]
    simp [texts]

theorem texts_finals_edit {calls : List (String × Outcomes)} {old : Chat} {id shown : String}
    (hsent : d.sentMessageId = some id) (hold : ∀ m ∈ old, m.id = none)
    (hok : ∀ call ∈ calls, call.2.Succeed) :
    texts (finals msgRef calls d (old ++ [⟨some id, shown⟩])) =
      texts old ++ [(calls.map Prod.fst).getLastD shown] := by
  induction calls generalizing d shown with
  | nil => simp [finals, texts]
  | cons call calls ih =>
    obtain ⟨ho, hrest⟩ := List.forall_mem_cons.mp hok
    have hstep : d.onComplete (old ++ [⟨some id, shown⟩]) call.1 msgRef call.2 =
        (.ok (), { d with latestText := call.1 }, old ++ [⟨some id, call.1⟩]) := by
      simp [onComplete, hsent, tryEdit_succeed hold shown ho]
    rw [finals, hstep]
    dsimp only
    rw [ih (by exact hsent) hrest, List.map_cons, List.getLastD_cons]

theorem finals_shows_chunks_iff (channelType : ChannelType)
    (accountId recipientId platformMessageId response : String)
    (partialCalls finalCalls : List (String × Outcomes))
    (hsplit : splitMessage response channelType.maxMessageLength = some (finalCalls.map Prod.fst))
    (hok : ∀ call ∈ finalCalls, call.2.Succeed) :
    let msgRef := gatewayRef channelType accountId recipientId platformMessageId
    let before := partials msgRef partialCalls
    texts (finals msgRef finalCalls before.1 before.2) = finalCalls.map Prod.fst ↔
      idless before.2 =
        if before.1.sentMessageId.isSome then (finalCalls.map Prod.fst).dropLast else [] := by
  intro msgRef before
  have hplaced : before.1.Placed before.2 := placed_partials rfl partialCalls
  obtain ⟨old, hold, hchat⟩ := hplaced
  have hidless : idless old = texts old :=
    congrArg texts (List.filter_eq_self.mpr fun m hm ↦ by rw [hold m hm]; rfl)
  cases hsent : before.1.sentMessageId with
  | none =>
    rw [hsent] at hchat
    rw [texts_finals_send hsent hok, hchat, hidless]
    simp
  | some id =>
    rw [hsent] at hchat
    obtain ⟨shown, hchat⟩ := hchat
    have hidless' : idless before.2 = texts old := by
      rw [← hidless, hchat, idless, idless, List.filter_append]
      simp
    have hne := splitMessage_ne_nil hsplit
    have hlast : (finalCalls.map Prod.fst).getLastD shown = (finalCalls.map Prod.fst).getLast hne := by
      rw [List.getLastD_eq_getLast?, List.getLast?_eq_some_getLast hne, Option.getD_some]
    rw [hidless', hchat, texts_finals_edit hsent hold hok, hlast]
    constructor
    · intro h
      rw [← h]
      simp
    · intro h
      rw [h]
      exact List.dropLast_append_getLast hne

theorem finals_shows_chunks_once :
    let o : Outcomes := ⟨0, .ok (some "m1"), 0, .ok (), .ok ()⟩
    let before := partials (gatewayRef .telegram "default" "u" "1") [("he", o)]
    texts (finals (gatewayRef .telegram "default" "u" "1") [("hello", o)] before.1 before.2) = ["hello"] :=
  (finals_shows_chunks_iff .telegram "default" "u" "1" "hello" [("he", ⟨0, .ok (some "m1"), 0, .ok (), .ok ()⟩)]
    [("hello", ⟨0, .ok (some "m1"), 0, .ok (), .ok ()⟩)] (by decide)
    (List.forall_mem_singleton.mpr ⟨⟨_, rfl⟩, rfl⟩)).mpr rfl

/-- Slack tells no message ids: the partial text stays beside the final one. -/
theorem finals_beside_partial :
    let o : Outcomes := ⟨0, .ok none, 0, .ok (), .ok ()⟩
    let before := partials (gatewayRef .slack "default" "u" "1") [("he", o)]
    splitMessage "hello" ChannelType.slack.maxMessageLength = some ["hello"] ∧ o.Succeed ∧
      texts (finals (gatewayRef .slack "default" "u" "1") [("hello", o)] before.1 before.2) ≠ ["hello"] :=
  ⟨by decide, ⟨⟨none, rfl⟩, rfl⟩, by decide⟩

end StreamingDelivery

end AdkGateway.Delivery
