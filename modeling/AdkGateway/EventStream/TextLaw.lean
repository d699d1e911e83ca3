import AdkGateway.EventStream.Collector
import Mathlib.Data.List.Infix

namespace AdkGateway.EventStream

open Foundation

section Reference

def Part.text? : Part → Option String
  | .text s => some s
  | _ => none

namespace Event

variable (event : Event)

def text : String := String.join ((event.llmResponse.content.getD []).filterMap Part.text?)

/-- What the event of an agent has to say in the end. An error of the model is final. -/
def finalText? : Option String :=
  if event.author = "user" then none
  else
    match event.llmResponse.errorMessage with
    | some errMsg => some ("\u26a0\ufe0f Error: " ++ errMsg)
    | none => if event.llmResponse.isPartial = true ∨ event.text = "" then none else some event.text

def partialText : String :=
  if event.author ≠ "user" ∧ event.llmResponse.errorMessage = none ∧
      event.llmResponse.isPartial = true then event.text
  else ""

end Event

def lastFinal (events : List Event) : Option String := (events.filterMap Event.finalText?).getLast?

def accumulated (events : List Event) : String := String.join (events.map Event.partialText)

def referenceText (events : List Event) : String := (lastFinal events).getD (accumulated events)

def eventsOf : List (Except AgentError Event) → List Event
  | .ok event :: stream => event :: eventsOf stream
  | _ => []

def firstError : List (Except AgentError Event) → Option AgentError
  | [] => none
  | .ok _ :: stream => firstError stream
  | .error e :: _ => some e

def Extends (s t : String) : Prop := s.toList <+: t.toList ∧ s ≠ t

structure TextLaw (stream : List (Except AgentError Event)) (duration : ℕ) : Prop where
  returns : firstError stream = none → (collect stream duration).isSome
  text : ∀ response, collect stream duration = some response → firstError stream = none →
    response.text = referenceText (eventsOf stream)
  error : ∀ response e, collect stream duration = some response → firstError stream = some e →
    formatAgentError e = some response.text
  chain : (collectInner stream duration).2.Pairwise Extends

end Reference

section Events

variable {collected : Collected} {event : Event}

theorem foldl_processPart (parts : List Part) (eventText : String) (collected : Collected) :
    (parts.foldl Collected.processPart (eventText, collected)).1 =
        eventText ++ String.join (parts.filterMap Part.text?) ∧
      (parts.foldl Collected.processPart (eventText, collected)).2.lastPartialText =
        collected.lastPartialText ∧
      (parts.foldl Collected.processPart (eventText, collected)).2.finalText =
        collected.finalText := by
  induction parts generalizing eventText collected with
  | nil => exact ⟨(String.append_empty).symm, rfl, rfl⟩
  | cons part parts ih =>
    rw [List.foldl_cons]
    cases part with
    | text text =>
      obtain ⟨htext, hpart, hfinal⟩ := ih (eventText ++ text) collected
      refine ⟨?_, hpart, hfinal⟩
      rw [Collected.processPart, htext, String.append_assoc]
      simp [Part.text?]
    | functionCall name args id => exact ih eventText _
    | inlineData mimeType data =>
      rw [Collected.processPart]
      split
      · exact ih eventText _
      · exact ih eventText collected
    | other => exact ih eventText collected

theorem texts_readMetadata (event : Event) (collected : Collected) :
    (collected.readMetadata event).lastPartialText = collected.lastPartialText ∧
      (collected.readMetadata event).finalText = collected.finalText := by
  unfold Collected.readMetadata
  split
  · exact ⟨rfl, rfl⟩
  · exact ⟨rfl, rfl⟩

theorem texts_addText (response : LlmResponse) (eventText : String) (collected : Collected) :
    (collected.addText response eventText).lastPartialText =
        collected.lastPartialText ++ (if response.isPartial = true then eventText else "") ∧
      (collected.addText response eventText).finalText =
        (if response.isPartial = true ∨ eventText = "" then none else some eventText).or
          collected.finalText := by
  unfold Collected.addText
  by_cases hempty : eventText = ""
  · simp [hempty]
  · by_cases hpart : response.isPartial = true
    · simp [hempty, hpart]
    · simp [hempty, hpart]

theorem texts_readUsage (response : LlmResponse) (collected : Collected) :
    (collected.readUsage response).lastPartialText = collected.lastPartialText ∧
      (collected.readUsage response).finalText = collected.finalText := by
  unfold Collected.readUsage
  split
  · exact ⟨rfl, rfl⟩
  · exact ⟨rfl, rfl⟩

theorem texts_readContent (event : Event) (collected : Collected) :
    (collected.readContent event.llmResponse).lastPartialText = collected.lastPartialText ++
        (if event.llmResponse.isPartial = true then event.text else "") ∧
      (collected.readContent event.llmResponse).finalText =
        (if event.llmResponse.isPartial = true ∨ event.text = "" then none
          else some event.text).or collected.finalText := by
  unfold Collected.readContent
  cases hcontent : event.llmResponse.content with
  | none =>
    have htext : event.text = "" := by simp [Event.text, hcontent]
    simp [htext]
  | some parts =>
    have htext : event.text = String.join (parts.filterMap Part.text?) := by
      rw [Event.text, hcontent, Option.getD_some]
    obtain ⟨hread, hpart, hfinal⟩ := foldl_processPart parts "" collected
    rw [String.empty_append, ← htext] at hread
    have hadd := texts_addText event.llmResponse event.text
      (parts.foldl Collected.processPart ("", collected)).2
    rw [hpart, hfinal] at hadd
    dsimp only
    rw [hread]
    exact hadd

theorem texts_processEvent (event : Event) (collected : Collected) :
    (collected.processEvent event).lastPartialText =
        collected.lastPartialText ++ event.partialText ∧
      (collected.processEvent event).finalText = event.finalText?.or collected.finalText := by
  unfold Collected.processEvent Event.partialText Event.finalText?
  by_cases hauthor : event.author = "user"
  · simp [hauthor]
  · cases herror : event.llmResponse.errorMessage with
    | some errMsg => simp [hauthor]
    | none =>
      obtain ⟨hpart, hfinal⟩ := texts_readUsage event.llmResponse collected
      have hcontent := texts_readContent event (collected.readUsage event.llmResponse)
      rw [hpart, hfinal] at hcontent
      simpa only [hauthor, if_false, ne_eq, not_false_eq_true, true_and] using hcontent

theorem texts_turn (event : Event) (collected : Collected) :
    ((collected.readMetadata event).processEvent event).lastPartialText =
        collected.lastPartialText ++ event.partialText ∧
      ((collected.readMetadata event).processEvent event).finalText =
        event.finalText?.or collected.finalText := by
  have hturn := texts_processEvent event (collected.readMetadata event)
  obtain ⟨hpart, hfinal⟩ := texts_readMetadata event collected
  rwa [hpart, hfinal] at hturn

end Events

section Streams

variable {duration : ℕ}

theorem lastFinal_cons (event : Event) (events : List Event) :
    lastFinal (event :: events) = (lastFinal events).or event.finalText? := by
  unfold lastFinal
  cases hevent : event.finalText? with
  | none => rw [List.filterMap_cons_none hevent, Option.or_none]
  | some text =>
    rw [List.filterMap_cons_some hevent, List.getLast?_cons]
    cases (events.filterMap Event.finalText?).getLast? <;> rfl

theorem text_of_collectFrom {stream : List (Except AgentError Event)} (collected : Collected)
    (hnone : firstError stream = none) :
    ∃ response, (Collected.collectFrom duration collected stream).1 = some response ∧
      response.text = ((lastFinal (eventsOf stream)).or collected.finalText).getD
        (collected.lastPartialText ++ accumulated (eventsOf stream)) := by
  induction stream generalizing collected with
  | nil =>
    refine ⟨_, rfl, ?_⟩
    simp only [Collected.response, Collected.resolveText, eventsOf, lastFinal, accumulated,
      List.filterMap_nil, List.getLast?_nil, Option.none_or, List.map_nil, String.join_nil,
      String.append_empty]
    cases collected.finalText with
    | some text => rfl
    | none =>
      by_cases hempty : collected.lastPartialText = ""
      · simp [hempty]
      · simp [hempty]
  | cons item stream ih =>
    cases item with
    | error e => cases hnone
    | ok event =>
      obtain ⟨response, hresponse, htext⟩ :=
        ih ((collected.readMetadata event).processEvent event) hnone
      refine ⟨response, hresponse, ?_⟩
      obtain ⟨hpart, hfinal⟩ := texts_turn event collected
      rw [htext, hpart, hfinal, eventsOf, lastFinal_cons, Option.or_assoc, accumulated,
        accumulated, List.map_cons, String.join_cons, String.append_assoc]

theorem error_of_collectFrom {stream : List (Except AgentError Event)} {collected : Collected}
    {response : CollectedResponse} {e : AgentError} (herror : firstError stream = some e)
    (h : (Collected.collectFrom duration collected stream).1 = some response) :
    formatAgentError e = some response.text := by
  induction stream generalizing collected with
  | nil => cases herror
  | cons item stream ih =>
    cases item with
    | ok event => exact ih herror h
    | error e' =>
      obtain rfl := Option.some_inj.mp herror
      obtain ⟨text, htext, rfl⟩ := Option.map_eq_some_iff.mp h
      exact htext

theorem Extends.of_start {s t u : String} (hst : s.toList <+: t.toList) (h : Extends t u) :
    Extends s u := by
  obtain ⟨htu, hne⟩ := h
  refine ⟨hst.trans htu, ?_⟩
  intro heq
  subst heq
  have hlength := hst.length_le
  exact hne (String.toList_inj.mp (htu.eq_of_length_le hlength))

/-- What the callback is given goes on where the partial text ends. -/
theorem chain_of_collectFrom (stream : List (Except AgentError Event)) (collected : Collected) :
    (∀ text ∈ (Collected.collectFrom duration collected stream).2,
        Extends collected.lastPartialText text) ∧
      (Collected.collectFrom duration collected stream).2.Pairwise Extends := by
  induction stream generalizing collected with
  | nil => exact ⟨fun _ h ↦ (by cases h), .nil⟩
  | cons item stream ih =>
    cases item with
    | error e => exact ⟨fun _ h ↦ (by cases h), .nil⟩
    | ok event =>
      obtain ⟨hextends, hchain⟩ := ih ((collected.readMetadata event).processEvent event)
      obtain ⟨hpart, -⟩ := texts_turn event collected
      have hstarts : collected.lastPartialText.toList <+:
          ((collected.readMetadata event).processEvent event).lastPartialText.toList := by
        rw [hpart, String.toList_append]
        exact List.prefix_append _ _
      have hrest := fun text htext ↦ (hextends text htext).of_start hstarts
      rw [Collected.collectFrom]
      simp only [Prod.map_snd, Collected.callback]
      split
      · next hcalled =>
        have hnew := And.intro hstarts (Ne.symm hcalled.1)
        refine ⟨?_, ?_⟩
        · intro text htext
          rcases List.mem_cons.mp htext with rfl | htext
          · exact hnew
          · exact hrest text htext
        · exact List.pairwise_cons.mpr ⟨hextends, hchain⟩
      · exact ⟨hrest, hchain⟩

/-- The text is that of the last final event, or else all partial texts; and each text that the
callback is given goes on where those before it end. -/
theorem textLaw (stream : List (Except AgentError Event)) (duration : ℕ) :
    TextLaw stream duration where
  returns hnone := by
    obtain ⟨response, hresponse, -⟩ := @text_of_collectFrom duration stream .new hnone
    exact Option.isSome_of_eq_some hresponse
  text response h hnone := by
    obtain ⟨response', hresponse, htext⟩ := @text_of_collectFrom duration stream .new hnone
    obtain rfl := Option.some_inj.mp (hresponse.symm.trans h)
    rw [htext, referenceText]
    simp only [Collected.new, Option.or_none, String.empty_append]
  error _ _ h herror := error_of_collectFrom herror h
  chain := (chain_of_collectFrom stream .new).2

end Streams

end AdkGateway.EventStream
