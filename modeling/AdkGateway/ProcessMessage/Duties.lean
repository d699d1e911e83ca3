import AdkGateway.ProcessMessage.Handler

namespace AdkGateway.ProcessMessage

open Foundation
open Gateway (Incoming isStop)

structure Duties where
  typing : Option ℕ
  request : Option ℕ

namespace Duties

def idle : Duties := ⟨none, none⟩

def after (d : Duties) : (o : Op) → o.Answer → Duties
  | .spawnTyping, task => { d with typing := some task }
  | .stopTyping _, _ => { d with typing := none }
  | .register _, token => { d with request := some token }
  | .removeRequest _, _ => { d with request := none }
  | _, _ => d

end Duties

section Protocol

def Warranted (mayDrop : Duties → Prop) (d : Duties) : (o : Op) → o.Answer → Prop
  | .timer, timeUp => timeUp = true → mayDrop d
  | _, _ => True

def duties (senderId : String) (mayDrop : Duties → Prop) :
    Script.Protocol Op Op.Answer Duties where
  allows o d :=
    match o with
    | .stop id => id = senderId ∧ d = .idle
    | .spawnTyping => d.typing = none
    | .stopTyping task => d.typing = some task
    | .register id => id = senderId ∧ d.request = none
    | .removeRequest id => id = senderId ∧ d.request ≠ none
    | _ => True
  moves o d a d' := d' = d.after o a ∧ Warranted mayDrop d o a

variable {α : Type} {senderId : String} {mayDrop Q : Duties → Prop} {d : Duties}

theorem follows_call {o : Op} {f : o.Answer → Code α}
    (hallows : (duties senderId mayDrop).allows o d)
    (hf : ∀ a, (f a).Follows (duties senderId mayDrop) (fun _ ↦ Q) (d.after o a)) :
    (call o >>= f).Follows (duties senderId mayDrop) (fun _ ↦ Q) d := by
  refine Script.follows_perform hallows ?_
  intro a d' hmoves
  rw [hmoves.1]
  exact hf a

theorem call_follows {o : Op} (hallows : (duties senderId mayDrop).allows o d) :
    (call o).Follows (duties senderId mayDrop) (fun a d' ↦ d' = d.after o a) d :=
  ⟨hallows, fun _ _ hmoves ↦ hmoves.1⟩

theorem timed_follows {m : Code α}
    (hm : m.Follows (duties senderId mayDrop) (fun _ ↦ Q) d) (hdrop : ∀ d, mayDrop d → Q d) :
    (timed m).Follows (duties senderId mayDrop) (fun _ ↦ Q) d := by
  induction m generalizing d with
  | ret x => exact hm
  | op o next ih =>
    obtain ⟨hallows, hnext⟩ := hm
    have hgoes : (Script.op o fun answer ↦ timed (next answer)).Follows
        (duties senderId mayDrop) (fun _ ↦ Q) d :=
      ⟨hallows, fun a d' hmoves ↦ ih a (hnext a d' hmoves)⟩
    rw [timed]
    split
    · refine ⟨trivial, ?_⟩
      intro timeUp d' hmoves
      obtain ⟨rfl, hup⟩ := hmoves
      cases timeUp with
      | false => exact hgoes
      | true => exact hdrop _ (hup rfl)
    · exact hgoes

end Protocol

section Code

variable (r : Reads) (inbound : Incoming)

/-- The message ends before it is run and the bot is not shown as typing, or the run ends well. -/
def Clean : Prop :=
  isStop inbound.text = true ∨ (beforeTyping r inbound).isSome = true ∨
    match beforeRun r inbound with
    | some _ => r.hasChannel = false
    | none => preparation r = none ∧ runExit r = none

variable {r inbound} {mayDrop Q : Duties → Prop} {d : Duties} {senderId : String}

theorem leave_follows (exit : Exit) (h : Q d) :
    (leave exit).Follows (duties senderId mayDrop) (fun _ ↦ Q) d := by
  cases exit with
  | silent => exact h
  | replied text => exact follows_call trivial fun _ ↦ h
  | posted reply => exact follows_call trivial fun _ ↦ follows_call trivial fun _ ↦ h
  | failed e => exact h

theorem stopRequest_follows (h : Q .idle) : (stopRequest inbound).Follows
    (duties inbound.message.senderId mayDrop) (fun _ ↦ Q) .idle := by
  refine follows_call ⟨rfl, rfl⟩ ?_
  intro stopped
  cases stopped with
  | false => exact follows_call trivial fun _ ↦ h
  | true => exact follows_call trivial fun _ ↦ h

theorem welcomeBack_follows : (welcomeBack r).Follows (duties senderId mayDrop)
    (fun _ d' ↦ d' = d) d := by
  unfold welcomeBack
  split
  · exact call_follows trivial
  · rfl

theorem startTyping_follows : (startTyping r).Follows (duties senderId mayDrop)
    (fun typing d ↦ d = ⟨typing, none⟩ ∧ typing.isSome = r.hasChannel) .idle := by
  unfold startTyping
  cases r.hasChannel with
  | false => exact ⟨rfl, rfl⟩
  | true =>
    refine ⟨trivial, ?_⟩
    intro _ d' hsent
    rw [hsent.1]
    refine ⟨rfl, ?_⟩
    intro task d'' hspawned
    rw [hspawned.1]
    exact ⟨rfl, rfl⟩

theorem stopTyping_follows {typing request : Option ℕ} : (stopTyping typing).Follows
    (duties senderId mayDrop) (fun _ d ↦ d = ⟨none, request⟩) ⟨typing, request⟩ := by
  cases typing with
  | none => rfl
  | some task => exact call_follows rfl

theorem runAgent_follows (token : ℕ) : (runAgent r token).Follows (duties senderId mayDrop)
    (fun _ d' ↦ d' = d) d := by
  unfold runAgent
  split
  · exact call_follows trivial
  · exact call_follows trivial

theorem deliver_follows (h : Q d) :
    (deliver r).Follows (duties senderId mayDrop) (fun _ ↦ Q) d := by
  refine follows_call trivial fun _ ↦ ?_
  split
  · exact h
  · exact follows_call trivial fun _ ↦ h

theorem request_follows {typing : Option ℕ}
    (hQ : ∀ d, (d = .idle ↔ preparation r = none ∧ runExit r = none) → Q d) :
    (request r inbound typing).Follows (duties inbound.message.senderId mayDrop) (fun _ ↦ Q)
      ⟨typing, none⟩ := by
  have hfails (token : ℕ) (h : ¬ (preparation r = none ∧ runExit r = none)) :
      Q ⟨typing, some token⟩ := hQ _ (iff_of_false (fun heq ↦ by cases heq) h)
  refine follows_call ⟨rfl, rfl⟩ fun token ↦ ?_
  cases hprepared : preparation r with
  | some exit => exact leave_follows exit (hfails token fun h ↦ by cases hprepared.symm.trans h.1)
  | none =>
    refine Script.follows_bind (runAgent_follows token) ?_
    intro _ d hd
    rw [hd]
    cases hrun : runExit r with
    | some exit => exact leave_follows exit (hfails token fun h ↦ by cases hrun.symm.trans h.2)
    | none =>
      refine Script.follows_bind stopTyping_follows ?_
      intro _ d hd
      rw [hd]
      refine follows_call ⟨rfl, fun h ↦ by cases h⟩ fun _ ↦ deliver_follows ?_
      exact hQ _ (iff_of_true rfl ⟨hprepared, hrun⟩)

theorem processMessage_follows (hQ : ∀ d, (d = .idle ↔ Clean r inbound) → Q d) :
    (processMessage r inbound).Follows (duties inbound.message.senderId mayDrop) (fun _ ↦ Q)
      .idle := by
  rw [processMessage]
  cases hstop : isStop inbound.text with
  | true => exact stopRequest_follows (hQ _ (iff_of_true rfl (.inl hstop)))
  | false =>
    simp only [Bool.false_eq_true, if_false]
    refine follows_call trivial fun _ ↦ ?_
    cases hbefore : beforeTyping r inbound with
    | some exit =>
      refine leave_follows exit (hQ _ (iff_of_true rfl (.inr (.inl ?_))))
      rw [hbefore]
      rfl
    | none =>
      refine Script.follows_bind welcomeBack_follows ?_
      intro _ d hd
      rw [hd]
      refine Script.follows_bind startTyping_follows ?_
      intro typing d hd
      obtain ⟨rfl, hchannel⟩ := hd
      refine follows_call trivial fun _ ↦ follows_call trivial fun _ ↦ ?_
      cases hreaches : beforeRun r inbound with
      | some exit =>
        refine leave_follows exit (hQ _ ?_)
        simp only [Clean, hstop, hbefore, hreaches, ← hchannel]
        cases typing with
        | none => simp [Duties.idle, Duties.after]
        | some task => simp [Duties.idle, Duties.after]
      | none =>
        refine request_follows fun d hd ↦ hQ d ?_
        simpa only [Clean, hstop, hbefore, hreaches, Option.isSome_none, Bool.false_eq_true,
          false_or] using hd

end Code

section Threads

def dutiesOf (past : List (Done Requests Op Op.Answer)) : Duties :=
  past.foldl (fun d done ↦ d.after done.op done.answer) .idle

@[simp] theorem dutiesOf_nil : dutiesOf [] = .idle := rfl

@[simp] theorem dutiesOf_concat (past : List (Done Requests Op Op.Answer))
    (done : Done Requests Op Op.Answer) :
    dutiesOf (past ++ [done]) = (dutiesOf past).after done.op done.answer := by
  rw [dutiesOf, List.foldl_append]
  rfl

def Message.senderId (message : Message) : String := message.inbound.message.senderId

def Message.Clean (message : Message) : Prop :=
  ProcessMessage.Clean message.reads message.inbound

variable {mayDrop : Duties → Prop} {Q : Message → Duties → Prop}

def Dutiful (mayDrop : Duties → Prop) (Q : Message → Duties → Prop) (p : MessageThread) : Prop :=
  p.code.Follows (duties p.call.senderId mayDrop) (fun _ ↦ Q p.call) (dutiesOf p.past)

-- otherwise the code is evaluated on a text that is not known
attribute [local irreducible] processMessage in
theorem dutiful_start (message : Message) (hQ : ∀ d, (d = .idle ↔ message.Clean) → Q message d)
    (hdrop : ∀ d, mayDrop d → Q message d) : Dutiful mayDrop Q ⟨message, [], message.code⟩ := by
  refine timed_follows ?_ hdrop
  exact processMessage_follows hQ

theorem Dutiful.next {message : Message} {past : List (Done Requests Op Op.Answer)} {o : Op}
    {next : o.Answer → Code (Option (Except String Unit))}
    (h : Dutiful mayDrop Q ⟨message, past, .op o next⟩) (timeUp : Bool) (s : Requests)
    (hdrop : o = .timer → timeUp = true → mayDrop (dutiesOf past)) :
    Dutiful mayDrop Q
      ⟨message, past ++ [⟨s, o, (exec o timeUp s).2⟩], next (exec o timeUp s).2⟩ := by
  have hwarranted : Warranted mayDrop (dutiesOf past) o (exec o timeUp s).2 := by
    cases o with
    | timer => exact hdrop rfl
    | _ => trivial
  obtain ⟨-, hnext⟩ := h
  have hfollows := hnext (exec o timeUp s).2 _ ⟨rfl, hwarranted⟩
  unfold Dutiful
  rw [dutiesOf_concat]
  exact hfollows

end Threads

end AdkGateway.ProcessMessage
