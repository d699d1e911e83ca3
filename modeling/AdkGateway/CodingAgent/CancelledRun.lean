import AdkGateway.CodingAgent.Finalization

namespace AdkGateway.CodingAgent.TaskExecutor

open Foundation Interleaving

def isCompleted (state : TaskState) : Prop := ∃ result, state = .completed result

/-- `cancel_task` returned true before `finalize_task` began. -/
def CancelledFirst (t : TaskId) (h : List Event) : Prop :=
  ∃ h₁ h₂, h = h₁ ++ .queue (.cancelReturned t true) :: h₂ ∧ .finalizing t ∉ h₁

def Reports (t : TaskId) : Event → Prop
  | .succeeded id _ => id = t
  | .recorded entry => entry.taskId = t ∧ isCompleted entry.state
  | .published entry _ => entry.taskId = t ∧ isCompleted entry.state
  | _ => False

def Succeeding (t : TaskId) : Point → Prop
  | .trackCost task agent _ usage =>
    task.taskId = t ∧ capped usage agent.config.costCapUsd = .ok ()
  | .finalize task (.ok _) => task.taskId = t
  | _ => False

def Reporting (t : TaskId) : Point → Prop
  | .record entry => entry.taskId = t ∧ isCompleted entry.state
  | .publish entry _ => entry.taskId = t ∧ isCompleted entry.state
  | _ => False

def WithinCap (agent : RegisteredAgent) (result : TaskResult) : Prop :=
  ∀ usage, result.tokenUsage = some usage → capped usage agent.config.costCapUsd = .ok ()

/-- When the backend is done with a task, at a cost within the cap, no cancel of
the task has returned true, and none does before `finalize_task` begins. -/
def Respects (c : Config TaskExecutor Point Event) : Label Call Point Input → Prop
  | .act (.executeTask task agent _) (.answer (.ok result)) => WithinCap agent result →
    .queue (.cancelReturned task.taskId true) ∉ c.history
  | .act (.client (.cancelRelease t)) _ => ∀ p ∈ c.inFlight, ¬ Succeeding t p
  | _ => True

section Steps

variable {s s' : TaskExecutor} {l r : List Point} {p p' : Point} {o : Point ⊕ Output}
  {h evs : List Event} {i : Input} {t : TaskId} {e : Event}

theorem CancelledFirst.mem (ht : CancelledFirst t h) : .queue (.cancelReturned t true) ∈ h := by
  obtain ⟨h₁, h₂, rfl, -⟩ := ht
  simp

theorem CancelledFirst.cases_append (ht : CancelledFirst t (h ++ evs)) : CancelledFirst t h ∨
    .queue (.cancelReturned t true) ∈ evs ∧ .finalizing t ∉ h := by
  obtain ⟨h₁, h₂, heq, hnone⟩ := ht
  obtain ⟨a, rfl, ha⟩ | ⟨a, rfl, ha⟩ := List.append_eq_append_iff.mp heq
  · right
    refine ⟨by simp [ha], fun hmem ↦ hnone ?_⟩
    simp [hmem]
  · cases a with
    | nil =>
      right
      rw [List.append_nil]
      rw [List.nil_append] at ha
      exact ⟨by simp [← ha], hnone⟩
    | cons x a =>
      left
      obtain ⟨rfl, -⟩ := List.cons_eq_cons.mp ha
      exact ⟨h₁, a, rfl, hnone⟩

theorem answer_of_step {task : Task} {agent : RegisteredAgent} {attempts : ℕ}
    (hstep : step i (.executeTask task agent attempts) s = some (s', .inl p', evs))
    (ht : Succeeding t p') : ∃ result, i = .answer (.ok result) ∧ task.taskId = t ∧
      WithinCap agent result := by
  cases i with
  | answer answer =>
    cases hstep
    cases answer with
    | ok result =>
      refine ⟨result, rfl, ?_⟩
      cases husage : result.tokenUsage with
      | none =>
        simp only [afterAnswer, husage, Succeeding] at ht
        exact ⟨ht, fun usage hsome ↦ absurd (husage.symm.trans hsome) nofun⟩
      | some usage =>
        simp only [afterAnswer, husage, Succeeding] at ht
        refine ⟨ht.1, fun usage' hsome ↦ ?_⟩
        obtain rfl := Option.some_inj.mp (husage.symm.trans hsome)
        exact ht.2
    | error error =>
      unfold afterAnswer at ht
      split at ht
      · contradiction
      · split at ht <;> exact ht.elim
      · exact ht.elim
  | elapsed =>
    cases hstep
    exact ht.elim
  | _ => cases hstep

theorem quiet_client {x : TaskQueue.Point ⊕ TaskQueue.Output}
    (hp' : p' ∈ remaining (x.map Point.client Output.client)) :
    ¬ Succeeding t p' ∧ ¬ Reporting t p' := by
  cases x with
  | inl q =>
    cases List.mem_singleton.mp hp'
    exact ⟨id, id⟩
  | inr x => cases hp'

theorem quiet_afterDequeue (x : TaskQueue.Point ⊕ TaskQueue.Output) :
    ¬ Succeeding t (afterDequeue x) ∧ ¬ Reporting t (afterDequeue x) := by
  unfold afterDequeue
  split <;> exact ⟨id, id⟩

theorem quiet_afterComplete (x : TaskQueue.Point ⊕ TaskQueue.Output) :
    ¬ Succeeding t (afterComplete x) ∧ ¬ Reporting t (afterComplete x) := by
  cases x <;> exact ⟨id, id⟩

theorem succeeding_of_moves (hm : Moves s p s' o evs) (hp' : p' ∈ remaining o)
    (ht : Succeeding t p') :
    Succeeding t p ∨ ∃ task agent attempts, p = .executeTask task agent attempts := by
  cases hm with
  | client hq => exact absurd ht (quiet_client hp').1
  | dequeue hq =>
    cases List.mem_singleton.mp hp'
    exact absurd ht (quiet_afterDequeue _).1
  | complete hq =>
    cases List.mem_singleton.mp hp'
    exact absurd ht (quiet_afterComplete _).1
  | answered | answeredUsage => exact .inr ⟨_, _, _, rfl⟩
  | withinCap hcap =>
    cases List.mem_singleton.mp hp'
    exact .inl ⟨ht, hcap⟩
  | loopStopped | dequeueStopped | sleepStopped | executeStopped | retryStopped => cases hp'
  | _ =>
    cases List.mem_singleton.mp hp'
    exact ht.elim

theorem succeeding_of_step (hstep : step i p s = some (s', o, evs)) (hp' : p' ∈ remaining o)
    (ht : Succeeding t p') : Succeeding t p ∨ ∃ task agent attempts result,
      p = .executeTask task agent attempts ∧ i = .answer (.ok result) ∧ task.taskId = t ∧
      WithinCap agent result := by
  obtain hp | ⟨task, agent, attempts, rfl⟩ := succeeding_of_moves (moves_of_step hstep) hp' ht
  · exact .inl hp
  · cases o with
    | inl p'' =>
      cases List.mem_singleton.mp hp'
      obtain ⟨result, hi, htask, hcap⟩ := answer_of_step hstep ht
      exact .inr ⟨_, _, _, result, rfl, hi, htask, hcap⟩
    | inr output => cases hp'

/-- A report goes back to the beginning of `finalize_task` on a success. -/
theorem reporting_of_moves (hm : Moves s p s' o evs) (hp' : p' ∈ remaining o)
    (ht : Reporting t p') : Reporting t p ∨ Succeeding t p ∧ .finalizing t ∈ evs := by
  cases hm with
  | client hq => exact absurd ht (quiet_client hp').2
  | dequeue hq =>
    cases List.mem_singleton.mp hp'
    exact absurd ht (quiet_afterDequeue _).2
  | complete hq =>
    cases List.mem_singleton.mp hp'
    exact absurd ht (quiet_afterComplete _).2
  | @finalizeOk task result found =>
    cases List.mem_singleton.mp hp'
    obtain rfl : task.taskId = t := ht.1
    exact .inr ⟨rfl, .head _⟩
  | finalizeError found =>
    cases List.mem_singleton.mp hp'
    obtain ⟨-, result, hresult⟩ := ht
    cases hresult
  | record | publish =>
    cases List.mem_singleton.mp hp'
    exact .inl ht
  | loopStopped | dequeueStopped | sleepStopped | executeStopped | retryStopped => cases hp'
  | _ =>
    cases List.mem_singleton.mp hp'
    exact ht.elim

theorem reports_of_moves (hm : Moves s p s' o evs) (he : e ∈ evs) (ht : Reports t e) :
    Reporting t p ∨ Succeeding t p ∧ .finalizing t ∈ evs := by
  cases hm with
  | client hq | dequeue hq | dequeueStopped hq | complete hq =>
    obtain ⟨e', -, rfl⟩ := List.mem_map.mp he
    exact ht.elim
  | finalizeOk found =>
    obtain rfl | rfl := by simpa using he
    · exact ht.elim
    · exact .inr ⟨ht, by simp [show _ = t from ht]⟩
  | record | publish =>
    cases List.mem_singleton.mp he
    exact .inl ht
  | notFound | executeStopped | retryStopped | finalizeError =>
    cases List.mem_singleton.mp he
    exact ht.elim
  | _ => cases he

/-- Nobody hears of a completion before `finalize_task` begins. -/
structure Begun (t : TaskId) (c : Config TaskExecutor Point Event) : Prop where
  points : ∀ p ∈ c.inFlight, Reporting t p → .finalizing t ∈ c.history
  events : ∀ e ∈ c.history, Reports t e → .finalizing t ∈ c.history

theorem Begun.act (hc : Begun t ⟨s, l ++ p :: r, h⟩) (hm : Moves s p s' o evs) :
    Begun t ⟨s', l ++ (remaining o ++ r), h ++ evs⟩ := by
  have hnew : Reporting t p ∨ Succeeding t p ∧ .finalizing t ∈ evs → .finalizing t ∈ h ++ evs := by
    intro hp
    obtain hp | ⟨-, hp⟩ := hp
    · exact List.mem_append_left _ (hc.points p (by simp) hp)
    · exact List.mem_append_right _ hp
  refine ⟨fun p' hp' ht ↦ ?_, fun e he ht ↦ ?_⟩
  · obtain hp' | hp' | hp' := by simpa only [List.mem_append] using hp'
    · exact List.mem_append_left _ (hc.points p' (by simp [hp']) ht)
    · exact hnew (reporting_of_moves hm hp' ht)
    · exact List.mem_append_left _ (hc.points p' (by simp [hp']) ht)
  · obtain he | he := List.mem_append.mp he
    · exact List.mem_append_left _ (hc.events e he ht)
    · exact hnew (reports_of_moves hm he ht)

structure Silent (t : TaskId) (c : Config TaskExecutor Point Event) : Prop where
  points : ∀ p ∈ c.inFlight, ¬ Reporting t p ∧ ¬ Succeeding t p
  events : ∀ e ∈ c.history, ¬ Reports t e

theorem Silent.act (hc : Silent t ⟨s, l ++ p :: r, h⟩) (hstep : step i p s = some (s', o, evs))
    (hanswer : ∀ task agent attempts result, p = .executeTask task agent attempts →
      i = .answer (.ok result) → WithinCap agent result → task.taskId ≠ t) :
    Silent t ⟨s', l ++ (remaining o ++ r), h ++ evs⟩ := by
  have hm : Moves s p s' o evs := moves_of_step hstep
  obtain ⟨hreporting, hsucceeding⟩ := hc.points p (by simp)
  refine ⟨fun p' hp' ↦ ?_, fun e he ht ↦ ?_⟩
  · obtain hp' | hp' | hp' := by simpa only [List.mem_append] using hp'
    · exact hc.points p' (by simp [hp'])
    · refine ⟨fun ht ↦ ?_, fun ht ↦ ?_⟩
      · obtain hp | ⟨hp, -⟩ := reporting_of_moves hm hp' ht
        · exact hreporting hp
        · exact hsucceeding hp
      · obtain hp | ⟨task, agent, attempts, result, hp, hi, htask, hcap⟩ :=
          succeeding_of_step hstep hp' ht
        · exact hsucceeding hp
        · exact hanswer task agent attempts result hp hi hcap htask
    · exact hc.points p' (by simp [hp'])
  · obtain he | he := List.mem_append.mp he
    · exact hc.events e he ht
    · obtain hp | ⟨hp, -⟩ := reports_of_moves hm he ht
      · exact hreporting hp
      · exact hsucceeding hp

theorem cancelReturned_of_queue_moves {q q' : TaskQueue} {p : TaskQueue.Point}
    {o : TaskQueue.Point ⊕ TaskQueue.Output} {evs : List TaskQueue.Event}
    (hm : TaskQueue.Moves q p q' o evs) (he : .cancelReturned t true ∈ evs) :
    (∃ output, o = .inr output) ∧
      (p = .cancelRelease t ∨ p = .cancelPending t ∧ t ∈ TaskQueue.pendingIds q) := by
  cases hm with
  | cancelRelease =>
    obtain rfl : t = _ := by simpa using he
    exact ⟨⟨_, rfl⟩, .inl rfl⟩
  | cancelPending hpending =>
    obtain rfl : t = _ := by simpa using he
    exact ⟨⟨_, rfl⟩, .inr ⟨rfl, hpending⟩⟩
  | _ => simp at he

theorem cancelReturned_of_moves (hm : Moves s p s' o evs) (hp : Proper p)
    (he : .queue (.cancelReturned t true) ∈ evs) : remaining o = [] ∧
      (p = .client (.cancelRelease t) ∨ p = .client (.cancelPending t) ∧ t ∈ TaskQueue.pendingIds s.queue) := by
  cases hm with
  | client hq =>
    obtain ⟨e, he, heq⟩ := List.mem_map.mp he
    cases heq
    obtain ⟨⟨output, rfl⟩, rfl | ⟨rfl, hpending⟩⟩ := cancelReturned_of_queue_moves hq he
    · exact ⟨rfl, .inl rfl⟩
    · exact ⟨rfl, .inr ⟨rfl, hpending⟩⟩
  | dequeue hq | dequeueStopped hq | complete hq =>
    obtain ⟨e, he, heq⟩ := List.mem_map.mp he
    cases heq
    obtain ⟨-, rfl | ⟨rfl, -⟩⟩ := cancelReturned_of_queue_moves hq he
    · exact hp.elim
    · exact hp.elim
  | _ => simp at he

end Steps

section Entries

def entriesOf (history : TaskHistory) (agentId : String) : List TaskHistoryEntry :=
  (history.entries.lookup agentId).getD []

def recordedFor (agentId : String) (h : List Event) : List TaskHistoryEntry :=
  h.filterMap fun e ↦ match e with
    | .recorded entry => if entry.agentId = agentId then some entry else none
    | _ => none

theorem entriesOf_record (history : TaskHistory) (entry : TaskHistoryEntry) (agentId : String) :
    entriesOf (history.record entry) agentId <+:
      if entry.agentId = agentId then entry :: entriesOf history agentId
      else entriesOf history agentId := by
  unfold entriesOf TaskHistory.record
  cases hentries : history.entries.lookup entry.agentId with
  | none =>
    simp only [KeyedMap.lookup_insert_if]
    by_cases hid : agentId = entry.agentId
    · subst hid
      simp [hentries]
    · simp [hid, Ne.symm hid]
  | some entries =>
    simp only [KeyedMap.lookup_insert_if]
    by_cases hid : agentId = entry.agentId
    · subst hid
      simpa [hentries] using List.take_prefix _ _
    · simp [hid, Ne.symm hid]

theorem recordedFor_queue (agentId : String) (evs : List TaskQueue.Event) :
    recordedFor agentId (evs.map .queue) = [] := by
  simp [recordedFor]

theorem entriesOf_newest {ok : Config TaskExecutor Point Event → Label Call Point Input → Prop}
    {maxConcurrent : Option ℕ} {maxEntriesPerAgent historySinks defaultTimeoutSecs : ℕ}
    {c : Config TaskExecutor Point Event} (hc : Run program ok
      (initial (new maxConcurrent maxEntriesPerAgent historySinks defaultTimeoutSecs)) c)
    (agentId : String) :
    entriesOf c.shared.history agentId <+: (recordedFor agentId c.history).reverse := by
  refine hc.invariant (Q := fun _ ↦ True)
    (I := fun c ↦ entriesOf c.shared.history agentId <+: (recordedFor agentId c.history).reverse)
    (fun _ _ ↦ trivial) ?_ ?_ ?_
  · exact List.nil_prefix
  · exact fun _ _ _ hi ↦ hi
  · intro s s' l r h evs p o i hstep _ _ hi
    have happend : recordedFor agentId (h ++ evs) = recordedFor agentId h ++ recordedFor agentId evs :=
      List.filterMap_append
    simp only at hi ⊢
    rw [happend, List.reverse_append]
    cases moves_of_step hstep with
    | client | dequeue | dequeueStopped | complete =>
      rw [recordedFor_queue]
      exact hi
    | @record entry =>
      refine (entriesOf_record s.history entry agentId).trans ?_
      by_cases hid : entry.agentId = agentId
      · simpa [recordedFor, hid] using hi
      · simpa [recordedFor, hid] using hi
    | _ => exact hi

end Entries

section Runs

variable {c : Config TaskExecutor Point Event} {t : TaskId}

theorem working_of_succeeding {p : Point} (hp : Succeeding t p) : working t p = 1 := by
  cases p with
  | trackCost => exact if_pos hp.1
  | finalize task result =>
    cases result with
    | ok => exact if_pos hp
    | error => exact hp.elim
  | _ => exact hp.elim

theorem not_succeeding_of_pending (hc : Accounted c) (hq : TaskQueue.Tallied (queueView.config c))
    (ht : t ∈ TaskQueue.pendingIds c.shared.queue) : ∀ p ∈ c.inFlight, ¬ Succeeding t p := by
  intro p hp hsucceeding
  have hworking : working t p ≤ load (working t) c.inFlight := le_load hp
  have hone := working_of_succeeding hsucceeding
  have htaken := hc.taken t
  have hpending := List.count_pos_iff.mpr ht
  have horder : (TaskQueue.poppedIds (queueEvents c.history) ++
    TaskQueue.pendingIds c.shared.queue).count t ≤
      (TaskQueue.pushedIds (queueEvents c.history)).count t := hq.order.count_le t
  have hpushed : (TaskQueue.pushedIds (queueEvents c.history)).count t ≤ 1 := hq.pushed_le_one t
  rw [List.count_append] at horder
  omega

variable {maxConcurrent : Option ℕ} {maxEntriesPerAgent historySinks defaultTimeoutSecs : ℕ}

theorem begun_of_run {ok : Config TaskExecutor Point Event → Label Call Point Input → Prop}
    (hc : Run program ok
      (initial (new maxConcurrent maxEntriesPerAgent historySinks defaultTimeoutSecs)) c)
    (t : TaskId) : Begun t c := by
  refine hc.invariant (Q := fun _ ↦ True) (fun _ _ ↦ trivial) ?_
    (fun {s l r h} k _ _ hi ↦ ⟨fun p hp ht ↦ ?_, hi.events⟩)
    fun _ hstep _ _ hi ↦ hi.act (moves_of_step hstep)
  · exact ⟨fun p hp ↦ absurd hp List.not_mem_nil, fun e he ↦ absurd he List.not_mem_nil⟩
  · obtain hp | rfl | hp := by simpa only [List.mem_append, List.mem_cons] using hp
    · exact hi.points p (by simp [hp]) ht
    · cases k <;> exact ht.elim
    · exact hi.points p (by simp [hp]) ht

theorem silent_of_run (hc : Run program Respects
      (initial (new maxConcurrent maxEntriesPerAgent historySinks defaultTimeoutSecs)) c)
    (t : TaskId) (ht : CancelledFirst t c.history) : Silent t c := by
  refine hc.invariant (I := fun c ↦ CancelledFirst t c.history → Silent t c)
    (Q := fun c ↦ Accounted c ∧ TaskQueue.Tallied (queueView.config c) ∧ Begun t c)
    (fun c hc ↦ ⟨accounted_of_run hc, tallied_of_run hc, begun_of_run hc t⟩) ?_ ?_ ?_ ht
  · exact fun _ ↦ ⟨fun p hp ↦ absurd hp List.not_mem_nil, fun e he ↦ absurd he List.not_mem_nil⟩
  · intro s l r h k _ _ hi hfirst
    obtain ⟨hpoints, hevents⟩ := hi hfirst
    refine ⟨fun p hp ↦ ?_, hevents⟩
    obtain hp | rfl | hp := by simpa only [List.mem_append, List.mem_cons] using hp
    · exact hpoints p (by simp [hp])
    · cases k <;> exact ⟨id, id⟩
    · exact hpoints p (by simp [hp])
  · intro s s' l r h evs p o i hstep hok hq hi hfirst
    obtain ⟨hc, hq, hbegun⟩ := hq
    obtain hbefore | ⟨hreturned, hnone⟩ := hfirst.cases_append
    · refine (hi hbefore).act hstep fun task agent attempts result hp hinput hcap htask ↦ ?_
      subst hp hinput htask
      exact hok hcap hbefore.mem
    · have hm : Moves s p s' o evs := moves_of_step hstep
      obtain ⟨-, hp⟩ := cancelReturned_of_moves hm (hc.proper p (by simp)) hreturned
      have hsucceeding : ∀ p' ∈ l ++ p :: r, ¬ Succeeding t p' := by
        obtain rfl | ⟨rfl, hpending⟩ := hp
        · exact hok
        · exact not_succeeding_of_pending hc hq hpending
      have hsilent : Silent t ⟨s, l ++ p :: r, h⟩ :=
        ⟨fun p' hp' ↦ ⟨fun ht ↦ hnone (hbegun.points p' hp' ht), hsucceeding p' hp'⟩,
          fun e he ht ↦ hnone (hbegun.events e he ht)⟩
      refine hsilent.act hstep fun task agent attempts result hexecute ↦ ?_
      obtain rfl | ⟨rfl, -⟩ := hp <;> cases hexecute

end Runs

structure StaysCancelled (t : TaskId) (c : Config TaskExecutor Point Event) : Prop where
  history : ∀ agentId, ∀ entry ∈ entriesOf c.shared.history agentId, entry.taskId = t →
    ¬ isCompleted entry.state
  recorded : ∀ entry, .recorded entry ∈ c.history → entry.taskId = t → ¬ isCompleted entry.state
  published : ∀ entry sink, .published entry sink ∈ c.history → entry.taskId = t →
    ¬ isCompleted entry.state
  succeeded : ∀ agentId, .succeeded t agentId ∉ c.history

theorem mem_recordedFor {agentId : String} {entry : TaskHistoryEntry} {h : List Event}
    (hentry : entry ∈ recordedFor agentId h) : .recorded entry ∈ h := by
  obtain ⟨e, he, hentry⟩ := List.mem_filterMap.mp hentry
  cases e with
  | recorded entry' =>
    obtain ⟨-, rfl⟩ := by simpa using hentry
    exact he
  | _ => cases hentry

theorem staysCancelled_of_run (maxConcurrent : Option ℕ)
    (maxEntriesPerAgent historySinks defaultTimeoutSecs : ℕ) (c : Config TaskExecutor Point Event)
    (hc : Run program Respects
      (initial (new maxConcurrent maxEntriesPerAgent historySinks defaultTimeoutSecs)) c)
    (t : TaskId) (ht : CancelledFirst t c.history) : StaysCancelled t c := by
  have hsilent := silent_of_run hc t ht
  have hrecorded : ∀ entry, .recorded entry ∈ c.history → entry.taskId = t →
      ¬ isCompleted entry.state :=
    fun entry he hid hcompleted ↦ hsilent.events _ he ⟨hid, hcompleted⟩
  refine ⟨fun agentId entry he ↦ hrecorded entry ?_, hrecorded,
    fun entry sink he hid hcompleted ↦ hsilent.events _ he ⟨hid, hcompleted⟩,
    fun agentId he ↦ hsilent.events _ he rfl⟩
  have hentries := (entriesOf_newest hc agentId).subset he
  exact mem_recordedFor (List.mem_reverse.mp hentries)

def cancelExecuting : List (Move Call Input) :=
  executeOne ++ ([.call (.cancelTask "t1"), .act 1 (.queue .poll), .act 1 (.queue .poll)] :
    List (Move Call Input))

def answerCancelled (answer : Except TaskError TaskResult) : List (Move Call Input) :=
  cancelExecuting ++ ([.act 0 (.answer answer), .act 0 (.agent (some coder)), .act 0 .poll] :
    List (Move Call Input))

theorem staysCancelled_of_run_failed : ∃ c,
    play program fresh (answerCancelled (.error (.executionError "killed" none))) = some c ∧
      recordedIds c.history = ["t1"] ∧ StaysCancelled "t1" c := by
  have hpermits : Permits program Respects fresh
      (answerCancelled (.error (.executionError "killed" none))) := by
    repeat' first
      | exact trivial
      | refine And.intro trivial ?_
      | refine And.intro (fun p hp ↦ ?_) ?_
    have hp : p ∈ [.executeTask ⟨"t1", "coder", _⟩ coder 1, .client (.cancelRelease "t1")] := hp
    obtain rfl | rfl := by simpa only [List.mem_cons, List.not_mem_nil, or_false] using hp
    · exact id
    · exact id
  exact ⟨_, rfl, rfl, staysCancelled_of_run (some 1) 200 1 1800 _ (run_of_permits hpermits rfl) "t1"
    ⟨[.queue (.pushed "t1"), .queue (.popped "t1"), .queue (.activated "t1"),
      .queue (.cancelled "t1"), .queue (.released "t1")], _, rfl, by decide⟩⟩

/-- The backend ends well a task that was cancelled meanwhile. -/
theorem not_staysCancelled : ¬ ∀ maxConcurrent maxEntriesPerAgent historySinks defaultTimeoutSecs c,
    Reachable program
      (new maxConcurrent maxEntriesPerAgent historySinks defaultTimeoutSecs) c →
    ∀ t, CancelledFirst t c.history → StaysCancelled t c := by
  intro h
  have hplay : ∃ c, play program fresh (answerCancelled (.ok ⟨"done", [], 5, none⟩)) = some c ∧
      CancelledFirst "t1" c.history ∧ .succeeded "t1" "coder" ∈ c.history :=
    ⟨_, rfl, ⟨[.queue (.pushed "t1"), .queue (.popped "t1"), .queue (.activated "t1"),
      .queue (.cancelled "t1"), .queue (.released "t1")], _, rfl, by decide⟩, by decide⟩
  obtain ⟨c, hplay, hfirst, hsucceeded⟩ := hplay
  exact (h (some 1) 200 1 1800 c (run_of_play _ hplay) "t1" hfirst).succeeded "coder" hsucceeded

end AdkGateway.CodingAgent.TaskExecutor
