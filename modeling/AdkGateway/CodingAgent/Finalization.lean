import AdkGateway.CodingAgent.Executor

namespace AdkGateway.CodingAgent.TaskExecutor

open Foundation Interleaving

section Points

def IsClient : TaskQueue.Point → Prop
  | .enqueue _ _ | .push _ | .cancelActive _ | .cancelRelease _ | .cancelPending _ => True
  | _ => False

def IsDequeue : TaskQueue.Point → Prop
  | .tryAcquire | .popFront | .insertActive _ | .dropPermit => True
  | _ => False

def IsComplete : TaskQueue.Point → Prop
  | .completeTask _ | .completeRelease _ => True
  | _ => False

/-- A call of the queue is at a point of that call, and an entry tells of an end. -/
def Proper : Point → Prop
  | .client p => IsClient p
  | .tryDequeue p => IsDequeue p
  | .completeTask p => IsComplete p
  | .record entry | .publish entry _ => entry.state.isTerminal
  | _ => True

section Queue

variable {q q' : TaskQueue} {p : TaskQueue.Point} {o : TaskQueue.Point ⊕ TaskQueue.Output}
  {evs : List TaskQueue.Event}

theorem isClient_of_moves (hm : TaskQueue.Moves q p q' o evs) (hp : IsClient p) :
    ∀ p' ∈ remaining o, IsClient p' := by
  intro p' hp'
  cases hm with
  | issue | cancelActive | cancelLook =>
    cases List.mem_singleton.mp hp'
    trivial
  | acquire | nothingPending | pop | complete => exact hp.elim
  | _ => cases hp'

theorem isDequeue_of_moves (hm : TaskQueue.Moves q p q' o evs) (hp : IsDequeue p) :
    ∀ p' ∈ remaining o, IsDequeue p' := by
  intro p' hp'
  cases hm with
  | acquire | nothingPending | pop =>
    cases List.mem_singleton.mp hp'
    trivial
  | issue | cancelActive | cancelLook | complete => exact hp.elim
  | _ => cases hp'

theorem isComplete_of_moves (hm : TaskQueue.Moves q p q' o evs) (hp : IsComplete p) :
    ∀ p' ∈ remaining o, IsComplete p' := by
  intro p' hp'
  cases hm with
  | complete =>
    cases List.mem_singleton.mp hp'
    trivial
  | issue | acquire | nothingPending | pop | cancelActive | cancelLook => exact hp.elim
  | _ => cases hp'

theorem proper_client (ho : ∀ p' ∈ remaining o, IsClient p') :
    ∀ p' ∈ remaining (o.map Point.client Output.client), Proper p' := by
  intro p' hp'
  cases o with
  | inl p =>
    cases List.mem_singleton.mp hp'
    exact ho p (.head _)
  | inr output => cases hp'

theorem proper_afterDequeue (ho : ∀ p' ∈ remaining o, IsDequeue p') : Proper (afterDequeue o) := by
  unfold afterDequeue
  split
  · exact ho _ (.head _)
  · trivial
  · trivial

theorem proper_afterComplete (ho : ∀ p' ∈ remaining o, IsComplete p') :
    Proper (afterComplete o) := by
  cases o with
  | inl p => exact ho p (.head _)
  | inr output => trivial

end Queue

theorem moves_proper {s s' : TaskExecutor} {p : Point} {o : Point ⊕ Output} {evs : List Event}
    (hm : Moves s p s' o evs) (hp : Proper p) : ∀ p' ∈ remaining o, Proper p' := by
  intro p' hp'
  cases hm with
  | client hq => exact proper_client (isClient_of_moves hq hp) p' hp'
  | dequeue hq =>
    cases List.mem_singleton.mp hp'
    exact proper_afterDequeue (isDequeue_of_moves hq hp)
  | complete hq =>
    cases List.mem_singleton.mp hp'
    exact proper_afterComplete (isComplete_of_moves hq hp)
  | record | publish =>
    cases List.mem_singleton.mp hp'
    exact hp
  | finalizeOk found | finalizeError found =>
    cases List.mem_singleton.mp hp'
    rfl
  | loopStopped | dequeueStopped | sleepStopped | executeStopped | retryStopped => cases hp'
  | _ =>
    cases List.mem_singleton.mp hp'
    trivial

end Points

section Weights

/-- A `try_dequeue` with the task in hand. -/
@[simp] def taking (t : TaskId) : Point → ℕ
  | .tryDequeue p => TaskQueue.inHand t p
  | _ => 0

/-- Between the dequeue of the task and its entry in the history. -/
@[simp] def working (t : TaskId) : Point → ℕ
  | .details id => if id = t then 1 else 0
  | .resolve task => if task.taskId = t then 1 else 0
  | .executeTask task _ _ => if task.taskId = t then 1 else 0
  | .retry task _ _ _ => if task.taskId = t then 1 else 0
  | .trackCost task _ _ _ => if task.taskId = t then 1 else 0
  | .finalize task _ => if task.taskId = t then 1 else 0
  | .record entry => if entry.taskId = t then 1 else 0
  | _ => 0

/-- A call that has taken the task out of the active map and drops its permit next. -/
@[simp] def releasing (t : TaskId) : Point → ℕ
  | .client (.cancelRelease id) => if id = t then 1 else 0
  | .completeTask (.completeRelease id) => if id = t then 1 else 0
  | _ => 0

/-- Between the entry and the removal from the active map. -/
@[simp] def finishing (t : TaskId) : Point → ℕ
  | .publish entry _ => if entry.taskId = t then 1 else 0
  | .completeTask (.completeTask id) => if id = t then 1 else 0
  | _ => 0

@[simp] def Event.recorded? : Event → Option TaskId
  | .recorded entry => some entry.taskId
  | _ => none

/-- The task will get no entry. -/
@[simp] def Event.lost? : Event → Option TaskId
  | .notFound id => some id
  | .abandoned id => some id
  | _ => none

abbrev recordedIds (h : List Event) : List TaskId := TaskQueue.idsOf Event.recorded? h

abbrev lostIds (h : List Event) : List TaskId := TaskQueue.idsOf Event.lost? h

@[simp] theorem recordedIds_map (evs : List TaskQueue.Event) :
    TaskQueue.idsOf Event.recorded? (evs.map .queue) = [] := by simp [TaskQueue.idsOf]

@[simp] theorem lostIds_map (evs : List TaskQueue.Event) :
    TaskQueue.idsOf Event.lost? (evs.map .queue) = [] := by simp [TaskQueue.idsOf]

end Weights

section Moves

variable {s s' : TaskExecutor} {p : Point} {o : Point ⊕ Output} {evs : List Event}

theorem moves_terminal (hm : Moves s p s' o evs) (hp : Proper p) :
    ∀ entry, .recorded entry ∈ evs → entry.state.isTerminal := by
  intro entry he
  cases hm with
  | record =>
    cases List.mem_singleton.mp he
    exact hp
  | _ => simp at he

theorem moves_taken (hm : Moves s p s' o evs) (hp : Proper p) (t : TaskId) :
    load (taking t) (remaining o) + load (working t) (remaining o) + (recordedIds evs).count t +
        (lostIds evs).count t =
      taking t p + working t p + (TaskQueue.poppedIds (queueEvents evs)).count t := by
  cases hm with
  | client hq => cases hq <;> first | exact hp.elim | simp
  | dequeue hq => cases hq <;> first | exact hp.elim | simp [afterDequeue, List.count_cons]
  | dequeueStopped hq => cases hq <;> first | exact hp.elim | simp
  | complete hq => cases hq <;> first | exact hp.elim | simp [afterComplete]
  | _ => simp [historyEntry, List.count_cons]

theorem moves_finishing (hm : Moves s p s' o evs) (hp : Proper p) (t : TaskId) :
    load (finishing t) (remaining o) ≤ finishing t p + (recordedIds evs).count t := by
  cases hm with
  | client hq => cases hq <;> first | exact hp.elim | simp
  | dequeue hq => cases hq <;> first | exact hp.elim | simp [afterDequeue]
  | complete hq => cases hq <;> first | exact hp.elim | simp [afterComplete]
  | _ => simp [historyEntry, List.count_cons]

theorem activeCount_erase_cases (q : TaskQueue) (id t : TaskId) :
    (t = id ∧ TaskQueue.activeCount { q with active := q.active.erase id } t = 0) ∨ (t ≠ id ∧
      TaskQueue.activeCount { q with active := q.active.erase id } t = TaskQueue.activeCount q t) := by
  rw [TaskQueue.activeCount_erase]
  by_cases ht : t = id <;> simp [ht]

theorem moves_active (hm : Moves s p s' o evs) (hp : Proper p) (t : TaskId) :
    TaskQueue.activeCount s'.queue t = 0 ∨
      TaskQueue.activeCount s'.queue t + working t p + finishing t p ≤
        TaskQueue.activeCount s.queue t + load (working t) (remaining o) +
          load (finishing t) (remaining o) + (lostIds evs).count t := by
  cases hm with
  | client hq =>
    cases hq with
    | @cancelActive id hfound =>
      obtain ⟨-, hzero⟩ | ⟨-, hsame⟩ := activeCount_erase_cases s.queue id t
      · exact .inl hzero
      · exact .inr (by simp [hsame])
    | _ => first | exact hp.elim | exact .inr (by simp [TaskQueue.activeCount])
  | dequeue hq =>
    cases hq with
    | @insert task =>
      right
      rw [TaskQueue.activeCount_insert]
      by_cases ht : t = task.taskId
      · simp [afterDequeue, ht]
      · simp [afterDequeue, ht, Ne.symm ht]
    | _ => first | exact hp.elim | exact .inr (by simp [afterDequeue, TaskQueue.activeCount])
  | dequeueStopped hq => cases hq <;> first | exact hp.elim | exact .inr (by simp [TaskQueue.activeCount])
  | complete hq =>
    cases hq with
    | @complete id hfound =>
      obtain ⟨-, hzero⟩ | ⟨hne, hsame⟩ := activeCount_erase_cases s.queue id t
      · exact .inl hzero
      · exact .inr (by simp [hsame, afterComplete, hne.symm])
    | @completeUnknown id hnone =>
      by_cases ht : id = t
      · exact .inl (if_neg (ht ▸ hnone))
      · exact .inr (by simp [afterComplete, ht])
    | _ => first | exact hp.elim | exact .inr (by simp [afterComplete, TaskQueue.activeCount])
  | _ => simp [historyEntry, List.count_cons]

end Moves

structure Accounted (c : Config TaskExecutor Point Event) : Prop where
  proper : ∀ p ∈ c.inFlight, Proper p
  terminal : ∀ entry, .recorded entry ∈ c.history → entry.state.isTerminal
  taken : ∀ t, load (taking t) c.inFlight + load (working t) c.inFlight +
    (recordedIds c.history).count t + (lostIds c.history).count t =
      (TaskQueue.poppedIds (queueEvents c.history)).count t
  finished : ∀ t, load (finishing t) c.inFlight ≤ (recordedIds c.history).count t
  active : ∀ t, TaskQueue.activeCount c.shared.queue t ≤ load (working t) c.inFlight +
    load (finishing t) c.inFlight + (lostIds c.history).count t

namespace Accounted

variable {s s' : TaskExecutor} {l r : List Point} {p : Point} {o : Point ⊕ Output}
  {h evs : List Event}

theorem call (hc : Accounted ⟨s, l ++ r, h⟩) (k : Call) : Accounted ⟨s, l ++ start k :: r, h⟩ := by
  obtain ⟨hproper, hterminal, htaken, hfinishing, hactive⟩ := hc
  refine ⟨fun p hp ↦ ?_, hterminal, fun t ↦ ?_, fun t ↦ ?_, fun t ↦ ?_⟩
  · obtain hp | rfl | hp := by simpa only [List.mem_append, List.mem_cons] using hp
    · exact hproper p (by simp [hp])
    · cases k <;> trivial
    · exact hproper p (by simp [hp])
  · cases k <;> simpa [start] using htaken t
  · cases k <;> simpa [start] using hfinishing t
  · cases k <;> simpa [start] using hactive t

theorem act (hc : Accounted ⟨s, l ++ p :: r, h⟩) (hm : Moves s p s' o evs) :
    Accounted ⟨s', l ++ (remaining o ++ r), h ++ evs⟩ := by
  have hp : Proper p := hc.proper p (by simp)
  refine ⟨fun p' hp' ↦ ?_, fun entry he ↦ ?_, fun t ↦ ?_, fun t ↦ ?_, fun t ↦ ?_⟩
  · obtain hp' | hp' | hp' := by simpa only [List.mem_append] using hp'
    · exact hc.proper p' (by simp [hp'])
    · exact moves_proper hm hp p' hp'
    · exact hc.proper p' (by simp [hp'])
  · obtain he | he := List.mem_append.mp he
    · exact hc.terminal entry he
    · exact moves_terminal hm hp entry he
  · have hbefore := hc.taken t
    have hmove := moves_taken hm hp t
    have htaking := load_act (taking t) l r p o
    have hworking := load_act (working t) l r p o
    simp only [TaskQueue.poppedIds, recordedIds, lostIds, queueEvents_append, TaskQueue.idsOf_append, List.count_append] at hbefore hmove ⊢
    omega
  · have hbefore := hc.finished t
    have hmove := moves_finishing hm hp t
    have hfinishing := load_act (finishing t) l r p o
    simp only [recordedIds, TaskQueue.idsOf_append, List.count_append] at hbefore hmove ⊢
    omega
  · have hbefore := hc.active t
    have hworking := load_act (working t) l r p o
    have hfinishing := load_act (finishing t) l r p o
    have hmove := moves_active hm hp t
    simp only [lostIds, TaskQueue.idsOf_append, List.count_append] at hbefore hmove ⊢
    omega

end Accounted

theorem accounted_of_run {ok : Config TaskExecutor Point Event → Label Call Point Input → Prop}
    {maxConcurrent : Option ℕ} {maxEntriesPerAgent historySinks defaultTimeoutSecs : ℕ}
    {c : Config TaskExecutor Point Event} (hc : Run program ok
      (initial (new maxConcurrent maxEntriesPerAgent historySinks defaultTimeoutSecs)) c) :
    Accounted c := by
  refine hc.invariant (Q := fun _ ↦ True) (fun _ _ ↦ trivial) ?_ (fun k _ _ hc ↦ hc.call k)
    fun _ hstep _ _ hc ↦ hc.act (moves_of_step hstep)
  exact ⟨by simp [initial], by simp [initial], fun _ ↦ rfl, fun _ ↦ le_rfl, fun _ ↦ le_rfl⟩

/-- The executor is not shut down with a task in hand, and no task is cancelled
between its dequeue and the look at its details. -/
def Keeps (c : Config TaskExecutor Point Event) : Label Call Point Input → Prop
  | .act (.executeTask _ _ _) .shutdown => False
  | .act (.retry _ _ _ _) .shutdown => False
  | .act (.client (.cancelActive t)) _ => .details t ∉ c.inFlight
  | _ => True

structure Intact (c : Config TaskExecutor Point Event) : Prop where
  lost : lostIds c.history = []
  found : ∀ t, .details t ∈ c.inFlight → (c.shared.queue.active.lookup t).isSome

section Intact

variable {s s' : TaskExecutor} {l r : List Point} {p : Point} {o : Point ⊕ Output}
  {h evs : List Event} {i : Input} {t : TaskId}

theorem isSome_insert (m : KeyedMap TaskId ActiveTask) (id : TaskId) (task : ActiveTask)
    (ht : t = id ∨ (m.lookup t).isSome) : ((m.insert id task).lookup t).isSome := by
  rw [KeyedMap.lookup_insert_if]
  by_cases hid : t = id
  · simp [hid]
  · simpa [hid] using ht

theorem details_afterQueue {o : TaskQueue.Point ⊕ TaskQueue.Output} :
    .details t ∉ remaining (o.map Point.client Output.client) ∧ afterComplete o ≠ .details t := by
  cases o <;> simp [afterComplete]

theorem isSome_of_details (hm : Moves s p s' o evs) (hp : Proper p)
    (ht : .details t ∈ remaining o) : (s'.queue.active.lookup t).isSome := by
  cases hm with
  | client hq => exact absurd ht details_afterQueue.1
  | dequeue hq =>
    have hdetails := List.mem_singleton.mp ht
    cases hq with
    | insert =>
      cases hdetails
      exact isSome_insert _ _ _ (.inl rfl)
    | complete | completeUnknown | completeRelease => exact hp.elim
    | _ => cases hdetails
  | complete hq => exact absurd (List.mem_singleton.mp ht).symm details_afterQueue.2
  | _ => simp at ht

/-- Only `complete_task` and `cancel_task` remove an active task. -/
theorem isSome_of_queue_moves {q q' : TaskQueue} {p : TaskQueue.Point}
    {o : TaskQueue.Point ⊕ TaskQueue.Output} {evs : List TaskQueue.Event}
    (hm : TaskQueue.Moves q p q' o evs) (ht : (q.active.lookup t).isSome) :
    (q'.active.lookup t).isSome ∨ p = .cancelActive t ∨ p = .completeTask t := by
  cases hm with
  | insert => exact .inl (isSome_insert _ _ _ (.inr ht))
  | @cancelActive id | @complete id =>
    by_cases hid : id = t
    · simp [hid]
    · left
      rwa [KeyedMap.lookup_erase_if, if_neg (Ne.symm hid)]
  | _ => exact .inl ht

theorem isSome_of_isSome (hm : Moves s p s' o evs) (hp : Proper p)
    (ht : (s.queue.active.lookup t).isSome) : (s'.queue.active.lookup t).isSome ∨
      p = .client (.cancelActive t) ∨ p = .completeTask (.completeTask t) := by
  cases hm with
  | client hq | dequeue hq | dequeueStopped hq | complete hq =>
    obtain hsome | rfl | rfl := isSome_of_queue_moves hq ht
    · exact .inl hsome
    · simp_all [Proper, IsDequeue, IsComplete]
    · simp_all [Proper, IsClient, IsDequeue]
  | _ => exact .inl ht

theorem lostIds_of_moves (hm : Moves s p s' o evs) (hstep : step i p s = some (s', o, evs))
    (hok : Keeps ⟨s, l ++ p :: r, h⟩ (.act p i))
    (hfound : ∀ t, p = .details t → (s.queue.active.lookup t).isSome) : lostIds evs = [] := by
  cases hm with
  | client hq | dequeue hq | dequeueStopped hq | complete hq => exact lostIds_map _
  | @notFound id hnone =>
    have hsome := hfound id rfl
    rw [hnone] at hsome
    cases hsome
  | executeStopped | retryStopped =>
    cases i with
    | shutdown => exact hok.elim
    | _ => cases hstep
  | _ => rfl

theorem popped_le_one {c : Config TaskExecutor Point Event}
    (hc : TaskQueue.Tallied (queueView.config c)) (t : TaskId) :
    (TaskQueue.poppedIds (queueEvents c.history)).count t ≤ 1 :=
  List.nodup_iff_count_le_one.mp hc.poppedIds_nodup t

theorem not_completeTask {c : Config TaskExecutor Point Event} (hc : Accounted c)
    (hq : TaskQueue.Tallied (queueView.config c)) (ht : .details t ∈ c.inFlight) :
    .completeTask (.completeTask t) ∉ c.inFlight := by
  intro hcomplete
  have hworking : working t (.details t) ≤ load (working t) c.inFlight := le_load ht
  have hfinishing : finishing t (.completeTask (.completeTask t)) ≤ load (finishing t) c.inFlight :=
    le_load hcomplete
  have htaken := hc.taken t
  have hfinished := hc.finished t
  have hone := popped_le_one hq t
  simp only [working, finishing, if_true] at hworking hfinishing
  omega

theorem Intact.act (hi : Intact ⟨s, l ++ p :: r, h⟩) (hc : Accounted ⟨s, l ++ p :: r, h⟩)
    (hq : TaskQueue.Tallied (queueView.config ⟨s, l ++ p :: r, h⟩))
    (hok : Keeps ⟨s, l ++ p :: r, h⟩ (.act p i)) (hstep : step i p s = some (s', o, evs)) :
    Intact ⟨s', l ++ (remaining o ++ r), h ++ evs⟩ := by
  have hm : Moves s p s' o evs := moves_of_step hstep
  have hp : Proper p := hc.proper p (by simp)
  refine ⟨?_, fun t ht ↦ ?_⟩
  · have hlost : lostIds evs = [] := by
      refine lostIds_of_moves hm hstep hok fun t ht ↦ hi.found t ?_
      simp [ht]
    have happend : lostIds (h ++ evs) = lostIds h ++ lostIds evs := TaskQueue.idsOf_append _ _ _
    rw [happend, hlost, List.append_nil]
    exact hi.lost
  · have hstay : .details t ∈ l ++ p :: r → (s'.queue.active.lookup t).isSome := by
      intro hbefore
      obtain hsome | rfl | rfl := isSome_of_isSome hm hp (hi.found t hbefore)
      · exact hsome
      · exact absurd hbefore hok
      · exact absurd (by simp) (not_completeTask hc hq hbefore)
    obtain ht | ht | ht := by simpa only [List.mem_append] using ht
    · exact hstay (by simp [ht])
    · exact isSome_of_details hm hp ht
    · exact hstay (by simp [ht])

theorem intact_of_run {maxConcurrent : Option ℕ}
    {maxEntriesPerAgent historySinks defaultTimeoutSecs : ℕ} {c : Config TaskExecutor Point Event}
    (hc : Run program Keeps
      (initial (new maxConcurrent maxEntriesPerAgent historySinks defaultTimeoutSecs)) c) :
    Intact c := by
  refine hc.invariant (Q := fun c ↦ Accounted c ∧ TaskQueue.Tallied (queueView.config c))
    (fun c hc ↦ ⟨accounted_of_run hc, tallied_of_run hc⟩) ?_ ?_ ?_
  · exact ⟨rfl, fun t ht ↦ absurd ht List.not_mem_nil⟩
  · intro s l r h k _ _ hi
    refine ⟨hi.lost, fun t ht ↦ hi.found t ?_⟩
    cases k <;> simpa [program, start] using ht
  · intro s s' l r h evs p o i hstep hok hq hi
    exact hi.act hq.1 hq.2 hok hstep

end Intact

section Progress

def InProgress (t : TaskId) (p : Point) : Prop :=
  0 < taking t p + working t p + finishing t p + releasing t p

def rank (historySinks : ℕ) : Point → ℕ
  | .tryDequeue (.insertActive _) => historySinks + 14
  | .details _ => historySinks + 13
  | .resolve _ => historySinks + 12
  | .executeTask _ _ attempts => historySinks + 7 + 2 * (maxRetries - attempts)
  | .retry _ _ attempts _ => historySinks + 8 + 2 * (maxRetries - (attempts + 1))
  | .trackCost _ _ _ _ => historySinks + 6
  | .finalize _ _ => historySinks + 5
  | .record _ => historySinks + 4
  | .publish _ sink => historySinks - sink + 3
  | .completeTask (.completeTask _) => 2
  | .completeTask (.completeRelease _) => 1
  | .client (.cancelRelease _) => 1
  | _ => 0

variable {s s' : TaskExecutor} {p : Point} {o : Point ⊕ Output} {evs : List Event} {t : TaskId}

theorem historySinks_of_moves (hm : Moves s p s' o evs) : s'.historySinks = s.historySinks := by
  cases hm <;> rfl

theorem rank_of_moves (hm : Moves s p s' o evs) (hp : Proper p) (ht : InProgress t p) :
    load (rank s'.historySinks) (remaining o) < rank s.historySinks p := by
  rw [historySinks_of_moves hm]
  cases hm with
  | client hq =>
    cases hq <;> first | exact hp.elim | exact absurd ht (Nat.lt_irrefl 0) | simp [rank]
  | dequeue hq =>
    cases hq <;>
      first | exact hp.elim | exact absurd ht (Nat.lt_irrefl 0) | simp [afterDequeue, rank]
  | dequeueStopped hq => cases hq <;> first | exact hp.elim | exact absurd ht (Nat.lt_irrefl 0)
  | complete hq => cases hq <;> first | exact hp.elim | simp [afterComplete, rank]
  | begin | loopStopped | wake | sleepStopped => simp [InProgress] at ht
  | rateLimited hattempts =>
    simp only [maxRetries] at hattempts
    simp only [remaining_inl, load_cons, load_nil, rank, maxRetries]
    omega
  | _ =>
    simp only [remaining_inl, remaining_inr, load_cons, load_nil, rank, maxRetries]
    omega

theorem step_isSome (s : TaskExecutor) (hp : Proper p) (ht : InProgress t p) :
    ∃ i, i ≠ .shutdown ∧ (step i p s).isSome := by
  cases p with
  | client q =>
    refine ⟨.queue .poll, by simp, ?_⟩
    cases q <;> simp_all [Proper, IsClient, InProgress]
    rfl
  | tryDequeue q =>
    refine ⟨.poll, by simp, ?_⟩
    cases q <;> simp_all [Proper, IsDequeue, InProgress]
    rfl
  | completeTask q =>
    refine ⟨.poll, by simp, ?_⟩
    cases q <;> simp_all [Proper, IsComplete, InProgress, step, TaskQueue.step]
    split <;> rfl
  | details id =>
    refine ⟨.poll, by simp, ?_⟩
    simp only [step]
    split <;> rfl
  | publish entry sink =>
    refine ⟨.poll, by simp, ?_⟩
    simp only [step]
    split <;> rfl
  | resolve | finalize => exact ⟨.agent none, by simp, rfl⟩
  | executeTask => exact ⟨.elapsed, by simp, rfl⟩
  | retry | trackCost | record => exact ⟨.poll, by simp, rfl⟩
  | loop | sleep => simp [InProgress] at ht

end Progress

/-- The task gets one entry, which tells of an end, and its slot is released once:
both have happened when no call has the task in hand, and a call that has it can
always go on, and gets there in a bounded number of steps. -/
structure FinalizedOnce (t : TaskId) (c : Config TaskExecutor Point Event) : Prop where
  recorded : (recordedIds c.history).count t ≤ 1
  terminal : ∀ entry, .recorded entry ∈ c.history → entry.state.isTerminal
  released : (TaskQueue.releasedIds (queueEvents c.history)).count t ≤ 1
  settled : (∀ p ∈ c.inFlight, ¬ InProgress t p) → (recordedIds c.history).count t = 1 ∧
    (TaskQueue.releasedIds (queueEvents c.history)).count t = 1
  enabled : ∀ p ∈ c.inFlight, InProgress t p → ∃ i, i ≠ .shutdown ∧ (step i p c.shared).isSome
  bounded : ∀ p ∈ c.inFlight, InProgress t p → ∀ i s o evs, step i p c.shared = some (s, o, evs) →
    load (rank s.historySinks) (remaining o) < rank c.shared.historySinks p

theorem queue_weights {p : Point} {q : TaskQueue.Point} (hp : Proper p) (hq : p.queue? = some q)
    (t : TaskId) : TaskQueue.inHand t q = taking t p ∧ TaskQueue.releasing t q = releasing t p := by
  cases p <;> cases hq <;> cases q <;> simp_all [Proper, IsClient, IsDequeue, IsComplete]

theorem settled_of_run {c : Config TaskExecutor Point Event} (hc : Accounted c)
    (hq : TaskQueue.Tallied (queueView.config c)) (hi : Intact c) {t : TaskId}
    (ht : t ∈ TaskQueue.poppedIds (queueEvents c.history))
    (hnone : ∀ p ∈ c.inFlight, ¬ InProgress t p) : (recordedIds c.history).count t = 1 ∧
      (TaskQueue.releasedIds (queueEvents c.history)).count t = 1 := by
  have hzero : ∀ p ∈ c.inFlight, taking t p = 0 ∧ working t p = 0 ∧ finishing t p = 0 ∧
      releasing t p = 0 := by
    intro p hp
    have hnone := hnone p hp
    unfold InProgress at hnone
    omega
  have htaking : load (taking t) c.inFlight = 0 := load_eq_zero.mpr fun p hp ↦ (hzero p hp).1
  have hworking : load (working t) c.inFlight = 0 := load_eq_zero.mpr fun p hp ↦ (hzero p hp).2.1
  have hfinishing : load (finishing t) c.inFlight = 0 :=
    load_eq_zero.mpr fun p hp ↦ (hzero p hp).2.2.1
  have hqueue : ∀ q ∈ (queueView.config c).inFlight,
      TaskQueue.inHand t q = 0 ∧ TaskQueue.releasing t q = 0 := by
    intro q hq
    obtain ⟨p, hp, hpq⟩ := List.mem_filterMap.mp hq
    obtain ⟨hhand, hreleasing⟩ := queue_weights (hc.proper p hp) hpq t
    exact ⟨hhand.trans (hzero p hp).1, hreleasing.trans (hzero p hp).2.2.2⟩
  have hhand : load (TaskQueue.inHand t) (queueView.config c).inFlight = 0 :=
    load_eq_zero.mpr fun q hq ↦ (hqueue q hq).1
  have hreleasing : load (TaskQueue.releasing t) (queueView.config c).inFlight = 0 :=
    load_eq_zero.mpr fun q hq ↦ (hqueue q hq).2
  have hone : (TaskQueue.poppedIds (queueEvents c.history)).count t = 1 :=
    le_antisymm (popped_le_one hq t) (List.count_pos_iff.mpr ht)
  have htaken := hc.taken t
  have hactive := hc.active t
  have hpopped : TaskQueue.activeCount c.shared.queue t + load (TaskQueue.inHand t) _ +
    load (TaskQueue.releasing t) _ + (TaskQueue.releasedIds (queueEvents c.history)).count t =
      (TaskQueue.poppedIds (queueEvents c.history)).count t := hq.popped t
  rw [hi.lost, List.count_nil] at htaken hactive
  omega

theorem finalizedOnce_of_run (maxConcurrent : Option ℕ)
    (maxEntriesPerAgent historySinks defaultTimeoutSecs : ℕ) (c : Config TaskExecutor Point Event)
    (hc : Run program Keeps
      (initial (new maxConcurrent maxEntriesPerAgent historySinks defaultTimeoutSecs)) c)
    (t : TaskId) (ht : t ∈ TaskQueue.poppedIds (queueEvents c.history)) : FinalizedOnce t c := by
  have haccounted := accounted_of_run hc
  have htallied := tallied_of_run hc
  have hone := popped_le_one htallied t
  have htaken := haccounted.taken t
  have hreleased : (TaskQueue.releasedIds (queueEvents c.history)).count t ≤
    (TaskQueue.poppedIds (queueEvents c.history)).count t := htallied.released_le_popped t
  refine ⟨by omega, haccounted.terminal, by omega,
    settled_of_run haccounted htallied (intact_of_run hc) ht, fun p hp hprogress ↦ ?_,
    fun p hp hprogress i s o evs hstep ↦ ?_⟩
  · exact step_isSome c.shared (haccounted.proper p hp) hprogress
  · exact rank_of_moves (moves_of_step hstep) (haccounted.proper p hp) hprogress

/-- One slot and one history sink. -/
def fresh : Config TaskExecutor Point Event := initial (new (some 1) 200 1 1800)

def coder : RegisteredAgent := ⟨⟨[], none, none⟩⟩

def executeOne : List (Move Call Input) :=
  [.call (.enqueue "coder" ⟨"fix the build", .controlPanel "ann", none⟩),
    .act 0 (.queue (.uuid "t1")), .act 0 (.queue .poll), .call .run, .act 0 .poll, .act 0 .poll,
    .act 0 .poll, .act 0 .poll, .act 0 .poll, .act 0 (.agent (some coder))]

def finishOne : List (Move Call Input) :=
  executeOne ++ ([.act 0 (.answer (.ok ⟨"done", [], 5, none⟩)), .act 0 (.agent (some coder)),
    .act 0 .poll, .act 0 .poll, .act 0 .poll, .act 0 .poll, .act 0 .poll] : List (Move Call Input))

theorem finalizedOnce_of_run_finishOne : ∃ c, play program fresh finishOne = some c ∧
    FinalizedOnce "t1" c := by
  have hpermits : Permits program Keeps fresh finishOne := by
    repeat' first | exact trivial | refine And.intro trivial ?_
  exact ⟨_, rfl, finalizedOnce_of_run (some 1) 200 1 1800 _ (run_of_permits hpermits rfl) "t1"
    (by decide)⟩

/-- The shutdown signal comes while the backend works on a task. -/
theorem not_finalizedOnce : ¬ ∀ maxConcurrent maxEntriesPerAgent historySinks defaultTimeoutSecs c,
    Reachable program
      (new maxConcurrent maxEntriesPerAgent historySinks defaultTimeoutSecs) c →
    ∀ t ∈ TaskQueue.poppedIds (queueEvents c.history), FinalizedOnce t c := by
  intro h
  have hplay : ∃ c, play program fresh (executeOne ++ [.act 0 .shutdown]) = some c ∧
      c.inFlight = [] ∧ recordedIds c.history = [] ∧
      "t1" ∈ TaskQueue.poppedIds (queueEvents c.history) := ⟨_, rfl, rfl, rfl, by decide⟩
  obtain ⟨c, hplay, hquiet, hnone, ht⟩ := hplay
  have hsettled := (h (some 1) 200 1 1800 c (run_of_play _ hplay) "t1" ht).settled
  rw [hquiet, hnone] at hsettled
  exact absurd (hsettled fun p hp ↦ absurd hp List.not_mem_nil).1 (by decide)

end AdkGateway.CodingAgent.TaskExecutor
