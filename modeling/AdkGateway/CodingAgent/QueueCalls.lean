import AdkGateway.CodingAgent.Queue

namespace AdkGateway.CodingAgent.TaskQueue

open Foundation Interleaving

variable (q : TaskQueue)

section Calls

-- The calls of the queue when nothing comes between their steps.

def enqueue (id : TaskId) (agentId : String) (request : TaskRequest) : TaskQueue :=
  { q with
    issued := id :: q.issued
    pending := q.pending ++ [⟨id, agentId, request⟩] }

def tryDequeue : TaskQueue × Option ActiveTask :=
  if q.slots = 0 then (q, none)
  else
    match q.pending with
    | [] => (q, none)
    | task :: pending =>
      let active : ActiveTask := ⟨task.taskId, task.agentId, task.request⟩
      ({ q with
        pending := pending
        active := q.active.insert task.taskId active
        slots := q.slots - 1 + if (q.active.lookup task.taskId).isSome then 1 else 0 },
        some active)

def completeTask (id : TaskId) : TaskQueue × Bool :=
  if (q.active.lookup id).isSome then
    ({ q with active := q.active.erase id, slots := q.slots + 1 }, true)
  else (q, false)

def cancelTask (id : TaskId) : TaskQueue × Bool :=
  if (q.active.lookup id).isSome then
    ({ q with active := q.active.erase id, slots := q.slots + 1 }, true)
  else if id ∈ q.pending.map (·.taskId) then
    ({ q with pending := q.pending.eraseP (·.taskId = id) }, true)
  else (q, false)

def Pending (id : TaskId) : Prop := id ∈ q.pending.map (·.taskId)

def Active (id : TaskId) : Prop := (q.active.lookup id).isSome

def Live (id : TaskId) : Prop := q.Pending id ∨ q.Active id

instance (id : TaskId) : Decidable (q.Pending id) :=
  inferInstanceAs (Decidable (id ∈ q.pending.map (·.taskId)))

instance (id : TaskId) : Decidable (q.Active id) :=
  inferInstanceAs (Decidable ((q.active.lookup id).isSome = true))

instance (id : TaskId) : Decidable (q.Live id) :=
  inferInstanceAs (Decidable (q.Pending id ∨ q.Active id))

end Calls

section Solo

variable {q}

theorem solo_enqueue {id : TaskId} (agentId : String) (request : TaskRequest)
    (hid : id ∉ q.issued) : ∃ evs, Solo program q (start (.enqueue agentId request))
      (q.enqueue id agentId request) evs :=
  ⟨_, .next (.uuid id) (if_neg hid) (.done .poll rfl)⟩

theorem solo_completeTask (id : TaskId) :
    ∃ evs, Solo program q (start (.completeTask id)) (q.completeTask id).1 evs := by
  rw [completeTask]
  split
  case isTrue h => exact ⟨_, .next .poll (if_pos h) (.done .poll rfl)⟩
  case isFalse h => exact ⟨_, .done .poll (if_neg h)⟩

theorem solo_cancelTask (id : TaskId) :
    ∃ evs, Solo program q (start (.cancelTask id)) (q.cancelTask id).1 evs ∧
      .cancelReturned id (q.cancelTask id).2 ∈ evs := by
  rw [cancelTask]
  split
  case isTrue h =>
    refine ⟨_, .next .poll (if_pos h) (.done .poll rfl), ?_⟩
    simp
  case isFalse h =>
    split
    case isTrue hpending =>
      refine ⟨_, .next .poll (if_neg h) (.done .poll (if_pos hpending)), ?_⟩
      simp
    case isFalse hpending =>
      refine ⟨_, .next .poll (if_neg h) (.done .poll (if_neg hpending)), ?_⟩
      simp

theorem solo_tryDequeue : ∃ evs, Solo program q (start .tryDequeue) q.tryDequeue.1 evs := by
  rw [tryDequeue]
  split
  case isTrue h => exact ⟨_, .done .poll (if_pos h)⟩
  case isFalse h =>
    have hacquire : step .poll .tryAcquire q =
        some ({ q with slots := q.slots - 1 }, .inl .popFront, []) := if_neg h
    cases hpending : q.pending with
    | nil =>
      have hpop : step .poll .popFront { q with slots := q.slots - 1 } =
          some ({ q with slots := q.slots - 1 }, .inl .dropPermit, []) := by
        simp only [step, hpending]
      have hslots : q.slots - 1 + 1 = q.slots := by omega
      have hdrop : step .poll .dropPermit { q with slots := q.slots - 1 } =
          some (q, .inr (.dequeued none), []) := by
        simp only [step, hslots]
      exact ⟨_, .next .poll hacquire (.next .poll hpop (.done .poll hdrop))⟩
    | cons task pending =>
      have hpop : step .poll .popFront { q with slots := q.slots - 1 } =
          some ({ q with pending := pending, slots := q.slots - 1 }, .inl (.insertActive task),
            [.popped task.taskId]) := by
        simp only [step, hpending]
      exact ⟨_, .next .poll hacquire (.next .poll hpop (.done .poll rfl))⟩

end Solo

section Lemmas

variable {q} {id id' : TaskId}

theorem cancelTask_snd : (q.cancelTask id).2 = true ↔ q.Live id := by
  rw [cancelTask, Live, Active, Pending]
  split
  case isTrue h => simp [h]
  case isFalse h =>
    split
    case isTrue hpending => simp [hpending]
    case isFalse hpending => simp [h, hpending]

theorem cancelTask_of_live (h : q.Live id) : q.cancelTask id = ((q.cancelTask id).1, true) :=
  Prod.ext rfl (cancelTask_snd.mpr h)

theorem cancelTask_of_not_live (h : ¬ q.Live id) : q.cancelTask id = (q, false) := by
  obtain ⟨hpending, hactive⟩ := not_or.mp h
  unfold Active at hactive
  unfold Pending at hpending
  rw [cancelTask, if_neg hactive, if_neg hpending]

theorem live_cancelTask_of_ne (hne : id' ≠ id) : (q.cancelTask id).1.Live id' ↔ q.Live id' := by
  rw [cancelTask]
  split
  · simp only [Live, Pending, Active, AList.lookup_erase_ne hne]
  · split
    · have hmem : id' ∈ (q.pending.eraseP (·.taskId = id)).map (·.taskId) ↔
          id' ∈ q.pending.map (·.taskId) := by
        simp only [List.mem_map]
        refine exists_congr fun task ↦ and_congr_left fun htask ↦ ?_
        exact List.mem_eraseP_of_neg (by simpa [htask] using hne)
      simp only [Live, Pending, Active, hmem]
    · exact Iff.rfl

theorem active_of_cancelTask (h : (q.cancelTask id).1.Active id') : q.Active id' := by
  rw [cancelTask] at h
  split at h
  · obtain ⟨task, htask⟩ := Option.isSome_iff_exists.mp h
    exact Option.isSome_iff_exists.mpr ⟨task, (KeyedMap.lookup_erase_eq_some.mp htask).2⟩
  · split at h <;> exact h

theorem active_completeTask : (q.completeTask id).1.Active id' ↔ q.Active id' ∧ id' ≠ id := by
  rw [completeTask]
  split
  case isTrue =>
    have hkey := KeyedMap.lookup_erase_if q.active id id'
    rw [Active, Active, hkey]
    by_cases heq : id' = id <;> simp [heq]
  case isFalse hnone =>
    refine ⟨fun h ↦ ⟨h, ?_⟩, And.left⟩
    rintro rfl
    exact hnone h

theorem pending_cancelTask_sublist :
    ((q.cancelTask id).1.pending.map (·.taskId)).Sublist (q.pending.map (·.taskId)) := by
  rw [cancelTask]
  split
  · exact List.Sublist.refl _
  · split
    · exact List.eraseP_sublist.map _
    · exact List.Sublist.refl _

theorem issued_cancelTask : (q.cancelTask id).1.issued = q.issued := by
  rw [cancelTask]
  split
  · rfl
  · split <;> rfl

theorem completeTask_pending : (q.completeTask id).1.pending = q.pending := by
  rw [completeTask]
  split <;> rfl

theorem completeTask_issued : (q.completeTask id).1.issued = q.issued := by
  rw [completeTask]
  split <;> rfl

/-- Either nothing is dequeued, or the first pending task becomes active. -/
theorem tryDequeue_cases :
    q.tryDequeue = (q, none) ∨ ∃ task pending slots, q.pending = task :: pending ∧
      q.tryDequeue = ({ q with
        pending := pending
        active := q.active.insert task.taskId ⟨task.taskId, task.agentId, task.request⟩
        slots := slots }, some ⟨task.taskId, task.agentId, task.request⟩) := by
  unfold tryDequeue
  split
  · exact .inl rfl
  · split
    · exact .inl rfl
    · exact .inr ⟨_, _, _, ‹_›, rfl⟩

end Lemmas

end AdkGateway.CodingAgent.TaskQueue
