import AdkGateway.CodingAgent.Executor
import AdkGateway.CodingAgent.History
import AdkGateway.CodingAgent.QueueCalls

namespace AdkGateway.CodingAgent

open Foundation TaskQueue

def TaskState.status : TaskState → String
  | .queued => "queued"
  | .running _ => "running"
  | .completed _ => "completed"
  | .failed _ => "failed"
  | .cancelled _ => "cancelled"

namespace TaskStatus

abbrev Entry := History.TaskHistoryEntry TaskTrigger TaskState PathBuf

structure Codec extends History.Codec TaskTrigger TaskState PathBuf where
  status_of_read : ∀ state state', readState (stateJson state) = some state' →
    state'.status = state.status

/-- The queue, the two histories that the tool reads, and what the executor has in hand. Beside
them the ids given out, those of which a cancel returned true, and all entries ever recorded. -/
structure Tasks where
  queue : TaskQueue
  taskHistory : History.TaskHistory TaskTrigger TaskState PathBuf
  historyDb : History.PersistentTaskHistory
  held : List ActiveTask
  delegated : List TaskId
  cancelled : List TaskId
  finalized : List Entry

def Tasks.new (maxConcurrent : Option ℕ) (historyDb : History.PersistentTaskHistory) : Tasks where
  queue := { TaskQueue.new maxConcurrent with issued := historyDb.rows.map (·.taskId) }
  taskHistory := .new
  historyDb := historyDb
  held := []
  delegated := []
  cancelled := []
  finalized := []

section Tool

variable (c : Codec)

def getTaskFromDb (db : History.PersistentTaskHistory) (taskId : TaskId) : Option Entry :=
  (db.rows.find? (·.taskId = taskId)).bind c.readRow

def getTaskFromMemory (history : History.TaskHistory TaskTrigger TaskState PathBuf)
    (taskId : TaskId) : Option Entry :=
  history.entries.values.findSome? (·.find? (·.taskId = taskId))

inductive Report
  | found (taskId agentId description status : String) (output error : Option String)
  | notFound (taskId : String) (message : String)

def Report.status : Report → String
  | .found _ _ _ status _ _ => status
  | .notFound _ _ => "not_found"

/-- `debug` and `debugReason` give the derived debug texts. -/
def reportOf (debug : TaskError → String) (debugReason : CancellationReason → String)
    (taskId : TaskId) (entry : Entry) : Report :=
  let (output, error) : Option String × Option String :=
    match entry.state with
    | .queued => (none, none)
    | .running progressPercent =>
      (progressPercent.map fun p ↦ toString p.toNat ++ "% complete", none)
    | .completed result => (some result.output, none)
    | .failed error => (none, some (debug error))
    | .cancelled reason => (none, some (debugReason reason))
  .found taskId entry.agentId entry.description entry.state.status output error

def codingAgentTaskStatus (debug : TaskError → String) (debugReason : CancellationReason → String)
    (s : Tasks) (taskId : Option TaskId) : Except String Report :=
  match taskId with
  | none => .error "'task_id' field is required"
  | some taskId =>
    match (getTaskFromDb c s.historyDb taskId).or (getTaskFromMemory s.taskHistory taskId) with
    | some entry => .ok (reportOf debug debugReason taskId entry)
    | none => .ok (.notFound taskId
        "Task not found. It may have expired from history or the ID is incorrect.")

end Tool

section Steps

variable (c : Codec)

inductive Op
  | delegate (agentId : String) (request : TaskRequest) (uuid : TaskId)
  | dequeue
  | cancel (taskId : TaskId)
  | finalize (taskId : TaskId) (result : Except TaskError TaskResult)
      (found : Option RegisteredAgent) (now : DateTime)

def entryOf (task : ActiveTask) (result : Except TaskError TaskResult)
    (found : Option RegisteredAgent) (now : DateTime) : Entry :=
  let entry := TaskExecutor.historyEntry ⟨task.taskId, task.agentId, task.request⟩ result found
  ⟨entry.taskId, entry.agentId, entry.description, entry.trigger, entry.state, entry.workspace, now⟩

/-- An id that was given before is not given again, and the executor finalizes only what it has in
hand: nothing happens then. -/
def next (s : Tasks) : Op → Tasks
  | .delegate agentId request uuid =>
    if uuid ∈ s.queue.issued then s
    else
      { s with
        queue := s.queue.enqueue uuid agentId request
        delegated := uuid :: s.delegated }
  | .dequeue =>
    match s.queue.tryDequeue with
    | (queue, some task) => { s with queue := queue, held := task :: s.held }
    | (_, none) => s
  | .cancel taskId =>
    match s.queue.cancelTask taskId with
    | (queue, true) => { s with queue := queue, cancelled := taskId :: s.cancelled }
    | (_, false) => s
  | .finalize taskId result found now =>
    match s.held.find? (·.taskId = taskId) with
    | none => s
    | some task =>
      let entry := entryOf task result found now
      { s with
        taskHistory := s.taskHistory.record entry
        historyDb := s.historyDb.record c.toCodec entry
        queue := (s.queue.completeTask taskId).1
        held := s.held.eraseP (·.taskId = taskId)
        finalized := entry :: s.finalized }

def after (maxConcurrent : Option ℕ) (historyDb : History.PersistentTaskHistory) (ops : List Op) :
    Tasks :=
  ops.foldl (next c) (Tasks.new maxConcurrent historyDb)

end Steps

section Truth

variable (c : Codec) (s : Tasks) (taskId : TaskId)

def Tasks.current : Option String :=
  if taskId ∈ s.cancelled then some "cancelled"
  else if s.queue.Pending taskId then some "queued"
  else if s.queue.Active taskId then some "running"
  else (s.finalized.find? (·.taskId = taskId)).map (·.state.status)

def Finalized : Prop := taskId ∈ s.finalized.map (·.taskId)

def Evicted : Prop := Finalized s taskId ∧ getTaskFromMemory s.taskHistory taskId = none

/-- The tool gives the current state; only a task that history has evicted may be not found. -/
def TellsTruth : Prop :=
  ∀ debug debugReason, ∃ report,
    codingAgentTaskStatus c debug debugReason s (some taskId) = .ok report ∧
      (some report.status = s.current taskId ∨ report.status = "not_found" ∧ Evicted s taskId)

/-- The task is finalized, and no cancel of it returned true unless no history gives it any more. -/
def Recorded : Prop :=
  Finalized s taskId ∧ (taskId ∈ s.cancelled →
    getTaskFromDb c s.historyDb taskId = none ∧ getTaskFromMemory s.taskHistory taskId = none)

end Truth

section Invariant

variable {c : Codec} {s : Tasks} {taskId : TaskId}

def Tasks.ids (s : Tasks) : List TaskId :=
  s.queue.pending.map (·.taskId) ++ s.held.map (·.taskId) ++ s.finalized.map (·.taskId)

structure Kept (c : Codec) (s : Tasks) : Prop where
  nodup : s.ids.Nodup
  issued : ∀ id ∈ s.ids, id ∈ s.queue.issued
  active : ∀ id, s.queue.Active id → id ∈ s.held.map (·.taskId)
  memory : ∀ agentId stored, s.taskHistory.entries.lookup agentId = some stored →
    ∀ entry ∈ stored, entry ∈ s.finalized
  rowsIssued : ∀ row ∈ s.historyDb.rows, row.taskId ∈ s.queue.issued
  rows : ∀ row ∈ s.historyDb.rows, row.taskId ∈ s.delegated →
    ∃ entry ∈ s.finalized, row = c.row entry
  states : ∀ entry ∈ s.finalized, entry.state.status ≠ "cancelled"

theorem kept_new (c : Codec) (maxConcurrent : Option ℕ)
    (historyDb : History.PersistentTaskHistory) : Kept c (.new maxConcurrent historyDb) where
  nodup := List.nodup_nil
  issued := fun _ hid ↦ nomatch hid
  active := fun _ hactive ↦ nomatch hactive
  memory := fun _ _ hstored ↦ nomatch hstored
  rowsIssued := fun _ hrow ↦ List.mem_map_of_mem hrow
  rows := fun _ _ hdelegated ↦ nomatch hdelegated
  states := fun _ hentry ↦ nomatch hentry

theorem Kept.delegate (hk : Kept c s) {uuid : TaskId} (agentId : String) (request : TaskRequest)
    (hfresh : uuid ∉ s.queue.issued) : Kept c { s with
      queue := s.queue.enqueue uuid agentId request
      delegated := uuid :: s.delegated } := by
  have hids : ((s.queue.enqueue uuid agentId request).pending.map (·.taskId) ++
      s.held.map (·.taskId) ++ s.finalized.map (·.taskId)).Perm (uuid :: s.ids) := by
    simp only [TaskQueue.enqueue, Tasks.ids, List.map_append, List.append_assoc]
    exact List.perm_middle
  have hnew : uuid ∉ s.ids := fun hid ↦ hfresh (hk.issued uuid hid)
  refine ⟨hids.nodup_iff.mpr (List.nodup_cons.mpr ⟨hnew, hk.nodup⟩), fun id hid ↦ ?_, hk.active,
    hk.memory, fun row hrow ↦ List.mem_cons_of_mem _ (hk.rowsIssued row hrow),
    fun row hrow hdelegated ↦ ?_, hk.states⟩
  · obtain rfl | hold := List.mem_cons.mp (hids.mem_iff.mp hid)
    · exact List.mem_cons_self
    · exact List.mem_cons_of_mem _ (hk.issued id hold)
  · obtain heq | hold := List.mem_cons.mp hdelegated
    · exact absurd (heq ▸ hk.rowsIssued row hrow) hfresh
    · exact hk.rows row hrow hold

theorem Kept.dequeue (hk : Kept c s) : Kept c (next c s .dequeue) := by
  obtain hnone | ⟨task, pending, slots, hpending, hsome⟩ := tryDequeue_cases (q := s.queue)
  · rw [next, hnone]
    exact hk
  · rw [next, hsome]
    have hids : (pending.map (·.taskId) ++ task.taskId :: s.held.map (·.taskId) ++
        s.finalized.map (·.taskId)).Perm s.ids := by
      simp only [Tasks.ids, hpending, List.map_cons, List.append_assoc, List.cons_append]
      exact List.perm_middle
    refine ⟨hids.nodup_iff.mpr hk.nodup, fun id hid ↦ hk.issued id (hids.mem_iff.mp hid),
      fun id hid ↦ ?_, hk.memory, hk.rowsIssued, hk.rows, hk.states⟩
    obtain ⟨active, hactive⟩ := Option.isSome_iff_exists.mp hid
    obtain ⟨rfl, -⟩ | ⟨-, hold⟩ := KeyedMap.lookup_insert_eq_some.mp hactive
    · exact List.mem_cons_self
    · exact List.mem_cons_of_mem _ (hk.active id (Option.isSome_iff_exists.mpr ⟨_, hold⟩))

theorem Kept.cancel (hk : Kept c s) (taskId : TaskId) : Kept c (next c s (.cancel taskId)) := by
  by_cases hlive : s.queue.Live taskId
  · rw [next, TaskQueue.cancelTask_of_live hlive]
    have hids : ((s.queue.cancelTask taskId).1.pending.map (·.taskId) ++ s.held.map (·.taskId) ++
        s.finalized.map (·.taskId)).Sublist s.ids :=
      (TaskQueue.pending_cancelTask_sublist.append_right _).append_right _
    refine ⟨hk.nodup.sublist hids, fun id hid ↦ ?_,
      fun id hid ↦ hk.active id (TaskQueue.active_of_cancelTask hid), hk.memory, fun row hrow ↦ ?_,
      hk.rows, hk.states⟩
    · rw [TaskQueue.issued_cancelTask]
      exact hk.issued id (hids.subset hid)
    · rw [TaskQueue.issued_cancelTask]
      exact hk.rowsIssued row hrow
  · rw [next, TaskQueue.cancelTask_of_not_live hlive]
    exact hk

theorem status_entryOf (task : ActiveTask) (result : Except TaskError TaskResult)
    (found : Option RegisteredAgent) (now : DateTime) :
    (entryOf task result found now).state.status ≠ "cancelled" := by
  cases result <;> simp [entryOf, TaskExecutor.historyEntry, TaskState.status]

theorem perm_ids_finalize {task : ActiveTask}
    (hheld : s.held.find? (·.taskId = taskId) = some task) : (s.held.map (·.taskId)).Perm
      (taskId :: (s.held.eraseP (·.taskId = taskId)).map (·.taskId)) := by
  obtain ⟨task', before, rest, -, htask', hsplit, herase⟩ :=
    List.exists_of_eraseP (List.mem_of_find?_eq_some hheld) (List.find?_some hheld)
  rw [herase, hsplit, List.map_append, List.map_append, List.map_cons]
  obtain rfl := of_decide_eq_true htask'
  exact List.perm_middle

theorem mem_finalized_of_record {entry : Entry}
    (hmemory : ∀ agentId stored, s.taskHistory.entries.lookup agentId = some stored →
      ∀ e ∈ stored, e ∈ s.finalized) (agentId : String) (stored : List Entry)
    (hstored : (s.taskHistory.record entry).entries.lookup agentId = some stored) :
    ∀ e ∈ stored, e ∈ entry :: s.finalized := by
  have hbefore : ∀ agentId stored, s.taskHistory.entries.lookup agentId = some stored →
      ∀ e ∈ stored, e ∈ entry :: s.finalized :=
    fun agentId stored hlookup e he ↦ List.mem_cons_of_mem _ (hmemory agentId stored hlookup e he)
  refine KeyedMap.forall_lookup_insert (P := fun _ stored ↦ ∀ e ∈ stored, e ∈ entry :: s.finalized)
    (fun e he ↦ ?_) hbefore agentId stored hstored
  obtain hold | hnew := List.mem_append.mp (List.mem_of_mem_drop he)
  · cases hlookup : s.taskHistory.entries.lookup entry.agentId with
    | none =>
      rw [hlookup] at hold
      cases hold
    | some stored' =>
      rw [hlookup] at hold
      exact List.mem_cons_of_mem _ (hmemory _ _ hlookup e hold)
  · rw [List.mem_singleton.mp hnew]
    exact List.mem_cons_self

theorem Kept.finalize (hk : Kept c s) (taskId : TaskId) (result : Except TaskError TaskResult)
    (found : Option RegisteredAgent) (now : DateTime) :
    Kept c (next c s (.finalize taskId result found now)) := by
  cases hheld : s.held.find? (·.taskId = taskId) with
  | none =>
    simp only [next, hheld]
    exact hk
  | some task =>
    simp only [next, hheld]
    obtain rfl : task.taskId = taskId := by simpa using List.find?_some hheld
    have hperm := perm_ids_finalize hheld
    have hids : ((s.queue.completeTask task.taskId).1.pending.map (·.taskId) ++
        (s.held.eraseP (·.taskId = task.taskId)).map (·.taskId) ++
        task.taskId :: s.finalized.map (·.taskId)).Perm s.ids := by
      rw [completeTask_pending]
      refine List.perm_middle.trans ?_
      rw [Tasks.ids, ← List.cons_append]
      exact (List.perm_middle.symm.trans (hperm.symm.append_left _)).append_right _
    refine ⟨hids.nodup_iff.mpr hk.nodup, fun id hid ↦ ?_, fun id hid ↦ ?_,
      mem_finalized_of_record hk.memory, fun row hrow ↦ ?_, fun row hrow hdelegated ↦ ?_,
      fun entry hentry ↦ ?_⟩
    · rw [completeTask_issued]
      exact hk.issued id (hids.mem_iff.mp hid)
    · obtain ⟨hactive, hne⟩ := active_completeTask.mp hid
      exact (List.mem_cons.mp (hperm.mem_iff.mp (hk.active id hactive))).resolve_left hne
    · rw [completeTask_issued]
      obtain hold | hnew := List.mem_append.mp hrow
      · exact hk.rowsIssued row (List.mem_filter.mp hold).1
      · rw [List.mem_singleton.mp hnew]
        have hmine : task.taskId ∈ s.ids := hids.mem_iff.mp (by simp)
        exact hk.issued _ hmine
    · obtain hold | hnew := List.mem_append.mp hrow
      · obtain ⟨entry, hentry, rfl⟩ := hk.rows row (List.mem_filter.mp hold).1 hdelegated
        exact ⟨entry, List.mem_cons_of_mem _ hentry, rfl⟩
      · exact ⟨_, List.mem_cons_self, List.mem_singleton.mp hnew⟩
    · obtain rfl | hold := List.mem_cons.mp hentry
      · exact status_entryOf task result found now
      · exact hk.states entry hold

theorem Kept.next (hk : Kept c s) (op : Op) : Kept c (next c s op) := by
  cases op with
  | delegate agentId request uuid =>
    rw [TaskStatus.next]
    split
    case isTrue => exact hk
    case isFalse hfresh => exact hk.delegate agentId request hfresh
  | dequeue => exact hk.dequeue
  | cancel taskId => exact hk.cancel taskId
  | finalize taskId result found now => exact hk.finalize taskId result found now

theorem kept_after (c : Codec) (maxConcurrent : Option ℕ)
    (historyDb : History.PersistentTaskHistory) (ops : List Op) :
    Kept c (after c maxConcurrent historyDb ops) := by
  induction ops using List.reverseRecOn with
  | nil => exact kept_new c maxConcurrent historyDb
  | append_singleton ops op ih =>
    rw [after, List.foldl_append]
    exact ih.next op

end Invariant

section Answers

variable {c : Codec} {s : Tasks} {taskId : TaskId}

theorem Kept.of_history (hk : Kept c s) (hdelegated : taskId ∈ s.delegated) {entry : Entry}
    (hentry : (getTaskFromDb c s.historyDb taskId).or (getTaskFromMemory s.taskHistory taskId) =
      some entry) :
    ∃ f ∈ s.finalized, f.taskId = taskId ∧ entry.state.status = f.state.status := by
  obtain hdb | ⟨-, hmemory⟩ := Option.or_eq_some_iff.mp hentry
  · obtain ⟨row, hrow, hread⟩ := Option.bind_eq_some_iff.mp hdb
    have hid : row.taskId = taskId := by simpa using List.find?_some hrow
    obtain ⟨f, hf, rfl⟩ := hk.rows row (List.mem_of_find?_eq_some hrow) (hid.symm ▸ hdelegated)
    refine ⟨f, hf, hid, ?_⟩
    simp only [History.Codec.readRow, Option.bind_eq_bind, Option.bind_eq_some_iff] at hread
    obtain ⟨trigger, -, state, hstate, createdAt, -, heq⟩ := hread
    cases heq
    exact c.status_of_read _ _ hstate
  · obtain ⟨stored, hstored, hfind⟩ := List.exists_of_findSome?_eq_some hmemory
    obtain ⟨agentId, hlookup⟩ := KeyedMap.mem_values.mp hstored
    have hid : entry.taskId = taskId := by simpa using List.find?_some hfind
    have hmem := hk.memory agentId stored hlookup entry (List.mem_of_find?_eq_some hfind)
    exact ⟨entry, hmem, hid, rfl⟩

/-- A task that is recorded is neither pending nor active, and is recorded once. -/
theorem Kept.current (hk : Kept c s) {f : Entry} (hf : f ∈ s.finalized)
    (hcancelled : f.taskId ∉ s.cancelled) : s.current f.taskId = some f.state.status := by
  have hmem : f.taskId ∈ s.finalized.map (·.taskId) := List.mem_map_of_mem hf
  have hnodup := List.nodup_append.mp hk.nodup
  have hpending : ¬ s.queue.Pending f.taskId := fun hpending ↦
    hnodup.2.2 _ (List.mem_append_left _ hpending) _ hmem rfl
  have hactive : ¬ s.queue.Active f.taskId := fun hactive ↦
    hnodup.2.2 _ (List.mem_append_right _ (hk.active _ hactive)) _ hmem rfl
  have hfind : s.finalized.find? (·.taskId = f.taskId) = some f := by
    cases hfound : s.finalized.find? (·.taskId = f.taskId) with
    | none => simpa using List.find?_eq_none.mp hfound f hf
    | some g =>
      have hid : g.taskId = f.taskId := by simpa using List.find?_some hfound
      rw [List.inj_on_of_nodup_map hnodup.2.1 (List.mem_of_find?_eq_some hfound) hf hid]
  rw [Tasks.current, if_neg hcancelled, if_neg hpending, if_neg hactive, hfind, Option.map_some]

theorem status_ne_notFound (state : TaskState) : state.status ≠ "not_found" := by
  cases state <;> simp [TaskState.status]

theorem current_ne_notFound (s : Tasks) (taskId : TaskId) :
    s.current taskId ≠ some "not_found" := by
  rw [Tasks.current]
  split
  · simp
  · split
    · simp
    · split
      · simp
      · simp only [ne_eq, Option.map_eq_some_iff, not_exists, not_and]
        exact fun entry _ ↦ status_ne_notFound entry.state

theorem reportOf_status (debug : TaskError → String) (debugReason : CancellationReason → String)
    (taskId : TaskId) (entry : Entry) :
    (reportOf debug debugReason taskId entry).status = entry.state.status := by
  unfold reportOf
  cases entry.state <;> rfl

theorem notFound_status (taskId : TaskId) (message : String) :
    (Report.notFound taskId message).status = "not_found" := rfl

theorem tellsTruth_of_some {entry : Entry}
    (h : (getTaskFromDb c s.historyDb taskId).or (getTaskFromMemory s.taskHistory taskId) =
      some entry) : TellsTruth c s taskId ↔ some entry.state.status = s.current taskId := by
  simp only [TellsTruth, codingAgentTaskStatus, h, Except.ok.injEq, exists_eq_left',
    reportOf_status, status_ne_notFound, false_and, or_false]
  exact ⟨fun htruth ↦ htruth (fun _ ↦ "") fun _ ↦ "", fun htruth _ _ ↦ htruth⟩

theorem tellsTruth_of_none
    (h : (getTaskFromDb c s.historyDb taskId).or (getTaskFromMemory s.taskHistory taskId) = none) :
    TellsTruth c s taskId ↔ Finalized s taskId := by
  have hevicted : Evicted s taskId ↔ Finalized s taskId :=
    and_iff_left (Option.or_eq_none_iff.mp h).2
  simp only [TellsTruth, codingAgentTaskStatus, h, Except.ok.injEq, exists_eq_left',
    notFound_status, (current_ne_notFound s taskId).symm, false_or, true_and, hevicted]
  exact ⟨fun htruth ↦ htruth (fun _ ↦ "") fun _ ↦ "", fun htruth _ _ ↦ htruth⟩

theorem Kept.tells_iff (hk : Kept c s) (hdelegated : taskId ∈ s.delegated) :
    TellsTruth c s taskId ↔ Recorded c s taskId := by
  cases hentry : (getTaskFromDb c s.historyDb taskId).or
      (getTaskFromMemory s.taskHistory taskId) with
  | none =>
    rw [tellsTruth_of_none hentry, Recorded]
    exact (and_iff_left fun _ ↦ Option.or_eq_none_iff.mp hentry).symm
  | some entry =>
    rw [tellsTruth_of_some hentry, Recorded]
    obtain ⟨f, hf, rfl, hstatus⟩ := hk.of_history hdelegated hentry
    have hfinal : Finalized s f.taskId := List.mem_map_of_mem hf
    by_cases hcancelled : f.taskId ∈ s.cancelled
    · have hcurrent : s.current f.taskId = some "cancelled" := if_pos hcancelled
      have hgiven : ¬ (getTaskFromDb c s.historyDb f.taskId = none ∧
          getTaskFromMemory s.taskHistory f.taskId = none) := by
        intro hnone
        cases (Option.or_eq_none_iff.mpr hnone).symm.trans hentry
      have hstates := hk.states f hf
      simp [hcurrent, hstatus, hstates, hcancelled, hgiven]
    · rw [hk.current hf hcancelled, hstatus]
      simp [hfinal, hcancelled]

theorem tellsTruth_iff (c : Codec) (maxConcurrent : Option ℕ)
    (historyDb : History.PersistentTaskHistory) (ops : List Op) {taskId : TaskId}
    (hdelegated : taskId ∈ (after c maxConcurrent historyDb ops).delegated) :
    TellsTruth c (after c maxConcurrent historyDb ops) taskId ↔
      Recorded c (after c maxConcurrent historyDb ops) taskId :=
  (kept_after c maxConcurrent historyDb ops).tells_iff hdelegated

end Answers

section Delegated

def doneState : TaskState := .completed ⟨"done", [], 5, none⟩

def doneJson : String :=
  "\x7b\"state\":\"completed\",\"started_at\":\"1970-01-01T00:00:00Z\"," ++
    "\"completed_at\":\"1970-01-01T00:00:00Z\",\"result\":\x7b\"output\":\"done\"," ++
    "\"modified_files\":[],\"duration_ms\":5,\"token_usage\":null\x7d\x7d"

def doneTexts : History.Codec TaskTrigger TaskState PathBuf where
  triggerJson _ := "\x7b\"type\":\"controlPanel\",\"user_id\":\"u\"\x7d"
  readTrigger _ := some (.controlPanel "u")
  stateJson state := if state = doneState then doneJson else ""
  readState text := if text = doneJson then some doneState else none
  display _ := "."
  pathBuf _ := ["."]
  toRfc3339 _ := "1970-01-01T00:00:00+00:00"
  parseTime _ := some 0

theorem status_of_read_doneTexts (state state' : TaskState)
    (h : doneTexts.readState (doneTexts.stateJson state) = some state') :
    state'.status = state.status := by
  obtain ⟨htext, heq⟩ := Option.ite_none_right_eq_some.mp h
  obtain rfl := Option.some_inj.mp heq
  have hstate : state = doneState := by
    by_contra hne
    have hempty : doneTexts.stateJson state = "" := if_neg hne
    rw [hempty] at htext
    exact absurd htext (by decide)
  rw [hstate]

def doneCodec : Codec := ⟨doneTexts, status_of_read_doneTexts⟩

def oneTask : List Op := [.delegate "cc" ⟨"fix", .controlPanel "u", none⟩ "t1"]

def finishedTask : List Op :=
  oneTask ++ [.dequeue, .finalize "t1" (.ok ⟨"done", [], 5, none⟩) none 0]

theorem tellsTruth_finishedTask :
    TellsTruth doneCodec (after doneCodec none .openEmpty finishedTask) "t1" := by
  refine (tellsTruth_iff doneCodec none .openEmpty finishedTask (by decide)).mpr
    ⟨List.mem_singleton.mpr rfl, fun hcancelled ↦ ?_⟩
  cases hcancelled

theorem not_tellsTruth : ¬ ∀ (c : Codec) (maxConcurrent : Option ℕ)
    (historyDb : History.PersistentTaskHistory) (ops : List Op),
    ∀ taskId ∈ (after c maxConcurrent historyDb ops).delegated,
      TellsTruth c (after c maxConcurrent historyDb ops) taskId := by
  intro hall
  obtain ⟨report, hreport, hright⟩ := hall doneCodec none .openEmpty oneTask "t1" (by decide)
    (fun _ ↦ "") fun _ ↦ ""
  cases hreport
  obtain hstatus | ⟨-, hfinalized, -⟩ := hright
  · exact absurd hstatus (by decide)
  · cases hfinalized

end Delegated

end TaskStatus

end AdkGateway.CodingAgent
