import AdkGateway.CodingAgent.Command
import AdkGateway.CodingAgent.CostCap
import AdkGateway.CodingAgent.QueueCalls
import AdkGateway.Foundation.Machine

namespace AdkGateway.CodingAgent

open Foundation Foundation.Text

def TaskDelegator.cancelTask (queue : TaskQueue) (taskId : TaskId) :
    TaskQueue × Except String Unit :=
  match queue.cancelTask taskId with
  | (queue, true) => (queue, .ok ())
  | (queue, false) =>
    (queue, .error ("Delegation failed: Task '" ++ taskId ++ "' not found in queue"))

structure TelegramDelegationHandler where
  queue : TaskQueue
  lastTaskPerChat : KeyedMap String TaskId
  delegated : List (String × TaskId)

inductive DelegationResult
  | handled
  | notADelegationCommand
  deriving DecidableEq

inductive StopCommand
  | last
  | task (taskId : TaskId)
  deriving DecidableEq

structure StopOutcome where
  handled : Bool
  cancelled : Option TaskId
  reply : Option String

namespace TelegramDelegationHandler

def new (maxConcurrent : Option ℕ) : TelegramDelegationHandler :=
  ⟨TaskQueue.new maxConcurrent, ∅, []⟩

section Code

variable (t : CaseTable) (disk : Disk) (cwd : Path) (h : TelegramDelegationHandler)

def handleDelegation (delegator : TaskDelegator) (text chatId senderId : String) (uuid : TaskId) :
    TelegramDelegationHandler × DelegationResult :=
  match TaskDelegator.parseDelegationCommand t text with
  | some (some command) =>
    match delegator.delegate t.toLowercase disk cwd command.agentName
      ⟨command.taskDescription, .userCommand senderId "telegram", none, none⟩ with
    | .ok (.enqueue agentId request) =>
      if uuid ∈ h.queue.issued then (h, .handled)
      else
        (⟨h.queue.enqueue uuid agentId request, h.lastTaskPerChat.insert chatId uuid,
          (chatId, uuid) :: h.delegated⟩, .handled)
    | _ => (h, .handled)
  | _ => (h, .notADelegationCommand)

def stopWord : String := "/stop"

/-- What is asked to be stopped, if the text is a stop command. `none` is a panic: the sixth byte
ends no character. -/
def readStop (text : String) : Option (Option StopCommand) :=
  let trimmed := trim text
  if trimmed.toList.map Char.toLower = stopWord.toList then some (some .last)
  else if (stopWord.toList ++ [' ']).isPrefixOf (t.toLowercase trimmed).toList then
    (splitAtByte trimmed.toList 6).map fun cut ↦ some (.task (trim (String.ofList cut.2)))
  else some none

def cancel (chatId : String) (taskId : TaskId) : TelegramDelegationHandler × StopOutcome :=
  match TaskDelegator.cancelTask h.queue taskId with
  | (queue, .ok ()) =>
    ({ h with queue := queue, lastTaskPerChat := h.lastTaskPerChat.erase chatId },
      ⟨true, some taskId, some ("⏹ Task `" ++ taskId ++ "` has been cancelled.")⟩)
  | (_, .error err) => (h, ⟨true, none, some ("❌ Could not cancel task: " ++ err)⟩)

def stop (command : Option StopCommand) (chatId : String) :
    TelegramDelegationHandler × StopOutcome :=
  match command with
  | some .last =>
    match h.lastTaskPerChat.lookup chatId with
    | some taskId => h.cancel chatId taskId
    | none => (h, ⟨false, none, none⟩)
  | some (.task taskId) => h.cancel chatId taskId
  | none => (h, ⟨false, none, none⟩)

def handleStop (text chatId : String) : Option (TelegramDelegationHandler × StopOutcome) :=
  (readStop t text).map fun command ↦ h.stop command chatId

inductive Op
  | delegate (delegator : TaskDelegator) (text chatId senderId : String) (uuid : TaskId)
  | dequeue
  | complete (taskId : TaskId)
  | stop (text chatId : String)

def next : Op → TelegramDelegationHandler
  | .delegate delegator text chatId senderId uuid =>
    (h.handleDelegation t disk cwd delegator text chatId senderId uuid).1
  | .dequeue => { h with queue := h.queue.tryDequeue.1 }
  | .complete taskId => { h with queue := (h.queue.completeTask taskId).1 }
  | .stop text chatId => ((h.handleStop t text chatId).map (·.1)).getD h

def step (h : TelegramDelegationHandler) (op : Op) : Unit × TelegramDelegationHandler :=
  ((), h.next t disk cwd op)

end Code

section Purpose

variable (t : CaseTable) (h : TelegramDelegationHandler)

/-- The task of the chat that was delegated last of those still queued or running. -/
def target (chatId : String) : Option TaskId :=
  (h.delegated.find? fun d ↦ d.1 = chatId ∧ h.queue.Live d.2).map (·.2)

def wouldStop (chatId : String) : Option TaskId := (h.stop (some .last) chatId).2.cancelled

def StopsRight : Op → Prop
  | .stop text chatId =>
    ∃ command, readStop t text = some command ∧
      match command with
      | some .last =>
        (h.stop command chatId).2.handled = (h.target chatId).isSome ∧
          (h.stop command chatId).2.cancelled = h.target chatId
      | some (.task taskId) =>
        ∀ chatId', h.wouldStop chatId' ≠ some taskId →
          (h.stop command chatId).1.wouldStop chatId' = h.wouldStop chatId'
      | none => True
  | _ => True

/-- A bare stop finds the task it has in mind alive, or no task in mind and none alive. Where a
stop names a live task, its chat has no other live task in mind. -/
def Tracks : Op → Prop
  | .stop text chatId =>
    match readStop t text with
    | some (some .last) =>
      match h.lastTaskPerChat.lookup chatId with
      | some taskId => h.queue.Live taskId
      | none => h.target chatId = none
    | some (some (.task taskId)) =>
      h.queue.Live taskId → ∀ last, h.lastTaskPerChat.lookup chatId = some last →
        h.queue.Live last → last = taskId
    | _ => True
  | _ => True

end Purpose

section Reading

variable {t : CaseTable} {text : String}

theorem stopWord_ascii : ∀ d ∈ stopWord.toList ++ [' '], d.toNat < 128 ∧ d ≠ 'i' ∧ d ≠ 'k' := by
  have hall : (stopWord.toList ++ [' ']).all
      (fun d ↦ d.toNat < 128 ∧ d ≠ 'i' ∧ d ≠ 'k') = true := by decide
  exact fun d hd ↦ of_decide_eq_true (List.all_eq_true.mp hall d hd)

/-- Only ASCII letters become those of the word, so the text is cut after a character. -/
theorem exists_readStop (t : CaseTable) (text : String) :
    ∃ command, readStop t text = some command := by
  by_cases hlast : (trim text).toList.map Char.toLower = stopWord.toList
  · simp only [readStop, if_pos hlast]
    exact ⟨_, rfl⟩
  · simp only [readStop, if_neg hlast]
    split
    case isTrue hstarts =>
      rw [List.isPrefixOf_iff_prefix, CaseTable.toLowercase, String.toList_ofList,
        isPrefix_lowerChars_iff stopWord_ascii] at hstarts
      have hbytes := byteLength_of_map_toLower (fun d hd ↦ (stopWord_ascii d hd).1) hstarts
      have hsix : byteLength ((trim text).toList.take 6) = 6 := hbytes
      have hsplit := splitAtByte_append ((trim text).toList.take 6) ((trim text).toList.drop 6)
      rw [hsix, List.take_append_drop] at hsplit
      rw [hsplit]
      exact ⟨_, rfl⟩
    case isFalse => exact ⟨_, rfl⟩

end Reading

section Tracking

variable {t : CaseTable} {disk : Disk} {cwd : Path} {h : TelegramDelegationHandler}
  {chatId : String} {taskId : TaskId}

def Newest (h : TelegramDelegationHandler) : Prop :=
  ∀ chatId taskId, h.lastTaskPerChat.lookup chatId = some taskId →
    h.delegated.find? (fun d ↦ d.1 = chatId) = some (chatId, taskId)

theorem cancel_of_live (hlive : h.queue.Live taskId) :
    h.cancel chatId taskId =
      ({ h with
        queue := (h.queue.cancelTask taskId).1
        lastTaskPerChat := h.lastTaskPerChat.erase chatId },
        ⟨true, some taskId, some ("⏹ Task `" ++ taskId ++ "` has been cancelled.")⟩) := by
  rw [cancel, TaskDelegator.cancelTask, TaskQueue.cancelTask_of_live hlive]

theorem cancel_of_not_live (hlive : ¬ h.queue.Live taskId) :
    (h.cancel chatId taskId).1 = h ∧ (h.cancel chatId taskId).2.handled = true ∧
      (h.cancel chatId taskId).2.cancelled = none := by
  rw [cancel, TaskDelegator.cancelTask, TaskQueue.cancelTask_of_not_live hlive]
  exact ⟨rfl, rfl, rfl⟩

theorem Newest.stop (hn : h.Newest) (command : Option StopCommand) (chatId : String) :
    (h.stop command chatId).1.Newest := by
  have hcancel : ∀ taskId, (h.cancel chatId taskId).1.Newest := by
    intro taskId
    by_cases hlive : h.queue.Live taskId
    · rw [cancel_of_live hlive]
      intro chatId' taskId' hsome
      have hsome' : (h.lastTaskPerChat.erase chatId).lookup chatId' = some taskId' := hsome
      by_cases heq : chatId' = chatId
      · rw [heq, AList.lookup_erase] at hsome'
        cases hsome'
      · rw [AList.lookup_erase_ne heq] at hsome'
        exact hn chatId' taskId' hsome'
    · rw [(cancel_of_not_live hlive).1]
      exact hn
  unfold TelegramDelegationHandler.stop
  split
  · split
    · exact hcancel _
    · exact hn
  · exact hcancel _
  · exact hn

theorem Newest.handleDelegation (hn : h.Newest) (delegator : TaskDelegator)
    (text chatId senderId : String) (uuid : TaskId) :
    (h.handleDelegation t disk cwd delegator text chatId senderId uuid).1.Newest := by
  unfold TelegramDelegationHandler.handleDelegation
  split
  · split
    · split
      · exact hn
      · intro chatId' taskId hsome
        obtain ⟨rfl, rfl⟩ | ⟨hne, hold⟩ := KeyedMap.lookup_insert_eq_some.mp hsome
        · simp
        · rw [List.find?_cons_of_neg (by simpa using Ne.symm hne)]
          exact hn chatId' taskId hold
    · exact hn
  · exact hn

theorem Newest.next (hn : h.Newest) (op : Op) : (h.next t disk cwd op).Newest := by
  cases op with
  | delegate delegator text chatId senderId uuid =>
    exact hn.handleDelegation delegator text chatId senderId uuid
  | dequeue | complete => exact hn
  | stop text chatId =>
    obtain ⟨command, hcommand⟩ := exists_readStop t text
    rw [TelegramDelegationHandler.next, handleStop, hcommand]
    exact hn.stop command chatId

theorem Newest.target (hn : h.Newest) (hlast : h.lastTaskPerChat.lookup chatId = some taskId)
    (hlive : h.queue.Live taskId) : h.target chatId = some taskId := by
  obtain ⟨-, before, after, hsplit, hbefore⟩ :=
    List.find?_eq_some_iff_append.mp (hn chatId taskId hlast)
  have hfind : h.delegated.find? (fun d ↦ d.1 = chatId ∧ h.queue.Live d.2) =
      some (chatId, taskId) := by
    refine List.find?_eq_some_iff_append.mpr
      ⟨by simp [hlive], before, after, hsplit, fun d hd ↦ ?_⟩
    have hother := hbefore d hd
    simp only [Bool.not_eq_true', decide_eq_false_iff_not] at hother ⊢
    exact fun hboth ↦ hother hboth.1
  rw [TelegramDelegationHandler.target, hfind, Option.map_some]

theorem wouldStop_of_lookup (hlast : h.lastTaskPerChat.lookup chatId = some taskId) :
    h.wouldStop chatId = if h.queue.Live taskId then some taskId else none := by
  have hstop : h.stop (some .last) chatId = h.cancel chatId taskId := by
    simp only [TelegramDelegationHandler.stop, hlast]
  rw [wouldStop, hstop]
  split
  case isTrue hlive => rw [cancel_of_live hlive]
  case isFalse hlive => exact (cancel_of_not_live hlive).2.2

theorem wouldStop_of_none (hnone : h.lastTaskPerChat.lookup chatId = none) :
    h.wouldStop chatId = none := by
  simp only [wouldStop, TelegramDelegationHandler.stop, hnone]

theorem stopsRight_last_iff (hn : h.Newest) :
    ((h.stop (some .last) chatId).2.handled = (h.target chatId).isSome ∧
      (h.stop (some .last) chatId).2.cancelled = h.target chatId) ↔
    match h.lastTaskPerChat.lookup chatId with
    | some taskId => h.queue.Live taskId
    | none => h.target chatId = none := by
  cases hlast : h.lastTaskPerChat.lookup chatId with
  | none =>
    have hstop : h.stop (some .last) chatId = (h, ⟨false, none, none⟩) := by
      simp only [TelegramDelegationHandler.stop, hlast]
    rw [hstop]
    cases h.target chatId <;> simp
  | some taskId =>
    have hstop : h.stop (some .last) chatId = h.cancel chatId taskId := by
      simp only [TelegramDelegationHandler.stop, hlast]
    rw [hstop]
    by_cases hlive : h.queue.Live taskId
    · rw [cancel_of_live hlive, hn.target hlast hlive]
      simp [hlive]
    · rw [(cancel_of_not_live hlive).2.1, (cancel_of_not_live hlive).2.2]
      simp only [hlive, iff_false, not_and]
      intro hsome hnone
      rw [← hnone] at hsome
      cases hsome

theorem wouldStop_cancel_of_ne {chatId' : String} (hlive : h.queue.Live taskId)
    (hne : chatId' ≠ chatId) (hother : h.wouldStop chatId' ≠ some taskId) :
    (h.cancel chatId taskId).1.wouldStop chatId' = h.wouldStop chatId' := by
  rw [cancel_of_live hlive]
  cases hlast : h.lastTaskPerChat.lookup chatId' with
  | none =>
    rw [wouldStop_of_none hlast, wouldStop_of_none]
    exact (AList.lookup_erase_ne hne).trans hlast
  | some last =>
    have hkept : (h.lastTaskPerChat.erase chatId).lookup chatId' = some last :=
      (AList.lookup_erase_ne hne).trans hlast
    rw [wouldStop_of_lookup hlast] at hother ⊢
    have hlastne : last ≠ taskId := by
      rintro rfl
      rw [if_pos hlive] at hother
      exact hother rfl
    rw [wouldStop_of_lookup hkept]
    simp only [TaskQueue.live_cancelTask_of_ne hlastne]

theorem stopsRight_task_iff :
    (∀ chatId', h.wouldStop chatId' ≠ some taskId →
      (h.stop (some (.task taskId)) chatId).1.wouldStop chatId' = h.wouldStop chatId') ↔
    (h.queue.Live taskId → ∀ last, h.lastTaskPerChat.lookup chatId = some last →
      h.queue.Live last → last = taskId) := by
  have hstop : h.stop (some (.task taskId)) chatId = h.cancel chatId taskId := rfl
  rw [hstop]
  by_cases hlive : h.queue.Live taskId
  · have hgone : (h.cancel chatId taskId).1.wouldStop chatId = none := by
      rw [cancel_of_live hlive]
      exact wouldStop_of_none (AList.lookup_erase _ _)
    constructor
    · intro hsame _ last hlast hlastlive
      by_contra hne
      have hwould : h.wouldStop chatId = some last := by
        rw [wouldStop_of_lookup hlast, if_pos hlastlive]
      have hkept := hsame chatId (by simpa [hwould] using hne)
      rw [hgone, hwould] at hkept
      cases hkept
    · intro hlasts chatId' hother
      by_cases heq : chatId' = chatId
      · subst heq
        rw [hgone]
        cases hlast : h.lastTaskPerChat.lookup chatId' with
        | none => exact (wouldStop_of_none hlast).symm
        | some last =>
          rw [wouldStop_of_lookup hlast] at hother ⊢
          rw [if_neg]
          intro hlastlive
          rw [if_pos hlastlive] at hother
          exact hother (congrArg some (hlasts hlive last hlast hlastlive))
      · exact wouldStop_cancel_of_ne hlive heq hother
  · rw [(cancel_of_not_live hlive).1]
    simp [hlive]

theorem stopsRight_iff_tracks (hn : h.Newest) (op : Op) : h.StopsRight t op ↔ h.Tracks t op := by
  cases op with
  | stop text chatId =>
    obtain ⟨command, hcommand⟩ := exists_readStop t text
    simp only [StopsRight, Tracks, hcommand, Option.some.injEq, exists_eq_left']
    match command with
    | some .last => exact stopsRight_last_iff hn
    | some (.task taskId) => exact stopsRight_task_iff
    | none => exact Iff.rfl
  | _ => exact Iff.rfl

theorem stopsRight_iff (t : CaseTable) (disk : Disk) (cwd : Path) (maxConcurrent : Option ℕ)
    (ops : List Op) :
    Machine.Along (step t disk cwd) (StopsRight t) (new maxConcurrent) ops ↔
      Machine.Along (step t disk cwd) (Tracks t) (new maxConcurrent) ops := by
  have hnew : (new maxConcurrent).Newest := fun _ _ hsome ↦ nomatch hsome
  have hstep : ∀ (h : TelegramDelegationHandler) (op : Op), h.Newest →
      (h.StopsRight t op ↔ h.Tracks t op) ∧ (h.Tracks t op → (step t disk cwd h op).2.Newest) :=
    fun h op hn ↦ ⟨stopsRight_iff_tracks hn op, fun _ ↦ hn.next op⟩
  exact Machine.along_iff_along (step t disk cwd) hstep hnew ops

end Tracking

section Finished

def oneAgent : TaskDelegator := ⟨⟨[⟨⟨⟨[], none, none⟩⟩, "cc", none, .connected⟩]⟩, ⟨∅⟩⟩

def fixBug : DelegationCommand := ⟨"cc", "fix the auth bug"⟩

def stopFinished : List Op :=
  [.delegate oneAgent fixBug.print "100" "7" "t1", .dequeue, .complete "t1", .stop "/stop" "100"]

theorem wellFormed_fixBug : fixBug.WellFormed :=
  ⟨by decide, trim_eq_self_iff.mpr (by decide), by decide, by decide,
    trim_eq_self_iff.mpr (by decide)⟩

theorem readStop_stopWord (t : CaseTable) : readStop t "/stop" = some (some .last) := by
  have htrim : trim "/stop" = "/stop" := trim_eq_self_iff.mpr (by decide)
  rw [readStop, htrim]
  exact if_pos (by decide)

def fixRequest : TaskRequest := ⟨"fix the auth bug", .userCommand "7" "telegram", none⟩

theorem next_delegate_fixBug (t : CaseTable) (disk : Disk) (cwd : Path) :
    (new none).next t disk cwd (.delegate oneAgent fixBug.print "100" "7" "t1") =
      ⟨(TaskQueue.new none).enqueue "t1" "cc" fixRequest,
        (∅ : KeyedMap String TaskId).insert "100" "t1", [("100", "t1")]⟩ := by
  have hparse : TaskDelegator.parseDelegationCommand t fixBug.print = some (some fixBug) :=
    TaskDelegator.parse_of_isForm (TaskDelegator.isForm_print wellFormed_fixBug)
  rw [TelegramDelegationHandler.next]
  unfold handleDelegation
  simp only [hparse]
  rfl

theorem not_stopsRight : ¬ ∀ (t : CaseTable) (disk : Disk) (cwd : Path) (maxConcurrent : Option ℕ)
    (ops : List Op), Machine.Along (step t disk cwd) (StopsRight t) (new maxConcurrent) ops := by
  intro hall
  obtain ⟨-, -, -, ⟨command, hcommand, hright⟩, -⟩ :=
    hall .ascii (.ofDirs [[]] (by decide)) [] none stopFinished
  rw [readStop_stopWord] at hcommand
  cases hcommand
  simp only [step, next_delegate_fixBug] at hright
  have hfalse : true = false := hright.1
  cases hfalse

end Finished

end TelegramDelegationHandler

end AdkGateway.CodingAgent
