import AdkGateway.Cron.Tasks
import AdkGateway.Foundation.Machine

namespace AdkGateway.Cron

open CronScheduler Foundation Machine

inductive Mark
  | paused (job : CronJob)
  | deleted

abbrev Marks := String → Option Mark

structure PausedTasks where
  tasks : Tasks
  marks : Marks

namespace Mark

def excused (newJobs : List CronJob) (creates : String → Bool) (id : String) : Mark → Bool
  | .paused job => newJobs.any fun j ↦ j.id = id ∧ j ≠ job
  | .deleted => creates id

end Mark

namespace TaskEvent

def creates : TaskEvent → String → Bool
  | .taskCreate args _, id => id = argument args "id"
  | .scheduledTaskCreate payload _, id => id = argument payload "id"
  | .reload _, _ => true
  | _, _ => false

end TaskEvent

namespace Tasks

def relisted (s : Tasks) : TaskEvent → Option (List CronJob)
  | .taskCreate args written => s.toolCreates args written
  | .taskDelete args written => s.toolDeletes args written
  | .scheduledTaskCreate payload written => s.panelCreates payload written
  | .scheduledTaskDelete taskId => retainJobs s.panelJobs taskId
  | .reload newJobs => if newJobs = s.dispatchedJobs then none else some newJobs
  | _ => none

def commanded (s : Tasks) : TaskEvent → CronScheduler
  | .taskCancel args => (s.taskCancel args).scheduler
  | .scheduledTaskCancel taskId => (s.scheduledTaskCancel taskId).scheduler
  | .scheduledTaskResume taskId => (s.scheduledTaskResume taskId).scheduler
  | .scheduledTaskDelete taskId => (s.stopTask taskId).scheduler
  | .move m => s.scheduler.move m
  | _ => s.scheduler

end Tasks

namespace PausedTasks

def startup (prompt : String) (jobs : List CronJob) : PausedTasks :=
  ⟨.startup prompt jobs, fun _ ↦ none⟩

def pause (s : PausedTasks) (id : String) : Marks :=
  match s.tasks.scheduler.jobs.lookup id with
  | none => s.marks
  | some state => Function.update s.marks id (some (.paused state.job))

def delete (s : PausedTasks) (id : String) : Marks :=
  Function.update s.marks id ((s.marks id).map fun _ ↦ .deleted)

/-- The marks that the event sets by itself. -/
def marked (s : PausedTasks) : TaskEvent → Marks
  | .taskCancel args => if argument args "id" = "" then s.marks else s.pause (argument args "id")
  | .taskDelete args written =>
    if (s.tasks.toolDeletes args written).isSome then s.delete (argument args "id") else s.marks
  | .scheduledTaskCancel taskId =>
    if s.tasks.scheduler.isActive taskId then s.pause taskId else s.marks
  | .scheduledTaskResume taskId =>
    if (s.tasks.resumedJob taskId).isSome then Function.update s.marks taskId none else s.marks
  | .scheduledTaskDelete taskId => s.delete taskId
  | _ => s.marks

def relist (marks : Marks) (newJobs : List CronJob) (creates : String → Bool) : Marks := fun id ↦
  (marks id).bind fun mark ↦
    if id ∈ newJobs.map CronJob.id then
      if mark.excused newJobs creates id then none else some mark
    else if id = "heartbeat" then some mark
    else some .deleted

def apply (s : PausedTasks) (event : TaskEvent) : PausedTasks where
  tasks := s.tasks.apply event
  marks :=
    match s.tasks.relisted event with
    | none => s.marked event
    | some newJobs => relist (s.marked event) newJobs event.creates

/-- A step answers with the state it leads to. -/
def step (s : PausedTasks) (event : TaskEvent) : PausedTasks × PausedTasks :=
  (s.apply event, s.apply event)

/-- A marked task has no loop but such as end before they wait again. -/
def Silent (s : PausedTasks) : Prop :=
  ∀ id, (s.marks id).isSome → s.tasks.scheduler.running id = []

/-- The jobs that are reconciled with list no marked task without excuse. -/
def Spares (s : PausedTasks) (event : TaskEvent) : Prop :=
  ∀ newJobs, s.tasks.relisted event = some newJobs → ∀ id ∈ newJobs.map CronJob.id,
    ∀ mark, s.marked event id = some mark → mark.excused newJobs event.creates id = true

structure Inv (s : PausedTasks) : Prop where
  tracked : s.tasks.scheduler.Tracked
  silent : ∀ id, (s.marks id).isSome → s.tasks.scheduler.isActive id = false

end PausedTasks

section Scheduler

variable {s : CronScheduler}

theorem running_eq_nil_iff (h : s.Tracked) (id : String) :
    s.running id = [] ↔ s.isActive id = false := by
  rw [← Bool.not_eq_true, ← h.running_iff, ← List.length_eq_zero_iff]
  have hle := h.running_le_one id
  omega

theorem isActive_of_lookup {s' : CronScheduler} {id : String}
    (h : s'.jobs.lookup id = s.jobs.lookup id) : s'.isActive id = s.isActive id := by
  rw [isActive, isActive, h]

theorem isActive_cancel (id k : String) :
    (s.cancel id).isActive k = (s.isActive k && decide (k ≠ id)) := by
  by_cases hk : k = id
  · subst hk
    rw [isActive, cancel, lookup_cancelJobState, if_pos rfl]
    cases s.jobs.lookup k <;> simp
  · have hlook : (s.cancel id).jobs.lookup k = s.jobs.lookup k := by
      rw [cancel, lookup_cancelJobState, if_neg hk]
    rw [isActive_of_lookup hlook]
    simp [hk]

theorem isActive_schedule_of_ne {job : CronJob} {k : String} (hk : k ≠ job.id) :
    (s.schedule job).isActive k = s.isActive k :=
  isActive_of_lookup (by rw [lookup_schedule, if_neg hk])

theorem isActive_addOrUpdate (job : CronJob) : (s.addOrUpdate job).isActive job.id = true := by
  obtain ⟨token, hlook⟩ := schedules_addOrUpdate (s := s) job
  exact isActive_iff.mpr ⟨_, hlook, rfl⟩

/-- Whatever else the list says, a listed job is active. -/
theorem isActive_reconcile_of_mem {newJobs : List CronJob} {id : String}
    (h : id ∈ newJobs.map CronJob.id) : (s.reconcile newJobs).isActive id = true := by
  have hpass : ∀ (jobs : List CronJob) (s : CronScheduler),
      id ∈ jobs.map CronJob.id ∨ s.isActive id = true →
        (jobs.foldl addOrUpdate s).isActive id = true := by
    intro jobs
    induction jobs with
    | nil => exact fun s h ↦ h.resolve_left (List.not_mem_nil (a := id))
    | cons job jobs ih =>
      intro s h
      refine ih (s.addOrUpdate job) ?_
      by_cases hid : id = job.id
      · exact .inr (hid ▸ isActive_addOrUpdate job)
      · rw [isActive_of_lookup (lookup_addOrUpdate hid)]
        exact h.imp_left fun hmem ↦ (List.mem_cons.mp hmem).resolve_left hid
  exact hpass newJobs _ (.inl h)

theorem isActive_reconcile_of_not_mem {newJobs : List CronJob} {id : String}
    (h : id ∉ newJobs.map CronJob.id) :
    (s.reconcile newJobs).isActive id = (s.isActive id && decide (id = "heartbeat")) := by
  rw [isActive, lookup_reconcile h, isActive]
  by_cases hheart : id = "heartbeat" <;> simp [hheart]

end Scheduler

section Commands

theorem scheduler_apply (s : Tasks) (event : TaskEvent) :
    (s.apply event).scheduler =
      match s.relisted event with
      | none => s.commanded event
      | some newJobs => (s.commanded event).reconcile newJobs := by
  have hpanel (taskId : String) : (s.stopTask taskId).panelJobs = s.panelJobs := by
    rw [Tasks.stopTask]
    split <;> rfl
  cases event with
  | taskCreate args written =>
    simp only [Tasks.apply, Tasks.taskCreate, Tasks.relisted]
    cases s.toolCreates args written <;> rfl
  | taskDelete args written =>
    simp only [Tasks.apply, Tasks.taskDelete, Tasks.relisted]
    cases s.toolDeletes args written <;> rfl
  | scheduledTaskCreate payload written =>
    simp only [Tasks.apply, Tasks.scheduledTaskCreate, Tasks.relisted]
    cases s.panelCreates payload written <;> rfl
  | scheduledTaskDelete taskId =>
    simp only [Tasks.apply, Tasks.scheduledTaskDelete, Tasks.relisted, hpanel]
    cases retainJobs s.panelJobs taskId <;> rfl
  | reload newJobs =>
    simp only [Tasks.apply, Tasks.reload, Tasks.relisted]
    split <;> rfl
  | taskCancel args => rfl
  | scheduledTaskCancel taskId => rfl
  | scheduledTaskResume taskId => rfl
  | move m => rfl

theorem id_of_resumedJob {s : Tasks} {taskId : String} {job : CronJob}
    (h : s.resumedJob taskId = some job) : job.id = taskId := by
  have hfind {jobs : List CronJob} (hfound : (jobs.find? fun j ↦ j.id = taskId) = some job) :
      job.id = taskId := by simpa using List.find?_some hfound
  simp only [Tasks.resumedJob, Option.orElse_eq_orElse, Option.orElse_eq_or,
    Option.or_eq_some_iff] at h
  rcases h with hpanel | ⟨-, hlisted | ⟨-, hheart⟩⟩
  · exact hfind hpanel
  · exact hfind hlisted
  · split at hheart
    · next hid =>
      cases hheart
      exact hid.symm
    · cases hheart

variable {s : PausedTasks}

theorem silent_pause (h : s.Inv) (id k : String) (hk : (s.pause id k).isSome) :
    (s.tasks.scheduler.cancel id).isActive k = false := by
  rw [isActive_cancel, Bool.and_eq_false_iff]
  by_cases hid : k = id
  · exact .inr (by simp [hid])
  · refine .inl (h.silent k ?_)
    rw [PausedTasks.pause] at hk
    cases hstate : s.tasks.scheduler.jobs.lookup id with
    | none => simpa only [hstate] using hk
    | some state => simpa only [hstate, Function.update_of_ne hid] using hk

theorem marks_of_delete {id k : String} (hk : (s.delete id k).isSome) : (s.marks k).isSome := by
  rw [PausedTasks.delete] at hk
  by_cases hid : k = id
  · subst hid
    rwa [Function.update_self, Option.isSome_map] at hk
  · rwa [Function.update_of_ne hid] at hk

theorem inv_commanded (h : s.Inv) (event : TaskEvent) :
    (s.tasks.commanded event).Tracked ∧
      ∀ id, (s.marked event id).isSome → (s.tasks.commanded event).isActive id = false := by
  have hcancel (id : String) : (s.tasks.scheduler.cancel id).Tracked := h.tracked.cancelJobState id
  cases event with
  | taskCancel args =>
    simp only [Tasks.commanded, Tasks.taskCancel, PausedTasks.marked]
    split
    · exact ⟨h.tracked, h.silent⟩
    · exact ⟨hcancel _, silent_pause h _⟩
  | scheduledTaskCancel taskId =>
    simp only [Tasks.commanded, Tasks.scheduledTaskCancel, PausedTasks.marked]
    split
    · exact ⟨hcancel taskId, silent_pause h taskId⟩
    · exact ⟨h.tracked, h.silent⟩
  | scheduledTaskResume taskId =>
    simp only [Tasks.commanded, Tasks.scheduledTaskResume, PausedTasks.marked]
    cases hjob : s.tasks.resumedJob taskId with
    | none => exact ⟨h.tracked, h.silent⟩
    | some job =>
      refine ⟨h.tracked.schedule job, fun k hk ↦ ?_⟩
      simp only [Option.isSome_some, if_true] at hk
      by_cases hid : k = taskId
      · subst hid
        rw [Function.update_self] at hk
        cases hk
      · rw [Function.update_of_ne hid] at hk
        rw [isActive_schedule_of_ne (by rwa [id_of_resumedJob hjob])]
        exact h.silent k hk
  | scheduledTaskDelete taskId =>
    simp only [Tasks.commanded, Tasks.stopTask, PausedTasks.marked]
    split
    · refine ⟨hcancel taskId, fun k hk ↦ ?_⟩
      rw [isActive_cancel, h.silent k (marks_of_delete hk), Bool.false_and]
    · exact ⟨h.tracked, fun k hk ↦ h.silent k (marks_of_delete hk)⟩
  | taskDelete args written =>
    refine ⟨h.tracked, fun k hk ↦ h.silent k ?_⟩
    rw [PausedTasks.marked] at hk
    split at hk
    · exact marks_of_delete hk
    · exact hk
  | move m =>
    refine ⟨h.tracked.move m, fun k hk ↦ ?_⟩
    rw [Tasks.commanded, isActive_of_lookup (congrArg (AList.lookup k) (jobs_move m))]
    exact h.silent k hk
  | taskCreate args written => exact ⟨h.tracked, h.silent⟩
  | scheduledTaskCreate payload written => exact ⟨h.tracked, h.silent⟩
  | reload newJobs => exact ⟨h.tracked, h.silent⟩

theorem silent_relist_iff {t : CronScheduler} {marks : Marks}
    (hsilent : ∀ id, (marks id).isSome → t.isActive id = false) (newJobs : List CronJob)
    (creates : String → Bool) :
    (∀ id, (PausedTasks.relist marks newJobs creates id).isSome →
      (t.reconcile newJobs).isActive id = false) ↔
    ∀ id ∈ newJobs.map CronJob.id, ∀ mark, marks id = some mark →
      mark.excused newJobs creates id = true := by
  constructor
  · intro h id hid mark hmark
    by_contra hnot
    have hstays : (PausedTasks.relist marks newJobs creates id).isSome := by
      rw [PausedTasks.relist, hmark, Option.bind_some, if_pos hid, if_neg hnot]
      rfl
    have hactive := isActive_reconcile_of_mem (s := t) hid
    rw [h id hstays] at hactive
    cases hactive
  · intro h id hstays
    rw [PausedTasks.relist] at hstays
    cases hmark : marks id with
    | none =>
      rw [hmark] at hstays
      cases hstays
    | some mark =>
      by_cases hid : id ∈ newJobs.map CronJob.id
      · rw [hmark, Option.bind_some, if_pos hid, if_pos (h id hid mark hmark)] at hstays
        cases hstays
      · rw [isActive_reconcile_of_not_mem hid, hsilent id (by rw [hmark]; rfl), Bool.false_and]

theorem silent_apply_iff (h : s.Inv) (event : TaskEvent) :
    (∀ id, ((s.apply event).marks id).isSome →
      (s.apply event).tasks.scheduler.isActive id = false) ↔ s.Spares event := by
  obtain ⟨-, hsilent⟩ := inv_commanded h event
  simp only [PausedTasks.apply, scheduler_apply, PausedTasks.Spares]
  cases hlist : s.tasks.relisted event with
  | none => exact iff_of_true hsilent nofun
  | some newJobs =>
    rw [silent_relist_iff hsilent]
    simp only [Option.some_inj, forall_eq']

theorem tracked_apply (h : s.Inv) (event : TaskEvent) :
    (s.apply event).tasks.scheduler.Tracked := by
  obtain ⟨htracked, -⟩ := inv_commanded h event
  simp only [PausedTasks.apply, scheduler_apply]
  cases s.tasks.relisted event with
  | none => exact htracked
  | some newJobs => exact htracked.reconcile newJobs

theorem inv_startup (prompt : String) (jobs : List CronJob) :
    (PausedTasks.startup prompt jobs).Inv := by
  refine ⟨?_, nofun⟩
  refine List.foldlRecOn jobs _ ?_ fun _ h job _ ↦ h.schedule job
  split
  · exact tracked_new
  · exact tracked_new.schedule _

/-- No task that was paused has a loop that goes on, in every state of a run, just if no list of
jobs to reconcile with has one of them again as it was. -/
theorem paused_iff (prompt : String) (jobs : List CronJob) (events : List TaskEvent) :
    (∀ s ∈ outputs PausedTasks.step (.startup prompt jobs) events, s.Silent) ↔
      Along PausedTasks.step PausedTasks.Spares (.startup prompt jobs) events := by
  refine forall_outputs_iff PausedTasks.step (fun s event h ↦ ?_) (inv_startup prompt jobs) events
  have htracked := tracked_apply h event
  have hiff := silent_apply_iff h event
  refine ⟨?_, fun hspares ↦ ⟨htracked, hiff.mpr hspares⟩⟩
  rw [← hiff]
  exact forall₂_congr fun id _ ↦ running_eq_nil_iff htracked id

def report : CronJob := ⟨"report", "@every 1h", .object [("message", .string "ask: report")]⟩

/-- Another task is created, and the paused one is scheduled again. -/
theorem not_paused :
    ¬ ∀ (prompt : String) (jobs : List CronJob) (events : List TaskEvent),
      ∀ s ∈ outputs PausedTasks.step (.startup prompt jobs) events, s.Silent := by
  intro h
  have hsilent := h "" [report] [.taskCancel (.object [("id", .string "report")]), .taskCreate
    (.object [("id", .string "digest"), ("schedule", .string "@every 1h"),
      ("message", .string "digest")]) true] _ (.tail _ (.head _)) "report"
  exact absurd hsilent (by decide +kernel)

end Commands

end AdkGateway.Cron
