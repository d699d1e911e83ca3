import AdkGateway.Cron.Loops
import AdkGateway.Foundation.Text

namespace AdkGateway.Cron

open Foundation

def argument (args : Json) (key : String) : String :=
  Text.trim (((args.get key).bind Json.asStr).getD "")

def delivery (args : Json) : Option Json := do
  let d ← args.get "delivery"
  let channel ← (← d.get "channel").asStr
  let target ← (← d.get "target").asStr
  if channel = "" then none
  else some (.object [("channel", .string channel), ("target", .string target)])

def newJob (args : Json) : Option CronJob :=
  let id := argument args "id"
  let schedule := argument args "schedule"
  let message := argument args "message"
  let suppressKeyword := ((args.get "suppress_keyword").bind Json.asStr).filter (· ≠ "")
  if id = "" ∨ schedule = "" ∨ message = "" then none
  else
    some ⟨id, schedule, .object
      ([("message", .string message), ("deliverTo", (delivery args).getD .null)] ++
        (suppressKeyword.map fun keyword ↦ ("suppressKeyword", Json.string keyword)).toList)⟩

def pushJob (jobs : List CronJob) (job : CronJob) : Option (List CronJob) :=
  if jobs.any fun j ↦ j.id = job.id then none else some (jobs ++ [job])

def retainJobs (jobs : List CronJob) (id : String) : Option (List CronJob) :=
  let kept := jobs.filter fun j ↦ j.id ≠ id
  if kept.length = jobs.length then none else some kept

def heartbeatJob (prompt : String) : CronJob :=
  ⟨"heartbeat", "@every 1h", .object
    [("message", .string ("ask:" ++ prompt)),
      ("deliverTo", .object [("channel", .string "telegram"), ("target", .string "last")]),
      ("suppressKeyword", .string "HEARTBEAT_OK")]⟩

namespace CronScheduler

def listAllJobs (s : CronScheduler) : List CronJob := s.jobs.values.map CronJobState.job

/-- The heartbeat is put in where the config has none. -/
def startup (prompt : String) (jobs : List CronJob) : CronScheduler :=
  let s :=
    if jobs.any fun j ↦ j.id = "heartbeat" then new
    else new.schedule (heartbeatJob
      (prompt ++ "\n\nIf all work is complete, reply with just HEARTBEAT_OK."))
  jobs.foldl schedule s

end CronScheduler

structure Tasks where
  scheduler : CronScheduler
  toolJobs : List CronJob
  panelJobs : List CronJob
  dispatchedJobs : List CronJob

/-- The file of the config may fail to be written. -/
inductive TaskEvent
  | taskCreate (args : Json) (written : Bool)
  | taskCancel (args : Json)
  | taskDelete (args : Json) (written : Bool)
  | scheduledTaskCreate (payload : Json) (written : Bool)
  | scheduledTaskCancel (taskId : String)
  | scheduledTaskResume (taskId : String)
  | scheduledTaskDelete (taskId : String)
  | reload (newJobs : List CronJob)
  | move (m : CronScheduler.LoopMove)

namespace Tasks

def startup (prompt : String) (jobs : List CronJob) : Tasks :=
  ⟨.startup prompt jobs, jobs, jobs, jobs⟩

def toolCreates (s : Tasks) (args : Json) (written : Bool) : Option (List CronJob) := do
  let job ← newJob args
  (pushJob s.toolJobs job).filter fun _ ↦ written

def taskCreate (s : Tasks) (args : Json) (written : Bool) : Tasks :=
  match s.toolCreates args written with
  | none => s
  | some jobs => { s with toolJobs := jobs, scheduler := s.scheduler.reconcile jobs }

def taskCancel (s : Tasks) (args : Json) : Tasks :=
  let id := argument args "id"
  if id = "" then s else { s with scheduler := s.scheduler.cancel id }

def toolDeletes (s : Tasks) (args : Json) (written : Bool) : Option (List CronJob) :=
  let id := argument args "id"
  if id = "" then none else (retainJobs s.toolJobs id).filter fun _ ↦ written

def taskDelete (s : Tasks) (args : Json) (written : Bool) : Tasks :=
  match s.toolDeletes args written with
  | none => s
  | some jobs => { s with toolJobs := jobs, scheduler := s.scheduler.reconcile jobs }

/-- Here a task that runs already is refused, too. -/
def panelCreates (s : Tasks) (payload : Json) (written : Bool) : Option (List CronJob) := do
  let job ← newJob payload
  let jobs ← pushJob s.panelJobs job
  if s.scheduler.isActive job.id || !written then none else some jobs

def scheduledTaskCreate (s : Tasks) (payload : Json) (written : Bool) : Tasks :=
  match s.panelCreates payload written with
  | none => s
  | some jobs => { s with panelJobs := jobs, scheduler := s.scheduler.reconcile jobs }

def scheduledTaskCancel (s : Tasks) (taskId : String) : Tasks :=
  if s.scheduler.isActive taskId then { s with scheduler := s.scheduler.cancel taskId } else s

def resumedJob (s : Tasks) (taskId : String) : Option CronJob :=
  (s.panelJobs.find? fun j ↦ j.id = taskId) <|>
    (s.scheduler.listAllJobs.find? fun j ↦ j.id = taskId) <|>
      if taskId = "heartbeat" then
        some (heartbeatJob ("Read HEARTBEAT.md if it exists. Follow it strictly. " ++
          "If nothing needs attention, reply with just HEARTBEAT_OK."))
      else none

def scheduledTaskResume (s : Tasks) (taskId : String) : Tasks :=
  match s.resumedJob taskId with
  | none => s
  | some job => { s with scheduler := s.scheduler.schedule job }

def stopTask (s : Tasks) (taskId : String) : Tasks :=
  if s.scheduler.listAllJobs.any fun j ↦ j.id = taskId then
    { s with scheduler := s.scheduler.cancel taskId }
  else s

/-- Whether the file is written plays no part. -/
def scheduledTaskDelete (s : Tasks) (taskId : String) : Tasks :=
  let s := s.stopTask taskId
  match retainJobs s.panelJobs taskId with
  | none => s
  | some jobs => { s with panelJobs := jobs, scheduler := s.scheduler.reconcile jobs }

/-- The dispatch task sends the jobs on where they are not those of its old config. -/
def reload (s : Tasks) (newJobs : List CronJob) : Tasks :=
  if newJobs = s.dispatchedJobs then s
  else { s with dispatchedJobs := newJobs, scheduler := s.scheduler.reconcile newJobs }

def apply (s : Tasks) : TaskEvent → Tasks
  | .taskCreate args written => s.taskCreate args written
  | .taskCancel args => s.taskCancel args
  | .taskDelete args written => s.taskDelete args written
  | .scheduledTaskCreate payload written => s.scheduledTaskCreate payload written
  | .scheduledTaskCancel taskId => s.scheduledTaskCancel taskId
  | .scheduledTaskResume taskId => s.scheduledTaskResume taskId
  | .scheduledTaskDelete taskId => s.scheduledTaskDelete taskId
  | .reload newJobs => s.reload newJobs
  | .move m => { s with scheduler := s.scheduler.move m }

end Tasks

end AdkGateway.Cron
