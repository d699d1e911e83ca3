import AdkGateway.Config
import AdkGateway.Cron.ScheduleInterval

namespace AdkGateway.Cron

open Foundation

inductive CronJobStatus
  | active
  | cancelled
  deriving DecidableEq

structure CronJobState where
  job : CronJob
  status : CronJobStatus
  cancelToken : Option ℕ

/-- A spawned task: it waits for its next trigger or its cancellation, or it is firing. Whether it
survives the reading of its schedule depends on the build: see `Process`. -/
structure CronLoop where
  job : CronJob
  cancel : ℕ
  firing : Bool
  deriving DecidableEq

structure CronScheduler where
  jobs : KeyedMap String CronJobState
  tokens : ℕ
  cancelled : List ℕ
  loops : List CronLoop

namespace CronScheduler

def new : CronScheduler := ⟨∅, 0, [], []⟩

def cancelJobState (s : CronScheduler) (jobId : String) : CronScheduler :=
  match s.jobs.lookup jobId with
  | none => s
  | some state =>
    { s with
      jobs := s.jobs.insert jobId { state with status := .cancelled }
      cancelled := state.cancelToken.toList ++ s.cancelled }

def schedule (s : CronScheduler) (job : CronJob) : CronScheduler :=
  let s := s.cancelJobState job.id
  let cancelToken := s.tokens
  { s with
    jobs := s.jobs.insert job.id ⟨job, .active, some cancelToken⟩
    tokens := s.tokens + 1
    loops := s.loops ++ [⟨job, cancelToken, false⟩] }

def cancel (s : CronScheduler) (jobId : String) : CronScheduler := s.cancelJobState jobId

/-- The pass over the current ids: a job that is not listed is cancelled and removed, except
for the heartbeat. -/
def removeUnlisted (newIds : List String) (s : CronScheduler) (id : String) : CronScheduler :=
  if !newIds.contains id && id != "heartbeat" then
    let s := s.cancel id
    { s with jobs := s.jobs.erase id }
  else s

def needsUpdate (s : CronScheduler) (job : CronJob) : Bool :=
  match s.jobs.lookup job.id with
  | none => true
  | some existing => existing.job != job || existing.status == .cancelled

def addOrUpdate (s : CronScheduler) (job : CronJob) : CronScheduler :=
  if s.needsUpdate job then s.schedule job else s

def reconcile (s : CronScheduler) (newJobs : List CronJob) : CronScheduler :=
  let newIds := newJobs.map CronJob.id
  let currentIds := s.jobs.keys
  let s := currentIds.foldl (removeUnlisted newIds) s
  newJobs.foldl addOrUpdate s

def isActive (s : CronScheduler) (jobId : String) : Bool :=
  ((s.jobs.lookup jobId).map fun state ↦ state.status == .active).getD false

inductive LoopMove
  | trigger (token : ℕ)
  | fired (token : ℕ)
  | exit (token : ℕ)

def move (s : CronScheduler) : LoopMove → CronScheduler
  | .trigger token =>
    { s with loops := s.loops.map fun l ↦ { l with firing := l.firing || l.cancel == token } }
  | .fired token =>
    { s with loops := s.loops.map fun l ↦ { l with firing := l.firing && l.cancel != token } }
  | .exit token =>
    { s with
      loops := s.loops.filter fun l ↦
        l.firing || l.cancel != token || !s.cancelled.contains token }

end CronScheduler

/-- The job that is to run under each id, as the calls say. -/
abbrev Roster := String → Option CronJob

namespace Roster

def enter (r : Roster) (job : CronJob) : Roster := Function.update r job.id (some job)

def keep (r : Roster) (newIds : List String) : Roster := fun id ↦
  if id ∉ newIds ∧ id ≠ "heartbeat" then none else r id

end Roster

end AdkGateway.Cron

namespace AdkGateway.Cron.CronScheduler

open Foundation

inductive Event
  | schedule (job : CronJob)
  | cancel (jobId : String)
  | reconcile (newJobs : List CronJob)
  | move (m : LoopMove)

def apply (s : CronScheduler) : Event → CronScheduler
  | .schedule job => s.schedule job
  | .cancel jobId => s.cancel jobId
  | .reconcile newJobs => s.reconcile newJobs
  | .move m => s.move m

def running (s : CronScheduler) (jobId : String) : List CronLoop :=
  s.loops.filter fun l ↦ l.job.id == jobId && !s.cancelled.contains l.cancel

def Runs (s : CronScheduler) (job : CronJob) (token : ℕ) : Prop :=
  (∃ l ∈ s.loops, l.job = job ∧ l.cancel = token) ∧ token ∉ s.cancelled

structure Tracked (s : CronScheduler) : Prop where
  entry : ∀ {id state}, s.jobs.lookup id = some state → state.job.id = id ∧
    ∃ token < s.tokens, state.cancelToken = some token ∧
      (state.status = .cancelled → token ∈ s.cancelled)
  loops_lt : ∀ l ∈ s.loops, l.cancel < s.tokens
  cancelled_lt : ∀ token ∈ s.cancelled, token < s.tokens
  nodup : (s.loops.map CronLoop.cancel).Nodup
  runs_iff : ∀ job token, s.Runs job token ↔ s.jobs.lookup job.id = some ⟨job, .active, some token⟩

variable {s : CronScheduler}

section Operations

theorem lookup_cancelJobState (jobId id : String) :
    (s.cancelJobState jobId).jobs.lookup id =
      if id = jobId then (s.jobs.lookup jobId).map fun state ↦ { state with status := .cancelled }
      else s.jobs.lookup id := by
  unfold cancelJobState
  cases hstate : s.jobs.lookup jobId with
  | none =>
    by_cases h : id = jobId
    · subst h; simp [hstate]
    · simp [h]
  | some state => rw [KeyedMap.lookup_insert_if]; rfl

theorem tokens_cancelJobState (jobId : String) : (s.cancelJobState jobId).tokens = s.tokens := by
  unfold cancelJobState
  split <;> rfl

theorem loops_cancelJobState (jobId : String) : (s.cancelJobState jobId).loops = s.loops := by
  unfold cancelJobState
  split <;> rfl

theorem Tracked.job_unique (h : s.Tracked) {job job' : CronJob} {token : ℕ}
    (hruns : s.Runs job token) (hruns' : s.Runs job' token) : job = job' := by
  obtain ⟨⟨l, hl, rfl, htoken⟩, -⟩ := hruns
  obtain ⟨⟨l', hl', rfl, htoken'⟩, -⟩ := hruns'
  rw [List.inj_on_of_nodup_map h.nodup hl hl' (htoken.trans htoken'.symm)]

theorem Tracked.cancelJobState (h : s.Tracked) (jobId : String) :
    (s.cancelJobState jobId).Tracked := by
  cases hstate : s.jobs.lookup jobId with
  | none =>
    have hs : s.cancelJobState jobId = s := by rw [CronScheduler.cancelJobState, hstate]
    rw [hs]
    exact h
  | some state =>
    obtain ⟨hid, token, htoken, hcancel, hcancelled⟩ := h.entry hstate
    have hset : (s.cancelJobState jobId).cancelled = token :: s.cancelled := by
      rw [CronScheduler.cancelJobState, hstate]
      simp only [hcancel]
      rfl
    refine ⟨fun {id state'} hlook ↦ ?_, ?_, ?_, ?_, fun job t ↦ ?_⟩
    · rw [lookup_cancelJobState] at hlook
      rw [tokens_cancelJobState, hset]
      by_cases hk : id = jobId
      · subst hk
        rw [if_pos rfl, hstate, Option.map_some, Option.some_inj] at hlook
        subst hlook
        exact ⟨hid, token, htoken, hcancel, fun _ ↦ List.mem_cons_self⟩
      · rw [if_neg hk] at hlook
        obtain ⟨hid', t, ht, hc, hcc⟩ := h.entry hlook
        exact ⟨hid', t, ht, hc, fun hs ↦ List.mem_cons_of_mem _ (hcc hs)⟩
    · rw [loops_cancelJobState, tokens_cancelJobState]
      exact h.loops_lt
    · rw [hset, tokens_cancelJobState]
      exact List.forall_mem_cons.mpr ⟨htoken, h.cancelled_lt⟩
    · rw [loops_cancelJobState]
      exact h.nodup
    · -- the cancelled token belongs to no other live loop
      have hother (hruns : s.Runs job t) : t = token ↔ job.id = jobId := by
        have hlook := (h.runs_iff job t).mp hruns
        constructor
        · rintro rfl
          have hactive : state.status = .active := by
            cases hs : state.status with
            | active => rfl
            | cancelled => exact absurd (hcancelled hs) hruns.2
          have heq : state = ⟨state.job, .active, some t⟩ := by
            rw [← hactive, ← hcancel]
          rw [h.job_unique hruns ((h.runs_iff state.job t).mpr (by rw [hid, hstate, ← heq]))]
          exact hid
        · rintro rfl
          rw [hstate, Option.some_inj] at hlook
          rw [hlook] at hcancel
          exact Option.some_inj.mp hcancel
      rw [Runs, lookup_cancelJobState, loops_cancelJobState, hset, List.mem_cons, not_or]
      by_cases hk : job.id = jobId
      · rw [if_pos hk, hstate]
        refine iff_of_false (fun hruns ↦ ?_) (by simp)
        exact hruns.2.1 ((hother ⟨hruns.1, hruns.2.2⟩).mpr hk)
      · rw [if_neg hk, ← h.runs_iff]
        exact ⟨fun hruns ↦ ⟨hruns.1, hruns.2.2⟩,
          fun hruns ↦ ⟨hruns.1, fun he ↦ hk ((hother hruns).mp he), hruns.2⟩⟩

theorem lookup_schedule (job : CronJob) (id : String) :
    (s.schedule job).jobs.lookup id =
      if id = job.id then some ⟨job, .active, some s.tokens⟩ else s.jobs.lookup id := by
  rw [schedule, KeyedMap.lookup_insert_if, tokens_cancelJobState, lookup_cancelJobState]
  by_cases h : id = job.id
  · rw [if_pos h, if_pos h]
  · rw [if_neg h, if_neg h, if_neg h]

theorem Tracked.schedule (h : s.Tracked) (job : CronJob) : (s.schedule job).Tracked := by
  have hc := h.cancelJobState job.id
  have htokens : (s.schedule job).tokens = s.tokens + 1 := by
    rw [CronScheduler.schedule, tokens_cancelJobState]
  have hloops : (s.schedule job).loops = s.loops ++ [⟨job, s.tokens, false⟩] := by
    rw [CronScheduler.schedule, loops_cancelJobState, tokens_cancelJobState]
  have hcancelled : (s.schedule job).cancelled = (s.cancelJobState job.id).cancelled := rfl
  have hfresh : s.tokens ∉ (s.cancelJobState job.id).cancelled := fun hmem ↦ by
    have hlt := hc.cancelled_lt _ hmem
    rw [tokens_cancelJobState] at hlt
    omega
  refine ⟨fun {id state} hlook ↦ ?_, fun l hl ↦ ?_, fun t ht ↦ ?_, ?_, fun job' t ↦ ?_⟩
  · rw [lookup_schedule] at hlook
    rw [htokens, hcancelled]
    by_cases hk : id = job.id
    · rw [if_pos hk, Option.some_inj] at hlook
      subst hlook
      exact ⟨hk.symm, s.tokens, by omega, rfl, fun hs ↦ by cases hs⟩
    · rw [if_neg hk] at hlook
      have hlook' : (s.cancelJobState job.id).jobs.lookup id = some state := by
        rw [lookup_cancelJobState, if_neg hk, hlook]
      obtain ⟨hid, t, ht, htoken, hst⟩ := hc.entry hlook'
      rw [tokens_cancelJobState] at ht
      exact ⟨hid, t, by omega, htoken, hst⟩
  · rw [hloops, List.mem_append, List.mem_singleton] at hl
    rw [htokens]
    rcases hl with hl | rfl
    · have hlt := h.loops_lt l hl
      omega
    · exact Nat.lt_succ_self _
  · have hlt := hc.cancelled_lt t ht
    rw [tokens_cancelJobState] at hlt
    rw [htokens]
    omega
  · rw [hloops, List.map_append, List.map_cons, List.map_nil]
    refine List.nodup_append.mpr ⟨h.nodup, List.nodup_singleton _, ?_⟩
    intro t ht t' ht'
    obtain ⟨l, hl, rfl⟩ := List.mem_map.mp ht
    have hlt := h.loops_lt l hl
    rw [List.mem_singleton.mp ht']
    exact Nat.ne_of_lt hlt
  · -- a live loop is the new one or one that the cancelling left
    have hsplit : (s.schedule job).Runs job' t ↔
        (s.cancelJobState job.id).Runs job' t ∨ job' = job ∧ t = s.tokens := by
      rw [Runs, Runs, hloops, hcancelled, loops_cancelJobState]
      constructor
      · rintro ⟨⟨l, hl, hjob, ht⟩, hlive⟩
        rcases List.mem_append.mp hl with hl | hl
        · exact .inl ⟨⟨l, hl, hjob, ht⟩, hlive⟩
        · rw [List.mem_singleton] at hl
          subst hl
          exact .inr ⟨hjob.symm, ht.symm⟩
      · rintro (⟨⟨l, hl, hrest⟩, hlive⟩ | ⟨rfl, rfl⟩)
        · exact ⟨⟨l, List.mem_append_left _ hl, hrest⟩, hlive⟩
        · exact ⟨⟨_, List.mem_append_right _ List.mem_cons_self, rfl, rfl⟩, hfresh⟩
    rw [hsplit, hc.runs_iff, lookup_schedule, lookup_cancelJobState]
    by_cases hk : job'.id = job.id
    · rw [if_pos hk, if_pos hk]
      constructor
      · rintro (hold | ⟨rfl, rfl⟩)
        · obtain ⟨state, -, hstate⟩ := Option.map_eq_some_iff.mp hold
          cases hstate
        · rfl
      · intro hnew
        cases hnew
        exact .inr ⟨rfl, rfl⟩
    · rw [if_neg hk, if_neg hk]
      exact or_iff_left fun hnew ↦ hk (congrArg CronJob.id hnew.1)

theorem Tracked.remove (h : s.Tracked) (id : String) :
    ({ s.cancel id with jobs := (s.cancel id).jobs.erase id } : CronScheduler).Tracked := by
  have hc : (s.cancel id).Tracked := h.cancelJobState id
  refine ⟨fun {id' state} hlook ↦ ?_, hc.loops_lt, hc.cancelled_lt, hc.nodup, fun job t ↦ ?_⟩
  · exact hc.entry (KeyedMap.lookup_erase_eq_some.mp hlook).2
  · refine (hc.runs_iff job t).trans ?_
    rw [KeyedMap.lookup_erase_if, cancel, lookup_cancelJobState]
    by_cases hk : job.id = id
    · rw [if_pos hk, if_pos hk]
      refine iff_of_false (fun hold ↦ ?_) (by simp)
      obtain ⟨state, -, hstate⟩ := Option.map_eq_some_iff.mp hold
      cases hstate
    · rw [if_neg hk, if_neg hk]

theorem Tracked.removeUnlisted (h : s.Tracked) (newIds : List String) (id : String) :
    (s.removeUnlisted newIds id).Tracked := by
  unfold CronScheduler.removeUnlisted
  split
  · exact h.remove id
  · exact h

theorem Tracked.addOrUpdate (h : s.Tracked) (job : CronJob) : (s.addOrUpdate job).Tracked := by
  unfold CronScheduler.addOrUpdate
  split
  · exact h.schedule job
  · exact h

theorem Tracked.reconcile (h : s.Tracked) (newJobs : List CronJob) :
    (s.reconcile newJobs).Tracked := by
  have hremove (ids : List String) :
      (ids.foldl (CronScheduler.removeUnlisted (newJobs.map CronJob.id)) s).Tracked :=
    List.foldlRecOn ids _ h fun s' hs' id _ ↦ hs'.removeUnlisted _ id
  exact List.foldlRecOn newJobs _ (hremove s.jobs.keys) fun s' hs' job _ ↦ hs'.addOrUpdate job

theorem Tracked.move (h : s.Tracked) (m : LoopMove) : (s.move m).Tracked := by
  -- a move keeps every loop that is not cancelled, with its job and token
  have hkeep (f : CronLoop → CronLoop) (hf : ∀ l, (f l).job = l.job ∧ (f l).cancel = l.cancel) :
      ({ s with loops := s.loops.map f } : CronScheduler).Tracked := by
    refine ⟨h.entry, fun l hl ↦ ?_, h.cancelled_lt, ?_, fun job t ↦ ?_⟩
    · obtain ⟨l', hl', rfl⟩ := List.mem_map.mp hl
      rw [(hf l').2]
      exact h.loops_lt l' hl'
    · have hcancel : CronLoop.cancel ∘ f = CronLoop.cancel := funext fun l ↦ (hf l).2
      rw [List.map_map, hcancel]
      exact h.nodup
    · refine Iff.trans (and_congr_left fun _ ↦ ?_) (h.runs_iff job t)
      simp only [List.mem_map, exists_exists_and_eq_and, (hf _).1, (hf _).2]
  cases m with
  | trigger token => exact hkeep _ fun _ ↦ ⟨rfl, rfl⟩
  | fired token => exact hkeep _ fun _ ↦ ⟨rfl, rfl⟩
  | exit token =>
    refine ⟨h.entry, fun l hl ↦ h.loops_lt l (List.mem_filter.mp hl).1, h.cancelled_lt,
      h.nodup.sublist (List.filter_sublist.map _), fun job t ↦ ?_⟩
    refine Iff.trans (and_congr_left fun hlive ↦ ?_) (h.runs_iff job t)
    constructor
    · rintro ⟨l, hl, hrest⟩
      exact ⟨l, (List.mem_filter.mp hl).1, hrest⟩
    · rintro ⟨l, hl, hjob, rfl⟩
      have hlive' : l.cancel ∉ s.cancelled := hlive
      refine ⟨l, List.mem_filter.mpr ⟨hl, ?_⟩, hjob, rfl⟩
      by_cases hexit : l.cancel = token
      · subst hexit
        simp [hlive']
      · simp [hexit]

end Operations

theorem tracked_new : new.Tracked := by
  refine ⟨fun hlook ↦ ?_, fun l hl ↦ ?_, fun t ht ↦ ?_, List.nodup_nil, fun job t ↦ ?_⟩
  · cases (AList.lookup_empty _).symm.trans hlook
  · cases hl
  · cases ht
  · refine iff_of_false (fun hruns ↦ ?_) (fun hlook ↦ ?_)
    · obtain ⟨⟨l, hl, -⟩, -⟩ := hruns
      cases hl
    · cases (AList.lookup_empty _).symm.trans hlook

theorem Tracked.apply (h : s.Tracked) (e : Event) : (s.apply e).Tracked := by
  cases e with
  | schedule job => exact h.schedule job
  | cancel jobId => exact h.cancelJobState jobId
  | reconcile newJobs => exact h.reconcile newJobs
  | move m => exact h.move m

section Running

theorem mem_running {jobId : String} {l : CronLoop} :
    l ∈ s.running jobId ↔ l ∈ s.loops ∧ l.job.id = jobId ∧ l.cancel ∉ s.cancelled := by
  simp [running]

theorem Tracked.of_mem_running (h : s.Tracked) {jobId : String} {l : CronLoop}
    (hl : l ∈ s.running jobId) : s.jobs.lookup jobId = some ⟨l.job, .active, some l.cancel⟩ := by
  obtain ⟨hmem, rfl, hlive⟩ := mem_running.mp hl
  exact (h.runs_iff l.job l.cancel).mp ⟨⟨l, hmem, rfl, rfl⟩, hlive⟩

theorem Tracked.running_nodup (h : s.Tracked) (jobId : String) : (s.running jobId).Nodup :=
  (List.Nodup.of_map _ h.nodup).filter _

theorem Tracked.running_le_one (h : s.Tracked) (jobId : String) : (s.running jobId).length ≤ 1 := by
  have hsame : ∀ l ∈ s.running jobId, ∀ l' ∈ s.running jobId, l = l' := fun l hl l' hl' ↦ by
    have hlook := (h.of_mem_running hl).symm.trans (h.of_mem_running hl')
    simp only [Option.some.injEq, CronJobState.mk.injEq, true_and] at hlook
    exact List.inj_on_of_nodup_map h.nodup (mem_running.mp hl).1 (mem_running.mp hl').1 hlook.2
  have hnodup := h.running_nodup jobId
  match hrun : s.running jobId with
  | [] => exact Nat.zero_le _
  | [_] => exact Nat.le_refl _
  | l :: l' :: ls =>
    rw [hrun] at hsame hnodup
    have hll' := hsame l List.mem_cons_self l' (List.mem_cons_of_mem _ List.mem_cons_self)
    subst hll'
    exact absurd List.mem_cons_self (List.nodup_cons.mp hnodup).1

theorem isActive_iff {jobId : String} :
    s.isActive jobId = true ↔
      ∃ state, s.jobs.lookup jobId = some state ∧ state.status = .active := by
  cases hstate : s.jobs.lookup jobId with
  | none => simp [isActive, hstate]
  | some state => simp [isActive, hstate]

theorem Tracked.running_of_lookup (h : s.Tracked) {jobId : String} {state : CronJobState}
    (hlook : s.jobs.lookup jobId = some state) (hactive : state.status = .active) :
    (s.running jobId).map CronLoop.job = [state.job] := by
  obtain ⟨hid, token, -, htoken, -⟩ := h.entry hlook
  have heq : state = ⟨state.job, .active, some token⟩ := by rw [← hactive, ← htoken]
  have hruns : s.Runs state.job token :=
    (h.runs_iff state.job token).mpr (by rw [hid, hlook, ← heq])
  obtain ⟨⟨l, hl, hjob, rfl⟩, hlive⟩ := hruns
  have hmem : l ∈ s.running jobId := mem_running.mpr ⟨hl, by rw [hjob, hid], hlive⟩
  have hle := h.running_le_one jobId
  match hrun : s.running jobId with
  | [] => rw [hrun] at hmem; cases hmem
  | [l'] =>
    rw [hrun, List.mem_singleton] at hmem
    rw [← hmem, ← hjob]
    rfl
  | l :: l' :: ls =>
    rw [hrun, List.length_cons, List.length_cons] at hle
    omega

theorem Tracked.running_iff (h : s.Tracked) (jobId : String) :
    (s.running jobId).length = 1 ↔ s.isActive jobId = true := by
  rw [isActive_iff]
  constructor
  · intro hone
    obtain ⟨l, hl⟩ := List.length_eq_one_iff.mp hone
    exact ⟨_, h.of_mem_running (hl ▸ List.mem_cons_self), rfl⟩
  · rintro ⟨state, hlook, hactive⟩
    have hrun := congrArg List.length (h.running_of_lookup hlook hactive)
    rw [List.length_map] at hrun
    exact hrun

end Running

section Reconcile

def Schedules (s : CronScheduler) (job : CronJob) : Prop :=
  ∃ token, s.jobs.lookup job.id = some ⟨job, .active, token⟩

theorem needsUpdate_eq_false {job : CronJob} : s.needsUpdate job = false ↔ s.Schedules job := by
  unfold needsUpdate Schedules
  cases hstate : s.jobs.lookup job.id with
  | none => simp
  | some state =>
    obtain ⟨job', status, token⟩ := state
    cases status <;> simp

theorem lookup_removeUnlisted (newIds : List String) (id k : String) :
    (s.removeUnlisted newIds id).jobs.lookup k =
      if k = id ∧ k ∉ newIds ∧ k ≠ "heartbeat" then none else s.jobs.lookup k := by
  unfold removeUnlisted
  by_cases hdrop : id ∉ newIds ∧ id ≠ "heartbeat"
  · rw [if_pos (by simpa using hdrop), KeyedMap.lookup_erase_if]
    by_cases hk : k = id
    · rw [if_pos hk, if_pos ⟨hk, hk ▸ hdrop⟩]
    · rw [if_neg hk, if_neg fun h ↦ hk h.1, cancel, lookup_cancelJobState, if_neg hk]
  · rw [if_neg (by simpa using hdrop), if_neg]
    rintro ⟨rfl, hk⟩
    exact hdrop hk

theorem lookup_removePass (newIds : List String) (k : String) :
    (s.jobs.keys.foldl (removeUnlisted newIds) s).jobs.lookup k =
      if k ∉ newIds ∧ k ≠ "heartbeat" then none else s.jobs.lookup k := by
  have hpass (ids : List String) (s : CronScheduler) :
      (ids.foldl (removeUnlisted newIds) s).jobs.lookup k =
        if k ∈ ids ∧ k ∉ newIds ∧ k ≠ "heartbeat" then none else s.jobs.lookup k := by
    induction ids generalizing s with
    | nil => simp
    | cons id ids ih =>
      rw [List.foldl_cons, ih, lookup_removeUnlisted]
      by_cases hdrop : k ∉ newIds ∧ k ≠ "heartbeat"
      · by_cases hk : k = id
        · subst hk
          simp [hdrop]
        · simp [hdrop, hk]
      · rw [if_neg fun h ↦ hdrop h.2, if_neg fun h ↦ hdrop h.2, if_neg fun h ↦ hdrop h.2]
  rw [hpass]
  by_cases hmem : k ∈ s.jobs.keys
  · simp [hmem]
  · have hnone : s.jobs.lookup k = none := AList.lookup_eq_none.mpr hmem
    simp [hmem, hnone]

theorem schedules_addOrUpdate (job : CronJob) : (s.addOrUpdate job).Schedules job := by
  unfold addOrUpdate
  split
  case isTrue => exact ⟨some s.tokens, by rw [lookup_schedule, if_pos rfl]⟩
  case isFalse hsame => exact needsUpdate_eq_false.mp (by simpa using hsame)

theorem lookup_addOrUpdate {job : CronJob} {k : String} (hk : k ≠ job.id) :
    (s.addOrUpdate job).jobs.lookup k = s.jobs.lookup k := by
  unfold addOrUpdate
  split
  · rw [lookup_schedule, if_neg hk]
  · rfl

theorem lookup_addPass {newJobs : List CronJob} {k : String} (hk : k ∉ newJobs.map CronJob.id) :
    (newJobs.foldl addOrUpdate s).jobs.lookup k = s.jobs.lookup k := by
  induction newJobs generalizing s with
  | nil => rfl
  | cons job newJobs ih =>
    obtain ⟨hne, hrest⟩ := not_or.mp fun h ↦ hk (List.mem_cons.mpr h)
    rw [List.foldl_cons, ih hrest, lookup_addOrUpdate hne]

theorem schedules_addPass {newJobs : List CronJob} (hnodup : (newJobs.map CronJob.id).Nodup)
    {job : CronJob} (hjob : job ∈ newJobs) : (newJobs.foldl addOrUpdate s).Schedules job := by
  induction newJobs generalizing s with
  | nil => cases hjob
  | cons first newJobs ih =>
    obtain ⟨hnew, hrest⟩ := List.nodup_cons.mp hnodup
    rw [List.foldl_cons]
    rcases List.mem_cons.mp hjob with rfl | hmem
    · rw [Schedules, lookup_addPass hnew]
      exact schedules_addOrUpdate job
    · exact ih hrest hmem

theorem lookup_reconcile {newJobs : List CronJob} {k : String} (hk : k ∉ newJobs.map CronJob.id) :
    (s.reconcile newJobs).jobs.lookup k = if k = "heartbeat" then s.jobs.lookup k else none := by
  rw [reconcile, lookup_addPass hk, lookup_removePass]
  by_cases hheart : k = "heartbeat" <;> simp [hk, hheart]

theorem isActive_reconcile {newJobs : List CronJob} (hnodup : (newJobs.map CronJob.id).Nodup)
    (jobId : String) :
    (s.reconcile newJobs).isActive jobId = true ↔
      jobId ∈ newJobs.map CronJob.id ∨ jobId = "heartbeat" ∧ s.isActive jobId = true := by
  by_cases hlisted : jobId ∈ newJobs.map CronJob.id
  · obtain ⟨job, hjob, rfl⟩ := List.mem_map.mp hlisted
    obtain ⟨token, hlook⟩ : (s.reconcile newJobs).Schedules job := schedules_addPass hnodup hjob
    exact iff_of_true (isActive_iff.mpr ⟨_, hlook, rfl⟩) (.inl hlisted)
  · rw [or_iff_right hlisted, isActive_iff, isActive_iff, lookup_reconcile hlisted]
    by_cases hheart : jobId = "heartbeat" <;> simp [hheart]

theorem reconcile_eq_self {newJobs : List CronJob}
    (hkeys : ∀ k, (s.jobs.lookup k).isSome → k ∈ newJobs.map CronJob.id ∨ k = "heartbeat")
    (hjobs : ∀ job ∈ newJobs, s.Schedules job) : s.reconcile newJobs = s := by
  have hkeep : ∀ id ∈ s.jobs.keys, s.removeUnlisted (newJobs.map CronJob.id) id = s := by
    intro id hid
    rw [removeUnlisted, if_neg]
    rcases hkeys id (AList.lookup_isSome.mpr hid) with hlisted | hheart
    · simp [hlisted]
    · simp [hheart]
  have hremove (ids : List String)
      (hids : ∀ id ∈ ids, s.removeUnlisted (newJobs.map CronJob.id) id = s) :
      ids.foldl (removeUnlisted (newJobs.map CronJob.id)) s = s := by
    induction ids with
    | nil => rfl
    | cons id ids ih =>
      rw [List.foldl_cons, hids id List.mem_cons_self]
      exact ih fun id' hid' ↦ hids id' (List.mem_cons_of_mem _ hid')
  have hadd (jobs : List CronJob) (h : ∀ job ∈ jobs, s.Schedules job) :
      jobs.foldl addOrUpdate s = s := by
    induction jobs with
    | nil => rfl
    | cons job jobs ih =>
      have hsame : s.addOrUpdate job = s := by
        rw [addOrUpdate, needsUpdate_eq_false.mpr (h job List.mem_cons_self)]
        rfl
      rw [List.foldl_cons, hsame]
      exact ih fun job' hjob' ↦ h job' (List.mem_cons_of_mem _ hjob')
  rw [reconcile, hremove _ hkeep]
  exact hadd newJobs hjobs

theorem jobs_move (m : LoopMove) : (s.move m).jobs = s.jobs := by
  cases m <;> rfl

end Reconcile

section Roster

def roster (s : CronScheduler) : Roster := fun id ↦
  (s.jobs.lookup id).bind fun state ↦ if state.status = .active then some state.job else none

theorem roster_eq_some {id : String} {job : CronJob} :
    s.roster id = some job ↔ ∃ token, s.jobs.lookup id = some ⟨job, .active, token⟩ := by
  unfold roster
  cases hstate : s.jobs.lookup id with
  | none => simp
  | some state =>
    obtain ⟨job', status, token⟩ := state
    cases status <;> simp

theorem roster_cancelJobState (jobId : String) :
    (s.cancelJobState jobId).roster = Function.update s.roster jobId none := by
  funext id
  rw [roster, lookup_cancelJobState]
  obtain rfl | hne := eq_or_ne id jobId
  · rw [if_pos rfl, Function.update_self]
    cases s.jobs.lookup id <;> rfl
  · rw [if_neg hne, Function.update_of_ne hne]
    rfl

theorem roster_schedule (job : CronJob) : (s.schedule job).roster = s.roster.enter job := by
  funext id
  rw [roster, lookup_schedule, Roster.enter]
  obtain rfl | hne := eq_or_ne id job.id
  · rw [if_pos rfl, Function.update_self]
    rfl
  · rw [if_neg hne, Function.update_of_ne hne]
    rfl

theorem roster_addOrUpdate (job : CronJob) : (s.addOrUpdate job).roster = s.roster.enter job := by
  unfold addOrUpdate
  split
  case isTrue => exact roster_schedule job
  case isFalse hsame =>
    have hjob : s.roster job.id = some job :=
      roster_eq_some.mpr (needsUpdate_eq_false.mp (by simpa using hsame))
    rw [Roster.enter, ← hjob, Function.update_eq_self]

theorem roster_removePass (newIds : List String) :
    (s.jobs.keys.foldl (removeUnlisted newIds) s).roster = s.roster.keep newIds := by
  funext id
  rw [roster, lookup_removePass, Roster.keep]
  split <;> rfl

theorem roster_reconcile (newJobs : List CronJob) : (s.reconcile newJobs).roster =
    newJobs.foldl Roster.enter (s.roster.keep (newJobs.map CronJob.id)) := by
  rw [reconcile, ← roster_removePass]
  exact (List.foldl_hom roster fun s job ↦ (roster_addOrUpdate (s := s) job).symm).symm

end Roster

end AdkGateway.Cron.CronScheduler

namespace AdkGateway.Cron

open Foundation CronScheduler

/-- A call, a move of a loop, or the first poll of a spawned task, which reads its schedule. -/
inductive Step
  | call (e : Event)
  | start (token : ℕ)

structure Process where
  scheduler : CronScheduler
  started : List ℕ

def CronScheduler.LoopMove.token : LoopMove → ℕ
  | .trigger token => token
  | .fired token => token
  | .exit token => token

def CronScheduler.keeping (s : CronScheduler) (keep : CronLoop → Bool) : CronScheduler :=
  { s with loops := s.loops.filter keep }

namespace Process

/-- A loop that reads its schedule with a panic is gone. -/
def step (build : Build) (p : Process) : Step → Process
  | .call (.move m) =>
    if p.started.contains m.token then { p with scheduler := p.scheduler.move m } else p
  | .call e => { p with scheduler := p.scheduler.apply e }
  | .start token =>
    if token < p.scheduler.tokens then
      ⟨p.scheduler.keeping fun l ↦
        l.cancel != token || (parseScheduleInterval build l.job.schedule).isSome,
        token :: p.started⟩
    else p

def run (build : Build) (steps : List Step) : Process := steps.foldl (step build) ⟨new, []⟩

def Quiescent (p : Process) : Prop := ∀ l ∈ p.scheduler.loops, l.cancel ∈ p.started

end Process

def Step.isOwn : Step → Bool
  | .call (.move _) => true
  | .call _ => false
  | .start _ => true

def Roster.after (r : Roster) : Step → Roster
  | .call (.schedule job) => r.enter job
  | .call (.cancel jobId) => Function.update r jobId none
  | .call (.reconcile newJobs) => newJobs.foldl enter (r.keep (newJobs.map CronJob.id))
  | .call (.move _) => r
  | .start _ => r

def roster (steps : List Step) : Roster := steps.foldl Roster.after fun _ ↦ none

def Step.jobs : Step → List CronJob
  | .call (.schedule job) => [job]
  | .call (.reconcile newJobs) => newJobs
  | .call (.cancel _) => []
  | .call (.move _) => []
  | .start _ => []

/-- One loop for an active job and none for another whenever all is quiet, and a reconciliation
that lists each job once leaves just the listed jobs active, each with its loop, and does nothing
when it is made again. -/
structure KeepsLoops (build : Build) (steps : List Step) : Prop where
  one : ∀ before, before <+: steps → (Process.run build before).Quiescent → ∀ jobId,
    ((Process.run build before).scheduler.running jobId).length ≤ 1 ∧
      (((Process.run build before).scheduler.running jobId).length = 1 ↔
        (Process.run build before).scheduler.isActive jobId = true)
  reconciled : ∀ before newJobs own, before ++ .call (.reconcile newJobs) :: own <+: steps →
    (∀ step ∈ own, step.isOwn = true) → (newJobs.map CronJob.id).Nodup → ∀ p,
    p = Process.run build (before ++ .call (.reconcile newJobs) :: own) →
      (∀ jobId, p.scheduler.isActive jobId = true ↔ jobId ∈ newJobs.map CronJob.id ∨
        jobId = "heartbeat" ∧ (Process.run build before).scheduler.isActive jobId = true) ∧
      (p.Quiescent →
        ∀ job ∈ newJobs, (p.scheduler.running job.id).map CronLoop.job = [job]) ∧
      p.step build (.call (.reconcile newJobs)) = p

/-- Whenever all is quiet, no job that is to run has a schedule whose reading panics. -/
def RosterReads (build : Build) (steps : List Step) : Prop :=
  ∀ before, before <+: steps → (Process.run build before).Quiescent →
    ∀ id job, roster before id = some job → ¬ Panics build job.schedule

section Keeping

variable {s : CronScheduler} {keep : CronLoop → Bool}

theorem keeping_cancelJobState (jobId : String) :
    (s.keeping keep).cancelJobState jobId = (s.cancelJobState jobId).keeping keep := by
  rw [CronScheduler.cancelJobState, CronScheduler.cancelJobState]
  change (match s.jobs.lookup jobId with | none => _ | some state => _) = _
  cases s.jobs.lookup jobId <;> rfl

def Thins (keep : CronLoop → Bool) (tokens : ℕ) (s' s : CronScheduler) : Prop :=
  s' = s.keeping keep ∧ tokens ≤ s.tokens

variable {tokens : ℕ} {s' : CronScheduler}

theorem Thins.schedule (h : Thins keep tokens s' s)
    (hnew : ∀ l : CronLoop, tokens ≤ l.cancel → keep l = true) (job : CronJob) :
    Thins keep tokens (s'.schedule job) (s.schedule job) := by
  obtain ⟨rfl, hle⟩ := h
  have htokens := tokens_cancelJobState (s := s) job.id
  have hloops := loops_cancelJobState (s := s) job.id
  refine ⟨?_, ?_⟩
  · have hkeep : keep ⟨job, s.tokens, false⟩ = true := hnew _ hle
    rw [CronScheduler.schedule, CronScheduler.schedule, keeping_cancelJobState]
    simp only [keeping, htokens, List.filter_append, List.filter_cons, hkeep, if_pos,
      List.filter_nil]
  · rw [CronScheduler.schedule]
    exact hle.trans (by rw [htokens]; exact Nat.le_succ _)

theorem Thins.removeUnlisted (h : Thins keep tokens s' s) (newIds : List String) (id : String) :
    Thins keep tokens (s'.removeUnlisted newIds id) (s.removeUnlisted newIds id) := by
  obtain ⟨rfl, hle⟩ := h
  rw [CronScheduler.removeUnlisted, CronScheduler.removeUnlisted]
  split
  · refine ⟨?_, ?_⟩
    · simp only [CronScheduler.cancel, keeping_cancelJobState]
      rfl
    · exact hle.trans (tokens_cancelJobState id).ge
  · exact ⟨rfl, hle⟩

theorem Thins.addOrUpdate (h : Thins keep tokens s' s)
    (hnew : ∀ l : CronLoop, tokens ≤ l.cancel → keep l = true) (job : CronJob) :
    Thins keep tokens (s'.addOrUpdate job) (s.addOrUpdate job) := by
  have hneeds : s'.needsUpdate job = s.needsUpdate job := by rw [h.1]; rfl
  rw [CronScheduler.addOrUpdate, CronScheduler.addOrUpdate, hneeds]
  split
  · exact h.schedule hnew job
  · exact h

theorem Thins.reconcile (h : Thins keep tokens s' s)
    (hnew : ∀ l : CronLoop, tokens ≤ l.cancel → keep l = true) (newJobs : List CronJob) :
    Thins keep tokens (s'.reconcile newJobs) (s.reconcile newJobs) := by
  have hkeys : s'.jobs.keys = s.jobs.keys := by rw [h.1]; rfl
  rw [CronScheduler.reconcile, CronScheduler.reconcile, hkeys]
  refine List.foldl_rel (List.foldl_rel h fun id _ _ _ hs ↦ hs.removeUnlisted _ id) ?_
  exact fun job _ _ _ hs ↦ hs.addOrUpdate hnew job

end Keeping

section Process

variable {build : Build} {p : Process} {s : CronScheduler}

def survives (build : Build) (started : List ℕ) (l : CronLoop) : Bool :=
  !started.contains l.cancel || (parseScheduleInterval build l.job.schedule).isSome

/-- The process is a scheduler whose loops never panic, without those that did. -/
structure Process.Follows (build : Build) (p : Process) (s : CronScheduler) : Prop where
  tracked : s.Tracked
  eq : p.scheduler = s.keeping (survives build p.started)
  started_lt : ∀ token ∈ p.started, token < s.tokens

theorem survives_of_le (build : Build) (hlt : ∀ token ∈ p.started, token < s.tokens) (l : CronLoop)
    (hle : s.tokens ≤ l.cancel) : survives build p.started l = true := by
  have hnot : l.cancel ∉ p.started := fun hmem ↦ by
    have hl := hlt _ hmem
    omega
  simp [survives, hnot]

theorem keeping_move (keep : CronLoop → Bool) (m : LoopMove)
    (hkeep : ∀ job token firing firing',
      keep ⟨job, token, firing⟩ = keep ⟨job, token, firing'⟩) :
    (s.keeping keep).move m = (s.move m).keeping keep := by
  have hmap (f : CronLoop → Bool) : (s.loops.filter keep).map (fun l ↦ { l with firing := f l }) =
      (s.loops.map fun l ↦ { l with firing := f l }).filter keep := by
    rw [List.filter_map]
    congr 1
    exact List.filter_congr fun l _ ↦ hkeep l.job l.cancel l.firing (f l)
  cases m with
  | trigger token => exact congrArg (CronScheduler.mk _ _ _) (hmap _)
  | fired token => exact congrArg (CronScheduler.mk _ _ _) (hmap _)
  | exit token =>
    exact congrArg (CronScheduler.mk _ _ _) (List.filter_comm _ _ _)

theorem Process.Follows.of_thins (h : p.Follows build s) {e : Event} (he : (s.apply e).Tracked)
    {s' : CronScheduler}
    (hthins : Thins (survives build p.started) s.tokens s' (s.apply e)) :
    Process.Follows build { p with scheduler := s' } (s.apply e) :=
  ⟨he, hthins.1, fun token ht ↦ lt_of_lt_of_le (h.started_lt token ht) hthins.2⟩

theorem Process.Follows.step (h : p.Follows build s) (step : Step) :
    ∃ s', (p.step build step).Follows build s' := by
  have hthins : Thins (survives build p.started) s.tokens p.scheduler s := ⟨h.eq, le_rfl⟩
  have hnew := survives_of_le build h.started_lt
  cases step with
  | call e =>
    have htracked := h.tracked.apply e
    cases e with
    | schedule job => exact ⟨_, h.of_thins htracked (hthins.schedule hnew job)⟩
    | reconcile newJobs => exact ⟨_, h.of_thins htracked (hthins.reconcile hnew newJobs)⟩
    | cancel jobId =>
      refine ⟨_, h.of_thins htracked ⟨?_, (tokens_cancelJobState jobId).ge⟩⟩
      rw [h.eq]
      exact keeping_cancelJobState jobId
    | move m =>
      rw [Process.step]
      split
      · refine ⟨_, h.of_thins htracked ⟨?_, ?_⟩⟩
        · rw [h.eq]
          exact keeping_move _ m fun _ _ _ _ ↦ rfl
        · cases m <;> exact le_rfl
      · exact ⟨s, h⟩
  | start token =>
    rw [Process.step]
    split
    case isTrue hlt =>
      have htokens : p.scheduler.tokens = s.tokens := by rw [h.eq]; rfl
      refine ⟨s, h.tracked, ?_, ?_⟩
      · simp only [h.eq, CronScheduler.keeping, List.filter_filter]
        congr 1
        refine List.filter_congr fun l _ ↦ ?_
        simp only [survives, List.contains_cons, bne]
        cases l.cancel == token <;> cases p.started.contains l.cancel <;>
          cases (parseScheduleInterval build l.job.schedule).isSome <;> rfl
      · exact List.forall_mem_cons.mpr ⟨htokens ▸ hlt, h.started_lt⟩
    case isFalse => exact ⟨s, h⟩

theorem Process.follows_run (build : Build) (steps : List Step) :
    ∃ s, (Process.run build steps).Follows build s :=
  List.foldlRecOn (motive := fun p : Process ↦ ∃ s, p.Follows build s) steps _
    ⟨new, tracked_new, rfl, List.forall_mem_nil _⟩ fun _ ⟨_, h⟩ step _ ↦ h.step step

section Quiet

variable (h : p.Follows build s)
include h

theorem Process.Follows.lookup_eq (jobId : String) :
    p.scheduler.jobs.lookup jobId = s.jobs.lookup jobId := by
  rw [h.eq]
  rfl

theorem Process.Follows.running_eq (jobId : String) :
    p.scheduler.running jobId = (s.running jobId).filter (survives build p.started) := by
  rw [h.eq]
  exact List.filter_comm _ _ _

theorem Process.Follows.running_le_one (jobId : String) :
    (p.scheduler.running jobId).length ≤ 1 := by
  rw [h.running_eq]
  exact (List.length_filter_le _ _).trans (h.tracked.running_le_one jobId)

theorem Process.Follows.of_mem_running {jobId : String} {l : CronLoop}
    (hl : l ∈ p.scheduler.running jobId) :
    p.scheduler.jobs.lookup jobId = some ⟨l.job, .active, some l.cancel⟩ := by
  rw [h.running_eq] at hl
  rw [h.lookup_eq]
  exact h.tracked.of_mem_running (List.mem_of_mem_filter hl)

theorem Process.Follows.running_of_lookup {jobId : String} {state : CronJobState}
    (hlook : p.scheduler.jobs.lookup jobId = some state) (hactive : state.status = .active)
    (hreads : ¬ Panics build state.job.schedule) :
    (p.scheduler.running jobId).map CronLoop.job = [state.job] := by
  rw [h.lookup_eq] at hlook
  have hrun := h.tracked.running_of_lookup hlook hactive
  have hall : ∀ l ∈ s.running jobId, survives build p.started l = true := fun l hl ↦ by
    have hjob : l.job = state.job := by
      have hmem := List.mem_map_of_mem (f := CronLoop.job) hl
      rw [hrun] at hmem
      exact List.mem_singleton.mp hmem
    rw [survives, hjob, isSome_parseScheduleInterval_iff.mpr hreads, Bool.or_true]
  rw [h.running_eq, List.filter_eq_self.mpr hall, hrun]

theorem Process.Follows.not_panics (hquiet : p.Quiescent) {jobId : String} {l : CronLoop}
    (hl : l ∈ p.scheduler.running jobId) : ¬ Panics build l.job.schedule := by
  have hstarted : l.cancel ∈ p.started := hquiet l (mem_running.mp hl).1
  rw [h.running_eq] at hl
  have hsurvives := (List.mem_filter.mp hl).2
  simp only [survives, List.contains_iff_mem.mpr hstarted, Bool.not_true,
    Bool.false_or] at hsurvives
  exact isSome_parseScheduleInterval_iff.mp hsurvives

theorem Process.Follows.running_iff_isActive
    (hreads : ∀ id state, p.scheduler.jobs.lookup id = some state → state.status = .active →
      ¬ Panics build state.job.schedule) (jobId : String) :
    (p.scheduler.running jobId).length = 1 ↔ p.scheduler.isActive jobId = true := by
  rw [isActive_iff]
  constructor
  · intro hone
    obtain ⟨l, hl⟩ := List.length_eq_one_iff.mp hone
    exact ⟨_, h.of_mem_running (hl ▸ List.mem_cons_self), rfl⟩
  · intro ⟨state, hlook, hactive⟩
    have hrun := h.running_of_lookup hlook hactive (hreads jobId state hlook hactive)
    rw [← List.length_map CronLoop.job, hrun, List.length_singleton]

end Quiet

section Own

theorem Process.jobs_step (build : Build) (p : Process) {step : Step} (hown : step.isOwn = true) :
    (p.step build step).scheduler.jobs = p.scheduler.jobs := by
  cases step with
  | call e =>
    cases e with
    | move m =>
      rw [Process.step]
      split
      · exact jobs_move m
      · rfl
    | schedule job => cases hown
    | cancel jobId => cases hown
    | reconcile newJobs => cases hown
  | start token =>
    rw [Process.step]
    split <;> rfl

theorem Process.jobs_own {own : List Step} (hown : ∀ step ∈ own, step.isOwn = true) (p : Process) :
    (own.foldl (Process.step build) p).scheduler.jobs = p.scheduler.jobs := by
  induction own generalizing p with
  | nil => rfl
  | cons step own ih =>
    obtain ⟨hstep, hrest⟩ := List.forall_mem_cons.mp hown
    rw [List.foldl_cons, ih hrest, p.jobs_step build hstep]

theorem Process.run_append (before after : List Step) :
    Process.run build (before ++ after) =
      after.foldl (Process.step build) (Process.run build before) :=
  List.foldl_append

/-- However the tasks move on, the same list changes nothing more. -/
theorem Process.step_reconcile_again {newJobs : List CronJob}
    (hnodup : (newJobs.map CronJob.id).Nodup)
    (hjobs : p.scheduler.jobs = (s.reconcile newJobs).jobs) :
    p.step build (.call (.reconcile newJobs)) = p := by
  have hsame : p.scheduler.reconcile newJobs = p.scheduler := by
    apply reconcile_eq_self
    · intro k hk
      rw [hjobs] at hk
      by_contra hunlisted
      obtain ⟨hlisted, hheart⟩ := not_or.mp hunlisted
      rw [lookup_reconcile hlisted, if_neg hheart] at hk
      cases hk
    · intro job hjob
      rw [Schedules, hjobs]
      exact schedules_addPass hnodup hjob
  exact congrArg (Process.mk · p.started) hsame

end Own

section Rosters

theorem Process.roster_step (build : Build) (p : Process) (step : Step) :
    (p.step build step).scheduler.roster = p.scheduler.roster.after step := by
  cases step with
  | call e =>
    cases e with
    | schedule job => exact roster_schedule job
    | cancel jobId => exact roster_cancelJobState jobId
    | reconcile newJobs => exact roster_reconcile newJobs
    | move m =>
      unfold CronScheduler.roster
      rw [p.jobs_step build rfl]
      rfl
  | start token =>
    unfold CronScheduler.roster
    rw [p.jobs_step build rfl]
    rfl

theorem Process.roster_run (build : Build) (steps : List Step) :
    (Process.run build steps).scheduler.roster = roster steps :=
  (List.foldl_hom (fun p : Process ↦ p.scheduler.roster) fun p step ↦
    (p.roster_step build step).symm).symm

theorem Roster.forall_foldl_enter {P : CronJob → Prop} {r : Roster}
    (hr : ∀ id job, r id = some job → P job) {newJobs : List CronJob}
    (hjobs : ∀ job ∈ newJobs, P job) :
    ∀ id job, newJobs.foldl enter r id = some job → P job := by
  refine List.foldlRecOn (motive := fun r : Roster ↦ ∀ id job, r id = some job → P job) newJobs _ hr
    fun r hr new hnew id job hjob ↦ ?_
  obtain rfl | hne := eq_or_ne id new.id
  · rw [enter, Function.update_self] at hjob
    exact Option.some.inj hjob ▸ hjobs new hnew
  · rw [enter, Function.update_of_ne hne] at hjob
    exact hr id job hjob

theorem Roster.forall_after {P : CronJob → Prop} {r : Roster}
    (hr : ∀ id job, r id = some job → P job) {step : Step} (hstep : ∀ job ∈ step.jobs, P job) :
    ∀ id job, r.after step id = some job → P job := by
  cases step with
  | call e =>
    cases e with
    | schedule job => exact forall_foldl_enter hr hstep
    | cancel jobId =>
      intro id job hjob
      rw [after, Function.update_apply, Option.ite_none_left_eq_some] at hjob
      exact hr id job hjob.2
    | reconcile newJobs =>
      refine forall_foldl_enter (fun id job hjob ↦ ?_) hstep
      rw [keep, Option.ite_none_left_eq_some] at hjob
      exact hr id job hjob.2
    | move m => exact hr
  | start token => exact hr

/-- Whatever is to run, a call has brought it. -/
theorem forall_roster {P : CronJob → Prop} {steps : List Step}
    (hsteps : ∀ step ∈ steps, ∀ job ∈ step.jobs, P job) (id : String) (job : CronJob) :
    roster steps id = some job → P job :=
  List.foldlRecOn (motive := fun r : Roster ↦ ∀ id job, r id = some job → P job) steps _
    (fun _ _ hnone ↦ by cases hnone)
    (fun _ hr step hstep ↦ Roster.forall_after hr (hsteps step hstep)) id job

end Rosters

theorem KeepsLoops.rosterReads {steps : List Step} (hkeeps : KeepsLoops build steps) :
    RosterReads build steps := by
  intro before hbefore hquiet id job hroster
  rw [← Process.roster_run build] at hroster
  obtain ⟨token, hlook⟩ := roster_eq_some.mp hroster
  obtain ⟨s, h⟩ := Process.follows_run build before
  have hone := (hkeeps.one before hbefore hquiet id).2.mpr (isActive_iff.mpr ⟨_, hlook, rfl⟩)
  obtain ⟨l, hl⟩ := List.length_eq_one_iff.mp hone
  have hmem : l ∈ (Process.run build before).scheduler.running id := hl ▸ List.mem_cons_self
  have hjob := (h.of_mem_running hmem).symm.trans hlook
  rw [← (CronJobState.mk.inj (Option.some.inj hjob)).1]
  exact h.not_panics hquiet hmem

theorem RosterReads.not_panics {steps before : List Step} (hreads : RosterReads build steps)
    (hbefore : before <+: steps) (hquiet : (Process.run build before).Quiescent) (id : String)
    (state : CronJobState)
    (hlook : (Process.run build before).scheduler.jobs.lookup id = some state)
    (hactive : state.status = .active) : ¬ Panics build state.job.schedule := by
  refine hreads before hbefore hquiet id state.job ?_
  rw [← Process.roster_run build]
  exact roster_eq_some.mpr ⟨state.cancelToken, by rw [hlook, ← hactive]⟩

theorem RosterReads.keepsLoops {steps : List Step} (hreads : RosterReads build steps) :
    KeepsLoops build steps where
  one before hbefore hquiet jobId := by
    obtain ⟨s, h⟩ := Process.follows_run build before
    exact ⟨h.running_le_one jobId,
      h.running_iff_isActive (hreads.not_panics hbefore hquiet) jobId⟩
  reconciled before newJobs own hprefix hown hnodup p hp := by
    have hjobs : p.scheduler.jobs =
        ((Process.run build before).scheduler.reconcile newJobs).jobs := by
      rw [hp, Process.run_append, List.foldl_cons, Process.jobs_own hown]
      rfl
    refine ⟨fun jobId ↦ ?_, fun hquiet job hjob ↦ ?_, Process.step_reconcile_again hnodup hjobs⟩
    · rw [isActive, hjobs]
      exact isActive_reconcile hnodup jobId
    · obtain ⟨token, hlook⟩ : p.scheduler.Schedules job := by
        rw [Schedules, hjobs]
        exact schedules_addPass hnodup hjob
      obtain ⟨s, h⟩ := Process.follows_run build (before ++ .call (.reconcile newJobs) :: own)
      subst hp
      exact h.running_of_lookup hlook rfl (hreads.not_panics hprefix hquiet _ _ hlook rfl)

/-- The loops are kept exactly as long as no job that is to run has a schedule that panics, so in
any case if no call brings one that does. -/
theorem keepsLoops_iff (build : Build) (steps : List Step) :
    (KeepsLoops build steps ↔ RosterReads build steps) ∧
      ((∀ step ∈ steps, ∀ job ∈ step.jobs, ¬ Panics build job.schedule) →
        KeepsLoops build steps) := by
  refine ⟨⟨KeepsLoops.rosterReads, RosterReads.keepsLoops⟩, fun hjobs ↦ ?_⟩
  refine RosterReads.keepsLoops fun before hbefore _ id job ↦ ?_
  exact forall_roster (fun step hstep ↦ hjobs step (hbefore.subset hstep)) id job

/-- A build with overflow checks leaves the job active without a loop. -/
theorem not_keepsLoops_of_overflow :
    ¬ KeepsLoops .debug
      [.call (.schedule ⟨"a", "@every 307445734561825861m", .null⟩), .start 0] := by
  intro hkeeps
  have hpanics : Panics .debug "@every 307445734561825861m" :=
    ⟨rfl, 307445734561825861, .minute, isEvery_print 307445734561825861 .minute,
      by decide, by decide⟩
  refine hkeeps.rosterReads _ List.prefix_rfl (fun l hl ↦ ?_) "a" _ rfl hpanics
  have hloops : (Process.run .debug
      [.call (.schedule ⟨"a", "@every 307445734561825861m", .null⟩), .start 0]).scheduler.loops =
      [⟨⟨"a", "@every 307445734561825861m", .null⟩, 0, false⟩].filter fun l ↦
        l.cancel != 0 || (parseScheduleInterval .debug l.job.schedule).isSome := rfl
  rw [hloops] at hl
  rw [List.mem_singleton.mp (List.mem_of_mem_filter hl)]
  exact List.mem_cons_self

end Process

end AdkGateway.Cron
