import AdkGateway.ControlPanel.Auth
import AdkGateway.Foundation.Machine
import Mathlib.Data.List.Perm.Basic

namespace AdkGateway.ControlPanel

open Foundation Machine

structure RequiredAuth where
  config : AuthConfig
  required : isAuthRequired (some config) = true

structure GuardedPath where
  path : String
  guarded : path ≠ "/ui/api/login" ∧ path ≠ "/ui/api/auth/check"

/-- A change of the session map, made once no request reads the shard. -/
inductive Write
  | store (token : String) (createdAt : DateTime)
  | logout (token : String)
  | expire (token : String)

def Write.token : Write → String
  | store token _ => token
  | logout token => token
  | expire token => token

/-- A request that is not done yet: in the handler, where it reads its session all the time, between
finding the session expired and removing it, or kept waiting by the session map. -/
inductive Task
  | inside (token : String) (suspended : Bool)
  | expired (token : String)
  | waiting (w : Write)

inductive SessionEvent
  | loggedIn (token : String) (createdAt : DateTime)
  | loggedOut (token : String)

structure Panel where
  now : DateTime
  auth : RequiredAuth
  uiSessions : UiSessions
  tasks : List Task
  history : List SessionEvent

inductive PanelEvent
  | pass (time : ℕ)
  | reload (auth : RequiredAuth)
  | guarded (path : GuardedPath) (cookieHeader : Option String)
  | login (password token : String)
  | logout (cookieHeader : Option String)
  | check (cookieHeader : Option String)
  | removeExpired (i : ℕ)
  | retry (i : ℕ)
  | suspend (i : ℕ)
  | resume (i : ℕ)
  | finish (i : ℕ)

structure Observation where
  before : Panel
  entered : Option (Option String)
  checked : Option (Option String × Bool)
  after : Panel

namespace Task

def busy : Task → Bool
  | inside _ suspended => !suspended
  | _ => true

def reads : Task → Option String
  | inside token _ => some token
  | _ => none

def isWaiting : Task → Bool
  | waiting _ => true
  | _ => false

end Task

section Steps

variable (workers : ℕ) (shard : String → ℕ)

def isHeld (tasks : List Task) (k : ℕ) : Bool :=
  tasks.any fun task ↦ task.reads.any fun token ↦ shard token = k

def isBlocked (tasks : List Task) : Task → Bool
  | .waiting w => isHeld shard tasks (shard w.token)
  | _ => false

def hasFreeWorker (tasks : List Task) : Bool := tasks.countP Task.busy < workers

namespace Panel

def perform (s : Panel) : Write → Panel
  | .store token createdAt =>
    { s with
      uiSessions := s.uiSessions.insert token ⟨token, createdAt⟩
      history := s.history ++ [.loggedIn token createdAt] }
  | .logout token =>
    { s with
      uiSessions := s.uiSessions.erase token
      history := s.history ++ [.loggedOut token] }
  | .expire token => { s with uiSessions := s.uiSessions.erase token }

def withoutTask (s : Panel) (i : ℕ) : Panel := { s with tasks := s.tasks.eraseIdx i }

def addTask (s : Panel) (task : Task) : Panel := { s with tasks := s.tasks ++ [task] }

def attempt (s : Panel) (w : Write) : Panel :=
  if isHeld shard s.tasks (shard w.token) then s.addTask (.waiting w) else s.perform w

def take (s : Panel) (go : Panel → Panel) : Panel :=
  if hasFreeWorker workers s.tasks then go s else s

def next (s : Panel) : PanelEvent → Panel
  | .pass time => { s with now := s.now + time }
  | .reload auth => { s with auth := auth }
  | .guarded path cookieHeader =>
    s.take workers fun s ↦
      match authGuard (some s.auth.config) s.uiSessions s.now path.path cookieHeader with
      | .enter token => s.addTask (.inside token false)
      | .expire token => s.addTask (.expired token)
      | _ => s
  | .login password token =>
    s.take workers fun s ↦
      if isValidLogin (some s.auth.config) password then s.attempt shard (.store token s.now) else s
  | .logout cookieHeader =>
    s.take workers fun s ↦
      match sessionToken cookieHeader with
      | some token => s.attempt shard (.logout token)
      | none => s
  | .check _ => s
  | .removeExpired i =>
    match s.tasks[i]? with
    | some (.expired token) => (s.withoutTask i).attempt shard (.expire token)
    | _ => s
  | .retry i =>
    match s.tasks[i]? with
    | some (.waiting w) =>
      if isHeld shard s.tasks (shard w.token) then s else (s.withoutTask i).perform w
    | _ => s
  | .suspend i =>
    match s.tasks[i]? with
    | some (.inside token false) => (s.withoutTask i).addTask (.inside token true)
    | _ => s
  | .resume i =>
    match s.tasks[i]? with
    | some (.inside token true) =>
      s.take workers fun s ↦ (s.withoutTask i).addTask (.inside token false)
    | _ => s
  | .finish i =>
    match s.tasks[i]? with
    | some (.inside _ false) => s.withoutTask i
    | _ => s

def entered (s : Panel) : PanelEvent → Option (Option String)
  | .guarded path cookieHeader =>
    if hasFreeWorker workers s.tasks &&
        admits (some s.auth.config) s.uiSessions s.now path.path cookieHeader then some cookieHeader
    else none
  | _ => none

def checked (s : Panel) : PanelEvent → Option (Option String × Bool)
  | .check cookieHeader =>
    if hasFreeWorker workers s.tasks then
      some (cookieHeader, authCheck (some s.auth.config) s.uiSessions cookieHeader)
    else none
  | _ => none

def step (s : Panel) (event : PanelEvent) : Observation × Panel :=
  let after := s.next workers shard event
  (⟨s, s.entered workers event, s.checked workers event, after⟩, after)

def start (auth : RequiredAuth) : Panel := ⟨0, auth, ∅, [], []⟩

end Panel

def LoggedIn (history : List SessionEvent) (token : String) (createdAt : DateTime) : Prop :=
  ∃ earlier later, history = earlier ++ .loggedIn token createdAt :: later ∧
    SessionEvent.loggedOut token ∉ later

def HasSession (s : Panel) (cookieHeader : Option String) : Prop :=
  ∃ token, sessionToken cookieHeader = some token ∧
    ∃ createdAt, LoggedIn s.history token createdAt ∧ s.now - createdAt < sessionMaxAge

def Stuck (s : Panel) : Prop :=
  workers ≤ s.tasks.countP (isBlocked shard s.tasks) ∧ ∃ token, .inside token true ∈ s.tasks

structure Sound (o : Observation) : Prop where
  admitted : ∀ cookieHeader, o.entered = some cookieHeader → HasSession o.before cookieHeader
  agrees : ∀ cookieHeader answer, o.checked = some (cookieHeader, answer) →
    ∀ path : GuardedPath, answer =
      admits (some o.before.auth.config) o.before.uiSessions o.before.now path.path cookieHeader
  unstuck : ¬ Stuck workers shard o.after

def MustWait (s : Panel) : PanelEvent → Prop
  | .login password token =>
    hasFreeWorker workers s.tasks = true ∧ isValidLogin (some s.auth.config) password = true ∧
      isHeld shard s.tasks (shard token) = true
  | .logout cookieHeader =>
    hasFreeWorker workers s.tasks = true ∧
      ∃ token, sessionToken cookieHeader = some token ∧ isHeld shard s.tasks (shard token) = true
  | .removeExpired i =>
    ∃ token, s.tasks[i]? = some (.expired token) ∧ isHeld shard s.tasks (shard token) = true
  | _ => False

def NotOverdue (s : Panel) : PanelEvent → Prop
  | .check cookieHeader =>
    hasFreeWorker workers s.tasks = true → ∀ token, sessionToken cookieHeader = some token →
      ∀ session, s.uiSessions.lookup token = some session → session.isLive token s.now = true
  | _ => True

structure Careful (s : Panel) (event : PanelEvent) : Prop where
  leaves : MustWait workers shard s event →
    s.tasks.countP (isBlocked shard s.tasks) + 1 < workers
  notOverdue : NotOverdue workers s event

def Keyed (s : Panel) : Prop :=
  ∀ token session, s.uiSessions.lookup token = some session →
    session.token = token ∧ LoggedIn s.history token session.createdAt

structure Inv (s : Panel) : Prop where
  keyed : Keyed s
  fits : s.tasks.countP Task.busy ≤ workers
  unstuck : ¬ Stuck workers shard s

end Steps

section Tasks

variable {workers : ℕ} {shard : String → ℕ} {tasks : List Task} {task : Task} {i k : ℕ}

theorem perm_of_getElem? (h : tasks[i]? = some task) : tasks.Perm (task :: tasks.eraseIdx i) := by
  obtain ⟨hi, rfl⟩ := List.getElem?_eq_some_iff.mp h
  exact (List.getElem_cons_eraseIdx_perm hi).symm

theorem countP_of_getElem? (p : Task → Bool) (h : tasks[i]? = some task) :
    tasks.countP p = (tasks.eraseIdx i).countP p + if p task then 1 else 0 := by
  rw [(perm_of_getElem? h).countP_eq, List.countP_cons]

theorem countP_addTask (p : Task → Bool) :
    (tasks ++ [task]).countP p = tasks.countP p + if p task then 1 else 0 := by
  rw [List.countP_append, List.countP_singleton]

theorem isHeld_append : isHeld shard (tasks ++ [task]) k =
    (isHeld shard tasks k || task.reads.any fun token ↦ shard token = k) := by
  simp [isHeld]

theorem isHeld_eraseIdx (h : tasks[i]? = some task) (hreads : task.reads = none) :
    isHeld shard (tasks.eraseIdx i) k = isHeld shard tasks k := by
  rw [isHeld, isHeld, (perm_of_getElem? h).any_eq, List.any_cons, hreads]
  simp

theorem isBlocked_congr {tasks' : List Task}
    (h : ∀ k, isHeld shard tasks' k = isHeld shard tasks k) :
    isBlocked shard tasks' = isBlocked shard tasks := by
  funext task
  cases task with
  | waiting w => exact h _
  | _ => rfl

theorem countP_blocked_le : tasks.countP (isBlocked shard tasks) ≤ tasks.countP Task.isWaiting := by
  refine List.countP_mono_left fun task _ hblocked ↦ ?_
  cases task with
  | waiting w => rfl
  | _ => cases hblocked

theorem countP_waiting_le : tasks.countP Task.isWaiting ≤ tasks.countP Task.busy := by
  refine List.countP_mono_left fun task _ hwaiting ↦ ?_
  cases task with
  | waiting w => rfl
  | _ => cases hwaiting

theorem unstuck_of_lt {s : Panel} (h : s.tasks.countP Task.isWaiting < workers) :
    ¬ Stuck workers shard s := by
  intro hstuck
  have hle : s.tasks.countP (isBlocked shard s.tasks) ≤ s.tasks.countP Task.isWaiting :=
    countP_blocked_le
  have hblocked := hstuck.1
  omega

/-- A request that is on a worker and does not wait for the map leaves a worker that does not. -/
theorem waiting_lt_busy (h : tasks[i]? = some task) (hbusy : task.busy = true)
    (hwaiting : task.isWaiting = false) : tasks.countP Task.isWaiting < tasks.countP Task.busy := by
  have hle : (tasks.eraseIdx i).countP Task.isWaiting ≤ (tasks.eraseIdx i).countP Task.busy :=
    countP_waiting_le
  rw [countP_of_getElem? Task.isWaiting h, countP_of_getElem? Task.busy h, hbusy, hwaiting, if_pos rfl,
    if_neg Bool.false_ne_true]
  omega

theorem exists_inside_of_isHeld (h : isHeld shard tasks k = true) :
    ∃ (i : ℕ) (token : String) (suspended : Bool), tasks[i]? = some (.inside token suspended) := by
  obtain ⟨task, hmem, hreads⟩ := List.any_eq_true.mp h
  obtain ⟨i, hi⟩ := List.getElem?_of_mem hmem
  cases task with
  | inside token suspended => exact ⟨i, token, suspended, hi⟩
  | _ => cases hreads

theorem isBlocked_addWaiting {w : Write} :
    isBlocked shard (tasks ++ [.waiting w]) = isBlocked shard tasks :=
  isBlocked_congr fun _ ↦ isHeld_append.trans (Bool.or_false _)

/-- When one more waits for the map, nobody is left just if nobody else was. -/
theorem stuck_addWaiting_iff {s : Panel} {w : Write}
    (hheld : isHeld shard s.tasks (shard w.token) = true)
    (hfits : s.tasks.countP Task.busy + 1 ≤ workers) :
    Stuck workers shard (s.addTask (.waiting w)) ↔
      ¬ s.tasks.countP (isBlocked shard s.tasks) + 1 < workers := by
  have hblocked : isBlocked shard s.tasks (.waiting w) = true := hheld
  have hcount : (s.addTask (.waiting w)).tasks.countP
      (isBlocked shard (s.addTask (.waiting w)).tasks) =
      s.tasks.countP (isBlocked shard s.tasks) + 1 := by
    rw [Panel.addTask, isBlocked_addWaiting, countP_addTask, hblocked, if_pos rfl]
  rw [Stuck, hcount, Nat.not_lt]
  refine and_iff_left_of_imp fun hall ↦ ?_
  obtain ⟨i, token, suspended, hi⟩ := exists_inside_of_isHeld hheld
  cases suspended with
  | true => exact ⟨token, List.mem_append_left _ (List.mem_of_getElem? hi)⟩
  | false =>
    have hlt := waiting_lt_busy hi rfl rfl
    have hle : s.tasks.countP (isBlocked shard s.tasks) ≤ s.tasks.countP Task.isWaiting :=
      countP_blocked_le
    omega

theorem tasks_perform {s : Panel} (w : Write) : (s.perform w).tasks = s.tasks := by
  cases w <;> rfl

theorem attempt_tasks {s : Panel} (w : Write) (hfits : s.tasks.countP Task.busy + 1 ≤ workers) :
    (s.attempt shard w).tasks.countP Task.busy ≤ workers ∧
      (¬ Stuck workers shard (s.attempt shard w) ↔
        (isHeld shard s.tasks (shard w.token) = true →
          s.tasks.countP (isBlocked shard s.tasks) + 1 < workers)) := by
  rw [Panel.attempt]
  split
  next hheld =>
    rw [stuck_addWaiting_iff hheld hfits, not_not]
    refine ⟨?_, (imp_iff_right hheld).symm⟩
    rw [Panel.addTask, countP_addTask]
    exact hfits
  next hnot =>
    have hle : s.tasks.countP Task.isWaiting ≤ s.tasks.countP Task.busy := countP_waiting_le
    refine ⟨?_, iff_of_true (unstuck_of_lt ?_) fun hheld ↦ absurd hheld hnot⟩
    · rw [tasks_perform]
      omega
    · rw [tasks_perform]
      omega

end Tasks

section Run

variable {workers : ℕ} {shard : String → ℕ} {s : Panel} {event : PanelEvent}

/-- With room for one more, all is well when one more is taken on that does not wait. -/
theorem addTask_tasks {task : Task} (hwaiting : task.isWaiting = false)
    (hfits : s.tasks.countP Task.busy + 1 ≤ workers) :
    (s.addTask task).tasks.countP Task.busy ≤ workers ∧ ¬ Stuck workers shard (s.addTask task) := by
  have hle : s.tasks.countP Task.isWaiting ≤ s.tasks.countP Task.busy := countP_waiting_le
  rw [Panel.addTask]
  refine ⟨?_, unstuck_of_lt ?_⟩
  · rw [countP_addTask]
    split <;> omega
  · rw [countP_addTask, hwaiting, if_neg Bool.false_ne_true]
    omega

theorem fits_withoutTask {i : ℕ} {task : Task} (hfits : s.tasks.countP Task.busy ≤ workers)
    (h : s.tasks[i]? = some task) (hbusy : task.busy = true) :
    (s.withoutTask i).tasks.countP Task.busy + 1 ≤ workers := by
  rw [countP_of_getElem? Task.busy h, hbusy, if_pos rfl] at hfits
  exact hfits

theorem next_tasks (hinv : Inv workers shard s) (event : PanelEvent) :
    (s.next workers shard event).tasks.countP Task.busy ≤ workers ∧
      (¬ Stuck workers shard (s.next workers shard event) ↔
        (MustWait workers shard s event →
          s.tasks.countP (isBlocked shard s.tasks) + 1 < workers)) := by
  have hsame : s.tasks.countP Task.busy ≤ workers ∧ (¬ Stuck workers shard s ↔ (False →
      s.tasks.countP (isBlocked shard s.tasks) + 1 < workers)) :=
    ⟨hinv.fits, iff_of_true hinv.unstuck False.elim⟩
  have hnone {s' : Panel} (h : s'.tasks.countP Task.busy ≤ workers ∧ ¬ Stuck workers shard s') :
      s'.tasks.countP Task.busy ≤ workers ∧ (¬ Stuck workers shard s' ↔ (False →
        s.tasks.countP (isBlocked shard s.tasks) + 1 < workers)) :=
    ⟨h.1, iff_of_true h.2 False.elim⟩
  cases event with
  | pass time => exact hsame
  | reload auth => exact hsame
  | check cookieHeader => exact hsame
  | guarded path cookieHeader =>
    rw [Panel.next, Panel.take]
    split
    next hfree =>
      have hfits := of_decide_eq_true hfree
      cases authGuard (some s.auth.config) s.uiSessions s.now path.path cookieHeader with
      | enter token => exact hnone (addTask_tasks rfl hfits)
      | expire token => exact hnone (addTask_tasks rfl hfits)
      | _ => exact hsame
    next => exact hsame
  | login password token =>
    rw [Panel.next, Panel.take, MustWait]
    split
    next hfree =>
      rw [and_iff_right hfree]
      split
      next hvalid =>
        rw [and_iff_right hvalid]
        exact attempt_tasks (.store token s.now) (of_decide_eq_true hfree)
      next hinvalid => exact ⟨hinv.fits, iff_of_true hinv.unstuck fun h ↦ absurd h.1 hinvalid⟩
    next hfull => exact ⟨hinv.fits, iff_of_true hinv.unstuck fun h ↦ absurd h.1 hfull⟩
  | logout cookieHeader =>
    rw [Panel.next, Panel.take, MustWait]
    split
    next hfree =>
      rw [and_iff_right hfree]
      cases sessionToken cookieHeader with
      | none => exact ⟨hinv.fits, iff_of_true hinv.unstuck fun ⟨_, h, _⟩ ↦ nomatch h⟩
      | some token =>
        simp only [Option.some.injEq, exists_eq_left']
        exact attempt_tasks (.logout token) (of_decide_eq_true hfree)
    next hfull => exact ⟨hinv.fits, iff_of_true hinv.unstuck fun h ↦ absurd h.1 hfull⟩
  | removeExpired i =>
    rw [Panel.next, MustWait]
    split
    next token htask =>
      have hfits := fits_withoutTask hinv.fits htask rfl
      obtain ⟨hbusy, hstuck⟩ := @attempt_tasks _ shard _ (.expire token) hfits
      have hheld : isHeld shard (s.withoutTask i).tasks = isHeld shard s.tasks :=
        funext fun k ↦ isHeld_eraseIdx htask rfl
      have hcount : (s.withoutTask i).tasks.countP (isBlocked shard (s.withoutTask i).tasks) =
          s.tasks.countP (isBlocked shard s.tasks) := by
        rw [isBlocked_congr (congrFun hheld), countP_of_getElem? _ htask]
        rfl
      rw [hheld, hcount] at hstuck
      refine ⟨hbusy, hstuck.trans ?_⟩
      simp only [htask, Option.some.injEq, Task.expired.injEq, exists_eq_left']
      rfl
    next hnot =>
      exact ⟨hinv.fits, iff_of_true hinv.unstuck fun ⟨token, htask, _⟩ ↦ absurd htask (hnot token)⟩
  | retry i =>
    refine hnone ?_
    rw [Panel.next]
    split
    next w htask =>
      split
      next => exact ⟨hinv.fits, hinv.unstuck⟩
      next =>
        have hfits := fits_withoutTask hinv.fits htask rfl
        have hle : (s.withoutTask i).tasks.countP Task.isWaiting ≤
            (s.withoutTask i).tasks.countP Task.busy := countP_waiting_le
        refine ⟨?_, unstuck_of_lt ?_⟩
        · rw [tasks_perform]
          omega
        · rw [tasks_perform]
          omega
    next => exact ⟨hinv.fits, hinv.unstuck⟩
  | suspend i =>
    refine hnone ?_
    rw [Panel.next]
    split
    next token htask => exact addTask_tasks rfl (fits_withoutTask hinv.fits htask rfl)
    next => exact ⟨hinv.fits, hinv.unstuck⟩
  | resume i =>
    refine hnone ?_
    rw [Panel.next]
    split
    next token htask =>
      rw [Panel.take]
      split
      next hfree =>
        refine addTask_tasks rfl ?_
        have hfits := of_decide_eq_true hfree
        rw [countP_of_getElem? Task.busy htask] at hfits
        exact hfits
      next => exact ⟨hinv.fits, hinv.unstuck⟩
    next => exact ⟨hinv.fits, hinv.unstuck⟩
  | finish i =>
    refine hnone ?_
    rw [Panel.next]
    split
    next token htask =>
      have hfits := fits_withoutTask hinv.fits htask rfl
      have hle : (s.withoutTask i).tasks.countP Task.isWaiting ≤
          (s.withoutTask i).tasks.countP Task.busy := countP_waiting_le
      exact ⟨by omega, unstuck_of_lt (by omega)⟩
    next => exact ⟨hinv.fits, hinv.unstuck⟩

theorem LoggedIn.append {history : List SessionEvent} {token : String} {createdAt : DateTime}
    (h : LoggedIn history token createdAt) {e : SessionEvent} (he : e ≠ .loggedOut token) :
    LoggedIn (history ++ [e]) token createdAt := by
  obtain ⟨earlier, later, rfl, hnot⟩ := h
  refine ⟨earlier, later ++ [e], by simp, ?_⟩
  rw [List.mem_append, List.mem_singleton, not_or]
  exact ⟨hnot, he.symm⟩

theorem keyed_perform (h : Keyed s) (w : Write) : Keyed (s.perform w) := by
  cases w with
  | store token createdAt =>
    refine KeyedMap.forall_lookup_insert ⟨rfl, s.history, [], rfl, List.not_mem_nil⟩ ?_
    intro token' session hlookup
    obtain ⟨htoken, hlogged⟩ := h token' session hlookup
    exact ⟨htoken, hlogged.append nofun⟩
  | logout token =>
    intro token' session hlookup
    obtain ⟨hne, hlookup⟩ := KeyedMap.lookup_erase_eq_some.mp hlookup
    obtain ⟨htoken, hlogged⟩ := h token' session hlookup
    refine ⟨htoken, hlogged.append fun heq ↦ hne ?_⟩
    exact (SessionEvent.loggedOut.inj heq).symm
  | expire token => exact KeyedMap.forall_lookup_erase h

theorem keyed_attempt (h : Keyed s) (w : Write) : Keyed (s.attempt shard w) := by
  rw [Panel.attempt]
  split
  · exact h
  · exact keyed_perform h w

theorem keyed_take (h : Keyed s) {go : Panel → Panel} (hgo : Keyed (go s)) :
    Keyed (s.take workers go) := by
  rw [Panel.take]
  split
  · exact hgo
  · exact h

theorem keyed_next (h : Keyed s) (event : PanelEvent) : Keyed (s.next workers shard event) := by
  cases event with
  | pass time => exact h
  | reload auth => exact h
  | check cookieHeader => exact h
  | guarded path cookieHeader =>
    refine keyed_take h ?_
    cases authGuard (some s.auth.config) s.uiSessions s.now path.path cookieHeader <;> exact h
  | login password token =>
    refine keyed_take h ?_
    split
    · exact keyed_attempt h _
    · exact h
  | logout cookieHeader =>
    refine keyed_take h ?_
    cases sessionToken cookieHeader with
    | none => exact h
    | some token => exact keyed_attempt h _
  | removeExpired i =>
    rw [Panel.next]
    split
    next token htask =>
      have hwithout : Keyed (s.withoutTask i) := h
      exact keyed_attempt hwithout _
    next => exact h
  | retry i =>
    rw [Panel.next]
    split
    next w htask =>
      have hwithout : Keyed (s.withoutTask i) := h
      split
      · exact h
      · exact keyed_perform hwithout w
    next => exact h
  | suspend i =>
    rw [Panel.next]
    split <;> exact h
  | resume i =>
    rw [Panel.next]
    split
    · exact keyed_take h h
    · exact h
  | finish i =>
    rw [Panel.next]
    split <;> exact h

theorem hasSession_of_entered (h : Keyed s) {cookieHeader : Option String}
    (hentered : s.entered workers event = some cookieHeader) : HasSession s cookieHeader := by
  cases event with
  | guarded path cookieHeader' =>
    rw [Panel.entered] at hentered
    split at hentered
    next hadmits =>
      obtain rfl := Option.some_inj.mp hentered
      obtain ⟨-, hadmits⟩ := Bool.and_eq_true_iff.mp hadmits
      obtain ⟨token, htoken, session, hlookup, hlive⟩ :=
        (admits_iff s.auth.required path.guarded).mp hadmits
      obtain ⟨-, hlogged⟩ := h token session hlookup
      exact ⟨token, htoken, session.createdAt, hlogged,
        of_decide_eq_true (Bool.and_eq_true_iff.mp hlive).2⟩
    next => cases hentered
  | _ => cases hentered

theorem agrees_iff : (∀ cookieHeader answer, s.checked workers event = some (cookieHeader, answer) →
    ∀ path : GuardedPath, answer =
      admits (some s.auth.config) s.uiSessions s.now path.path cookieHeader) ↔
    NotOverdue workers s event := by
  cases event with
  | check cookieHeader =>
    rw [NotOverdue, Panel.checked]
    cases hfree : hasFreeWorker workers s.tasks with
    | false => simp
    | true =>
      rw [if_pos rfl, forall_prop_of_true rfl]
      constructor
      · intro h
        have hpath : ("/ui/api/dashboard" : String) ≠ "/ui/api/login" ∧
            ("/ui/api/dashboard" : String) ≠ "/ui/api/auth/check" := by decide
        exact (authCheck_eq_admits_iff s.auth.required hpath).mp (h _ _ rfl ⟨_, hpath⟩)
      · intro h cookieHeader' answer heq path
        obtain ⟨rfl, rfl⟩ := Prod.mk.inj (Option.some_inj.mp heq)
        exact (authCheck_eq_admits_iff s.auth.required path.guarded).mpr h
  | _ => exact iff_of_true nofun trivial

theorem step_sound_iff (hinv : Inv workers shard s) :
    Sound workers shard (s.step workers shard event).1 ↔ Careful workers shard s event := by
  obtain ⟨-, hunstuck⟩ := next_tasks hinv event
  constructor
  · intro h
    exact ⟨hunstuck.mp h.unstuck, agrees_iff.mp h.agrees⟩
  · intro h
    refine ⟨?_, agrees_iff.mpr h.notOverdue, hunstuck.mpr h.leaves⟩
    exact fun cookieHeader ↦ hasSession_of_entered hinv.keyed

theorem inv_step (hinv : Inv workers shard s) (h : Careful workers shard s event) :
    Inv workers shard (s.step workers shard event).2 := by
  obtain ⟨hfits, hunstuck⟩ := next_tasks hinv event
  exact ⟨keyed_next hinv.keyed event, hfits, hunstuck.mpr h.leaves⟩

theorem inv_start (auth : RequiredAuth) : Inv workers shard (Panel.start auth) where
  keyed := nofun
  fits := Nat.zero_le _
  unstuck := fun ⟨_, _, hmem⟩ ↦ absurd hmem List.not_mem_nil

end Run

/-- Whatever happens, the panel is sound all along just if every step is careful. -/
theorem sound_iff_careful (workers : ℕ) (shard : String → ℕ) (auth : RequiredAuth)
    (events : List PanelEvent) :
    (∀ o ∈ outputs (Panel.step workers shard) (Panel.start auth) events, Sound workers shard o) ↔
      Along (Panel.step workers shard) (Careful workers shard) (Panel.start auth) events :=
  forall_outputs_iff (Panel.step workers shard)
    (fun _ _ hinv ↦ ⟨step_sound_iff hinv, inv_step hinv⟩) (inv_start auth) events

section Jam

def dashboard : GuardedPath := ⟨"/ui/api/dashboard", by decide⟩

def passwordAuth : RequiredAuth := ⟨⟨.password, none, some "s"⟩, rfl⟩

def jam : List PanelEvent :=
  [.login "s" "t", .guarded dashboard (some "adk_ui_session=t"), .suspend 0]

theorem not_sound : ¬ ∀ (workers : ℕ) (shard : String → ℕ) (auth : RequiredAuth)
    (events : List PanelEvent),
    ∀ o ∈ outputs (Panel.step workers shard) (Panel.start auth) events, Sound workers shard o := by
  intro h
  have hsound := h 1 (fun _ ↦ 0) passwordAuth (jam ++ [.login "s" "u"])
  rw [outputs_concat] at hsound
  refine (hsound _ (List.mem_append_right _ List.mem_cons_self)).unstuck ?_
  have htasks : ((run (Panel.step 1 fun _ ↦ 0) (Panel.start passwordAuth) jam).next 1
      (fun _ ↦ 0) (.login "s" "u")).tasks = [.inside "t" true, .waiting (.store "u" 0)] := rfl
  refine ⟨?_, "t", ?_⟩
  · rw [Panel.step, htasks]
    decide
  · rw [Panel.step, htasks]
    exact List.mem_cons_self

end Jam

end AdkGateway.ControlPanel
