import AdkGateway.Foundation.KeyedMap
import AdkGateway.Foundation.Machine
import AdkGateway.Foundation.Time
import Mathlib.Algebra.Order.Ring.Nat
import Mathlib.Data.List.Induction
import Mathlib.Data.List.ReduceOption

namespace AdkGateway

open Foundation

inductive HealthStatus
  | healthy
  | degraded (reason : String)
  | unhealthy (reason : String)
  deriving DecidableEq

structure ComponentHealth where
  name : String
  status : HealthStatus
  consecutiveFailures : UInt32
  lastCheck : DateTime
  alerted : Bool
  deriving DecidableEq

inductive HealthEvent
  | alert (component : String) (failures : UInt32)
  | recovery (component : String)
  deriving DecidableEq

structure HealthMonitor where
  components : KeyedMap String ComponentHealth
  failureThreshold : UInt32

namespace ComponentHealth

def new (component : String) (now : DateTime) : ComponentHealth :=
  ⟨component, .healthy, 0, now, false⟩

def failureStatus (threshold failures : UInt32) : HealthStatus :=
  if threshold ≤ failures then .unhealthy (toString failures.toNat ++ " consecutive failures")
  else .degraded (toString failures.toNat ++ "/" ++ toString threshold.toNat ++ " failures")

/-- The counter of failures wraps around (a build with overflow checks panics there). -/
def record (threshold : UInt32) (component : String) (healthy : Bool) (now : DateTime)
    (health : ComponentHealth) : Option HealthEvent × ComponentHealth :=
  if healthy then
    (if health.alerted then some (.recovery component) else none,
      { health with status := .healthy, consecutiveFailures := 0, lastCheck := now, alerted := false })
  else
    let failures := health.consecutiveFailures + 1
    let health := { health with
      status := failureStatus threshold failures
      consecutiveFailures := failures
      lastCheck := now }
    if threshold ≤ failures ∧ ¬ health.alerted then
      (some (.alert component failures), { health with alerted := true })
    else (none, health)

end ComponentHealth

namespace HealthEvent

def component : HealthEvent → String
  | alert component _ => component
  | recovery component => component

def isAlert : HealthEvent → Bool
  | alert _ _ => true
  | recovery _ => false

end HealthEvent

namespace HealthMonitor

def new (failureThreshold : UInt32) : HealthMonitor := ⟨∅, failureThreshold⟩

structure Check where
  component : String
  healthy : Bool
  now : DateTime

def entry (monitor : HealthMonitor) (check : Check) : ComponentHealth :=
  (monitor.components.lookup check.component).getD (.new check.component check.now)

def recordCheck (monitor : HealthMonitor) (check : Check) : Option HealthEvent × HealthMonitor :=
  let recorded := (monitor.entry check).record monitor.failureThreshold check.component
    check.healthy check.now
  (recorded.1,
    { monitor with components := monitor.components.insert check.component recorded.2 })

def due (threshold : UInt32) : ℕ := max threshold.toNat 1

/-- The failures since the last success. -/
def streak (results : List Bool) : ℕ :=
  results.foldl (fun n healthy ↦ if healthy then 0 else n + 1) 0

def checksOf (component : String) (checks : List Check) : List Check :=
  checks.filter fun check ↦ check.component = component

def results (component : String) (checks : List Check) : List Bool :=
  (checksOf component checks).map Check.healthy

/-- What a check is answered when its component has failed so many times in a row. -/
def expectedEvent (threshold : UInt32) (failed : ℕ) (check : Check) : Option HealthEvent :=
  if check.healthy then
    if due threshold ≤ failed then some (.recovery check.component) else none
  else if failed + 1 = due threshold then
    some (.alert check.component (UInt32.ofNat (due threshold)))
  else none

def Alternating (events : List HealthEvent) : Prop :=
  ∀ i event, events[i]? = some event → (event.isAlert = true ↔ i % 2 = 0)

def eventsOf (component : String) (events : List HealthEvent) : List HealthEvent :=
  events.filter fun event ↦ event.component = component

def runChecks (threshold : UInt32) (checks : List Check) : HealthMonitor :=
  Machine.run recordCheck (.new threshold) checks

/-- The events of a new monitor, in order. -/
def events (threshold : UInt32) (checks : List Check) : List HealthEvent :=
  (Machine.outputs recordCheck (.new threshold) checks).reduceOption

/-- The events of each component alternate, each check is answered by what its component's streak of
failures asks for, and the checks of others do not matter. -/
structure AlertsAlternate (threshold : UInt32) (checks : List Check) : Prop where
  alternating : ∀ component, Alternating (eventsOf component (events threshold checks))
  expected : ∀ before check, before ++ [check] <+: checks →
    ((runChecks threshold before).recordCheck check).1 =
      expectedEvent threshold (streak (results check.component before)) check
  alone : ∀ component, eventsOf component (events threshold checks) =
    events threshold (checksOf component checks)

section Checks

variable {threshold : UInt32} {component : String}

theorem due_pos (threshold : UInt32) : 0 < due threshold := Nat.lt_of_lt_of_le Nat.one_pos (Nat.le_max_right _ _)

theorem due_lt (threshold : UInt32) : due threshold < 2 ^ 32 := by
  have hlt := threshold.toNat_lt
  rw [due]
  omega

theorem streak_concat (rs : List Bool) (healthy : Bool) :
    streak (rs ++ [healthy]) = if healthy then 0 else streak rs + 1 := by
  rw [streak, List.foldl_concat]
  rfl

theorem checksOf_concat (checks : List Check) (check : Check) :
    checksOf component (checks ++ [check]) =
      checksOf component checks ++ if check.component = component then [check] else [] := by
  rw [checksOf, List.filter_append, List.filter_singleton, Bool.cond_decide]
  rfl

theorem results_concat (checks : List Check) (check : Check) :
    results component (checks ++ [check]) =
      results component checks ++ if check.component = component then [check.healthy] else [] := by
  rw [results, checksOf_concat, List.map_append]
  split <;> rfl

theorem results_checksOf (component : String) (checks : List Check) :
    results component (checksOf component checks) = results component checks := by
  rw [results, checksOf, checksOf, List.filter_filter]
  simp only [Bool.and_self]
  rfl

structure Tracks (threshold : UInt32) (rs : List Bool) (health : ComponentHealth) : Prop where
  failures : health.consecutiveFailures = UInt32.ofNat (streak rs)
  alerted : health.alerted = true ↔ due threshold ≤ streak rs

theorem tracks_new (threshold : UInt32) (component : String) (now : DateTime) :
    Tracks threshold [] (.new component now) := by
  have hdue := due_pos threshold
  refine ⟨rfl, ?_⟩
  simp [ComponentHealth.new, streak]
  omega

/-- Where no alert was given, the counter is below the threshold and has not wrapped around. -/
theorem due_iff {failed : ℕ} (hfailed : failed < due threshold) :
    threshold ≤ UInt32.ofNat failed + 1 ↔ failed + 1 = due threshold := by
  have hlt := due_lt threshold
  have hnat : (UInt32.ofNat failed + 1).toNat = failed + 1 := by
    have hone : UInt32.ofNat failed + 1 = UInt32.ofNat (failed + 1) :=
      (UInt32.ofNat_add failed 1).symm
    rw [hone]
    exact UInt32.toNat_ofNat_of_lt' (by simpa using (by omega : failed + 1 < 2 ^ 32))
  rw [UInt32.le_iff_toNat_le, hnat]
  unfold due at hfailed ⊢
  omega

theorem Tracks.record {rs : List Bool} {health : ComponentHealth} (h : Tracks threshold rs health)
    (check : Check) :
    (health.record threshold check.component check.healthy check.now).1 =
        expectedEvent threshold (streak rs) check ∧
      Tracks threshold (rs ++ [check.healthy])
        (health.record threshold check.component check.healthy check.now).2 := by
  obtain ⟨hfailures, halerted⟩ := h
  have hpos := due_pos threshold
  unfold ComponentHealth.record expectedEvent
  by_cases hhealthy : check.healthy = true
  · simp only [hhealthy, if_true]
    refine ⟨by simp only [halerted], ?_, ?_⟩
    · rw [streak_concat]
      rfl
    · rw [streak_concat]
      simp only [if_true, Bool.false_eq_true, false_iff]
      omega
  · have hfailed : check.healthy = false := Bool.eq_false_iff.mpr hhealthy
    have hnext : UInt32.ofNat (streak rs) + 1 = UInt32.ofNat (streak (rs ++ [false])) := by
      rw [streak_concat]
      exact (UInt32.ofNat_add (streak rs) 1).symm
    have hstreak : streak (rs ++ [false]) = streak rs + 1 := streak_concat rs false
    simp only [hfailed, Bool.false_eq_true, if_false, hfailures, halerted]
    by_cases hdue : due threshold ≤ streak rs
    · rw [if_neg fun hboth ↦ hboth.2 hdue, if_neg (by omega)]
      refine ⟨rfl, hnext, ?_⟩
      rw [hstreak]
      simp only [halerted]
      omega
    · have hiff := due_iff (Nat.not_le.mp hdue)
      by_cases hreached : streak rs + 1 = due threshold
      · rw [if_pos ⟨hiff.mpr hreached, hdue⟩, if_pos hreached]
        refine ⟨?_, hnext, ?_⟩
        · rw [hnext, hstreak, hreached]
        · rw [hstreak]
          simp only [true_iff]
          omega
      · rw [if_neg fun hboth ↦ hreached (hiff.mp hboth.1), if_neg hreached]
        refine ⟨rfl, hnext, ?_⟩
        rw [hstreak]
        simp only [halerted]
        omega

end Checks

section Runs

variable {threshold : UInt32} {component : String}

theorem runChecks_concat (checks : List Check) (check : Check) :
    runChecks threshold (checks ++ [check]) = ((runChecks threshold checks).recordCheck check).2 :=
  Machine.run_concat _ _ _ _

theorem failureThreshold_runChecks (threshold : UInt32) (checks : List Check) :
    (runChecks threshold checks).failureThreshold = threshold := by
  induction checks using List.reverseRecOn with
  | nil => rfl
  | append_singleton checks check ih =>
    rw [runChecks_concat]
    exact ih

theorem tracks_runChecks (threshold : UInt32) (checks : List Check) (component : String)
    (now : DateTime) : Tracks threshold (results component checks)
      (((runChecks threshold checks).components.lookup component).getD (.new component now)) := by
  induction checks using List.reverseRecOn generalizing component now with
  | nil => exact tracks_new threshold component now
  | append_singleton checks check ih =>
    rw [runChecks_concat, results_concat]
    simp only [recordCheck, KeyedMap.lookup_insert_if]
    by_cases hcomponent : check.component = component
    · subst hcomponent
      rw [if_pos rfl, if_pos rfl, failureThreshold_runChecks]
      exact ((ih check.component check.now).record check).2
    · rw [if_neg (Ne.symm hcomponent), if_neg hcomponent, List.append_nil]
      exact ih component now

theorem recordCheck_runChecks (threshold : UInt32) (checks : List Check) (check : Check) :
    ((runChecks threshold checks).recordCheck check).1 =
      expectedEvent threshold (streak (results check.component checks)) check := by
  rw [recordCheck, failureThreshold_runChecks]
  exact ((tracks_runChecks threshold checks check.component check.now).record check).1

theorem events_concat (checks : List Check) (check : Check) :
    events threshold (checks ++ [check]) = events threshold checks ++
      (expectedEvent threshold (streak (results check.component checks)) check).toList := by
  rw [events, Machine.outputs_concat, List.reduceOption_append, ← recordCheck_runChecks]
  rfl

theorem component_of_expectedEvent {failed : ℕ} {check : Check} {event : HealthEvent}
    (h : expectedEvent threshold failed check = some event) : event.component = check.component := by
  unfold expectedEvent at h
  split_ifs at h
  all_goals
    obtain rfl := Option.some_inj.mp h
    rfl

theorem eventsOf_concat (component : String) (checks : List Check) (check : Check) :
    eventsOf component (events threshold (checks ++ [check])) =
      eventsOf component (events threshold checks) ++
        if check.component = component then
          (expectedEvent threshold (streak (results component checks)) check).toList
        else [] := by
  rw [events_concat, eventsOf, List.filter_append]
  congr 1
  cases hevent : expectedEvent threshold (streak (results check.component checks)) check with
  | none =>
    split
    · next hcomponent =>
      rw [← hcomponent, hevent]
      rfl
    · rfl
  | some event =>
    have habout := component_of_expectedEvent hevent
    rw [Option.toList_some, List.filter_singleton, habout, Bool.cond_decide]
    split
    · next hcomponent =>
      rw [← hcomponent, hevent]
      rfl
    · rfl

theorem Alternating.concat {events : List HealthEvent} {event : HealthEvent}
    (h : Alternating events) (hevent : event.isAlert = true ↔ events.length % 2 = 0) :
    Alternating (events ++ [event]) := by
  intro i event' hi
  rcases Nat.lt_trichotomy i events.length with hlt | rfl | hgt
  · rw [List.getElem?_append_left hlt] at hi
    exact h i event' hi
  · rw [List.getElem?_concat_length] at hi
    rwa [← Option.some_inj.mp hi]
  · rw [List.getElem?_eq_none (by rw [List.length_append, List.length_singleton]; omega)] at hi
    cases hi

/-- The number of events tells whether the streak of failures has been alerted. -/
theorem alternating_eventsOf (threshold : UInt32) (component : String) (checks : List Check) :
    Alternating (eventsOf component (events threshold checks)) ∧
      ((eventsOf component (events threshold checks)).length % 2 = 1 ↔
        due threshold ≤ streak (results component checks)) := by
  have hpos := due_pos threshold
  induction checks using List.reverseRecOn with
  | nil =>
    refine ⟨fun i event hi ↦ (by cases hi), ?_⟩
    simp [events, Machine.outputs, List.reduceOption, eventsOf, results, checksOf, streak]
    omega
  | append_singleton checks check ih =>
    obtain ⟨halternating, hparity⟩ := ih
    rw [eventsOf_concat, results_concat]
    by_cases hcomponent : check.component = component
    · rw [if_pos hcomponent, if_pos hcomponent, streak_concat, expectedEvent]
      by_cases hhealthy : check.healthy = true
      · simp only [hhealthy, if_true]
        by_cases hdue : due threshold ≤ streak (results component checks)
        · have hodd := hparity.mpr hdue
          rw [if_pos hdue, Option.toList_some]
          refine ⟨Alternating.concat halternating ?_, ?_⟩
          · simp only [HealthEvent.isAlert, Bool.false_eq_true, false_iff]
            omega
          · rw [List.length_append, List.length_singleton]
            omega
        · rw [if_neg hdue, Option.toList_none, List.append_nil]
          refine ⟨halternating, ?_⟩
          omega
      · simp only [hhealthy, Bool.false_eq_true, if_false]
        by_cases hreached : streak (results component checks) + 1 = due threshold
        · have heven : ¬ (eventsOf component (events threshold checks)).length % 2 = 1 := by
            rw [hparity]
            omega
          rw [if_pos hreached, Option.toList_some]
          refine ⟨Alternating.concat halternating ?_, ?_⟩
          · simp only [HealthEvent.isAlert, true_iff]
            omega
          · rw [List.length_append, List.length_singleton]
            omega
        · rw [if_neg hreached, Option.toList_none, List.append_nil]
          refine ⟨halternating, ?_⟩
          omega
    · rw [if_neg hcomponent, if_neg hcomponent, List.append_nil, List.append_nil]
      exact ⟨halternating, hparity⟩

theorem eventsOf_events (threshold : UInt32) (component : String) (checks : List Check) :
    eventsOf component (events threshold checks) =
      events threshold (checksOf component checks) := by
  induction checks using List.reverseRecOn with
  | nil => rfl
  | append_singleton checks check ih =>
    rw [eventsOf_concat, checksOf_concat, ih]
    by_cases hcomponent : check.component = component
    · rw [if_pos hcomponent, if_pos hcomponent, events_concat, hcomponent, results_checksOf]
    · rw [if_neg hcomponent, if_neg hcomponent, List.append_nil, List.append_nil]

theorem alertsAlternate (threshold : UInt32) (checks : List Check) :
    AlertsAlternate threshold checks where
  alternating component := (alternating_eventsOf threshold component checks).1
  expected before check _ := recordCheck_runChecks threshold before check
  alone component := eventsOf_events threshold component checks

/-- The third failure in a row is alerted, and no later one. -/
example : events 3 ([false, false, true, false, false, false, false, true].map
      fun healthy ↦ ⟨"mcp", healthy, 0⟩) =
    [.alert "mcp" 3, .recovery "mcp"] := by decide

end Runs

end HealthMonitor

end AdkGateway
