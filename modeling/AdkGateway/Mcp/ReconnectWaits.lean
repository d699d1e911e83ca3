import AdkGateway.Mcp.Connections

namespace AdkGateway.Mcp

open Foundation

/-- A connection attempt succeeds: a server over stdio starts and runs then. -/
def succeeds (config : McpServerConfig) (env : Op → Input) : Bool :=
  match config.transport with
  | .stdio _ _ _ =>
    match (env (.startServer config)).start with
    | .ok () => (env (.serverStatus config.serverId)).running
    | .error _ => false
  | .sse _ => true

def Op.wait : Op → Option ℕ
  | .sleep seconds => some seconds
  | _ => none

def waits (env : Op → Input) {α : Type} (code : Code α) (s : McpConnectionManager) : List ℕ :=
  (code.ops exec env s).filterMap Op.wait

def McpConnectionManager.isConnected (s : McpConnectionManager) (id : String) : Bool :=
  (s.connections.lookup id).any (·.status == .connected)

inductive Connects : McpConnectionManager → Prop
  | new : Connects empty
  | call {s : McpConnectionManager} (c : Call) (env : Op → Input) :
      Connects s → c.isReconnect = false → Connects (c.code.run exec env s).1

structure Reconnection where
  id : String
  env : Op → Input

structure Attempt where
  waited : List ℕ
  connected : Bool

def attempts (id : String) : List Reconnection → McpConnectionManager → List Attempt
  | [], _ => []
  | r :: rs, s =>
    let after := ((reconnect r.id).run exec r.env s).1
    if r.id = id ∧ (s.connections.lookup id).isSome = true then
      ⟨waits r.env (reconnect r.id) s, after.isConnected id⟩ :: attempts id rs after
    else attempts id rs after

/-- Each attempt waits as long as it should after so many failures. -/
def BacksOff : ℕ → List Attempt → Prop
  | _, [] => True
  | failures, a :: as => a.waited = [min (2 ^ failures) 60] ∧
      BacksOff (if a.connected then 0 else failures + 1) as

structure Fresh (s : McpConnectionManager) : Prop where
  enabled : Enabled s
  attempts : ∀ id conn, s.connections.lookup id = some conn → conn.reconnectAttempts = 0

section Connecting

variable {config : McpServerConfig} (env : Op → Input) (s : McpConnectionManager)

theorem waits_eq_nil {α : Type} {code : Code α} (h : code.Only (·.wait = none)) :
    waits env code s = [] :=
  List.filterMap_eq_nil_iff.mpr (Script.only_ops exec env h s)

theorem startStdio_waits_not (config : McpServerConfig) (command : String) (args : List String)
    (vars : Finmap fun _ : String ↦ String) :
    (startStdio config command args vars).Only (·.wait = none) := by
  refine ⟨rfl, fun started ↦ ?_⟩
  cases started with
  | error e => trivial
  | ok =>
    refine ⟨rfl, fun running ↦ ?_⟩
    cases running with
    | false => trivial
    | true => exact ⟨rfl, fun _ ↦ ⟨rfl, fun _ ↦ trivial⟩⟩

theorem connect_waits_not (config : McpServerConfig) : (connect config).Only (·.wait = none) := by
  rw [connect]
  split
  · refine Script.only_perform_bind.mpr ⟨rfl, fun _ ↦ ?_⟩
    cases config.transport with
    | sse url => exact ⟨rfl, fun _ ↦ trivial⟩
    | stdio command args vars =>
      exact Script.only_bind (startStdio_waits_not config command args vars)
        fun _ ↦ ⟨rfl, fun _ ↦ trivial⟩
  · trivial

structure Makes (config : McpServerConfig) (code : Code McpConnection) : Prop where
  definition : (code.run exec env s).2.config = config
  attempts : (code.run exec env s).2.reconnectAttempts = 0
  connected : ((code.run exec env s).2.status == .connected) = succeeds config env
  connections : (code.run exec env s).1.connections = s.connections

theorem startStdio_makes {command : String} {args : List String}
    {vars : Finmap fun _ : String ↦ String} (h : config.transport = .stdio command args vars) :
    Makes env s config (startStdio config command args vars) := by
  cases hstart : (env (.startServer config)).start with
  | error e =>
    constructor <;>
      simp [startStdio, call, exec, succeeds, McpConnection.new, h, hstart]
  | ok _ =>
    cases hrunning : (env (.serverStatus config.serverId)).running <;> constructor <;>
      simp [startStdio, call, exec, succeeds, McpConnection.new, h, hstart, hrunning]

theorem connect_run (henabled : config.enabled = true) :
    ∃ conn, conn.config = config ∧ conn.reconnectAttempts = 0 ∧
      (conn.status == .connected) = succeeds config env ∧
      ((connect config).run exec env s).1.connections =
        s.connections.insert config.serverId conn := by
  rw [connect, if_pos henabled]
  cases htransport : config.transport with
  | sse url =>
    refine ⟨{ McpConnection.new config with status := .connected, reconnectAttempts := 0 },
      rfl, rfl, ?_, rfl⟩
    rw [succeeds, htransport]
    rfl
  | stdio command args vars =>
    have hmakes := startStdio_makes env s htransport
    refine ⟨_, hmakes.definition, hmakes.attempts, hmakes.connected, ?_⟩
    simp only [call, Script.run_bind, Script.run_perform, exec, hmakes.connections,
      hmakes.definition]

/-- A server that is tracked, with nothing counted for it, is connected again after a second,
whatever came of its earlier attempts. -/
theorem reconnect_run {s : McpConnectionManager} {id : String} {entry : McpConnection}
    (hentry : s.connections.lookup id = some entry) (henabled : entry.config.enabled = true)
    (hid : entry.config.serverId = id) (hattempts : entry.reconnectAttempts = 0) :
    waits env (reconnect id) s = [1] ∧
    ∃ conn, conn.config = entry.config ∧ conn.reconnectAttempts = 0 ∧
      (conn.status == .connected) = succeeds entry.config env ∧
      ∀ id', ((reconnect id).run exec env s).1.connections.lookup id' =
        if id' = id then some conn else s.connections.lookup id' := by
  have hrun : ∃ s', (∀ id', id' ≠ id → s'.connections.lookup id' = s.connections.lookup id') ∧
      ((reconnect id).run exec env s).1 = ((connect entry.config).run exec env s').1 ∧
      waits env (reconnect id) s = 1 :: waits env (connect entry.config) s' := by
    let marked := { entry with status := .reconnecting, reconnectAttempts := 1 }
    refine ⟨{ s with connections := (s.connections.insert id marked).erase id }, ?_, ?_, ?_⟩
    · intro id' hne
      rw [AList.lookup_erase_ne hne, AList.lookup_insert_ne hne]
    · simp [reconnect, call, exec, hentry, hattempts, marked]
    · simp [reconnect, call, waits, exec, hentry, hattempts, marked, backoffDuration]
      rfl
  obtain ⟨s', hothers, hrun, hwaits⟩ := hrun
  obtain ⟨conn, hconfig, hzero, hconnected, hconnections⟩ := connect_run env s' henabled
  refine ⟨?_, conn, hconfig, hzero, hconnected, fun id' ↦ ?_⟩
  · rw [hwaits, waits_eq_nil env s' (connect_waits_not entry.config)]
  · rw [hrun, hconnections, hid, KeyedMap.lookup_insert_if]
    split
    next => rfl
    next hne => exact hothers id' hne

end Connecting

section Fresh

variable {s : McpConnectionManager}

theorem empty_fresh : Fresh empty := ⟨nofun, nofun⟩

theorem Fresh.insert {conn : McpConnection} {id : String} (h : Fresh s)
    (henabled : conn.config.enabled = true) (hid : conn.config.serverId = id)
    (hattempts : conn.reconnectAttempts = 0) {s' : McpConnectionManager}
    (hs' : s'.connections = s.connections.insert id conn) : Fresh s' := by
  constructor
  · rw [Enabled, hs']
    exact KeyedMap.forall_lookup_insert ⟨henabled, hid⟩ h.enabled
  · rw [hs']
    exact KeyedMap.forall_lookup_insert hattempts h.attempts

theorem Fresh.erase {id : String} (h : Fresh s) {s' : McpConnectionManager}
    (hs' : s'.connections = s.connections.erase id) : Fresh s' := by
  constructor
  · rw [Enabled, hs']
    exact KeyedMap.forall_lookup_erase h.enabled
  · rw [hs']
    exact KeyedMap.forall_lookup_erase h.attempts

def KeepsFresh {α : Type} (code : Code α) : Prop :=
  ∀ env s, Fresh s → Fresh (code.run exec env s).1

theorem keepsFresh_pure {α : Type} (x : α) : KeepsFresh (pure x : Code α) := fun _ _ h ↦ h

theorem keepsFresh_bind {α β : Type} {m : Code α} {f : α → Code β} (hm : KeepsFresh m)
    (hf : ∀ x, KeepsFresh (f x)) : KeepsFresh (m >>= f) := by
  intro env s h
  rw [Script.run_bind]
  exact hf _ env _ (hm env s h)

theorem keepsFresh_connect (config : McpServerConfig) : KeepsFresh (connect config) := by
  intro env s h
  by_cases henabled : config.enabled = true
  · obtain ⟨conn, rfl, hattempts, -, hconnections⟩ := connect_run env s henabled
    exact h.insert henabled rfl hattempts hconnections
  · rw [connect, if_neg henabled]
    exact h

theorem keepsFresh_disconnect (id : String) : KeepsFresh (disconnect id) :=
  fun _ _ h ↦ h.erase rfl

theorem keepsFresh_disconnectRemoved (newIds ids : List String) :
    KeepsFresh (disconnectRemoved newIds ids) := by
  induction ids with
  | nil => exact keepsFresh_pure ()
  | cons id ids ih =>
    rw [disconnectRemoved]
    split
    · exact ih
    · exact keepsFresh_bind (keepsFresh_disconnect id) fun _ ↦ ih

theorem keepsFresh_look {o : Op} (h : ∀ i s, (exec o i s).1 = s) : KeepsFresh (call o) := by
  intro env s hs
  rw [call, Script.run_perform, h]
  exact hs

theorem keepsFresh_disconnectIf (id : String) (found : Bool) :
    KeepsFresh (if found then disconnect id else pure () : Code Unit) := by
  cases found with
  | false => exact keepsFresh_pure ()
  | true => exact keepsFresh_disconnect id

theorem keepsFresh_reconcileOne (config : McpServerConfig) :
    KeepsFresh (reconcileOne config) := by
  rw [reconcileOne]
  split
  · refine keepsFresh_bind (keepsFresh_look fun _ _ ↦ rfl) fun existing ↦ ?_
    split
    · refine keepsFresh_bind (keepsFresh_look fun _ _ ↦ rfl) fun found ↦ ?_
      cases found with
      | false => exact keepsFresh_connect config
      | true => exact keepsFresh_bind (keepsFresh_disconnect _) fun _ ↦ keepsFresh_connect config
    · exact keepsFresh_pure ()
  · exact keepsFresh_bind (keepsFresh_look fun _ _ ↦ rfl) fun found ↦
      keepsFresh_disconnectIf config.serverId found

theorem keepsFresh_connectNew (configs : List McpServerConfig) :
    KeepsFresh (connectNew configs) := by
  induction configs with
  | nil => exact keepsFresh_pure ()
  | cons config configs ih =>
    exact keepsFresh_bind (keepsFresh_reconcileOne config) fun _ ↦ ih

theorem Connects.fresh (h : Connects s) : Fresh s := by
  induction h with
  | new => exact empty_fresh
  | call c env _ hc ih =>
    have hkeeps : KeepsFresh c.code := by
      cases c with
      | connect config => exact keepsFresh_bind (keepsFresh_connect config) fun _ ↦ keepsFresh_pure _
      | disconnect id => exact keepsFresh_bind (keepsFresh_disconnect id) fun _ ↦ keepsFresh_pure _
      | reconnect id => cases hc
      | reconcile configs =>
        refine keepsFresh_bind (keepsFresh_bind (keepsFresh_look fun _ _ ↦ rfl) fun ids ↦ ?_)
          fun _ ↦ keepsFresh_pure _
        exact keepsFresh_bind (keepsFresh_disconnectRemoved _ ids) fun _ ↦
          keepsFresh_connectNew configs
    exact hkeeps env _ ih

end Fresh

section Reconnections

variable {s : McpConnectionManager} {id : String} (env : Op → Input)

theorem reconnect_untracked (h : s.connections.lookup id = none) :
    ((reconnect id).run exec env s).1 = s := by
  simp [reconnect, call, exec, h]

/-- A reconnection counts nothing, and changes no definition. -/
theorem reconnect_keeps (hs : Fresh s) (id : String) :
    Fresh ((reconnect id).run exec env s).1 ∧
      configsOf ((reconnect id).run exec env s).1 = configsOf s := by
  cases hentry : s.connections.lookup id with
  | none =>
    rw [reconnect_untracked env hentry]
    exact ⟨hs, rfl⟩
  | some entry =>
    obtain ⟨henabled, hid⟩ := hs.enabled id entry hentry
    obtain ⟨-, conn, hconfig, hzero, -, hlookup⟩ :=
      reconnect_run env hentry henabled hid (hs.attempts id entry hentry)
    refine ⟨⟨fun id' conn' hconn' ↦ ?_, fun id' conn' hconn' ↦ ?_⟩, funext fun id' ↦ ?_⟩
    · rw [hlookup] at hconn'
      split at hconn'
      next heq =>
        cases hconn'
        rw [hconfig, heq]
        exact ⟨henabled, hid⟩
      next => exact hs.enabled id' conn' hconn'
    · rw [hlookup] at hconn'
      split at hconn'
      next heq =>
        cases hconn'
        exact hzero
      next => exact hs.attempts id' conn' hconn'
    · rw [configsOf, configsOf, hlookup]
      split
      next heq => rw [heq, hentry, Option.map_some, Option.map_some, hconfig]
      next => rfl

theorem attempts_eq (hs : Fresh s) (rs : List Reconnection) {config : McpServerConfig}
    (hconfig : configsOf s id = some config) :
    attempts id rs s =
      (rs.filter (·.id = id)).map fun r ↦ ⟨[1], succeeds config r.env⟩ := by
  induction rs generalizing s with
  | nil => rfl
  | cons r rs ih =>
    obtain ⟨hfresh, hconfigs⟩ := reconnect_keeps r.env hs r.id
    rw [attempts, ih hfresh (hconfigs ▸ hconfig)]
    by_cases hr : r.id = id
    · obtain ⟨entry, hentry, rfl⟩ := Option.map_eq_some_iff.mp hconfig
      obtain ⟨henabled, hid⟩ := hs.enabled id entry hentry
      obtain ⟨hwaits, conn, -, -, hconnected, hlookup⟩ :=
        reconnect_run r.env hentry henabled hid (hs.attempts id entry hentry)
      rw [if_pos ⟨hr, hentry ▸ rfl⟩, List.filter_cons_of_pos (by simpa using hr), List.map_cons, hr,
        hwaits, McpConnectionManager.isConnected, hlookup, if_pos rfl, Option.any_some, hconnected]
    · rw [if_neg fun h ↦ hr h.1, List.filter_cons_of_neg (by simpa using hr)]

theorem attempts_untracked (hs : Fresh s) (rs : List Reconnection) (h : configsOf s id = none) :
    attempts id rs s = [] := by
  induction rs generalizing s with
  | nil => rfl
  | cons r rs ih =>
    obtain ⟨hfresh, hconfigs⟩ := reconnect_keeps r.env hs r.id
    have hentry : s.connections.lookup id = none := Option.map_eq_none_iff.mp h
    rw [attempts, ih hfresh (hconfigs ▸ h), if_neg (by simp [hentry])]

/-- Waits of one second are as long as they should be where no failure came before. -/
theorem backsOff_iff_of_second {as : List Attempt} (h : ∀ a ∈ as, a.waited = [1]) :
    BacksOff 0 as ↔ ∀ a ∈ as.dropLast, a.connected = true := by
  induction as with
  | nil => simp [BacksOff]
  | cons a as ih =>
    obtain ⟨ha, has⟩ := List.forall_mem_cons.mp h
    cases as with
    | nil => simp [BacksOff, ha]
    | cons b bs =>
      rw [BacksOff, List.dropLast_cons_cons, List.forall_mem_cons, ← ih has]
      cases hconnected : a.connected with
      | true => simp [ha]
      | false =>
        have hb : b.waited = [1] := has b List.mem_cons_self
        simp [BacksOff, hb]

end Reconnections

/-- The waits for a server are as long as they should be if and only if each of its attempts but
the last one succeeds. -/
theorem backsOff_iff {s : McpConnectionManager} (hs : Connects s) (id : String)
    (rs : List Reconnection) : BacksOff 0 (attempts id rs s) ↔
      ∀ config, configsOf s id = some config →
        ∀ r ∈ (rs.filter (·.id = id)).dropLast, succeeds config r.env = true := by
  cases hconfig : configsOf s id with
  | none =>
    rw [attempts_untracked hs.fresh rs hconfig]
    exact iff_of_true trivial nofun
  | some config =>
    have hsecond : ∀ a ∈ attempts id rs s, a.waited = [1] := by
      rw [attempts_eq hs.fresh rs hconfig, List.forall_mem_map]
      exact fun _ _ ↦ rfl
    rw [backsOff_iff_of_second hsecond, attempts_eq hs.fresh rs hconfig, ← List.map_dropLast,
      List.forall_mem_map]
    constructor
    · rintro h _ heq
      cases heq
      exact h
    · exact fun h ↦ h config rfl

def connectedOnce : McpConnectionManager :=
  ((Call.connect files).code.run exec (fun _ ↦ starts) empty).1

theorem connects_connectedOnce : Connects connectedOnce := .call _ _ .new rfl

theorem backsOff_of_successes : BacksOff 0 (attempts "files"
    [⟨"files", fun _ ↦ starts⟩, ⟨"files", fun _ ↦ failsToStart⟩] connectedOnce) := by
  refine (backsOff_iff connects_connectedOnce "files" _).mpr fun config hconfig r hr ↦ ?_
  obtain rfl : files = config := Option.some.inj hconfig
  obtain rfl : r = ⟨"files", fun _ ↦ starts⟩ := List.mem_singleton.mp hr
  rfl

/-- After a failure the wait is one second again. -/
theorem not_backsOff : ¬ ∀ s, Connects s → ∀ id rs, BacksOff 0 (attempts id rs s) := by
  intro h
  have hfails := h _ connects_connectedOnce "files"
    [⟨"files", fun _ ↦ failsToStart⟩, ⟨"files", fun _ ↦ failsToStart⟩]
  rw [attempts_eq connects_connectedOnce.fresh _ (show configsOf _ "files" = some files from rfl)]
    at hfails
  exact absurd hfails.2.1 (by decide)

end AdkGateway.Mcp
