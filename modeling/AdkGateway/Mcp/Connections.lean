import AdkGateway.Mcp.Reconciliation

namespace AdkGateway.Mcp

open Foundation Interleaving

abbrev McpThread := Thread McpConnectionManager Call Op Op.Answer (Except String Unit)

abbrev McpEvent := Occurrence McpConnectionManager Call Op Op.Answer

abbrev McpConfig := Config McpConnectionManager McpThread McpEvent

def McpConnection.isLive (conn : McpConnection) : Bool :=
  match conn.config.transport with
  | .stdio _ _ _ => conn.status == .connected
  | .sse _ => false

def Matched (s : McpConnectionManager) (id : String) : Prop :=
  (s.managers.lookup id).isSome = true ↔
    ∃ conn, s.connections.lookup id = some conn ∧ conn.isLive = true

section Events

variable (id : String)

def Asks : McpEvent → Prop
  | .did call ⟨_, .connecting config, _⟩ => call.isReconnect = false ∧ config.serverId = id
  | _ => False

def Disconnects : McpEvent → Prop
  | .did call ⟨_, .removeConnection id', _⟩ => call.isReconnect = false ∧ id' = id
  | _ => False

def Gone (h : List McpEvent) : Prop :=
  ∃ h₁ e h₂, h = h₁ ++ e :: h₂ ∧ Disconnects id e ∧ ∀ e' ∈ h₂, ¬ Asks id e'

end Events

structure Reconciled (configs : List McpServerConfig)
    (past : List (Done McpConnectionManager Op Op.Answer)) (s : McpConnectionManager) : Prop where
  tracked : ∀ id config, configsOf s id = some config ↔
    config ∈ configs ∧ config.enabled = true ∧ config.serverId = id
  unchanged : ∀ config ∈ configs, ∀ first ∈ past.head?,
    configsOf first.state config.serverId = some config →
      ∀ done ∈ past, ∀ config', done.op = .connecting config' → config'.serverId ≠ config.serverId

structure Kept (c : McpConfig) : Prop where
  matched : c.inFlight = [] → ∀ id, Matched c.shared id
  untracked : ∀ id, Gone id c.history → c.shared.connections.lookup id = none
  reconciled : ∀ h configs past, c.history = h ++ [.returned (.reconcile configs) past] →
    (configs.map (·.serverId)).Nodup → Reconciled configs past c.shared

structure Standing where
  unsettled : Option String
  connecting : Option String

def Standing.advance (call : Call) (t : Standing) : (o : Op) → o.Answer → Standing
  | .connecting config, _ => { t with connecting := some config.serverId }
  | .markReconnecting id, some _ => ⟨some id, some id⟩
  | .insertManager id _, _ => { t with unsettled := some id }
  | .removeManager id, _ => { t with unsettled := some id }
  | .insertConnection _, _ => ⟨none, none⟩
  | .removeConnection _, _ => if call.isReconnect then t else { t with unsettled := none }
  | _, _ => t

def standing (p : McpThread) : Standing :=
  p.past.foldl (fun t done ↦ t.advance p.call done.op done.answer) ⟨none, none⟩

def Reconciling (p : McpThread) : Prop := (∃ configs, p.call = .reconcile configs) ∧ p.past ≠ []

/-- A connection is tracked as live just where there is still a manager, and a disconnection finds
no new manager and no other call about to connect the server; while a reconciliation goes on no
other call changes what is tracked. -/
def Orderly (c : McpConfig) : Label Call McpThread Input → Prop
  | .call _ => True
  | .act p _ =>
    match p.code with
    | .op (.insertConnection conn) _ =>
      ((c.shared.managers.lookup conn.config.serverId).isSome = true ↔ conn.isLive = true) ∧
        ∀ q, Beside c.inFlight p q → ¬ Reconciling q
    | .op (.removeConnection id) _ =>
      (p.call.isReconnect = false → c.shared.managers.lookup id = none ∧
        ∀ q ∈ c.inFlight, (standing q).connecting ≠ some id) ∧
        ∀ q, Beside c.inFlight p q → ¬ Reconciling q
    | _ => True

section Standings

variable {call : Call} {t : Standing} {config : McpServerConfig}

def standings (call : Call) : Script.Protocol Op Op.Answer Standing where
  allows o t :=
    match o with
    | .connecting config => call.isReconnect = true → t.connecting = some config.serverId
    | .markReconnecting _ => t.unsettled = none
    | .insertManager id _ => t.unsettled = none ∨ t.unsettled = some id
    | .removeManager _ => t.unsettled = none
    | .insertConnection conn => conn.config.enabled = true ∧
      t.connecting = some conn.config.serverId ∧
        (t.unsettled = none ∨ t.unsettled = some conn.config.serverId)
    | .removeConnection id => t.unsettled = some id ∧
      (call.isReconnect = false → t.connecting = none)
    | _ => True
  moves o t a t' := t' = t.advance call o a ∧
    match o, a with
    | .markReconnecting id, some config => config.enabled = true ∧ config.serverId = id
    | _, _ => True

def idle : Standing := ⟨none, none⟩

theorem startStdio_follows (command : String) (args : List String)
    (env : Finmap fun _ : String ↦ String) (hconnecting : t.connecting = some config.serverId)
    (hunsettled : t.unsettled = none ∨ t.unsettled = some config.serverId) :
    (startStdio config command args env).Follows (standings call) (fun conn t' ↦
      conn.config = config ∧ t'.connecting = some config.serverId ∧
        (t'.unsettled = none ∨ t'.unsettled = some config.serverId)) t := by
  refine Script.follows_perform trivial ?_
  rintro started _ ⟨rfl, -⟩
  cases started with
  | error e => exact ⟨rfl, hconnecting, hunsettled⟩
  | ok =>
    refine Script.follows_perform trivial ?_
    rintro running _ ⟨rfl, -⟩
    cases running with
    | false => exact ⟨rfl, hconnecting, hunsettled⟩
    | true =>
      refine Script.follows_perform trivial ?_
      rintro tools _ ⟨rfl, -⟩
      refine Script.follows_perform hunsettled ?_
      rintro _ _ ⟨rfl, -⟩
      exact ⟨rfl, hconnecting, .inr rfl⟩

theorem connect_follows (henabled : config.enabled = true)
    (hconnecting : call.isReconnect = true → t.connecting = some config.serverId)
    (hunsettled : t.unsettled = none ∨ t.unsettled = some config.serverId) :
    (connect config).Follows (standings call) (fun _ t' ↦ t' = idle) t := by
  rw [connect, if_pos henabled]
  refine Script.follows_perform hconnecting ?_
  rintro _ _ ⟨rfl, -⟩
  have hinsert (conn : McpConnection) (t' : Standing) (hconfig : conn.config = config)
      (hconnecting' : t'.connecting = some config.serverId)
      (hunsettled' : t'.unsettled = none ∨ t'.unsettled = some config.serverId) :
      (Mcp.call (.insertConnection conn)).Follows (standings call) (fun _ t' ↦ t' = idle) t' := by
    rw [← hconfig] at henabled hconnecting' hunsettled'
    refine ⟨⟨henabled, hconnecting', hunsettled'⟩, ?_⟩
    rintro _ _ ⟨rfl, -⟩
    rfl
  cases config.transport with
  | sse url => exact hinsert _ _ rfl rfl hunsettled
  | stdio command args env =>
    refine Script.follows_bind (startStdio_follows command args env rfl hunsettled) ?_
    rintro conn t' ⟨hconfig, hconnecting', hunsettled'⟩
    exact hinsert conn t' hconfig hconnecting' hunsettled'

theorem disconnect_follows (id : String) (hcall : call.isReconnect = false) :
    (disconnect id).Follows (standings call) (fun _ t' ↦ t' = idle) idle := by
  refine Script.follows_perform rfl ?_
  rintro _ _ ⟨rfl, -⟩
  refine Script.follows_perform ⟨rfl, fun _ ↦ rfl⟩ ?_
  rintro _ _ ⟨rfl, -⟩
  change (if call.isReconnect = true then (_ : Standing) else _) = idle
  rw [hcall]
  rfl

theorem reconnect_follows (id : String) : (reconnect id).Follows (standings (.reconnect id))
    (fun _ t' ↦ t'.unsettled = none) idle := by
  refine Script.follows_perform rfl ?_
  rintro marked _ ⟨rfl, hmarked⟩
  cases marked with
  | none => rfl
  | some config =>
    obtain ⟨henabled, rfl⟩ := hmarked
    refine Script.follows_perform trivial ?_
    rintro attempt _ ⟨rfl, -⟩
    refine Script.follows_perform trivial ?_
    rintro _ _ ⟨rfl, -⟩
    refine Script.follows_perform ⟨rfl, nofun⟩ ?_
    rintro _ _ ⟨rfl, -⟩
    refine Script.follows_bind (connect_follows henabled (fun _ ↦ rfl) (.inr rfl)) ?_
    rintro _ _ rfl
    rfl

theorem disconnectIf_follows (id : String) (hcall : call.isReconnect = false) (found : Bool) :
    (if found then disconnect id else pure () : Code Unit).Follows (standings call)
      (fun _ t' ↦ t' = idle) idle := by
  cases found with
  | true => exact disconnect_follows id hcall
  | false => exact rfl

theorem reconcile_follows (configs : List McpServerConfig) :
    (reconcile configs).Follows (standings (.reconcile configs)) (fun _ t' ↦ t' = idle) idle := by
  have hcall : (Call.reconcile configs).isReconnect = false := rfl
  refine Script.follows_perform trivial ?_
  rintro currentIds _ ⟨rfl, -⟩
  refine Script.follows_bind (R := fun _ t' ↦ t' = idle) ?_ ?_
  · change (disconnectRemoved _ currentIds).Follows _ _ idle
    induction currentIds with
    | nil => exact rfl
    | cons id ids ih =>
      rw [disconnectRemoved]
      split
      · exact ih
      · refine Script.follows_bind (disconnect_follows id hcall) ?_
        rintro _ _ rfl
        exact ih
  · rintro _ _ rfl
    generalize (Call.reconcile configs) = call at hcall
    induction configs with
    | nil => exact rfl
    | cons config configs ih =>
      refine Script.follows_bind (R := fun _ t' ↦ t' = idle) ?_ ?_
      · rw [reconcileOne]
        split
        next henabled =>
          refine Script.follows_perform trivial ?_
          rintro existing _ ⟨rfl, -⟩
          have hconnect : (connect config).Follows (standings call) (fun _ t' ↦ t' = idle) idle := by
            refine connect_follows henabled (fun hreconnect ↦ ?_) (.inl rfl)
            cases hcall.symm.trans hreconnect
          dsimp only
          split
          · refine Script.follows_perform trivial ?_
            rintro found _ ⟨rfl, -⟩
            cases found with
            | false => exact hconnect
            | true =>
              refine Script.follows_bind (disconnect_follows config.serverId hcall) ?_
              rintro _ _ rfl
              exact hconnect
          · exact rfl
        next =>
          refine Script.follows_perform trivial ?_
          rintro found _ ⟨rfl, -⟩
          exact disconnectIf_follows config.serverId hcall found
      · rintro _ _ rfl
        exact ih

theorem code_follows (call : Call) :
    call.code.Follows (standings call) (fun _ t' ↦ t'.unsettled = none) idle := by
  cases call with
  | connect config =>
    by_cases henabled : config.enabled = true
    · refine Script.follows_bind (connect_follows henabled nofun (.inl rfl)) ?_
      rintro _ _ rfl
      rfl
    · rw [Call.code, connect, if_neg henabled]
      rfl
  | disconnect id =>
    refine Script.follows_bind (disconnect_follows id rfl) ?_
    rintro _ _ rfl
    rfl
  | reconnect id => exact reconnect_follows id
  | reconcile configs =>
    refine Script.follows_bind (reconcile_follows configs) ?_
    rintro _ _ rfl
    rfl

end Standings

section Maps

variable {s : McpConnectionManager} {id : String} {o : Op} {i : Input}

theorem matched_congr {s' : McpConnectionManager}
    (hmanager : s'.managers.lookup id = s.managers.lookup id)
    (hconn : s'.connections.lookup id = s.connections.lookup id) : Matched s' id ↔ Matched s id := by
  rw [Matched, Matched, hmanager, hconn]

def Op.changes : Op → Option String
  | .insertManager id _ => some id
  | .insertConnection conn => some conn.config.serverId
  | .removeManager id => some id
  | .removeConnection id => some id
  | .markReconnecting id => some id
  | _ => none

theorem exec_unchanged (h : o.changes ≠ some id) :
    (exec o i s).1.managers.lookup id = s.managers.lookup id ∧
      (exec o i s).1.connections.lookup id = s.connections.lookup id := by
  cases o with
  | insertManager id' manager => exact ⟨AList.lookup_insert_ne fun heq ↦ h (heq ▸ rfl), rfl⟩
  | insertConnection conn => exact ⟨rfl, AList.lookup_insert_ne fun heq ↦ h (heq ▸ rfl)⟩
  | removeManager id' => exact ⟨AList.lookup_erase_ne fun heq ↦ h (heq ▸ rfl), rfl⟩
  | removeConnection id' => exact ⟨rfl, AList.lookup_erase_ne fun heq ↦ h (heq ▸ rfl)⟩
  | markReconnecting id' =>
    simp only [exec]
    cases s.connections.lookup id' with
    | none => exact ⟨rfl, rfl⟩
    | some entry => exact ⟨rfl, AList.lookup_insert_ne fun heq ↦ h (heq ▸ rfl)⟩
  | _ => exact ⟨rfl, rfl⟩

def Enabled (s : McpConnectionManager) : Prop :=
  ∀ id conn, s.connections.lookup id = some conn →
    conn.config.enabled = true ∧ conn.config.serverId = id

theorem exec_enabled (h : Enabled s)
    (ho : ∀ conn, o = .insertConnection conn → conn.config.enabled = true) :
    Enabled (exec o i s).1 := by
  cases o with
  | insertConnection conn => exact KeyedMap.forall_lookup_insert ⟨ho conn rfl, rfl⟩ h
  | removeConnection id => exact KeyedMap.forall_lookup_erase h
  | markReconnecting id =>
    simp only [exec]
    cases hentry : s.connections.lookup id with
    | none => exact h
    | some entry => exact KeyedMap.forall_lookup_insert (h id entry hentry) h
  | _ => exact h

end Maps

section Events

variable {id : String} {h : List McpEvent} {e : McpEvent}

theorem gone_concat : Gone id (h ++ [e]) ↔ Disconnects id e ∨ Gone id h ∧ ¬ Asks id e := by
  constructor
  · rintro ⟨h₁, d, h₂, heq, hd, hnone⟩
    rcases List.eq_nil_or_concat h₂ with rfl | ⟨h₂, e', rfl⟩
    · obtain ⟨-, hlast⟩ := List.append_inj' heq rfl
      obtain rfl := List.singleton_inj.mp hlast
      exact .inl hd
    · rw [List.concat_eq_append, ← List.cons_append, ← List.append_assoc] at heq
      obtain ⟨rfl, hlast⟩ := List.append_inj' heq rfl
      obtain rfl := List.singleton_inj.mp hlast
      rw [List.concat_eq_append] at hnone
      refine .inr ⟨⟨h₁, d, h₂, rfl, hd, fun e' he' ↦ ?_⟩, ?_⟩
      · exact hnone e' (List.mem_append_left _ he')
      · exact hnone e (List.mem_append_right _ List.mem_cons_self)
  · rintro (hd | ⟨⟨h₁, d, h₂, rfl, hd, hnone⟩, he⟩)
    · exact ⟨h, e, [], rfl, hd, fun e' he' ↦ absurd he' List.not_mem_nil⟩
    · refine ⟨h₁, d, h₂ ++ [e], by simp, hd, fun e' he' ↦ ?_⟩
      obtain he' | he' := List.mem_append.mp he'
      · exact hnone e' he'
      · rwa [List.mem_singleton.mp he']

end Events

section Steps

variable {s : McpConnectionManager} {l r : List McpThread} {h : List McpEvent} {call : Call}
  {past : List (Done McpConnectionManager Op Op.Answer)} {o : Op} {i : Input} {t : Standing}
  {next : o.Answer → Code (Except String Unit)}

theorem standing_perform (call : Call) (past : List (Done McpConnectionManager Op Op.Answer))
    (done : Done McpConnectionManager Op Op.Answer)
    (code code' : Code (Except String Unit)) :
    standing ⟨call, past ++ [done], code⟩ =
      (standing ⟨call, past, code'⟩).advance call done.op done.answer := by
  simp [standing]

/-- The answers are those of a manager that tracks only servers that were enabled. -/
theorem exec_moves (h : Enabled s) :
    (standings call).moves o t (exec o i s).2 (t.advance call o (exec o i s).2) := by
  refine ⟨rfl, ?_⟩
  cases o with
  | markReconnecting id =>
    simp only [exec]
    cases hentry : s.connections.lookup id with
    | none => trivial
    | some entry => exact h id entry hentry
  | _ => trivial

/-- A call that has changed what is held of a server either leaves it right or goes on with it. -/
theorem settled_op {id : String} (hallows : (standings call).allows o t)
    (hok : Orderly ⟨s, l ++ ⟨call, past, .op o next⟩ :: r, h⟩ (.act ⟨call, past, .op o next⟩ i))
    (hsettled : Matched s id ∨ t.unsettled = some id) :
    Matched (exec o i s).1 id ∨ (t.advance call o (exec o i s).2).unsettled = some id := by
  by_cases hchanges : o.changes = some id
  · cases o with
    | insertManager id' manager => exact .inr hchanges
    | removeManager id' => exact .inr hchanges
    | insertConnection conn =>
      left
      obtain rfl := Option.some_inj.mp hchanges
      refine hok.1.trans ?_
      simp only [exec, AList.lookup_insert, Option.some.injEq, exists_eq_left']
    | removeConnection id' =>
      obtain rfl := Option.some_inj.mp hchanges
      cases hcall : call.isReconnect with
      | true =>
        right
        simp only [Standing.advance, hcall, if_true]
        exact hallows.1
      | false =>
        left
        have hnone : s.managers.lookup id' = none := (hok.1 hcall).1
        refine iff_of_false ?_ ?_
        · simp [exec, hnone]
        · simp [exec, AList.lookup_erase]
    | markReconnecting id' =>
      obtain rfl := Option.some_inj.mp hchanges
      rcases hentry : s.connections.lookup id' with _ | entry
      · simp only [exec, hentry, Standing.advance]
        exact hsettled
      · right
        simp only [exec, hentry, Standing.advance]
    | _ => cases hchanges
  · obtain ⟨hmanager, hconn⟩ := exec_unchanged (i := i) (s := s) hchanges
    rw [matched_congr hmanager hconn]
    refine hsettled.imp_right fun hunsettled ↦ ?_
    cases o with
    | insertManager id' manager =>
      obtain hnone | hsome := hallows
      · cases hnone.symm.trans hunsettled
      · exact absurd (hsome.symm.trans hunsettled) hchanges
    | removeManager id' => cases Eq.trans (Eq.symm hallows) hunsettled
    | insertConnection conn =>
      obtain hnone | hsome := hallows.2.2
      · cases hnone.symm.trans hunsettled
      · exact absurd (hsome.symm.trans hunsettled) hchanges
    | removeConnection id' => exact absurd (hallows.1.symm.trans hunsettled) hchanges
    | markReconnecting id' => cases Eq.trans (Eq.symm hallows) hunsettled
    | _ => exact hunsettled

theorem not_gone_did {id : String} {a : o.Answer} (hgone : ¬ Gone id h)
    (hdid : o = .removeConnection id → call.isReconnect = true) :
    ¬ Gone id (h ++ [.did call ⟨s, o, a⟩]) := by
  rw [gone_concat]
  rintro (hdisconnects | ⟨hbefore, -⟩)
  · cases o with
    | removeConnection id' =>
      obtain ⟨hcall, rfl⟩ := hdisconnects
      cases hcall.symm.trans (hdid rfl)
    | _ => exact hdisconnects
  · exact hgone hbefore

theorem untracked_op {id : String} (hallows : (standings call).allows o t)
    (hasked : ∀ id, t.connecting = some id → ¬ Gone id h)
    (huntracked : ∀ id, Gone id h → s.connections.lookup id = none)
    (hgone : Gone id (h ++ [.did call ⟨s, o, (exec o i s).2⟩])) :
    (exec o i s).1.connections.lookup id = none := by
  have hbefore : Disconnects id (.did call ⟨s, o, (exec o i s).2⟩) ∨ Gone id h :=
    (gone_concat.mp hgone).imp_right And.left
  cases o with
  | insertConnection conn =>
    have hid : Gone id h := hbefore.resolve_left fun hdisconnects ↦ hdisconnects
    have hne : id ≠ conn.config.serverId := by
      rintro rfl
      exact hasked _ hallows.2.1 hid
    exact (AList.lookup_insert_ne hne).trans (huntracked id hid)
  | removeConnection id' =>
    simp only [exec, KeyedMap.lookup_erase_if]
    split
    · rfl
    next hne =>
      exact huntracked id (hbefore.resolve_left fun hdisconnects ↦ hne hdisconnects.2.symm)
  | markReconnecting id' =>
    have hnone := huntracked id (hbefore.resolve_left fun hdisconnects ↦ hdisconnects)
    simp only [exec]
    cases hentry : s.connections.lookup id' with
    | none => exact hnone
    | some entry =>
      have hne : id ≠ id' := by
        rintro rfl
        cases hnone.symm.trans hentry
      exact (AList.lookup_insert_ne hne).trans hnone
  | _ => exact huntracked id (hbefore.resolve_left fun hdisconnects ↦ hdisconnects)

theorem asked_op {id : String} (hallows : (standings call).allows o t)
    (hasked : ∀ id, t.connecting = some id → ¬ Gone id h)
    (huntracked : ∀ id, Gone id h → s.connections.lookup id = none)
    (hconnecting : (t.advance call o (exec o i s).2).connecting = some id) :
    ¬ Gone id (h ++ [.did call ⟨s, o, (exec o i s).2⟩]) := by
  cases o with
  | connecting config =>
    obtain rfl := Option.some_inj.mp hconnecting
    cases hcall : call.isReconnect with
    | true => exact not_gone_did (hasked _ (hallows hcall)) nofun
    | false =>
      rw [gone_concat]
      rintro (hdisconnects | ⟨-, hasks⟩)
      · exact hdisconnects
      · exact hasks ⟨hcall, rfl⟩
  | markReconnecting id' =>
    refine not_gone_did ?_ nofun
    simp only [exec] at hconnecting
    cases hentry : s.connections.lookup id' with
    | none =>
      rw [hentry] at hconnecting
      exact hasked id hconnecting
    | some entry =>
      rw [hentry] at hconnecting
      obtain rfl := Option.some_inj.mp hconnecting
      intro hgone
      cases (huntracked _ hgone).symm.trans hentry
  | removeConnection id' =>
    cases hcall : call.isReconnect with
    | true =>
      simp only [Standing.advance, hcall, if_true] at hconnecting
      exact not_gone_did (hasked id hconnecting) fun _ ↦ hcall
    | false =>
      simp only [Standing.advance, hcall, Bool.false_eq_true, if_false] at hconnecting
      cases (hallows.2 hcall).symm.trans hconnecting
  | insertConnection conn => cases hconnecting
  | _ => exact not_gone_did (hasked id hconnecting) nofun

end Steps

structure Settled (c : McpConfig) : Prop where
  enabled : Enabled c.shared
  follows : ∀ p ∈ c.inFlight,
    p.code.Follows (standings p.call) (fun _ t ↦ t.unsettled = none) (standing p)
  settled : ∀ id, Matched c.shared id ∨ ∃ p ∈ c.inFlight, (standing p).unsettled = some id
  untracked : ∀ id, Gone id c.history → c.shared.connections.lookup id = none
  asked : ∀ p ∈ c.inFlight, ∀ id, (standing p).connecting = some id → ¬ Gone id c.history

def empty : McpConnectionManager := ⟨∅, ∅⟩

theorem settled_initial : Settled (initial empty) where
  enabled := nofun
  follows := nofun
  settled _ := .inl (iff_of_false nofun nofun)
  untracked _ _ := rfl
  asked := nofun

theorem settled_call {s : McpConnectionManager} {l r : List McpThread} {h : List McpEvent}
    (call : Call) (hs : Settled ⟨s, l ++ r, h⟩) :
    Settled ⟨s, l ++ ⟨call, [], call.code⟩ :: r, h⟩ where
  enabled := hs.enabled
  follows p hp := by
    obtain hp | rfl := mem_middle.mp hp
    · exact hs.follows p hp
    · exact code_follows call
  settled id := (hs.settled id).imp_right fun ⟨p, hp, hunsettled⟩ ↦
    ⟨p, mem_middle.mpr (.inl hp), hunsettled⟩
  untracked := hs.untracked
  asked p hp id hconnecting := by
    obtain hp | rfl := mem_middle.mp hp
    · exact hs.asked p hp id hconnecting
    · cases hconnecting

theorem settled_return {s : McpConnectionManager} {l r : List McpThread} {h : List McpEvent}
    {call : Call} {past : List (Done McpConnectionManager Op Op.Answer)} {x : Except String Unit}
    (hs : Settled ⟨s, l ++ ⟨call, past, .ret x⟩ :: r, h⟩) :
    Settled ⟨s, l ++ r, h ++ [.returned call past]⟩ where
  enabled := hs.enabled
  follows p hp := hs.follows p (mem_middle.mpr (.inl hp))
  settled id := by
    have hdone : (standing ⟨call, past, .ret x⟩).unsettled = none :=
      hs.follows _ (mem_middle.mpr (.inr rfl))
    refine (hs.settled id).imp_right fun ⟨p, hp, hunsettled⟩ ↦ ?_
    obtain hp | rfl := mem_middle.mp hp
    · exact ⟨p, hp, hunsettled⟩
    · cases hdone.symm.trans hunsettled
  untracked id hgone := hs.untracked id ((gone_concat.mp hgone).resolve_left fun h ↦ h).1
  asked p hp id hconnecting hgone := hs.asked p (mem_middle.mpr (.inl hp)) id hconnecting
    ((gone_concat.mp hgone).resolve_left fun h ↦ h).1

theorem settled_perform {s : McpConnectionManager} {l r : List McpThread} {h : List McpEvent}
    {call : Call} {past : List (Done McpConnectionManager Op Op.Answer)} {o : Op}
    {next : o.Answer → Code (Except String Unit)} (i : Input)
    (hok : Orderly ⟨s, l ++ ⟨call, past, .op o next⟩ :: r, h⟩ (.act ⟨call, past, .op o next⟩ i))
    (hs : Settled ⟨s, l ++ ⟨call, past, .op o next⟩ :: r, h⟩) :
    Settled ⟨(exec o i s).1,
      l ++ ⟨call, past ++ [⟨s, o, (exec o i s).2⟩], next (exec o i s).2⟩ :: r,
      h ++ [.did call ⟨s, o, (exec o i s).2⟩]⟩ := by
  have hmem : (⟨call, past, .op o next⟩ : McpThread) ∈ l ++ ⟨call, past, .op o next⟩ :: r :=
    mem_middle.mpr (.inr rfl)
  obtain ⟨hallows, hnext⟩ := hs.follows _ hmem
  have hstanding := standing_perform call past ⟨s, o, (exec o i s).2⟩ (next (exec o i s).2)
    (.op o next)
  refine ⟨?_, fun p hp ↦ ?_, fun id ↦ ?_, fun id ↦ ?_, fun p hp id hconnecting ↦ ?_⟩
  · refine exec_enabled hs.enabled fun conn ho ↦ ?_
    subst ho
    exact hallows.1
  · obtain hp | rfl := mem_middle.mp hp
    · exact hs.follows p (mem_middle.mpr (.inl hp))
    · rw [hstanding]
      exact hnext _ _ (exec_moves hs.enabled)
  · have hsettled : (Matched s id ∨ (standing ⟨call, past, .op o next⟩).unsettled = some id) ∨
        ∃ p ∈ l ++ r, (standing p).unsettled = some id := by
      obtain hmatched | ⟨p, hp, hunsettled⟩ := hs.settled id
      · exact .inl (.inl hmatched)
      · obtain hp | rfl := mem_middle.mp hp
        · exact .inr ⟨p, hp, hunsettled⟩
        · exact .inl (.inr hunsettled)
    obtain hsettled | ⟨p, hp, hunsettled⟩ := hsettled
    · refine (settled_op hallows hok hsettled).imp_right fun hunsettled ↦ ?_
      exact ⟨_, mem_middle.mpr (.inr rfl), (congrArg Standing.unsettled hstanding).trans hunsettled⟩
    · -- another call has yet to settle it, unless this one's change is one that settles it
      exact .inr ⟨p, mem_middle.mpr (.inl hp), hunsettled⟩
  · exact untracked_op hallows (hs.asked _ hmem) hs.untracked
  · obtain hother | rfl := mem_middle.mp hp
    · have hbefore : p ∈ l ++ ⟨call, past, .op o next⟩ :: r := mem_middle.mpr (.inl hother)
      refine not_gone_did (hs.asked p hbefore id hconnecting) ?_
      rintro rfl
      refine eq_true_of_ne_false fun hcall ↦ ?_
      exact (hok.1 hcall).2 p hbefore hconnecting
    · rw [hstanding] at hconnecting
      exact asked_op hallows (hs.asked _ hmem) hs.untracked hconnecting

theorem settled_of_run {c : McpConfig} (h : Run program Orderly (initial empty) c) : Settled c :=
  Threads.invariant h (fun _ _ ↦ trivial) settled_initial
    (fun call _ hs ↦ settled_call call hs) (fun _ hs ↦ settled_return hs)
    fun i hok _ hs ↦ settled_perform i hok hs

section Tallies

variable {s : McpConnectionManager} {past : List (Done McpConnectionManager Op Op.Answer)} {o : Op}
  {i : Input}

def connectedBy (done : Done McpConnectionManager Op Op.Answer) : Option String :=
  match done.op with
  | .connecting config => some config.serverId
  | _ => none

def tally (s : McpConnectionManager) (past : List (Done McpConnectionManager Op Op.Answer)) : Tally :=
  ⟨configsOf s, past.filterMap connectedBy⟩

def began (s : McpConnectionManager) (past : List (Done McpConnectionManager Op Op.Answer)) :
    String → Option McpServerConfig :=
  match past.head? with
  | none => configsOf s
  | some first => configsOf first.state

theorem began_perform (s' : McpConnectionManager) (a : o.Answer) :
    began s' (past ++ [⟨s, o, a⟩]) = began s past := by
  cases past <;> rfl

theorem configsOf_insert (conn : McpConnection) :
    configsOf { s with connections := s.connections.insert conn.config.serverId conn } =
      Function.update (configsOf s) conn.config.serverId (some conn.config) := by
  funext id
  rw [configsOf, KeyedMap.lookup_insert_if, Function.update_apply]
  split <;> rfl

theorem configsOf_erase (id : String) :
    configsOf { s with connections := s.connections.erase id } =
      Function.update (configsOf s) id none := by
  funext id'
  rw [configsOf, KeyedMap.lookup_erase_if, Function.update_apply]
  split <;> rfl

theorem configsOf_mark (id : String) : configsOf (exec (.markReconnecting id) i s).1 = configsOf s := by
  simp only [exec]
  cases hentry : s.connections.lookup id with
  | none => rfl
  | some entry =>
    funext id'
    simp only [configsOf, KeyedMap.lookup_insert_if]
    split
    next heq =>
      rw [heq, hentry]
      rfl
    next => rfl

theorem exec_tallies : tallies.moves o (tally s past) (exec o i s).2
    (tally (exec o i s).1 (past ++ [⟨s, o, (exec o i s).2⟩])) := by
  simp only [tally, List.filterMap_append]
  cases o with
  | connecting config => rfl
  | insertConnection conn => exact Tally.ext (configsOf_insert conn) (List.append_nil _)
  | removeConnection id => exact Tally.ext (configsOf_erase id) (List.append_nil _)
  | markReconnecting id => exact Tally.ext (configsOf_mark id) (List.append_nil _)
  | serverIds =>
    refine ⟨Tally.ext rfl (List.append_nil _), fun id ↦ ?_⟩
    change id ∈ i.order s.connections.keys ↔ (s.connections.lookup id).map (·.config) ≠ none
    rw [(i.order_perm _).mem_iff, ne_eq, Option.map_eq_none_iff, AList.lookup_eq_none, not_not, AList.mem_keys]
  | containsKey id => exact ⟨Tally.ext rfl (List.append_nil _), (Option.isSome_map ..).symm⟩
  | getConfig id => exact ⟨Tally.ext rfl (List.append_nil _), rfl⟩
  | _ => exact Tally.ext rfl (List.append_nil _)

theorem exec_configsOf (hinsert : ∀ conn, o ≠ .insertConnection conn)
    (hremove : ∀ id, o ≠ .removeConnection id) : configsOf (exec o i s).1 = configsOf s := by
  cases o with
  | insertConnection conn => exact absurd rfl (hinsert conn)
  | removeConnection id => exact absurd rfl (hremove id)
  | markReconnecting id => exact configsOf_mark id
  | _ => rfl

end Tallies

structure Tallied (c : McpConfig) : Prop where
  fresh : ∀ p ∈ c.inFlight, p.past = [] → p.code = p.call.code
  tallied : ∀ p ∈ c.inFlight, ∀ configs, p.call = .reconcile configs →
    (configs.map (·.serverId)).Nodup →
      p.code.Follows tallies (fun _ ↦ Tidied configs (began c.shared p.past)) (tally c.shared p.past)
  reconciled : ∀ h configs past, c.history = h ++ [.returned (.reconcile configs) past] →
    (configs.map (·.serverId)).Nodup → Reconciled configs past c.shared

theorem reconcileCode_tallies {configs : List McpServerConfig}
    (hnodup : (configs.map (·.serverId)).Nodup) (s : McpConnectionManager) :
    (Call.reconcile configs).code.Follows tallies (fun _ ↦ Tidied configs (began s []))
      (tally s []) :=
  Script.follows_bind (reconcile_tallies (configsOf s) hnodup) fun _ _ htidied ↦ htidied

theorem tallied_call {s : McpConnectionManager} {l r : List McpThread} {h : List McpEvent}
    (call : Call) (hs : Tallied ⟨s, l ++ r, h⟩) :
    Tallied ⟨s, l ++ ⟨call, [], call.code⟩ :: r, h⟩ where
  fresh p hp := by
    obtain hp | rfl := mem_middle.mp hp
    · exact hs.fresh p hp
    · exact fun _ ↦ rfl
  tallied p hp := by
    obtain hp | rfl := mem_middle.mp hp
    · exact hs.tallied p hp
    · rintro configs rfl hnodup
      exact reconcileCode_tallies hnodup s
  reconciled := hs.reconciled

theorem tallied_return {s : McpConnectionManager} {l r : List McpThread} {h : List McpEvent}
    {call : Call} {past : List (Done McpConnectionManager Op Op.Answer)} {x : Except String Unit}
    (hs : Tallied ⟨s, l ++ ⟨call, past, .ret x⟩ :: r, h⟩) :
    Tallied ⟨s, l ++ r, h ++ [.returned call past]⟩ where
  fresh p hp := hs.fresh p (mem_middle.mpr (.inl hp))
  tallied p hp := hs.tallied p (mem_middle.mpr (.inl hp))
  reconciled h' configs past' heq hnodup := by
    obtain ⟨-, hlast⟩ := List.append_inj' heq rfl
    obtain ⟨rfl, rfl⟩ : call = .reconcile configs ∧ past = past' := by simpa using hlast
    obtain ⟨htracked, hunchanged⟩ : Tidied configs (began s past) (tally s past) :=
      hs.tallied _ (mem_middle.mpr (.inr rfl)) configs rfl hnodup
    refine ⟨htracked, fun config hconfig first hfirst hsame done hdone config' hop heq ↦ ?_⟩
    have hbegan : began s past = configsOf first.state := by
      rw [began, Option.mem_def.mp hfirst]
    refine hunchanged config hconfig (by rw [hbegan, hsame]) ?_
    refine List.mem_filterMap.mpr ⟨done, hdone, ?_⟩
    rw [connectedBy, hop, ← heq]

theorem tallied_perform {s : McpConnectionManager} {l r : List McpThread} {h : List McpEvent}
    {call : Call} {past : List (Done McpConnectionManager Op Op.Answer)} {o : Op}
    {next : o.Answer → Code (Except String Unit)} (i : Input)
    (hok : Orderly ⟨s, l ++ ⟨call, past, .op o next⟩ :: r, h⟩ (.act ⟨call, past, .op o next⟩ i))
    (hs : Tallied ⟨s, l ++ ⟨call, past, .op o next⟩ :: r, h⟩) :
    Tallied ⟨(exec o i s).1,
      l ++ ⟨call, past ++ [⟨s, o, (exec o i s).2⟩], next (exec o i s).2⟩ :: r,
      h ++ [.did call ⟨s, o, (exec o i s).2⟩]⟩ where
  fresh p hp hpast := by
    obtain hother | rfl := mem_middle.mp hp
    · exact hs.fresh p (mem_middle.mpr (.inl hother)) hpast
    · cases List.append_ne_nil_of_right_ne_nil past (List.cons_ne_nil _ _) hpast
  tallied p hp configs hcall hnodup := by
    obtain hother | rfl := mem_middle.mp hp
    · have hbefore : p ∈ l ++ ⟨call, past, .op o next⟩ :: r := mem_middle.mpr (.inl hother)
      by_cases hpast : p.past = []
      · rw [hs.fresh p hbefore hpast, hpast, hcall]
        exact reconcileCode_tallies hnodup _
      · have hbeside : Beside (l ++ ⟨call, past, .op o next⟩ :: r) ⟨call, past, .op o next⟩ p :=
          ⟨l, r, rfl, hother⟩
        have hreconciling : Reconciling p := ⟨⟨configs, hcall⟩, hpast⟩
        have hsame : configsOf (exec o i s).1 = configsOf s := by
          refine exec_configsOf ?_ ?_
          · rintro conn rfl
            exact hok.2 p hbeside hreconciling
          · rintro id rfl
            exact hok.2 p hbeside hreconciling
        have hbegan : began (exec o i s).1 p.past = began s p.past := by
          rw [began, began, hsame]
        have htally : tally (exec o i s).1 p.past = tally s p.past := by
          rw [tally, tally, hsame]
        rw [hbegan, htally]
        exact hs.tallied p hbefore configs hcall hnodup
    · obtain ⟨-, hnext⟩ := hs.tallied _ (mem_middle.mpr (.inr rfl)) configs hcall hnodup
      rw [began_perform]
      exact hnext _ _ exec_tallies
  reconciled h' configs past' heq := by
    obtain ⟨-, hlast⟩ := List.append_inj' heq rfl
    cases hlast

theorem tallied_of_run {c : McpConfig} (h : Run program Orderly (initial empty) c) : Tallied c :=
  Threads.invariant h (fun _ _ ↦ trivial) ⟨nofun, nofun, fun h configs past heq ↦ by simp [initial] at heq⟩
    (fun call _ hs ↦ tallied_call call hs) (fun _ hs ↦ tallied_return hs)
    fun i hok _ hs ↦ tallied_perform i hok hs

/-- In an orderly run managers and connections go together at rest, what has been disconnected stays
away until it is asked for, and a reconciliation does what it says. -/
theorem kept_of_run {c : McpConfig} (h : Run program Orderly (initial empty) c) : Kept c where
  matched hrest id := by
    refine ((settled_of_run h).settled id).resolve_right ?_
    rw [hrest]
    rintro ⟨p, hp, -⟩
    cases hp
  untracked := (settled_of_run h).untracked
  reconciled := (tallied_of_run h).reconciled

section Vectors

def files : McpServerConfig := ⟨"files", .stdio "mcp-files" [] ∅, none, true⟩

def starts : Input := ⟨.ok (), true, .ok ["read_file"], id, fun _ ↦ .refl _⟩

def failsToStart : Input :=
  ⟨.error "No such file or directory", false, .ok [], List.reverse, List.reverse_perm⟩

def connectMoves : List (Move Call Input) :=
  .call (.connect files) :: List.replicate 7 (.act 0 starts)

def reconnectMoves : List (Move Call Input) :=
  connectMoves ++ .call (.reconnect "files") :: List.replicate 8 (.act 0 failsToStart)

theorem kept_of_run_connect : ∃ c, play program (initial empty) connectMoves = some c ∧ Kept c := by
  have hpermits : Permits program Orderly (initial empty) connectMoves := by
    refine ⟨trivial, trivial, trivial, trivial, trivial, trivial, ⟨⟨by decide, ?_⟩, trivial, trivial⟩⟩
    exact fun q hbeside ↦ absurd hbeside not_beside_singleton
  exact ⟨_, rfl, kept_of_run (run_of_permits hpermits rfl)⟩

theorem not_kept : ¬ ∀ c : McpConfig, Reachable program empty c → Kept c := by
  intro h
  have hrun := h _ (run_of_play reconnectMoves rfl)
  have hmatched := (hrun.matched rfl "files").mp rfl
  obtain ⟨conn, hconn, hlive⟩ := hmatched
  obtain rfl := Option.some_inj.mp hconn
  cases hlive

end Vectors

end AdkGateway.Mcp
