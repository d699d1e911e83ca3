import AdkGateway.Mcp.Manager

namespace AdkGateway.Mcp

open Foundation

def configsOf (s : McpConnectionManager) (id : String) : Option McpServerConfig :=
  (s.connections.lookup id).map (·.config)

/-- The definitions that are tracked, and the servers that have been connected so far. -/
@[ext] structure Tally where
  configs : String → Option McpServerConfig
  connected : List String

/-- What the operations of a call do to a tally as long as no other call changes what is tracked. -/
def tallies : Script.Protocol Op Op.Answer Tally where
  allows _ _ := True
  moves o t a t' :=
    match o, a with
    | .serverIds, ids => t' = t ∧ ∀ id, id ∈ ids ↔ t.configs id ≠ none
    | .containsKey id, found => t' = t ∧ found = (t.configs id).isSome
    | .getConfig id, config => t' = t ∧ config = t.configs id
    | .connecting config, _ => t' = { t with connected := t.connected ++ [config.serverId] }
    | .insertConnection conn, _ =>
      t' = { t with configs := Function.update t.configs conn.config.serverId (some conn.config) }
    | .removeConnection id, _ => t' = { t with configs := Function.update t.configs id none }
    | _, _ => t' = t

def Tally.connect (t : Tally) (config : McpServerConfig) : Tally where
  configs := Function.update t.configs config.serverId (some config)
  connected := t.connected ++ [config.serverId]

def Tally.disconnect (t : Tally) (id : String) : Tally :=
  { t with configs := Function.update t.configs id none }

def Tally.reconcileOne (t : Tally) (config : McpServerConfig) : Tally :=
  if config.enabled then
    if t.configs config.serverId = some config then t else t.connect config
  else t.disconnect config.serverId

structure Tidied (configs : List McpServerConfig) (began : String → Option McpServerConfig)
    (t : Tally) : Prop where
  tracked : ∀ id config, t.configs id = some config ↔
    config ∈ configs ∧ config.enabled = true ∧ config.serverId = id
  unchanged : ∀ config ∈ configs, began config.serverId = some config →
    config.serverId ∉ t.connected

section Scripts

variable {t : Tally} {config : McpServerConfig}

theorem startStdio_tallies (command : String) (args : List String)
    (env : Finmap fun _ : String ↦ String) :
    (startStdio config command args env).Follows tallies
      (fun conn t' ↦ conn.config = config ∧ t' = t) t := by
  refine Script.follows_perform trivial ?_
  rintro started _ rfl
  cases started with
  | error e => exact ⟨rfl, rfl⟩
  | ok =>
    refine Script.follows_perform trivial ?_
    rintro running _ rfl
    cases running with
    | false => exact ⟨rfl, rfl⟩
    | true =>
      refine Script.follows_perform trivial ?_
      rintro tools _ rfl
      refine Script.follows_perform trivial ?_
      rintro _ _ rfl
      exact ⟨rfl, rfl⟩

theorem connect_tallies (henabled : config.enabled = true) :
    (connect config).Follows tallies (fun _ t' ↦ t' = t.connect config) t := by
  rw [connect, if_pos henabled]
  refine Script.follows_perform trivial ?_
  rintro _ _ rfl
  have hinsert (conn : McpConnection) (hconfig : conn.config = config) :
      (call (.insertConnection conn)).Follows tallies (fun _ t' ↦ t' = t.connect config)
        { t with connected := t.connected ++ [config.serverId] } := by
    refine ⟨trivial, ?_⟩
    rintro _ _ rfl
    rw [← hconfig]
    rfl
  cases config.transport with
  | sse url => exact hinsert _ rfl
  | stdio command args env =>
    refine Script.follows_bind (startStdio_tallies command args env) ?_
    rintro conn _ ⟨hconfig, rfl⟩
    exact hinsert conn hconfig

theorem disconnect_tallies (id : String) :
    (disconnect id).Follows tallies (fun _ t' ↦ t' = t.disconnect id) t := by
  refine Script.follows_perform trivial ?_
  rintro _ _ rfl
  refine Script.follows_perform trivial ?_
  rintro _ _ rfl
  rfl

theorem disconnect_of_untracked {id : String} (h : t.configs id = none) : t.disconnect id = t := by
  rw [Tally.disconnect, ← h, Function.update_eq_self]

theorem connect_disconnect (config : McpServerConfig) :
    (t.disconnect config.serverId).connect config = t.connect config := by
  simp only [Tally.connect, Tally.disconnect, Function.update_idem]

theorem reconcileOne_tallies (config : McpServerConfig) :
    (reconcileOne config).Follows tallies (fun _ t' ↦ t' = t.reconcileOne config) t := by
  rw [reconcileOne, Tally.reconcileOne]
  split
  next henabled =>
    refine Script.follows_perform trivial ?_
    rintro _ t ⟨rfl, rfl⟩
    dsimp only
    by_cases hsame : t.configs config.serverId = some config
    · rw [if_pos hsame, if_neg (not_not.mpr hsame)]
      exact rfl
    · rw [if_neg hsame, if_pos hsame]
      refine Script.follows_perform trivial ?_
      rintro found t ⟨rfl, rfl⟩
      cases t.configs config.serverId with
      | none => exact connect_tallies henabled
      | some existing =>
        refine Script.follows_bind (disconnect_tallies config.serverId) ?_
        rintro _ _ rfl
        rw [← connect_disconnect]
        exact connect_tallies henabled
  next =>
    refine Script.follows_perform trivial ?_
    rintro found t ⟨rfl, rfl⟩
    cases hconfig : t.configs config.serverId with
    | none => exact (disconnect_of_untracked hconfig).symm
    | some existing => exact disconnect_tallies config.serverId

theorem connectNew_tallies (configs : List McpServerConfig) :
    (connectNew configs).Follows tallies (fun _ t' ↦ t' = configs.foldl Tally.reconcileOne t) t := by
  induction configs generalizing t with
  | nil => exact rfl
  | cons config configs ih =>
    refine Script.follows_bind (reconcileOne_tallies config) ?_
    rintro _ _ rfl
    exact ih

theorem disconnectRemoved_tallies (newIds ids : List String) :
    (disconnectRemoved newIds ids).Follows tallies (fun _ t' ↦ t'.connected = t.connected ∧
      ∀ id, t'.configs id = if id ∈ ids ∧ id ∉ newIds then none else t.configs id) t := by
  induction ids generalizing t with
  | nil => exact ⟨rfl, fun id ↦ by simp⟩
  | cons id ids ih =>
    rw [disconnectRemoved]
    split
    next hlisted =>
      refine ih.mono ?_
      rintro _ t' ⟨hconnected, hconfigs⟩
      refine ⟨hconnected, fun id' ↦ ?_⟩
      rw [hconfigs]
      have hid : id ∈ newIds := by simpa using hlisted
      by_cases heq : id' = id
      · rw [heq]
        simp [hid]
      · simp [heq]
    next hunlisted =>
      refine Script.follows_bind (disconnect_tallies id) ?_
      rintro _ _ rfl
      refine ih.mono ?_
      rintro _ t' ⟨hconnected, hconfigs⟩
      refine ⟨hconnected, fun id' ↦ ?_⟩
      rw [hconfigs]
      have hid : id ∉ newIds := by simpa using hunlisted
      by_cases heq : id' = id
      · rw [heq]
        simp [hid, Tally.disconnect]
      · simp [heq, Tally.disconnect]

end Scripts

section Outcome

variable {t : Tally}

theorem reconcileOne_configs (config : McpServerConfig) (id : String) :
    (t.reconcileOne config).configs id =
      if id = config.serverId then if config.enabled then some config else none
      else t.configs id := by
  rw [Tally.reconcileOne]
  by_cases hid : id = config.serverId
  · subst hid
    by_cases hsame : t.configs config.serverId = some config
    · by_cases henabled : config.enabled = true <;> simp [Tally.disconnect, hsame, henabled]
    · by_cases henabled : config.enabled = true <;>
        simp [Tally.connect, Tally.disconnect, hsame, henabled]
  · split
    · split <;> simp [Tally.connect, hid]
    · simp [Tally.disconnect, hid]

theorem reconciled_unlisted {configs : List McpServerConfig} {id : String}
    (h : id ∉ configs.map (·.serverId)) :
    (configs.foldl Tally.reconcileOne t).configs id = t.configs id := by
  induction configs generalizing t with
  | nil => rfl
  | cons config configs ih =>
    obtain ⟨hne, hrest⟩ := not_or.mp (mt List.mem_cons.mpr h)
    rw [List.foldl_cons, ih hrest, reconcileOne_configs, if_neg hne]

theorem reconciled_listed {configs : List McpServerConfig} {config : McpServerConfig}
    (hnodup : (configs.map (·.serverId)).Nodup) (hconfig : config ∈ configs) :
    (configs.foldl Tally.reconcileOne t).configs config.serverId =
      if config.enabled then some config else none := by
  induction configs generalizing t with
  | nil => cases hconfig
  | cons first configs ih =>
    obtain ⟨hnew, hrest⟩ := List.nodup_cons.mp hnodup
    rw [List.foldl_cons]
    cases hconfig with
    | head => rw [reconciled_unlisted hnew, reconcileOne_configs, if_pos rfl]
    | tail _ hconfig => exact ih hrest hconfig

theorem reconcileOne_connected {config : McpServerConfig} {id : String} :
    id ∈ (t.reconcileOne config).connected → id ∈ t.connected ∨
      id = config.serverId ∧ t.configs config.serverId ≠ some config := by
  rw [Tally.reconcileOne]
  split
  · split
    · exact .inl
    next hchanged =>
      intro hid
      obtain hid | hid := List.mem_append.mp hid
      · exact .inl hid
      · exact .inr ⟨List.mem_singleton.mp hid, hchanged⟩
  · exact .inl

theorem reconciled_connected {configs : List McpServerConfig} {config : McpServerConfig}
    (hnodup : (configs.map (·.serverId)).Nodup) (hconfig : config ∈ configs)
    (hsame : t.configs config.serverId = some config) (hnot : config.serverId ∉ t.connected) :
    config.serverId ∉ (configs.foldl Tally.reconcileOne t).connected := by
  have hrest (configs : List McpServerConfig) (t : Tally)
      (hunlisted : config.serverId ∉ configs.map (·.serverId))
      (hnot : config.serverId ∉ t.connected) :
      config.serverId ∉ (configs.foldl Tally.reconcileOne t).connected := by
    induction configs generalizing t with
    | nil => exact hnot
    | cons first configs ih =>
      obtain ⟨hne, hrest⟩ := not_or.mp (mt List.mem_cons.mpr hunlisted)
      refine ih _ hrest fun hid ↦ ?_
      exact (reconcileOne_connected hid).elim hnot fun hfirst ↦ hne hfirst.1
  induction configs generalizing t with
  | nil => cases hconfig
  | cons first configs ih =>
    obtain ⟨hnew, hnodup⟩ := List.nodup_cons.mp hnodup
    have hfirst : config.serverId ∉ (t.reconcileOne first).connected := by
      intro hid
      obtain hid | ⟨hid, hchanged⟩ := reconcileOne_connected hid
      · exact hnot hid
      · cases hconfig with
        | head => exact hchanged hsame
        | tail _ hconfig => exact hnew (List.mem_map.mpr ⟨config, hconfig, hid⟩)
    cases hconfig with
    | head => exact hrest configs _ hnew hfirst
    | tail _ hconfig =>
      refine ih hnodup hconfig ?_ hfirst
      have hne : config.serverId ≠ first.serverId := fun heq ↦
        hnew (List.mem_map.mpr ⟨config, hconfig, heq⟩)
      rw [reconcileOne_configs, if_neg hne, hsame]

theorem reconcile_tallies {configs : List McpServerConfig} (began : String → Option McpServerConfig)
    (hnodup : (configs.map (·.serverId)).Nodup) :
    (reconcile configs).Follows tallies (fun _ ↦ Tidied configs began) ⟨began, []⟩ := by
  refine Script.follows_perform trivial ?_
  rintro ids _ ⟨rfl, hids⟩
  refine Script.follows_bind (disconnectRemoved_tallies _ ids) ?_
  rintro _ t ⟨hconnected, hconfigs⟩
  have hkept (id : String) : t.configs id =
      if id ∈ configs.map (·.serverId) then began id else none := by
    have hid : id ∈ ids ↔ began id ≠ none := hids id
    simp only [hconfigs, hid]
    by_cases hlisted : id ∈ configs.map (·.serverId)
    · rw [if_neg fun h ↦ h.2 hlisted, if_pos hlisted]
    · cases began id <;> simp [hlisted]
  refine (connectNew_tallies configs).mono ?_
  rintro _ _ rfl
  refine ⟨fun id config ↦ ⟨fun hid ↦ ?_, ?_⟩, fun config hconfig hsame ↦ ?_⟩
  · by_cases hlisted : id ∈ configs.map (·.serverId)
    · obtain ⟨listed, hmem, rfl⟩ := List.mem_map.mp hlisted
      rw [reconciled_listed hnodup hmem] at hid
      split at hid
      next henabled =>
        obtain rfl := Option.some_inj.mp hid
        exact ⟨hmem, henabled, rfl⟩
      next => cases hid
    · rw [reconciled_unlisted hlisted, hkept, if_neg hlisted] at hid
      cases hid
  · rintro ⟨hmem, henabled, rfl⟩
    rw [reconciled_listed hnodup hmem, if_pos henabled]
  · refine reconciled_connected hnodup hconfig ?_ (hconnected ▸ List.not_mem_nil)
    rw [hkept, if_pos (List.mem_map_of_mem hconfig), hsame]

end Outcome

end AdkGateway.Mcp
