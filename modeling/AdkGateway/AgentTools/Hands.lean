import AdkGateway.AgentTools.Concurrent
import AdkGateway.AgentTools.Effects

namespace AdkGateway.AgentTools

open Foundation Router AgentRegistry

/-- The agent that a call is at work on, with its record and its bindings in the router, and what
the call has read of agents. -/
@[ext] structure Hand where
  id : Option String
  record : Option AgentRecord
  bindings : List AgentBinding
  seen : String → Option AgentRecord

namespace Hand

def Held (t : Hand) : Prop := ∀ id, t.id = some id → t.bindings = expected id t.record

def Now (t : Hand) (id : String) (record : Option AgentRecord) (bindings : List AgentBinding) : Prop :=
  if t.id = some id then record = t.record ∧ bindings = t.bindings else bindings = expected id record

def take (t : Hand) (id : String) (record : Option AgentRecord) (bindings : List AgentBinding) : Hand :=
  { t with id := some id, record := record, bindings := bindings }

def UpToDate (t : Hand) (id : String) (entry : AgentRecord) : Prop :=
  ∀ seen, t.seen id = some seen → entry.config.channelBindings = seen.config.channelBindings

def Fits (auto : Bool) (t : Hand) (id : String) (entry : AgentRecord) (bindings : List AgentBinding)
    (a : Except RegistryError Unit) : LifecycleState → Prop
  | .starting => (a ≠ .ok () → bindings = []) ∧ (t.id ≠ some id → t.UpToDate id entry)
  | .stopping => a ≠ .ok () → bindings = []
  | .error _ => bindings = []
  | .running => auto = true → entry.config.channelBindings = []
  | _ => True

variable {t : Hand} {id : String} {record : Option AgentRecord} {bindings : List AgentBinding}

theorem Held.now (h : t.Held) (hnow : t.Now id record bindings) : bindings = expected id record := by
  rw [Now] at hnow
  split at hnow
  next hid =>
    rw [hnow.1, hnow.2]
    exact h id hid
  next => exact hnow

theorem Now.eq (hid : t.id = some id) (hnow : t.Now id record bindings) :
    record = t.record ∧ bindings = t.bindings := by
  rwa [Now, if_pos hid] at hnow

theorem held_of_none (h : t.id = none) : t.Held := by
  intro id hid
  cases h.symm.trans hid

theorem expected_of_not_running {entry : AgentRecord} (h : entry.state ≠ .running) :
    expected id (some entry) = [] := if_neg h

theorem held_of_not_running {entry : AgentRecord} (hrecord : t.record = some entry)
    (hstate : entry.state ≠ .running) (hbindings : t.bindings = []) : t.Held := by
  intro id _
  rw [hbindings, hrecord, expected_of_not_running hstate]

theorem held_of_running {entry : AgentRecord} (hid : t.id = some id)
    (hrecord : t.record = some entry) (hstate : entry.state = .running)
    (hbindings : t.bindings = toAgent id entry.config.channelBindings) : t.Held := by
  intro id' hid'
  obtain rfl := Option.some_inj.mp (hid.symm.trans hid')
  rw [hbindings, hrecord, expected, if_pos hstate]

end Hand

def hands (auto : Bool) : Script.Protocol Op Op.Answer Hand where
  allows o t :=
    match o with
    | .createAgent _ => False
    | .transition id newState =>
      t.id = some id ∨ (newState = .starting ∨ newState = .stopping) ∧ t.Held
    | .updateConfig id _ => t.id = some id ∨ t.Held
    | .deleteRemove id => t.id = some id ∨ t.Held
    | _ => True
  moves o t a t' :=
    match o, a with
    | .get id, a => (t.id = some id → a = t.record) ∧
      t' = { t with seen := Function.update t.seen id a }
    | .transition id newState, a =>
      (∃ entry bindings now, t.Now id (some entry) bindings ∧
        isValidTransition entry.state newState = true ∧ t.Fits auto id entry bindings a newState ∧
          t' = t.take id (some { entry with state := newState, updatedAt := now }) bindings) ∨
      (t.id = some id → ∀ entry, t.record = some entry →
        isValidTransition entry.state newState = false) ∧ (∃ e, a = .error e) ∧ t' = t
    | .updateConfig id config, a =>
      (∃ entry bindings now, t.Now id (some entry) bindings ∧ config.id = id ∧
        (t.id ≠ some id → entry.state ≠ .running ∧ t.UpToDate id entry ∧
          (config.channelBindings = entry.config.channelBindings ∨ config.channelBindings = [])) ∧
          t' = t.take id (some { entry with config := config, updatedAt := now }) bindings) ∨
      (t.id = some id → t.record = none ∨ config.id ≠ id) ∧ (∃ e, a = .error e) ∧ t' = t
    | .deleteRemove id, a =>
      (∃ entry bindings, t.Now id (some entry) bindings ∧ a = .ok entry ∧
        t' = t.take id none bindings) ∨ (∃ e, a = .error e) ∧ t' = t
    | .loadRouter, router => (∀ id, t.id = some id → bindingsOf router id = t.bindings) ∧ t' = t
    | .storeRouter router, _ =>
      t' = { t with bindings := (t.id.map (bindingsOf router)).getD t.bindings }
    | _, _ => t' = t

section Rules

variable {α β : Type} {auto : Bool} {t : Hand} {id : String} {entry : AgentRecord} {Q : α → Hand → Prop}
  {newState : LifecycleState}

theorem follows_transition {f : Except RegistryError Unit → Code α} (hid : t.id = some id)
    (hrecord : t.record = some entry) (hvalid : isValidTransition entry.state newState = true)
    (hf : ∀ a now, t.Fits auto id entry t.bindings a newState → (f a).Follows (hands auto) Q
      (t.take id (some { entry with state := newState, updatedAt := now }) t.bindings)) :
    (call (.transition id newState) >>= f).Follows (hands auto) Q t := by
  refine Script.follows_perform (.inl hid) ?_
  intro a t' hmoves
  rcases hmoves with ⟨entry', bindings, now, hnow, -, hfits, rfl⟩ | ⟨hrefused, -⟩
  · obtain ⟨hentry, rfl⟩ := hnow.eq hid
    obtain rfl := Option.some_inj.mp (hentry.trans hrecord)
    exact hf a now hfits
  · cases (hrefused hid entry hrecord).symm.trans hvalid

theorem follows_takeOver {f : Except RegistryError Unit → Code α} (ht : t.Held)
    (hnew : newState = .starting ∨ newState = .stopping)
    (hrefused : ∀ e, (f (.error e)).Follows (hands auto) Q t)
    (hf : ∀ a entry now, isValidTransition entry.state newState = true →
      t.Fits auto id entry (expected id (some entry)) a newState → (f a).Follows (hands auto) Q
        (t.take id (some { entry with state := newState, updatedAt := now })
          (expected id (some entry)))) :
    (call (.transition id newState) >>= f).Follows (hands auto) Q t := by
  refine Script.follows_perform (.inr ⟨hnew, ht⟩) ?_
  intro a t' hmoves
  rcases hmoves with ⟨entry, bindings, now, hnow, hvalid, hfits, rfl⟩ | ⟨-, ⟨e, rfl⟩, rfl⟩
  · obtain rfl := ht.now hnow
    exact hf a entry now hvalid hfits
  · exact hrefused e

theorem follows_skip {o : Op} {f : o.Answer → Code α} (hallows : (hands auto).allows o t)
    (hmoves : ∀ a t', (hands auto).moves o t a t' → t' = t)
    (hf : ∀ a, (f a).Follows (hands auto) Q t) :
    (call o >>= f).Follows (hands auto) Q t := by
  refine Script.follows_perform hallows ?_
  intro a t' h
  obtain rfl := hmoves a t' h
  exact hf a

theorem follows_look {f : Option AgentRecord → Code α}
    (hnone : (f none).Follows (hands auto) Q { t with seen := Function.update t.seen id none })
    (hsome : ∀ seen, (f (some seen)).Follows (hands auto) Q
      { t with seen := Function.update t.seen id (some seen) }) :
    (call (.get id) >>= f).Follows (hands auto) Q t := by
  refine Script.follows_perform trivial ?_
  intro seen t' hmoves
  obtain ⟨-, rfl⟩ := hmoves
  cases seen with
  | none => exact hnone
  | some seen => exact hsome seen

theorem follows_changeRouter {change : MessageRouter → MessageRouter} {f : Unit → Code α}
    (bindings : List AgentBinding) (hid : t.id = some id)
    (hchange : ∀ router, bindingsOf router id = t.bindings →
      bindingsOf (change router) id = bindings)
    (hf : (f ()).Follows (hands auto) Q { t with bindings := bindings }) :
    (changeRouter change >>= f).Follows (hands auto) Q t := by
  refine Script.follows_perform trivial ?_
  intro router t' hload
  obtain ⟨hrouter, rfl⟩ := hload
  refine Script.follows_perform trivial ?_
  intro _ t'' hstore
  have hbindings : (t'.id.map (bindingsOf (change router))).getD t'.bindings = bindings := by
    rw [hid, Option.map_some, Option.getD_some]
    exact hchange router (hrouter id hid)
  have heq : t'' = { t' with bindings := bindings } := by
    rw [← hbindings]
    exact hstore
  rw [heq]
  exact hf

end Rules

section Scripts

variable {F : Formats} {auto : Bool} {t : Hand} {id : String} {entry : AgentRecord}
  {config : AgentConfig}

/-- A launch that comes to nothing leaves no bindings behind. -/
theorem launch_follows (during : String) (hid : t.id = some id) (hrecord : t.record = some entry)
    (hstate : entry.state = .starting) :
    (launch id config during).Follows (hands auto) (fun x t' ↦
      match x with
      | .ok _ => t' = t
      | .error _ => t'.Held) t := by
  have hgiveUp (message : String) (failure : Failure) : (do
      let _ ← call (.transition id (.error message))
      pure (.error failure) : Code (Except Failure UInt16)).Follows (hands auto) (fun x t' ↦
        match x with
        | .ok _ => t' = t
        | .error _ => t'.Held) t := by
    refine follows_transition hid hrecord (by rw [hstate]; rfl) ?_
    intro a now hfits
    exact Hand.held_of_not_running rfl nofun hfits
  rw [launch]
  refine follows_skip trivial (fun _ _ h ↦ h) fun built ↦ ?_
  cases built with
  | error e => exact hgiveUp _ _
  | ok path =>
    refine follows_skip trivial (fun _ _ h ↦ h) fun spawned ↦ ?_
    cases spawned with
    | error e => exact hgiveUp _ _
    | ok port =>
      refine follows_skip trivial (fun _ _ h ↦ h) fun ready ↦ ?_
      cases ready with
      | error e =>
        refine follows_skip trivial (fun _ _ h ↦ h) fun _ ↦ ?_
        refine follows_skip trivial (fun _ _ h ↦ h) fun _ ↦ ?_
        exact hgiveUp _ _
      | ok =>
        refine follows_skip trivial (fun _ _ h ↦ h) fun _ ↦ ?_
        exact rfl

theorem halt_follows (ht : t.Held) : (halt F id).Follows (hands auto) (fun x t' ↦
    match x with
    | .ok () => t'.id = some id ∧ t'.bindings = [] ∧ ∃ entry, t'.record = some entry ∧
      entry.state = .stopped
    | .error _ => t'.Held) t := by
  refine follows_takeOver ht (.inr rfl) (fun e ↦ ht) ?_
  intro a entry now hvalid hfits
  cases a with
  | error e =>
    exact Hand.held_of_not_running rfl nofun (hfits nofun)
  | ok =>
    refine follows_skip trivial (fun _ _ h ↦ h) fun _ ↦ ?_
    refine follows_skip trivial (fun _ _ h ↦ h) fun _ ↦ ?_
    refine follows_changeRouter _ rfl (fun router _ ↦ bindingsOf_remove) ?_
    refine follows_transition rfl rfl rfl fun _ now' _ ↦ ?_
    exact ⟨rfl, rfl, _, rfl, rfl⟩

theorem restart_follows (hid : t.id = some id) (hrecord : t.record = some entry)
    (hstartable : startable entry.state = true) (hconfig : entry.config = config)
    (hbindings : t.bindings = [] ∨ t.bindings = toAgent id config.channelBindings) :
    (restart F id config).Follows (hands false) (fun _ t' ↦ t'.Held) t := by
  refine follows_transition hid hrecord hstartable ?_
  intro a now hfits
  cases a with
  | error e =>
    exact Hand.held_of_not_running rfl nofun (hfits.1 nofun)
  | ok =>
    refine Script.follows_bind (launch_follows _ rfl rfl rfl) ?_
    intro launched t' hlaunched
    cases launched with
    | error failure => exact hlaunched
    | ok port =>
      subst hlaunched
      have hrunning {bindings : List AgentBinding}
          (hbound : bindings = toAgent id config.channelBindings) (message : Json) : (do
          let _ ← call (.transition id .running)
          return .ok message : Tool).Follows (hands false) (fun _ t' ↦ t'.Held)
            { t.take id (some { entry with state := .starting, updatedAt := now }) t.bindings with
              bindings := bindings } := by
        refine follows_transition rfl rfl rfl ?_
        intro _ now' _
        subst hconfig
        exact Hand.held_of_running rfl rfl rfl hbound
      dsimp only
      split
      · refine follows_changeRouter _ rfl (fun router _ ↦ bindingsOf_update) ?_
        exact hrunning rfl _
      next hnone =>
        have hempty : config.channelBindings = [] := not_not.mp hnone
        refine hrunning ?_ _
        rw [hempty] at hbindings ⊢
        exact hbindings.elim (fun h ↦ h) fun h ↦ h

theorem start_follows (ht : t.id = none) :
    (startAgent F id).Follows (hands false) (fun _ t' ↦ t'.Held) t := by
  refine follows_look (Hand.held_of_none ht) fun seen ↦ ?_
  refine follows_takeOver (Hand.held_of_none ht) (.inl rfl) (fun e ↦ Hand.held_of_none ht) ?_
  intro a entry now hstartable hfits
  have hnone : expected id (some entry) = [] :=
    Hand.expected_of_not_running (not_running_of_startable hstartable)
  have hsame : entry.config.channelBindings = seen.config.channelBindings := by
    refine hfits.2 (fun hid ↦ ?_) seen (Function.update_self ..)
    cases ht.symm.trans hid
  rw [hnone]
  cases a with
  | error e =>
    exact Hand.held_of_not_running rfl nofun rfl
  | ok =>
    refine Script.follows_bind (launch_follows _ rfl rfl rfl) ?_
    intro launched t' hlaunched
    cases launched with
    | error failure => exact hlaunched
    | ok port =>
      subst hlaunched
      refine follows_skip trivial (fun _ _ h ↦ h) fun _ ↦ ?_
      have hrunning (t' : Hand) (hid : t'.id = some id)
          (hrecord : t'.record = some { entry with state := .starting, updatedAt := now })
          (hbound : t'.bindings = toAgent id seen.config.channelBindings) (message : Json) : (do
          let _ ← call (.transition id .running)
          return .ok message : Tool).Follows (hands false) (fun _ t' ↦ t'.Held) t' := by
        refine follows_transition hid hrecord rfl ?_
        intro _ now' _
        rw [← hsame] at hbound
        exact Hand.held_of_running rfl rfl rfl hbound
      dsimp only
      split
      · refine follows_changeRouter _ rfl (fun router hrouter ↦ ?_) (hrunning _ rfl rfl rfl _)
        rw [bindingsOf_add, hrouter]
        rfl
      next hempty =>
        refine hrunning _ rfl rfl ?_ _
        rw [not_not.mp hempty]
        rfl

theorem delete_follows (ht : t.id = none) :
    (deleteAgent F id).Follows (hands false) (fun _ t' ↦ t'.Held) t := by
  have hdelete : (AgentTools.delete id).Follows (hands false) (fun x t' ↦
      (∀ record, x = .ok record → t'.id = some id ∧ t'.record = none) ∧
        ∀ e, x = .error e → t' = t) t := by
    refine follows_skip trivial (fun _ _ h ↦ h) fun checked ↦ ?_
    cases checked with
    | error e => exact ⟨(fun _ h ↦ by cases h), fun _ _ ↦ rfl⟩
    | ok =>
      refine ⟨.inr (Hand.held_of_none ht), ?_⟩
      intro a t' hmoves
      rcases hmoves with ⟨entry, bindings, -, rfl, rfl⟩ | ⟨⟨e, rfl⟩, rfl⟩
      · exact ⟨fun _ _ ↦ ⟨rfl, rfl⟩, fun _ h ↦ by cases h⟩
      · exact ⟨(fun _ h ↦ by cases h), fun _ _ ↦ rfl⟩
  refine Script.follows_bind hdelete ?_
  intro deleted t' hdeleted
  cases deleted with
  | error e =>
    obtain rfl := hdeleted.2 e rfl
    exact Hand.held_of_none ht
  | ok record =>
    obtain ⟨hid, hrecord⟩ := hdeleted.1 record rfl
    refine follows_skip trivial (fun _ _ h ↦ h) fun _ ↦ ?_
    refine follows_changeRouter _ hid (fun router _ ↦ bindingsOf_remove) ?_
    intro id' hid'
    rw [hrecord]
    rfl

theorem stop_follows (ht : t.id = none) :
    (stopAgent F id).Follows (hands false) (fun _ t' ↦ t'.Held) t := by
  refine follows_look (Hand.held_of_none ht) fun seen ↦ ?_
  refine Script.follows_bind (halt_follows (Hand.held_of_none ht)) ?_
  intro halted t' hhalted
  cases halted with
  | error e => exact hhalted
  | ok =>
    obtain ⟨-, hbindings, entry, hrecord, hstate⟩ := hhalted
    refine Hand.held_of_not_running hrecord (fun hrunning ↦ ?_) hbindings
    cases hstate.symm.trans hrunning

theorem reconfigure_stopped_follows (oldBindings : List ChannelBinding) (hid : t.id = some id)
    (hbindings : t.bindings = []) (hrecord : t.record = some entry) (hstate : entry.state = .stopped)
    (hconfig : config.id = id) : (reconfigure F id config true oldBindings).Follows (hands false)
      (fun _ t' ↦ t'.Held) t := by
  refine Script.follows_perform (.inl hid) ?_
  intro a t' hmoves
  rcases hmoves with ⟨entry', bindings, now, hnow, -, -, rfl⟩ | ⟨hrefused, -⟩
  · obtain ⟨hentry, rfl⟩ := hnow.eq hid
    obtain rfl := Option.some_inj.mp (hentry.trans hrecord)
    have hstartable : startable entry'.state = true := by
      rw [hstate]
      rfl
    cases a with
    | error e =>
      refine Hand.held_of_not_running rfl (fun hrunning ↦ ?_) hbindings
      cases hstate.symm.trans hrunning
    | ok =>
      refine follows_skip trivial (fun _ _ h ↦ h) fun _ ↦ ?_
      dsimp only
      split
      · refine follows_changeRouter _ rfl (fun router _ ↦ bindingsOf_update) ?_
        exact restart_follows rfl rfl hstartable rfl (.inr rfl)
      · exact restart_follows rfl rfl hstartable rfl (.inl hbindings)
  · rcases hrefused hid with hnone | hne
    · cases hnone.symm.trans hrecord
    · exact absurd hconfig hne

theorem reconfigure_follows {seen : AgentRecord} (ht : t.id = none) (hseen : t.seen id = some seen) :
    (reconfigure F id config false seen.config.channelBindings).Follows (hands false)
      (fun _ t' ↦ t'.Held) t := by
  have hheld := Hand.held_of_none ht
  refine Script.follows_perform (.inr hheld) ?_
  intro a t' hmoves
  rcases hmoves with ⟨entry, bindings, now, hnow, -, hsound, rfl⟩ | ⟨-, ⟨e, rfl⟩, rfl⟩
  · obtain ⟨hstate, hcurrent, hbindings⟩ := hsound fun hid ↦ by cases ht.symm.trans hid
    obtain rfl : bindings = [] :=
      (hheld.now hnow).trans (Hand.expected_of_not_running hstate)
    cases a with
    | error e => exact Hand.held_of_not_running rfl hstate rfl
    | ok =>
      refine follows_skip trivial (fun _ _ h ↦ h) fun _ ↦ ?_
      dsimp only
      split
      next hchanged =>
        have hempty : config.channelBindings = [] := by
          refine hbindings.resolve_left fun hsame ↦ hchanged ?_
          rw [hsame, hcurrent seen hseen]
        refine follows_changeRouter [] rfl (fun router _ ↦ ?_) ?_
        · rw [bindingsOf_update, hempty]
          rfl
        · exact Hand.held_of_not_running rfl hstate rfl
      next => exact Hand.held_of_not_running rfl hstate rfl
  · exact hheld

theorem configure_follows (ht : t.id = none) (hconfig : config.id = id) :
    (configureAgent F id config).Follows (hands false) (fun _ t' ↦ t'.Held) t := by
  refine follows_look (Hand.held_of_none ht) fun seen ↦ ?_
  dsimp only
  split
  · refine Script.follows_bind (halt_follows (Hand.held_of_none ht)) ?_
    intro halted t' hhalted
    cases halted with
    | error e => exact hhalted
    | ok =>
      obtain ⟨hid, hbindings, entry, hrecord, hstate⟩ := hhalted
      exact reconfigure_stopped_follows _ hid hbindings hrecord hstate hconfig
  · exact reconfigure_follows ht (Function.update_self ..)

theorem autoStartAgent_follows (id : String) (ht : t.Held) :
    (autoStartAgent id).Follows (hands true) (fun _ t' ↦ t'.Held) t := by
  refine follows_takeOver ht (.inl rfl) (fun e ↦ ht) ?_
  intro a entry now hstartable hfits
  have hnone : expected id (some entry) = [] :=
    Hand.expected_of_not_running (not_running_of_startable hstartable)
  rw [hnone]
  have hstarting : (t.take id (some { entry with state := .starting, updatedAt := now }) []).Held := by
    exact Hand.held_of_not_running rfl nofun rfl
  cases a with
  | error e => exact hstarting
  | ok =>
    refine Script.follows_perform trivial ?_
    intro record t' hread
    obtain ⟨hrecord, rfl⟩ := hread
    obtain rfl := hrecord rfl
    have hfail (message : String) : (do
        let _ ← call (.transition id (.error message)) : Code Unit).Follows (hands true)
          (fun _ t' ↦ t'.Held)
          { t.take id (some { entry with state := .starting, updatedAt := now }) [] with
            seen := Function.update t.seen id
              (some { entry with state := .starting, updatedAt := now }) } := by
      refine follows_transition rfl rfl rfl ?_
      intro _ now' _
      exact Hand.held_of_not_running rfl nofun rfl
    refine follows_skip trivial (fun _ _ h ↦ h) fun built ↦ ?_
    cases built with
    | error e => exact hfail _
    | ok path =>
      refine follows_skip trivial (fun _ _ h ↦ h) fun spawned ↦ ?_
      cases spawned with
      | error e => exact hfail _
      | ok port =>
        refine follows_skip trivial (fun _ _ h ↦ h) fun _ ↦ ?_
        refine follows_transition rfl rfl rfl ?_
        intro _ now' hfits'
        refine Hand.held_of_running rfl rfl rfl ?_
        have hempty : entry.config.channelBindings = [] := hfits' rfl
        rw [hempty]
        rfl

theorem autoStart_follows (ht : t.id = none) :
    autoStart.Follows (hands true) (fun _ t' ↦ t'.Held) t := by
  have hall (ids : List String) (t : Hand) (ht : t.Held) :
      (autoStartAll ids).Follows (hands true) (fun _ t' ↦ t'.Held) t := by
    induction ids generalizing t with
    | nil => exact ht
    | cons id ids ih =>
      refine Script.follows_bind (autoStartAgent_follows id ht) ?_
      intro _ t' ht'
      exact ih t' ht'
  refine follows_skip trivial (fun _ _ h ↦ h) fun ids ↦ ?_
  exact hall ids t (Hand.held_of_none ht)

theorem withAgentId_follows {args : Json} {tool : String → Tool} (ht : t.id = none)
    (htool : ∀ id, (tool id).Follows (hands false) (fun _ t' ↦ t'.Held) t) :
    (discard (withAgentId args tool)).Follows (hands false) (fun _ t' ↦ t'.Held) t := by
  refine Script.follows_bind (R := fun _ t' ↦ t'.Held) ?_ fun _ _ ht' ↦ ht'
  rw [withAgentId]
  cases (args.get "agent_id").bind Json.asStr with
  | none => exact Hand.held_of_none ht
  | some id => exact htool id

theorem routerCall_follows (routerCall : RouterCall) (ht : t.id = none) :
    (routerCall.code F).Follows (hands routerCall.isAutoStart) (fun _ t' ↦ t'.Held) t := by
  cases routerCall with
  | agentStart args => exact withAgentId_follows ht fun id ↦ start_follows ht
  | agentStop args => exact withAgentId_follows ht fun id ↦ stop_follows ht
  | agentDelete args => exact withAgentId_follows ht fun id ↦ delete_follows ht
  | agentConfigure args =>
    refine withAgentId_follows ht fun id ↦ ?_
    refine (configureFrom_iff (R := fun tool ↦ tool.Follows (hands false) (fun _ t' ↦ t'.Held) t)
      (fun _ ↦ Hand.held_of_none ht) args).mpr ?_
    exact fun _ _ _ _ hid ↦ configure_follows ht hid
  | autoStart => exact autoStart_follows ht
  | reloadRouting bindings defaultAgent =>
    refine ⟨trivial, ?_⟩
    intro _ t' hstore
    obtain rfl := hstore
    exact Hand.held_of_none ht

end Scripts

end AdkGateway.AgentTools
