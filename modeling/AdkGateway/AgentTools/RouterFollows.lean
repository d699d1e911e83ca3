import AdkGateway.AgentTools.Hands

namespace AdkGateway.AgentTools

open Foundation Interleaving Router AgentRegistry

def handOf (s : Stores) (past : List (Done Stores Op Op.Answer)) : Hand where
  id := atWork past
  record := (atWork past).bind fun id ↦ s.registry.agents.lookup id
  bindings := ((atWork past).map (bindingsOf s.router)).getD []
  seen := seenOf past

section Steps

variable {s s' : Stores} {past past' : List (Done Stores Op Op.Answer)} {o : Op} {i : Input}
  {id : String} {auto : Bool}

theorem handOf_of_atWork (h : atWork past = some id) :
    (handOf s past).record = s.registry.agents.lookup id ∧
      (handOf s past).bindings = bindingsOf s.router id := by
  simp only [handOf, h, Option.bind_some, Option.map_some, Option.getD_some, and_self]

theorem held_handOf : (handOf s past).Held ↔ ∀ id, atWork past = some id → Bound s id := by
  refine forall_congr' fun id ↦ forall_congr' fun hid ↦ ?_
  obtain ⟨hrecord, hbindings⟩ := handOf_of_atWork (s := s) hid
  rw [hrecord, hbindings, Bound]

theorem now_handOf (hbound : atWork past ≠ some id → Bound s id) :
    (handOf s past).Now id (s.registry.agents.lookup id) (bindingsOf s.router id) := by
  rw [Hand.Now]
  split
  next hid =>
    obtain ⟨hrecord, hbindings⟩ := handOf_of_atWork (s := s) hid
    exact ⟨hrecord.symm, hbindings.symm⟩
  next hid => exact hbound hid

theorem handOf_take (hid : atWork past' = some id) (hseen : seenOf past' = seenOf past)
    (hrouter : bindingsOf s'.router id = bindingsOf s.router id) :
    handOf s' past' =
      (handOf s past).take id (s'.registry.agents.lookup id) (bindingsOf s.router id) := by
  obtain ⟨hrecord, hbindings⟩ := handOf_of_atWork (s := s') hid
  exact Hand.ext hid hrecord (hbindings.trans hrouter) hseen

theorem handOf_congr (hwork : atWork past' = atWork past) (hseen : seenOf past' = seenOf past)
    (hsame : ∀ id, atWork past = some id →
      s'.registry.agents.lookup id = s.registry.agents.lookup id ∧
        bindingsOf s'.router id = bindingsOf s.router id) :
    handOf s' past' = handOf s past := by
  cases hid : atWork past with
  | none => simp only [handOf, hwork, hid, hseen, Option.bind_none, Option.map_none]
  | some id =>
    obtain ⟨hrecord, hrouter⟩ := hsame id hid
    simp only [handOf, hwork, hid, hseen, Option.bind_some, Option.map_some, Option.getD_some,
      hrecord, hrouter]

theorem rewrites_atWork (hallows : (hands auto).allows o (handOf s past))
    (h : o.rewrites s = some id) : o.takesOver s = some id ∨ atWork past = some id := by
  cases o with
  | createAgent config => exact hallows.elim
  | transition id' newState =>
    cases hrecord : s.registry.agents.lookup id' with
    | none => simp [Op.rewrites, hrecord] at h
    | some entry =>
      cases hvalid : isValidTransition entry.state newState with
      | false => simp [Op.rewrites, hrecord, hvalid] at h
      | true =>
        obtain rfl : id' = id := by simpa [Op.rewrites, hrecord, hvalid] using h
        rcases hallows with hid | ⟨hnew, -⟩
        · exact .inr hid
        · left
          simp [Op.takesOver, hrecord, hvalid, hnew]
  | updateConfig id' config => exact .inl h
  | deleteRemove id' => exact .inl h
  | _ => cases h

/-- What a call does leaves the agents alone that it neither works on nor takes up. -/
theorem exec_frame {c : AgentConfigs} {p : AgentThread} (hallows : (hands auto).allows o (handOf s p.past))
    (hs : c.shared = s) (hsound : Sound c p i o) (hwork : atWork p.past ≠ some id)
    (htakes : o.takesOver s ≠ some id) :
    (exec o i s).1.registry.agents.lookup id = s.registry.agents.lookup id ∧
      bindingsOf (exec o i s).1.router id = bindingsOf s.router id := by
  subst hs
  constructor
  · refine exec_record fun hrewrites ↦ ?_
    exact (rewrites_atWork hallows hrewrites).elim htakes hwork
  · by_cases hstore : ∃ router, o = .storeRouter router
    · obtain ⟨router, rfl⟩ := hstore
      exact hsound id hwork
    · rw [exec_router fun router heq ↦ hstore ⟨router, heq⟩]

theorem transition_moves {c : AgentConfigs} {p : AgentThread} {newState : LifecycleState}
    (hallows : (hands p.call.isAutoStart).allows (.transition id newState) (handOf c.shared p.past))
    (hbound : (Op.transition id newState).takesOver c.shared = some id →
      atWork p.past ≠ some id → Bound c.shared id)
    (hsound : Sound c p i (.transition id newState)) :
    (hands p.call.isAutoStart).moves (.transition id newState) (handOf c.shared p.past)
      (exec (.transition id newState) i c.shared).2
      (handOf (exec (.transition id newState) i c.shared).1
        (p.past ++ [⟨c.shared, .transition id newState,
          (exec (.transition id newState) i c.shared).2⟩])) := by
  obtain ⟨entry, hentry, hvalid, heq⟩ | ⟨heq, -, herror, hrefused⟩ :=
    transition_cases c.shared.registry id newState i.now i.persist
  · left
    have htakes (hnew : newState = .starting ∨ newState = .stopping) :
        (Op.transition id newState).takesOver c.shared = some id := by
      simp [Op.takesOver, hentry, hvalid, hnew]
    have hwork : atWork p.past ≠ some id →
        (Op.transition id newState).takesOver c.shared = some id := by
      intro hne
      rcases hallows with hid | ⟨hnew, -⟩
      · exact absurd hid hne
      · exact htakes hnew
    have hwork' (a : Except RegistryError Unit) :
        atWork (p.past ++ [⟨c.shared, .transition id newState, a⟩]) = some id := by
      rw [atWork_perform]
      by_cases hid : atWork p.past = some id
      · simp only [Op.takesOver, hentry, hvalid, hid]
        split <;> rfl
      · rw [hwork hid]
        rfl
    refine ⟨entry, bindingsOf c.shared.router id, i.now, ?_, hvalid, ?_, ?_⟩
    · rw [← hentry]
      exact now_handOf fun hne ↦ hbound (hwork hne) hne
    · have hfits := hsound entry hentry hvalid
      have hanswer : (exec (.transition id newState) i c.shared).2 = answer i.persist () := by
        simp only [exec, heq]
        rfl
      have hfailed : answer i.persist () ≠ Except.ok () → i.persist ≠ .ok () := by
        intro hne hok
        exact hne (by rw [hok]; rfl)
      rw [hanswer]
      cases newState with
      | starting => exact ⟨fun hne ↦ hfits.1 (hfailed hne), hfits.2⟩
      | stopping => exact fun hne ↦ hfits (hfailed hne)
      | error message => exact hfits
      | running => exact hfits
      | created => trivial
      | stopped => trivial
    · refine (handOf_take (s := c.shared) (hwork' _) (seenOf_perform _ _) ?_).trans ?_
      · rw [exec_router fun router heq ↦ by cases heq]
      · simp only [exec, heq, setEntry, AList.lookup_insert]
  · right
    have hrewrites (id' : String) : (Op.transition id newState).rewrites c.shared ≠ some id' := by
      cases hentry : c.shared.registry.agents.lookup id with
      | none => simp [Op.rewrites, hentry]
      | some entry => simp [Op.rewrites, hentry, hrefused entry hentry]
    have htakes : (Op.transition id newState).takesOver c.shared = none := by
      cases hentry : c.shared.registry.agents.lookup id with
      | none => simp [Op.takesOver, hentry]
      | some entry => simp [Op.takesOver, hentry, hrefused entry hentry]
    refine ⟨fun hid entry hrecord ↦ ?_, herror, ?_⟩
    · rw [(handOf_of_atWork hid).1] at hrecord
      exact hrefused entry hrecord
    · refine handOf_congr ?_ (seenOf_perform _ _) fun id' _ ↦ ⟨exec_record (hrewrites id'), ?_⟩
      · rw [atWork_perform, htakes, Option.none_or]
      · rw [exec_router fun router heq ↦ by cases heq]

theorem exec_moves {c : AgentConfigs} {p : AgentThread}
    (hallows : (hands p.call.isAutoStart).allows o (handOf c.shared p.past))
    (hbound : ∀ id, o.takesOver c.shared = some id → atWork p.past ≠ some id → Bound c.shared id)
    (hsound : Sound c p i o) :
    (hands p.call.isAutoStart).moves o (handOf c.shared p.past) (exec o i c.shared).2
      (handOf (exec o i c.shared).1
        (p.past ++ [⟨c.shared, o, (exec o i c.shared).2⟩])) := by
  -- most operations change nothing that matters here
  have hneutral (hrewrites : ∀ id, o.rewrites c.shared ≠ some id)
      (hrouter : ∀ router, o ≠ .storeRouter router) (htakes : o.takesOver c.shared = none)
      (hseen : noteSeen (seenOf p.past) o (exec o i c.shared).2 = seenOf p.past) :
      handOf (exec o i c.shared).1 (p.past ++ [⟨c.shared, o, (exec o i c.shared).2⟩]) =
        handOf c.shared p.past := by
    refine handOf_congr ?_ ?_ fun id _ ↦ ⟨exec_record (hrewrites id), ?_⟩
    · rw [atWork_perform, htakes, Option.none_or]
    · rw [seenOf_perform, hseen]
    · rw [exec_router hrouter]
  cases o with
  | createAgent config => exact hallows.elim
  | transition id newState => exact transition_moves hallows (hbound id) hsound
  | updateConfig id config =>
    obtain ⟨entry, hentry, hid, heq⟩ | ⟨heq, -, herror, hrefused⟩ :=
      updateConfig_cases c.shared.registry id config i.now i.persist
    · left
      have htakes : (Op.updateConfig id config).takesOver c.shared = some id := by
        simp [Op.takesOver, hentry, hid]
      refine ⟨entry, bindingsOf c.shared.router id, i.now, ?_, hid, fun hne ↦ ?_, ?_⟩
      · rw [← hentry]
        exact now_handOf (hbound id htakes)
      · exact hsound hne entry hentry hid
      · refine (handOf_take (s := c.shared) (?_ : atWork _ = some id) (seenOf_perform _ _) ?_).trans ?_
        · rw [atWork_perform, htakes]
          rfl
        · rw [exec_router fun router heq ↦ by cases heq]
        · simp only [exec, heq, setEntry, AList.lookup_insert]
    · right
      have hnone : (Op.updateConfig id config).takesOver c.shared = none := by
        cases hentry : c.shared.registry.agents.lookup id with
        | none => simp [Op.takesOver, hentry]
        | some entry => simp [Op.takesOver, hrefused entry hentry]
      refine ⟨fun hid ↦ ?_, herror, ?_⟩
      · rw [(handOf_of_atWork hid).1]
        cases hentry : c.shared.registry.agents.lookup id with
        | none => exact .inl rfl
        | some entry => exact .inr (hrefused entry hentry)
      · refine hneutral (fun id' heq' ↦ ?_) (fun _ h ↦ by cases h) hnone rfl
        cases hnone.symm.trans heq'
  | deleteRemove id =>
    cases hentry : c.shared.registry.agents.lookup id with
    | none =>
      right
      refine ⟨⟨.disappeared id, ?_⟩, ?_⟩
      · simp only [exec, AgentRegistry.deleteRemove, hentry]
      · refine hneutral (fun id' heq' ↦ ?_) (fun _ h ↦ by cases h) ?_ rfl
        · simp [Op.rewrites, hentry] at heq'
        · simp [Op.takesOver, hentry]
    | some entry =>
      left
      have htakes : (Op.deleteRemove id).takesOver c.shared = some id := by
        simp [Op.takesOver, hentry]
      refine ⟨entry, bindingsOf c.shared.router id, ?_, ?_, ?_⟩
      · rw [← hentry]
        exact now_handOf (hbound id htakes)
      · simp only [exec, AgentRegistry.deleteRemove, hentry]
      · refine (handOf_take (s := c.shared) (?_ : atWork _ = some id) (seenOf_perform _ _) ?_).trans ?_
        · rw [atWork_perform, htakes]
          rfl
        · rw [exec_router fun router heq ↦ by cases heq]
        · simp only [exec, AgentRegistry.deleteRemove, hentry, AList.lookup_erase]
  | get id =>
    refine ⟨fun hid ↦ (handOf_of_atWork hid).1.symm, ?_⟩
    refine Hand.ext ?_ ?_ ?_ (seenOf_perform _ _) <;>
      simp only [handOf, atWork_perform, Op.takesOver, Option.none_or, exec]
  | loadRouter =>
    refine ⟨fun id hid ↦ (handOf_of_atWork hid).2.symm, ?_⟩
    exact hneutral (fun _ h ↦ by cases h) (fun _ h ↦ by cases h) rfl rfl
  | storeRouter router =>
    have hwork (a : Unit) : atWork (p.past ++ [⟨c.shared, .storeRouter router, a⟩]) = atWork p.past := by
      rw [atWork_perform]
      rfl
    refine Hand.ext (hwork _) ?_ ?_ (seenOf_perform _ _)
    · simp only [handOf, hwork, exec]
    · simp only [handOf, hwork, exec]
      cases atWork p.past <;> rfl
  | agentsToStart => exact hneutral (fun _ h ↦ by cases h) (fun _ h ↦ by cases h) rfl rfl
  | deleteCheck id => exact hneutral (fun _ h ↦ by cases h) (fun _ h ↦ by cases h) rfl rfl
  | build config => exact hneutral (fun _ h ↦ by cases h) (fun _ h ↦ by cases h) rfl rfl
  | spawn id => exact hneutral (fun _ h ↦ by cases h) (fun _ h ↦ by cases h) rfl rfl
  | waitReady id => exact hneutral (fun _ h ↦ by cases h) (fun _ h ↦ by cases h) rfl rfl
  | stopProcess id drainSeconds => exact hneutral (fun _ h ↦ by cases h) (fun _ h ↦ by cases h) rfl rfl
  | registerProxy id port => exact hneutral (fun _ h ↦ by cases h) (fun _ h ↦ by cases h) rfl rfl
  | removeProxy id => exact hneutral (fun _ h ↦ by cases h) (fun _ h ↦ by cases h) rfl rfl
  | registerAgent id role => exact hneutral (fun _ h ↦ by cases h) (fun _ h ↦ by cases h) rfl rfl
  | removeAgent id => exact hneutral (fun _ h ↦ by cases h) (fun _ h ↦ by cases h) rfl rfl

theorem bound_congr (hrecord : s'.registry.agents.lookup id = s.registry.agents.lookup id)
    (hrouter : bindingsOf s'.router id = bindingsOf s.router id) : Bound s' id ↔ Bound s id := by
  rw [Bound, Bound, hrecord, hrouter]

theorem takesOver_cases (h : o.takesOver s = some id) : o.rewrites s = some id ∧
    ((∃ newState, o = .transition id newState) ∨ (∃ config, o = .updateConfig id config) ∨
      o = .deleteRemove id) := by
  cases o with
  | transition id' newState =>
    cases hrecord : s.registry.agents.lookup id' with
    | none => simp [Op.takesOver, hrecord] at h
    | some record =>
      obtain ⟨⟨-, hvalid⟩, rfl⟩ :
          ((newState = .starting ∨ newState = .stopping) ∧
            isValidTransition record.state newState = true) ∧ id' = id := by
        simpa [Op.takesOver, hrecord] using h
      exact ⟨by simp [Op.rewrites, hrecord, hvalid], .inl ⟨newState, rfl⟩⟩
  | updateConfig id' config =>
    obtain ⟨-, hid⟩ := Option.ite_none_right_eq_some.mp h
    obtain rfl := Option.some_inj.mp hid
    exact ⟨h, .inr (.inl ⟨config, rfl⟩)⟩
  | deleteRemove id' =>
    obtain ⟨-, hid⟩ := Option.ite_none_right_eq_some.mp h
    obtain rfl := Option.some_inj.mp hid
    exact ⟨h, .inr (.inr rfl)⟩
  | _ => cases h

theorem held_of_takesOver (hallows : (hands auto).allows o (handOf s past))
    (htakes : o.takesOver s = some id) (hwork : atWork past ≠ some id) : (handOf s past).Held := by
  obtain ⟨-, ⟨newState, rfl⟩ | ⟨config, rfl⟩ | rfl⟩ := takesOver_cases htakes
  · exact (hallows.resolve_left hwork).2
  · exact hallows.resolve_left hwork
  · exact hallows.resolve_left hwork

theorem exec_of_takesOver {id' : String} (htakes : o.takesOver s = some id') (hne : id' ≠ id) :
    (exec o i s).1.registry.agents.lookup id = s.registry.agents.lookup id ∧
      bindingsOf (exec o i s).1.router id = bindingsOf s.router id := by
  obtain ⟨hrewrites, hcases⟩ := takesOver_cases htakes
  constructor
  · refine exec_record fun hrewrites' ↦ hne ?_
    exact Option.some_inj.mp (hrewrites.symm.trans hrewrites')
  · rw [exec_router fun router heq ↦ ?_]
    subst heq
    obtain ⟨_, heq⟩ | ⟨_, heq⟩ | heq := hcases <;> cases heq

end Steps

section Runs

structure Guarded (c : AgentConfigs) : Prop where
  follows : ∀ p ∈ c.inFlight, ∀ o next, p.code = .op o next →
    p.code.Follows (hands p.call.isAutoStart) (fun _ t ↦ t.Held) (handOf c.shared p.past)
  apart : (pick workOf c.inFlight).Nodup
  bound : ∀ id, (∀ p ∈ c.inFlight, workOf p ≠ some id) → Bound c.shared id

variable {F : Formats} {s : Stores} {l r : List AgentThread}
  {h : List (Occurrence Stores RouterCall Op Op.Answer)} {routerCall : RouterCall}
  {past : List (Done Stores Op Op.Answer)} {o : Op} {i : Input} {next : o.Answer → Code Unit}

theorem workOf_start (code : Code Unit) : workOf ⟨routerCall, [], code⟩ = none := by
  cases code <;> rfl

theorem atWork_of_workOf {p : AgentThread} {id : String} (hwork : workOf p = some id) :
    atWork p.past = some id := by
  rw [workOf] at hwork
  split at hwork
  · cases hwork
  · exact hwork

theorem guarded_call (hc : Guarded ⟨s, l ++ r, h⟩) :
    Guarded ⟨s, l ++ ⟨routerCall, [], routerCall.code F⟩ :: r, h⟩ := by
  refine ⟨?_, nodup_pick_call hc.apart (workOf_start _), ?_⟩
  · intro p hp
    rcases mem_middle.mp hp with hp | rfl
    · exact hc.follows p hp
    · exact fun _ _ _ ↦ routerCall_follows routerCall rfl
  · exact fun id hid ↦ hc.bound id fun p hp ↦ hid p (mem_middle.mpr (.inl hp))

theorem guarded_ret {x : Unit} (hc : Guarded ⟨s, l ++ ⟨routerCall, past, .ret x⟩ :: r, h⟩)
    {e : Occurrence Stores RouterCall Op Op.Answer} : Guarded ⟨s, l ++ r, h ++ [e]⟩ := by
  refine ⟨fun p hp ↦ hc.follows p (mem_middle.mpr (.inl hp)), ?_, ?_⟩
  · exact nodup_pick_act (o := .inr ()) hc.apart nofun
  · intro id hid
    refine hc.bound id fun p hp ↦ ?_
    rcases mem_middle.mp hp with hp | rfl
    · exact hid p hp
    · exact nofun

theorem guarded_op (hc : Guarded ⟨s, l ++ ⟨routerCall, past, .op o next⟩ :: r, h⟩)
    (hok : Undisturbed ⟨s, l ++ ⟨routerCall, past, .op o next⟩ :: r, h⟩
      (.act ⟨routerCall, past, .op o next⟩ i)) {e : Occurrence Stores RouterCall Op Op.Answer} :
    Guarded ⟨(exec o i s).1,
      l ++ ⟨routerCall, past ++ [⟨s, o, (exec o i s).2⟩], next (exec o i s).2⟩ :: r, h ++ [e]⟩ := by
  obtain ⟨halone, hsound⟩ := hok
  have hothers (q : AgentThread) (hq : q ∈ l ++ r) :
      Beside (l ++ ⟨routerCall, past, .op o next⟩ :: r) ⟨routerCall, past, .op o next⟩ q :=
    ⟨l, r, rfl, hq⟩
  obtain ⟨hallows, hnext⟩ := hc.follows _ (mem_middle.mpr (.inr rfl)) o next rfl
  -- an agent that the call takes up is one that no call is at work on
  have hbound (id : String) (htakes : o.takesOver s = some id) (hwork : atWork past ≠ some id) :
      Bound s id := by
    refine hc.bound id fun q hq ↦ ?_
    rcases mem_middle.mp hq with hq | rfl
    · exact halone id htakes hwork q (hothers q hq)
    · exact hwork
  have hafter := hnext _ _ (exec_moves hallows hbound hsound)
  have hframe (id : String) (hwork : atWork past ≠ some id) (htakes : o.takesOver s ≠ some id) :=
    exec_frame hallows rfl hsound hwork htakes
  have hwork' := atWork_perform (s := s) past (exec o i s).2
  refine ⟨?_, ?_, ?_⟩
  · intro q hq o' next' hcode
    rcases mem_middle.mp hq with hq | rfl
    · have hsame : handOf (exec o i s).1 q.past = handOf s q.past :=
        handOf_congr rfl rfl fun id hid ↦ ?_
      · rw [hsame]
        exact hc.follows q (mem_middle.mpr (.inl hq)) o' next' hcode
      · have hworkq : workOf q = some id := by rw [workOf, hcode, hid]
        have hne : atWork past ≠ some id := fun hwork ↦
          notMem_of_nodup_pick hc.apart hwork ((mem_pick _ _).mpr ⟨q, hq, hworkq⟩)
        exact hframe id hne fun htakes ↦ halone id htakes hne q (hothers q hq) hworkq
    · exact hafter
  · refine nodup_pick_act (ρ := Unit) (o := .inl _) hc.apart fun p' id heq hid ↦ ?_
    obtain rfl := Sum.inl.inj heq
    have hid' := hwork'.symm.trans (atWork_of_workOf hid)
    rcases Option.or_eq_some_iff.mp hid' with htakes | ⟨-, hwork⟩
    · by_cases hwork : atWork past = some id
      · exact .inl hwork
      · right
        intro hmem
        obtain ⟨q, hq, hworkq⟩ := (mem_pick _ _).mp hmem
        exact halone id htakes hwork q (hothers q hq) hworkq
    · exact .inl hwork
  · intro id hid
    by_cases hlast : atWork (past ++ [⟨s, o, (exec o i s).2⟩]) = some id
    · -- the call has come to its end
      have hret := hid _ (mem_middle.mpr (.inr rfl))
      rw [workOf] at hret
      cases hcode : next (exec o i s).2 with
      | ret x =>
        rw [hcode] at hafter
        exact held_handOf.mp hafter id hlast
      | op o' next' =>
        rw [hcode] at hret
        exact absurd hlast hret
    · rw [hwork'] at hlast
      have htakes : o.takesOver s ≠ some id := fun htakes ↦ hlast (by rw [htakes]; rfl)
      by_cases hwork : atWork past = some id
      · -- the call has gone on to another agent
        cases htakes' : o.takesOver s with
        | none => exact absurd (by rw [htakes', hwork]; rfl) hlast
        | some id' =>
          have hne : id' ≠ id := fun heq ↦ htakes (htakes'.trans (congrArg some heq))
          obtain ⟨hrecord, hrouter⟩ := exec_of_takesOver (i := i) htakes' hne
          refine (bound_congr hrecord hrouter).mpr ?_
          refine held_handOf.mp (held_of_takesOver hallows htakes' fun hid' ↦ ?_) id hwork
          exact hne (Option.some_inj.mp (hid'.symm.trans hwork))
      · obtain ⟨hrecord, hrouter⟩ := hframe id hwork htakes
        refine (bound_congr hrecord hrouter).mpr (hc.bound id fun q hq ↦ ?_)
        rcases mem_middle.mp hq with hq | rfl
        · exact hid q (mem_middle.mpr (.inl hq))
        · exact hwork

theorem guarded_of_run {c : AgentConfigs} (hs : BindingsFollow s)
    (hrun : Run (concurrent F) Undisturbed (initial s) c) : Guarded c := by
  refine Threads.invariant (I := Guarded) (Q := fun _ ↦ True) hrun (fun _ _ ↦ trivial) ?_ ?_ ?_ ?_
  · exact ⟨fun p hp ↦ absurd hp List.not_mem_nil, List.nodup_nil, fun id _ ↦ hs id⟩
  · exact fun _ _ hc ↦ guarded_call hc
  · exact fun _ hc ↦ guarded_ret hc
  · exact fun _ hok _ hc ↦ guarded_op hc hok

end Runs

section Boot

variable {codec : Codec} {persistDir : Path} {b : Boot}

def UnboundAtBoot (codec : Codec) (persistDir : Path) (b : Boot) : Prop :=
  ∀ id record, (loadRegistry codec persistDir b).2.agents.lookup id = some record →
    id = "system" ∨ record.state = .running → record.config.channelBindings = []

theorem repaired_running (now : DateTime) (id : String) (record : AgentRecord) :
    (repaired now id record).state = .running ↔ id = "system" ∨ record.state = .running := by
  rw [repaired, repairedState]
  by_cases hsystem : id = "system" <;> cases hstate : record.state <;> simp [hsystem, hstate]

theorem config_repaired (now : DateTime) (id : String) (record : AgentRecord) :
    (repaired now id record).config = record.config := by
  rw [repaired]
  cases repairedState id record <;> rfl

theorem bindingsFollow_assemble_iff :
    BindingsFollow (assemble codec persistDir b) ↔ UnboundAtBoot codec persistDir b := by
  refine forall_congr' fun id ↦ ?_
  have hlookup := (repair_list b.now b.persistRepaired (loadRegistry codec persistDir b).2).2 id
  have hbindings : bindingsOf (assemble codec persistDir b).router id = [] := rfl
  rw [Bound, hbindings, assemble, hlookup]
  cases (loadRegistry codec persistDir b).2.agents.lookup id with
  | none => exact iff_of_true rfl nofun
  | some record =>
    simp only [Option.map_some, expected, repaired_running, config_repaired, Option.some.injEq,
      forall_eq']
    split
    next hrunning => rw [forall_prop_of_true hrunning, toAgent, eq_comm, List.map_eq_nil_iff]
    next hrunning => exact iff_of_true rfl fun h ↦ absurd h hrunning

end Boot

/-- In an undisturbed run from a start on, the router follows the running agents at rest. -/
theorem bindingsFollow_of_run (F : Formats) (codec : Codec) (persistDir : Path) (b : Boot)
    {c : AgentConfigs} (hboot : UnboundAtBoot codec persistDir b)
    (hrun : Run (concurrent F) Undisturbed (initial (assemble codec persistDir b)) c)
    (hrest : c.inFlight = []) : BindingsFollow c.shared := by
  intro id
  refine (guarded_of_run (bindingsFollow_assemble_iff.mpr hboot) hrun).bound id fun p hp ↦ ?_
  rw [hrest] at hp
  cases hp

section Vectors

def helper : AgentRecord where
  config := { makeConfig "helper" with
    channelBindings := [⟨"telegram", none, none⟩]
    autoStart := true }
  state := .stopped
  port := none
  pid := none
  createdAt := 0
  updatedAt := 0

def helperCodec : Codec := ⟨fun _ ↦ "helper", fun _ ↦ .ok helper⟩

def helperBoot : Boot :=
  { firstBoot with files := AList.insert ["helper.json"] "helper" ∅ }

def goesWell : Input := allGoesWell .agentsToStart

def startMoves : List (Move RouterCall Input) :=
  .call (.agentStart (.object [("agent_id", .string "helper")])) :: List.replicate 11 (.act 0 goesWell)

theorem alone_single {s : Stores} {p : AgentThread} {o : Op}
    {h : List (Occurrence Stores RouterCall Op Op.Answer)} : Alone ⟨s, [p], h⟩ p o :=
  fun _ _ _ _ hq ↦ absurd hq not_beside_singleton

theorem bindingsFollow_of_run_start : ∃ c,
    play (concurrent plainFormats) (initial (assemble helperCodec [] helperBoot)) startMoves = some c ∧
      BindingsFollow c.shared := by
  have hboot : UnboundAtBoot helperCodec [] helperBoot := by
    intro id record hrecord hrunning
    by_cases hid : id = "helper"
    · subst hid
      obtain rfl := Option.some_inj.mp hrecord
      rcases hrunning with hsystem | hstate
      · exact absurd hsystem (by decide)
      · cases hstate
    · by_cases hsystem : id = "system"
      · subst hsystem
        obtain rfl := Option.some_inj.mp hrecord
        rfl
      · have hnone : (loadRegistry helperCodec [] helperBoot).2.agents.lookup id = none := by
          rw [AList.lookup_eq_none]
          intro hmem
          have hkeys : id ∈ ["helper", "system"] := hmem
          simp [hid, hsystem] at hkeys
        cases hnone.symm.trans hrecord
  have hpermits : Interleaving.Permits (concurrent plainFormats) Undisturbed
      (initial (assemble helperCodec [] helperBoot)) startMoves := by
    refine ⟨trivial, ⟨alone_single, trivial⟩, ⟨alone_single, ?_⟩, ⟨alone_single, trivial⟩,
      ⟨alone_single, trivial⟩, ⟨alone_single, trivial⟩, ⟨alone_single, trivial⟩,
      ⟨alone_single, trivial⟩, ⟨alone_single, trivial⟩, ⟨alone_single, ?_⟩, ⟨alone_single, ?_⟩,
      trivial, trivial⟩
    · intro record hrecord _
      refine ⟨fun hne ↦ absurd rfl hne, fun _ seen hseen ↦ ?_⟩
      obtain rfl := Option.some_inj.mp hrecord
      obtain rfl := Option.some_inj.mp hseen
      rfl
    · exact fun id hid ↦ bindingsOf_add_ne fun heq ↦ hid (congrArg some heq)
    · exact fun _ _ _ hauto ↦ by cases hauto
  exact ⟨_, rfl, bindingsFollow_of_run plainFormats helperCodec [] helperBoot hboot
    (run_of_permits hpermits rfl) rfl⟩

def autoStartMoves : List (Move RouterCall Input) :=
  .call .autoStart :: List.replicate 8 (.act 0 goesWell)

theorem not_bindingsFollow : ¬ ∀ (F : Formats) (codec : Codec) (persistDir : Path) (b : Boot)
    (c : AgentConfigs), Reachable (concurrent F) (assemble codec persistDir b) c →
      c.inFlight = [] → BindingsFollow c.shared := by
  intro h
  have hrun := h plainFormats helperCodec [] helperBoot _ (run_of_play autoStartMoves rfl) rfl "helper"
  cases hrun

end Vectors

end AdkGateway.AgentTools
