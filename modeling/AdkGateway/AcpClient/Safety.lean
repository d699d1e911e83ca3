import AdkGateway.AcpClient.Refinement

namespace AdkGateway.AcpClient

open Foundation Machine

section Safety

variable (shard : String → ℕ)

def NoSelfWait (s : AcpSessionPool) : Prop :=
  ∀ c ∈ s.calls, ∀ lock, c.waitsFor shard = some lock → c.holds shard ≠ some lock

/-- No call waits for itself, there is one session for each agent, and `get_or_create` answers with
the one in the map, which was active if it was found there. -/
structure Safe (o : Observation) : Prop where
  noSelfWait : NoSelfWait shard o.after
  oneSession : o.after.ledger.OneSession
  active : ∀ agentId session, o.answer = some (agentId, .found session) →
    o.before.isActive session = true
  placed : ∀ agentId answer, o.answer = some (agentId, answer) →
    o.after.sessions.lookup agentId = some answer.session

/-- While a prompt is in progress, a cancellation may still get hold of its session. -/
def CanCancel (s : AcpSessionPool) : Prop :=
  ∀ i agentId session, s.calls[i]? = some ⟨agentId, .prompting session⟩ →
    ∃ events : List PoolEvent, (∀ succeeds, .act i succeeds ∉ events) ∧
      ∃ j : ℕ, (run (AcpSessionPool.step shard) s events).calls[j]? =
        some ⟨agentId, .cancelling session⟩

def FindsActive (s : AcpSessionPool) (c : Call) : Prop :=
  ∀ forTask session, c.point = .checking forTask session → s.isActive session = true

/-- A start ends well only if nobody has an active session of the agent, and an entry of the map is
written over, or removed after a prompt, only if its session is not active. -/
def LosesNone (s : AcpSessionPool) (c : Call) (succeeds : Bool) : Prop :=
  match c.point with
  | .creating _ => succeeds = true → ∀ p, s.agentOf p = some c.agentId → s.ledger.Idle p
  | .inserting _ _ => s.ledger.Idle (.entry c.agentId)
  | .dropping => s.ledger.Idle (.entry c.agentId)
  | _ => True

structure CarefulCall (s : AcpSessionPool) (c : Call) (succeeds : Bool) : Prop where
  findsActive : FindsActive s c
  losesNone : LosesNone s c succeeds

def Careful (s : AcpSessionPool) : PoolEvent → Prop
  | .act i succeeds => ∀ c, s.acting shard i = some c → CarefulCall s c succeeds
  | _ => True

def BeginsPrompt (s : AcpSessionPool) : PoolEvent → Prop
  | .act i _ => ∃ agentId session, s.acting shard i = some ⟨agentId, .lockingPrompt session⟩
  | _ => False

/-- The map entry that a call has found stays as long as the call holds it. -/
def Held (s : AcpSessionPool) : Prop :=
  ∀ c ∈ s.calls, ∀ forTask session, c.point = .checking forTask session →
    s.sessions.lookup c.agentId = some session

structure Inv (s : AcpSessionPool) : Prop where
  noSelfWait : NoSelfWait shard s
  tidy : s.ledger.Tidy
  oneSession : s.ledger.OneSession
  held : Held s

end Safety

section Act

variable {shard : String → ℕ} {s : AcpSessionPool} {i : ℕ} {c : Call} {succeeds : Bool}

theorem tidy_next_act (h : s.acting shard i = some c) (ht : s.ledger.Tidy) :
    (s.next shard (.act i succeeds)).ledger.Tidy := by
  have hagent : s.ledger.agentOf (.call i) = some c.agentId :=
    agentOf_call (acting_eq_some_iff.mp h).1
  rw [ledger_next h, Ledger.follow]
  split
  · split
    · exact Ledger.tidy_start ht hagent
    · exact ht
  · exact Ledger.tidy_move ht (by simp) hagent
  · exact Ledger.tidy_drop ht
  · exact Ledger.tidy_move ht (by simp) hagent.symm
  · exact Ledger.tidy_drop (Ledger.tidy_deactivate ht)
  · exact ht

theorem oneSession_next_act_iff (h : s.acting shard i = some c) (ht : s.ledger.Tidy)
    (hone : s.ledger.OneSession) :
    (s.next shard (.act i succeeds)).ledger.OneSession ↔ LosesNone s c succeeds := by
  have hcall := (acting_eq_some_iff.mp h).1
  have hagent : s.ledger.agentOf (.call i) = some c.agentId := agentOf_call hcall
  have hkeeps : s.ledger.keeps (.call i) = c.point.hands := keeps_call hcall
  rw [ledger_next h, Ledger.follow]
  obtain ⟨agentId, point⟩ := c
  cases point with
  | creating forTask =>
    cases succeeds with
    | true =>
      refine (Ledger.oneSession_start_iff ht hone hkeeps hagent).trans ?_
      exact ⟨fun hidle _ ↦ hidle, fun hidle ↦ hidle rfl⟩
    | false => exact iff_of_true hone nofun
  | inserting forTask session => exact Ledger.oneSession_move_iff ht (by simp) hagent hone
  | dropping => exact Ledger.oneSession_drop_iff ht hone
  | taking =>
    refine (Ledger.oneSession_move_iff (p := .entry agentId) (q := .call i) ht (by simp) hagent.symm
      hone).trans (iff_of_true ?_ trivial)
    intro session hsession
    cases hkeeps.symm.trans hsession
  | closing session =>
    refine iff_of_true ?_ trivial
    refine (Ledger.oneSession_drop_iff (Ledger.tidy_deactivate ht)
      (Ledger.oneSession_deactivate hone)).mpr ?_
    exact Ledger.idle_deactivate hkeeps
  | _ => exact iff_of_true hone trivial

theorem noSelfWait_iff :
    NoSelfWait shard s ↔ ∀ c ∈ s.calls, ∀ forTask, c.point ≠ .removing forTask := by
  refine forall₂_congr fun c _ ↦ ?_
  rw [← not_exists, ← @waitsForItself_iff shard]
  simp only [not_exists, not_and, ne_eq]

def Point.isPlain : Point → Bool
  | checking _ _ => false
  | removing _ => false
  | prompting _ => false
  | _ => true

theorem isPlain_got (forTask : Bool) (session : ℕ) : (Point.got forTask session).isPlain = true := by
  cases forTask <;> rfl

/-- How a call may come to hold an entry, to remove one, or to a prompt. -/
theorem move_cases :
    (∃ forTask session, c.point = .getting forTask ∧
      s.sessions.lookup c.agentId = some session ∧
      (s.move c succeeds).2 = .checking forTask session) ∨
    (∃ forTask session, c.point = .checking forTask session ∧ s.isActive session = false ∧
      (s.move c succeeds).2 = .removing forTask) ∨
    (∃ session, c.point = .lockingPrompt session ∧ (s.move c succeeds).2 = .prompting session) ∨
    (s.move c succeeds).2.isPlain = true := by
  obtain ⟨agentId, point⟩ := c
  cases point with
  | getting forTask =>
    cases hlookup : s.sessions.lookup agentId with
    | none => simp [AcpSessionPool.move, hlookup, Point.isPlain]
    | some session => simp [AcpSessionPool.move, hlookup]
  | checking forTask session =>
    cases hactive : s.isActive session with
    | true => simp [AcpSessionPool.move, hactive, isPlain_got]
    | false => simp [AcpSessionPool.move, hactive]
  | creating forTask => cases succeeds <;> simp [AcpSessionPool.move, Point.isPlain]
  | inserting forTask session => simp [AcpSessionPool.move, isPlain_got]
  | lockingPrompt session => simp [AcpSessionPool.move]
  | prompting session => cases succeeds <;> simp [AcpSessionPool.move, Point.isPlain]
  | looking =>
    cases hlookup : s.sessions.lookup agentId <;> simp [AcpSessionPool.move, hlookup, Point.isPlain]
  | taking =>
    cases hlookup : s.sessions.lookup agentId <;> simp [AcpSessionPool.move, hlookup, Point.isPlain]
  | _ => simp [AcpSessionPool.move, Point.isPlain]

theorem move_eq_removing_iff {forTask : Bool} : (s.move c succeeds).2 = .removing forTask ↔
    ∃ session, c.point = .checking forTask session ∧ s.isActive session = false := by
  constructor
  · intro h
    have hcases := @move_cases s c succeeds
    rw [h] at hcases
    rcases hcases with ⟨_, _, _, _, heq⟩ | ⟨_, session, hpoint, hdead, heq⟩ | ⟨_, _, heq⟩ | hplain
    · cases heq
    · obtain rfl := Point.removing.inj heq
      exact ⟨session, hpoint, hdead⟩
    · cases heq
    · cases hplain
  · intro ⟨session, hpoint, hdead⟩
    simp [AcpSessionPool.move, hpoint, hdead]

theorem move_eq_checking {forTask : Bool} {session : ℕ}
    (h : (s.move c succeeds).2 = .checking forTask session) :
    c.point = .getting forTask ∧ s.sessions.lookup c.agentId = some session := by
  have hcases := @move_cases s c succeeds
  rw [h] at hcases
  rcases hcases with ⟨_, _, hpoint, hlookup, heq⟩ | ⟨_, _, _, _, heq⟩ | ⟨_, _, heq⟩ | hplain
  · obtain ⟨rfl, rfl⟩ := Point.checking.inj heq
    exact ⟨hpoint, hlookup⟩
  · cases heq
  · cases heq
  · cases hplain

theorem move_eq_prompting_iff {session : ℕ} :
    (s.move c succeeds).2 = .prompting session ↔ c.point = .lockingPrompt session := by
  constructor
  · intro h
    have hcases := @move_cases s c succeeds
    rw [h] at hcases
    rcases hcases with ⟨_, _, _, _, heq⟩ | ⟨_, _, _, _, heq⟩ | ⟨_, hpoint, heq⟩ | hplain
    · cases heq
    · cases heq
    · obtain rfl := Point.prompting.inj heq
      exact hpoint
    · cases hplain
  · intro hpoint
    simp [AcpSessionPool.move, hpoint]

theorem noSelfWait_next_act_iff (h : s.acting shard i = some c) (hwait : NoSelfWait shard s) :
    NoSelfWait shard (s.next shard (.act i succeeds)) ↔ FindsActive s c := by
  rw [noSelfWait_iff] at hwait ⊢
  constructor
  · intro hnext forTask session hpoint
    by_contra hdead
    have hremoving : (s.move c succeeds).2 = .removing forTask :=
      move_eq_removing_iff.mpr ⟨session, hpoint, Bool.eq_false_iff.mpr hdead⟩
    refine hnext ⟨c.agentId, (s.move c succeeds).2⟩ ?_ forTask hremoving
    rw [calls_next h]
    exact List.mem_set (List.getElem?_eq_some_iff.mp (acting_eq_some_iff.mp h).1).1 _
  · intro hfinds c' hmem forTask hpoint
    rcases mem_calls_next h hmem with hold | rfl
    · exact hwait c' hold forTask hpoint
    · obtain ⟨session, hchecking, hdead⟩ := move_eq_removing_iff.mp hpoint
      exact Bool.false_ne_true (hdead.symm.trans (hfinds forTask session hchecking))

theorem lookup_next_act (h : s.acting shard i = some c) {c' : Call} (hmem : c' ∈ s.calls)
    (hholds : c'.holds shard = some (.shard (shard c'.agentId))) :
    (s.next shard (.act i succeeds)).sessions.lookup c'.agentId =
      s.sessions.lookup c'.agentId := by
  have hfree := @holds_ne_of_acting shard s i c h (.shard (shard c.agentId))
  have hremoving := not_removing_of_acting h
  rw [next_act h]
  obtain ⟨agentId, point⟩ := c
  have hne (hwaits : (⟨agentId, point⟩ : Call).waitsFor shard = some (.shard (shard agentId))) :
      c'.agentId ≠ agentId := by
    intro heq
    exact hfree hwaits c' hmem (heq ▸ hholds)
  cases point with
  | getting forTask =>
    simp only [AcpSessionPool.move]
    cases s.sessions.lookup agentId <;> rfl
  | removing forTask => exact absurd rfl (hremoving forTask)
  | creating forTask => cases succeeds <;> rfl
  | inserting forTask session => exact AList.lookup_insert_ne (hne rfl)
  | dropping => exact AList.lookup_erase_ne (hne rfl)
  | looking =>
    simp only [AcpSessionPool.move]
    cases s.sessions.lookup agentId <;> rfl
  | taking =>
    simp only [AcpSessionPool.move]
    cases s.sessions.lookup agentId with
    | none => rfl
    | some session => exact AList.lookup_erase_ne (hne rfl)
  | _ => rfl

end Act

section Answers

variable {shard : String → ℕ} {s : AcpSessionPool} {i : ℕ} {c : Call} {succeeds : Bool}

theorem held_next_act (h : s.acting shard i = some c) (hheld : Held s) :
    Held (s.next shard (.act i succeeds)) := by
  intro c' hmem forTask session hpoint
  rcases mem_calls_next h hmem with hold | rfl
  · have hholds : c'.holds shard = some (.shard (shard c'.agentId)) := by
      rw [Call.holds, hpoint]
    rw [lookup_next_act h hold hholds]
    exact hheld c' hold forTask session hpoint
  · obtain ⟨hgetting, hlookup⟩ := move_eq_checking hpoint
    rw [next_act h]
    obtain ⟨agentId, point⟩ := c
    cases hgetting
    simp only [AcpSessionPool.move, hlookup]
    exact hlookup

theorem active_of_answer {agentId : String} {session : ℕ}
    (h : s.answer shard (.act i succeeds) = some (agentId, .found session)) :
    s.isActive session = true := by
  obtain ⟨c, -, hanswer⟩ := Option.bind_eq_some_iff.mp h
  obtain ⟨agentId', point⟩ := c
  cases point with
  | checking forTask session' =>
    dsimp only at hanswer
    split at hanswer
    next hactive =>
      obtain ⟨-, hsession⟩ := Prod.mk.inj (Option.some_inj.mp hanswer)
      exact Answer.found.inj hsession ▸ hactive
    next => cases hanswer
  | inserting forTask session' =>
    cases (Prod.mk.inj (Option.some_inj.mp hanswer)).2
  | _ => cases hanswer

theorem placed_of_answer (hheld : Held s) {agentId : String} {answer : Answer}
    (h : s.answer shard (.act i succeeds) = some (agentId, answer)) :
    (s.next shard (.act i succeeds)).sessions.lookup agentId = some answer.session := by
  obtain ⟨c, hacting, hanswer⟩ := Option.bind_eq_some_iff.mp h
  have hmem := mem_of_acting hacting
  rw [next_act hacting]
  obtain ⟨agentId', point⟩ := c
  cases point with
  | checking forTask session =>
    dsimp only at hanswer
    split at hanswer
    next =>
      obtain ⟨rfl, rfl⟩ := Prod.mk.inj (Option.some_inj.mp hanswer)
      exact hheld _ hmem forTask session rfl
    next => cases hanswer
  | inserting forTask session =>
    obtain ⟨rfl, rfl⟩ := Prod.mk.inj (Option.some_inj.mp hanswer)
    exact AList.lookup_insert _
  | _ => cases hanswer

end Answers

section Run

variable {shard : String → ℕ} {s : AcpSessionPool} {c : Call}

theorem bind_getElem?_concat {calls : List Call} {f : Call → Option ℕ} (hc : f c = none) (i : ℕ) :
    (calls ++ [c])[i]?.bind f = calls[i]?.bind f := by
  rw [List.getElem?_append]
  split
  next => rfl
  next hle =>
    have hnone : calls[i]? = none := List.getElem?_eq_none (by omega)
    rw [hnone, List.getElem?_singleton]
    split
    · exact hc
    · rfl

theorem keeps_next_call (agentId : String) (operation : Operation) :
    (s.next shard (.call agentId operation)).keeps = s.keeps := by
  funext p
  cases p with
  | entry agentId' => rfl
  | call i =>
    refine bind_getElem?_concat ?_ i
    cases operation <;> rfl

theorem inv_next_of_call (hinv : Inv shard s) (agentId : String) (operation : Operation) :
    Inv shard (s.next shard (.call agentId operation)) := by
  have hkeeps : (s.next shard (.call agentId operation)).ledger.keeps = s.ledger.keeps :=
    keeps_next_call agentId operation
  have hagent (p : Place) (agentId' : String) (h : s.ledger.agentOf p = some agentId') :
      (s.next shard (.call agentId operation)).ledger.agentOf p = some agentId' := by
    cases p with
    | entry agentId'' => exact h
    | call i =>
      obtain ⟨c, hcall, hagent⟩ := Option.map_eq_some_iff.mp h
      exact Option.map_eq_some_iff.mpr
        ⟨c, (List.getElem?_append_left (List.getElem?_eq_some_iff.mp hcall).1).trans hcall, hagent⟩
  refine ⟨?_, hinv.tidy.widen rfl hkeeps hagent, hinv.oneSession.widen rfl hkeeps hagent, ?_⟩
  · rw [noSelfWait_iff]
    intro c hmem forTask hpoint
    rcases List.mem_append.mp hmem with hold | hnew
    · exact noSelfWait_iff.mp hinv.noSelfWait c hold forTask hpoint
    · obtain rfl := List.mem_singleton.mp hnew
      cases operation <;> cases hpoint
  · intro c hmem forTask session hpoint
    rcases List.mem_append.mp hmem with hold | hnew
    · exact hinv.held c hold forTask session hpoint
    · obtain rfl := List.mem_singleton.mp hnew
      cases operation <;> cases hpoint

theorem inv_next_of_die (hinv : Inv shard s) (session : ℕ) :
    Inv shard (s.next shard (.die session)) where
  noSelfWait := hinv.noSelfWait
  tidy := Ledger.tidy_deactivate hinv.tidy
  oneSession := Ledger.oneSession_deactivate hinv.oneSession
  held := hinv.held

theorem safe_step_iff (hinv : Inv shard s) (event : PoolEvent) :
    Safe shard (s.step shard event).1 ↔ Careful shard s event := by
  cases event with
  | call agentId operation =>
    have hnext := inv_next_of_call hinv agentId operation
    exact iff_of_true ⟨hnext.noSelfWait, hnext.oneSession, nofun, nofun⟩ trivial
  | die session =>
    have hnext := inv_next_of_die hinv session
    exact iff_of_true ⟨hnext.noSelfWait, hnext.oneSession, nofun, nofun⟩ trivial
  | act i succeeds =>
    constructor
    · intro hsafe c hacting
      constructor
      · exact (noSelfWait_next_act_iff hacting hinv.noSelfWait).mp hsafe.noSelfWait
      · exact (oneSession_next_act_iff hacting hinv.tidy hinv.oneSession).mp hsafe.oneSession
    · intro hcareful
      have hactive (agentId : String) (session : ℕ) :=
        @active_of_answer shard s i succeeds agentId session
      have hplaced (agentId : String) (answer : Answer) :=
        @placed_of_answer shard s i succeeds hinv.held agentId answer
      cases hacting : s.acting shard i with
      | none =>
        have hnext : s.next shard (.act i succeeds) = s := next_act_of_none hacting
        refine ⟨?_, ?_, hactive, hplaced⟩
        · rw [AcpSessionPool.step, hnext]
          exact hinv.noSelfWait
        · rw [AcpSessionPool.step, hnext]
          exact hinv.oneSession
      | some c =>
        obtain ⟨hfinds, hloses⟩ := hcareful c hacting
        refine ⟨?_, ?_, hactive, hplaced⟩
        · exact (noSelfWait_next_act_iff hacting hinv.noSelfWait).mpr hfinds
        · exact (oneSession_next_act_iff hacting hinv.tidy hinv.oneSession).mpr hloses

theorem inv_step (hinv : Inv shard s) {event : PoolEvent} (h : Careful shard s event) :
    Inv shard (s.step shard event).2 := by
  have hsafe := (safe_step_iff hinv event).mpr h
  cases event with
  | call agentId operation => exact inv_next_of_call hinv agentId operation
  | die session => exact inv_next_of_die hinv session
  | act i succeeds =>
    cases hacting : s.acting shard i with
    | none =>
      have hnext : s.next shard (.act i succeeds) = s := next_act_of_none hacting
      rw [AcpSessionPool.step, hnext]
      exact hinv
    | some c =>
      exact ⟨hsafe.noSelfWait, tidy_next_act hacting hinv.tidy, hsafe.oneSession,
        held_next_act hacting hinv.held⟩

theorem inv_new : Inv shard .new where
  noSelfWait := nofun
  tidy := by
    refine ⟨fun p q session hp ↦ ?_, fun p session hp ↦ ?_⟩
    · cases p <;> cases hp
    · cases p <;> cases hp
  oneSession := ⟨nofun, nofun⟩
  held := nofun

theorem forall_safe_iff (shard : String → ℕ) (events : List PoolEvent) :
    (∀ o ∈ outputs (AcpSessionPool.step shard) .new events, Safe shard o) ↔
      Along (AcpSessionPool.step shard) (Careful shard) .new events :=
  forall_outputs_iff (AcpSessionPool.step shard)
    (fun _ event hinv ↦ ⟨safe_step_iff hinv event, inv_step hinv⟩) inv_new events

end Run

end AdkGateway.AcpClient
