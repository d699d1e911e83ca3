import AdkGateway.AcpClient.Ledger

namespace AdkGateway.AcpClient

open Foundation Custody

namespace AcpSessionPool

def keeps (s : AcpSessionPool) : Place → Option ℕ
  | .entry agentId => s.sessions.lookup agentId
  | .call i => s.calls[i]?.bind fun c ↦ c.point.hands

def agentOf (s : AcpSessionPool) : Place → Option String
  | .entry agentId => some agentId
  | .call i => s.calls[i]?.map Call.agentId

def ledger (s : AcpSessionPool) : Ledger := ⟨s.started, s.keeps, s.agentOf⟩

end AcpSessionPool

section Steps

variable {shard : String → ℕ} {s : AcpSessionPool} {i : ℕ} {c : Call} {succeeds : Bool}

theorem acting_eq_some_iff : s.acting shard i = some c ↔
    s.calls[i]? = some c ∧ mayGoOn shard s.calls c = true :=
  Option.filter_eq_some_iff

theorem next_act (h : s.acting shard i = some c) : s.next shard (.act i succeeds) =
    (s.perform c.agentId (s.move c succeeds).1).putCall i ⟨c.agentId, (s.move c succeeds).2⟩ := by
  rw [AcpSessionPool.next, h]

theorem next_act_of_none (h : s.acting shard i = none) : s.next shard (.act i succeeds) = s := by
  rw [AcpSessionPool.next, h]

theorem holds_ne_of_acting (h : s.acting shard i = some c) {lock : Lock}
    (hwaits : c.waitsFor shard = some lock) : ∀ c' ∈ s.calls, c'.holds shard ≠ some lock := by
  have hfree := (acting_eq_some_iff.mp h).2
  rw [mayGoOn, hwaits, Option.all_some, isFree, List.all_eq_true] at hfree
  exact fun c' hmem ↦ of_decide_eq_true (hfree c' hmem)

theorem mem_of_acting (h : s.acting shard i = some c) : c ∈ s.calls :=
  List.mem_of_getElem? (acting_eq_some_iff.mp h).1

theorem waitsForItself_iff : (∃ lock, c.waitsFor shard = some lock ∧ c.holds shard = some lock) ↔
    ∃ forTask, c.point = .removing forTask := by
  obtain ⟨agentId, point⟩ := c
  cases point <;> simp [Call.waitsFor, Call.holds]

theorem not_removing_of_acting (h : s.acting shard i = some c) (forTask : Bool) :
    c.point ≠ .removing forTask := by
  intro hpoint
  obtain ⟨lock, hwaits, hholds⟩ := (@waitsForItself_iff shard _).mpr ⟨forTask, hpoint⟩
  exact holds_ne_of_acting h hwaits c (mem_of_acting h) hholds

theorem calls_next (h : s.acting shard i = some c) : (s.next shard (.act i succeeds)).calls =
    s.calls.set i ⟨c.agentId, (s.move c succeeds).2⟩ := by
  rw [next_act h, AcpSessionPool.putCall]
  cases (s.move c succeeds).1 <;> rfl

theorem mem_calls_next (h : s.acting shard i = some c) {c' : Call}
    (hmem : c' ∈ (s.next shard (.act i succeeds)).calls) :
    c' ∈ s.calls ∨ c' = ⟨c.agentId, (s.move c succeeds).2⟩ := by
  rw [calls_next h] at hmem
  exact List.mem_or_eq_of_mem_set hmem

end Steps

section Places

variable {s : AcpSessionPool} {i : ℕ} {c c' : Call} {agentId : String} {session : ℕ}

theorem keeps_call (h : s.calls[i]? = some c) : s.keeps (.call i) = c.point.hands := by
  rw [AcpSessionPool.keeps, h, Option.bind_some]

theorem agentOf_call (h : s.calls[i]? = some c) : s.agentOf (.call i) = some c.agentId := by
  rw [AcpSessionPool.agentOf, h, Option.map_some]

theorem keeps_putCall (h : s.calls[i]? = some c) :
    (s.putCall i c').keeps = Function.update s.keeps (.call i) c'.point.hands := by
  funext p
  rw [Function.update_apply]
  cases p with
  | entry agentId => rfl
  | call j =>
    obtain ⟨hlt, -⟩ := List.getElem?_eq_some_iff.mp h
    rw [AcpSessionPool.keeps, AcpSessionPool.putCall, List.getElem?_set]
    by_cases heq : i = j
    · rw [if_pos heq, if_pos hlt, heq, if_pos rfl, Option.bind_some]
    · rw [if_neg heq, if_neg fun h ↦ heq (Place.call.inj h).symm]
      rfl

theorem agentOf_putCall (h : s.calls[i]? = some c) (point : Point) :
    (s.putCall i ⟨c.agentId, point⟩).agentOf = s.agentOf := by
  funext p
  cases p with
  | entry agentId => rfl
  | call j =>
    rw [AcpSessionPool.agentOf, AcpSessionPool.putCall, AcpSessionPool.agentOf, List.getElem?_set]
    obtain ⟨hlt, -⟩ := List.getElem?_eq_some_iff.mp h
    by_cases heq : i = j
    · rw [if_pos heq, if_pos hlt, ← heq, h, Option.map_some, Option.map_some]
    · rw [if_neg heq]

theorem keeps_insert : (s.perform agentId (.insert session)).keeps =
    Function.update s.keeps (.entry agentId) (some session) := by
  funext p
  rw [Function.update_apply]
  cases p with
  | entry agentId' =>
    rw [AcpSessionPool.keeps, AcpSessionPool.perform]
    by_cases heq : agentId' = agentId
    · rw [heq, if_pos rfl, AList.lookup_insert]
    · rw [if_neg fun h ↦ heq (Place.entry.inj h)]
      exact AList.lookup_insert_ne heq
  | call i => rfl

theorem keeps_remove : (s.perform agentId .remove).keeps =
    Function.update s.keeps (.entry agentId) none := by
  funext p
  rw [Function.update_apply]
  cases p with
  | entry agentId' =>
    rw [AcpSessionPool.keeps, AcpSessionPool.perform]
    by_cases heq : agentId' = agentId
    · rw [heq, if_pos rfl, AList.lookup_erase]
    · rw [if_neg fun h ↦ heq (Place.entry.inj h)]
      exact AList.lookup_erase_ne heq
  | call i => rfl

end Places

section Refinement

variable {shard : String → ℕ} {s : AcpSessionPool} {i : ℕ} {c : Call} {succeeds : Bool}

def Ledger.follow (l : Ledger) (i : ℕ) (c : Call) (succeeds : Bool) : Ledger :=
  match c.point with
  | .creating _ => if succeeds then l.start (.call i) c.agentId else l
  | .inserting _ _ => l.move (.call i) (.entry c.agentId)
  | .dropping => l.drop (.entry c.agentId)
  | .taking => l.move (.entry c.agentId) (.call i)
  | .closing session => (l.deactivate session).drop (.call i)
  | _ => l

theorem hands_got (forTask : Bool) (session : ℕ) : (Point.got forTask session).hands = none := by
  cases forTask <;> rfl

theorem calls_perform (agentId : String) (effect : Effect) :
    (s.perform agentId effect).calls = s.calls := by
  cases effect <;> rfl

theorem agentOf_perform (agentId : String) (effect : Effect) :
    (s.perform agentId effect).agentOf = s.agentOf := by
  cases effect <;> rfl

theorem ledger_next_eq (h : s.acting shard i = some c) :
    (s.next shard (.act i succeeds)).ledger =
      ⟨(s.perform c.agentId (s.move c succeeds).1).started,
        Function.update (s.perform c.agentId (s.move c succeeds).1).keeps (.call i)
          (s.move c succeeds).2.hands, s.agentOf⟩ := by
  have hcall : (s.perform c.agentId (s.move c succeeds).1).calls[i]? = some c := by
    rw [calls_perform]
    exact (acting_eq_some_iff.mp h).1
  rw [next_act h, AcpSessionPool.ledger, keeps_putCall hcall, agentOf_putCall hcall,
    agentOf_perform]
  rfl

theorem ledger_next_quiet (h : s.acting shard i = some c)
    (heffect : (s.move c succeeds).1 = .nothing)
    (hhands : (s.move c succeeds).2.hands = c.point.hands) :
    (s.next shard (.act i succeeds)).ledger = s.ledger := by
  have hcall := (acting_eq_some_iff.mp h).1
  rw [ledger_next_eq h, heffect, hhands, ← keeps_call hcall]
  exact congrArg (Ledger.mk s.started · s.agentOf) (Function.update_eq_self _ _)

theorem ledger_next (h : s.acting shard i = some c) :
    (s.next shard (.act i succeeds)).ledger = s.ledger.follow i c succeeds := by
  have hkeeps := keeps_call (acting_eq_some_iff.mp h).1
  have hremoving := not_removing_of_acting h
  obtain ⟨agentId, point⟩ := c
  cases point with
  | getting forTask =>
    refine ledger_next_quiet h ?_ ?_
    all_goals
      simp only [AcpSessionPool.move]
      cases s.sessions.lookup agentId <;> rfl
  | checking forTask session =>
    refine ledger_next_quiet h rfl ?_
    simp only [AcpSessionPool.move]
    split
    · exact hands_got forTask session
    · rfl
  | removing forTask => exact absurd rfl (hremoving forTask)
  | creating forTask =>
    cases succeeds with
    | true => exact ledger_next_eq h
    | false => exact ledger_next_quiet h rfl rfl
  | inserting forTask session =>
    refine (ledger_next_eq h).trans (congrArg (Ledger.mk s.started · s.agentOf) ?_)
    calc Function.update (s.perform agentId (.insert session)).keeps (.call i)
          (Point.got forTask session).hands
      _ = Function.update (Function.update s.keeps (.entry agentId) (some session)) (.call i)
          none := by rw [keeps_insert, hands_got]
      _ = Custody.move (.call i) (.entry agentId) s.keeps := by
        have hcall : s.keeps (.call i) = some session := hkeeps
        rw [Custody.move, Custody.drop, hcall]
  | lockingPrompt session => exact ledger_next_quiet h rfl rfl
  | prompting session =>
    refine ledger_next_quiet h rfl ?_
    cases succeeds <;> rfl
  | dropping =>
    refine (ledger_next_eq h).trans (congrArg (Ledger.mk s.started · s.agentOf) ?_)
    calc Function.update (s.perform agentId .remove).keeps (.call i) Point.done.hands
      _ = Function.update (Custody.drop (.entry agentId) s.keeps) (.call i) none := by
        rw [keeps_remove]
        rfl
      _ = Custody.drop (.entry agentId) s.keeps :=
        drop_of_none ((Function.update_of_ne (by simp) _ _).trans hkeeps)
  | looking =>
    refine ledger_next_quiet h ?_ ?_
    all_goals
      simp only [AcpSessionPool.move]
      cases s.sessions.lookup agentId <;> rfl
  | lockingCancel session => exact ledger_next_quiet h rfl rfl
  | cancelling session => exact ledger_next_quiet h rfl rfl
  | taking =>
    cases hlookup : s.sessions.lookup agentId with
    | none =>
      have hmove : s.move ⟨agentId, .taking⟩ succeeds = (.nothing, .done) := by
        simp only [AcpSessionPool.move, hlookup]
      have hentry : s.keeps (.entry agentId) = none := hlookup
      refine (ledger_next_quiet h (by rw [hmove]) (by rw [hmove]; rfl)).trans ?_
      exact congrArg (Ledger.mk s.started · s.agentOf) (move_of_none hentry hkeeps).symm
    | some session =>
      have hmove : s.move ⟨agentId, .taking⟩ succeeds = (.remove, .lockingClose session) := by
        simp only [AcpSessionPool.move, hlookup]
      refine (ledger_next_eq h).trans ?_
      rw [hmove]
      refine congrArg (Ledger.mk s.started · s.agentOf) ?_
      calc Function.update (s.perform agentId .remove).keeps (.call i) (some session)
        _ = Function.update (Function.update s.keeps (.entry agentId) none) (.call i)
            (s.keeps (.entry agentId)) := by
          have hentry : s.keeps (.entry agentId) = some session := hlookup
          rw [keeps_remove, hentry]
        _ = Custody.move (.entry agentId) (.call i) s.keeps := Function.update_comm (by simp) _ _ _
  | lockingClose session => exact ledger_next_quiet h rfl rfl
  | closing session => exact ledger_next_eq h
  | done => exact ledger_next_quiet h rfl rfl

end Refinement

end AdkGateway.AcpClient
