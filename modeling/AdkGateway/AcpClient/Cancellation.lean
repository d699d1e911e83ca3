import AdkGateway.AcpClient.Safety

namespace AdkGateway.AcpClient

open Foundation Machine Custody

def Point.locks : Point → Option ℕ
  | prompting session => some session
  | cancelling session => some session
  | closing session => some session
  | _ => none

def AcpSessionPool.locks (s : AcpSessionPool) (i : ℕ) : Option ℕ :=
  s.calls[i]?.bind fun c ↦ c.point.locks

section Locks

variable {shard : String → ℕ} {s : AcpSessionPool} {i : ℕ} {c : Call} {succeeds : Bool}
  {session : ℕ}

theorem holds_session_iff : c.holds shard = some (.session session) ↔
    c.point.locks = some session := by
  obtain ⟨agentId, point⟩ := c
  cases point <;> simp [Call.holds, Point.locks]

theorem locks_next_act (h : s.acting shard i = some c) :
    (s.next shard (.act i succeeds)).locks =
      Function.update s.locks i (s.move c succeeds).2.locks := by
  obtain ⟨hlt, -⟩ := List.getElem?_eq_some_iff.mp (acting_eq_some_iff.mp h).1
  funext j
  rw [Function.update_apply, AcpSessionPool.locks, calls_next h, List.getElem?_set]
  by_cases heq : i = j
  · rw [if_pos heq, if_pos hlt, if_pos heq.symm, Option.bind_some]
  · rw [if_neg heq, if_neg fun h ↦ heq h.symm]
    rfl

theorem locks_move : (s.move c succeeds).2.locks = none ∨
    ∃ session, c.waitsFor shard = some (.session session) ∧
      (s.move c succeeds).2.locks = some session := by
  obtain ⟨agentId, point⟩ := c
  cases point with
  | lockingPrompt session => exact .inr ⟨session, rfl, rfl⟩
  | lockingCancel session => exact .inr ⟨session, rfl, rfl⟩
  | lockingClose session => exact .inr ⟨session, rfl, rfl⟩
  | getting forTask =>
    left
    simp only [AcpSessionPool.move]
    cases s.sessions.lookup agentId <;> rfl
  | checking forTask session =>
    left
    simp only [AcpSessionPool.move]
    split
    · cases forTask <;> rfl
    · rfl
  | creating forTask =>
    left
    cases succeeds <;> rfl
  | inserting forTask session =>
    left
    cases forTask <;> rfl
  | prompting session =>
    left
    cases succeeds <;> rfl
  | looking =>
    left
    simp only [AcpSessionPool.move]
    cases s.sessions.lookup agentId <;> rfl
  | taking =>
    left
    simp only [AcpSessionPool.move]
    cases s.sessions.lookup agentId <;> rfl
  | _ => exact .inl rfl

theorem exclusive_next (h : Exclusive s.locks) (event : PoolEvent) :
    Exclusive (s.next shard event).locks := by
  cases event with
  | die session => exact h
  | call agentId operation =>
    have hlocks : (s.next shard (.call agentId operation)).locks = s.locks := by
      funext i
      refine bind_getElem?_concat ?_ i
      cases operation <;> rfl
    rw [hlocks]
    exact h
  | act i succeeds =>
    cases hacting : s.acting shard i with
    | none => exact (next_act_of_none hacting).symm ▸ h
    | some c =>
      rw [locks_next_act hacting]
      rcases @locks_move shard s c succeeds with hnone | ⟨session, hwaits, hsome⟩
      · rw [hnone]
        exact exclusive_drop h
      · rw [hsome]
        refine exclusive_give h ?_
        intro ⟨j, hj⟩
        obtain ⟨c', hc', hlocks⟩ := Option.bind_eq_some_iff.mp hj
        exact holds_ne_of_acting hacting hwaits c' (List.mem_of_getElem? hc')
          (holds_session_iff.mpr hlocks)

theorem exclusive_new : Exclusive AcpSessionPool.new.locks := nofun

end Locks

section Prompts

variable {shard : String → ℕ} {s : AcpSessionPool} {i : ℕ} {c : Call}

theorem getElem?_next (h : s.calls[i]? = some c) {event : PoolEvent}
    (hother : ∀ succeeds, event ≠ .act i succeeds) :
    (s.next shard event).calls[i]? = some c := by
  cases event with
  | die session => exact h
  | call agentId operation =>
    exact (List.getElem?_append_left (List.getElem?_eq_some_iff.mp h).1).trans h
  | act j succeeds =>
    cases hacting : s.acting shard j with
    | none => exact (next_act_of_none hacting).symm ▸ h
    | some c' =>
      have hne : j ≠ i := fun heq ↦ hother succeeds (heq ▸ rfl)
      rw [calls_next hacting, List.getElem?_set_ne hne]
      exact h

theorem prompting_run (hexclusive : Exclusive s.locks) (h : s.calls[i]? = some c)
    {events : List PoolEvent} (hother : ∀ succeeds, .act i succeeds ∉ events) :
    (run (AcpSessionPool.step shard) s events).calls[i]? = some c ∧
      Exclusive (run (AcpSessionPool.step shard) s events).locks := by
  induction events generalizing s with
  | nil => exact ⟨h, hexclusive⟩
  | cons event events ih =>
    refine ih (exclusive_next hexclusive event) (getElem?_next h fun succeeds heq ↦ ?_) ?_
    · exact hother succeeds (heq ▸ List.mem_cons_self)
    · exact fun succeeds hmem ↦ hother succeeds (List.mem_cons_of_mem _ hmem)

theorem canCancel_iff (hexclusive : Exclusive s.locks) : CanCancel shard s ↔
    ∀ c ∈ s.calls, ∀ session, c.point ≠ .prompting session := by
  constructor
  · intro h c hmem session hpoint
    obtain ⟨i, hi⟩ := List.getElem?_of_mem hmem
    obtain ⟨agentId, point⟩ := c
    cases hpoint
    obtain ⟨events, hother, j, hj⟩ := h i agentId session hi
    obtain ⟨hi', hexclusive'⟩ := @prompting_run shard _ _ _ hexclusive hi _ hother
    have heq : i = j := hexclusive' i j session (by rw [AcpSessionPool.locks, hi']; rfl)
      (by rw [AcpSessionPool.locks, hj]; rfl)
    cases (heq ▸ hi').symm.trans hj
  · intro h i agentId session hi
    exact absurd rfl (h _ (List.mem_of_getElem? hi) session)

structure Unprompted (s : AcpSessionPool) : Prop where
  exclusive : Exclusive s.locks
  none : ∀ c ∈ s.calls, ∀ session, c.point ≠ .prompting session

theorem unprompted_next_iff (hinv : Unprompted s) (event : PoolEvent) :
    (∀ c ∈ (s.next shard event).calls, ∀ session, c.point ≠ .prompting session) ↔
      ¬ BeginsPrompt shard s event := by
  cases event with
  | die session => exact iff_of_true hinv.none id
  | call agentId operation =>
    refine iff_of_true ?_ id
    intro c hmem session hpoint
    rcases List.mem_append.mp hmem with hold | hnew
    · exact hinv.none c hold session hpoint
    · obtain rfl := List.mem_singleton.mp hnew
      cases operation <;> cases hpoint
  | act i succeeds =>
    cases hacting : s.acting shard i with
    | none =>
      rw [next_act_of_none hacting]
      refine iff_of_true hinv.none ?_
      intro ⟨agentId, session, hsome⟩
      cases hacting.symm.trans hsome
    | some c =>
      constructor
      · intro h ⟨agentId, session, hsome⟩
        obtain rfl := Option.some_inj.mp (hacting.symm.trans hsome)
        refine h ⟨agentId, .prompting session⟩ ?_ session rfl
        rw [calls_next hacting]
        exact List.mem_set (List.getElem?_eq_some_iff.mp (acting_eq_some_iff.mp hacting).1).1 _
      · intro hbegins c' hmem session hpoint
        rcases mem_calls_next hacting hmem with hold | rfl
        · exact hinv.none c' hold session hpoint
        · obtain ⟨agentId, point⟩ := c
          cases move_eq_prompting_iff.mp hpoint
          exact hbegins ⟨agentId, session, hacting⟩

theorem forall_canCancel_iff (shard : String → ℕ) (events : List PoolEvent) :
    (∀ o ∈ outputs (AcpSessionPool.step shard) .new events, CanCancel shard o.after) ↔
      Along (AcpSessionPool.step shard) (fun s event ↦ ¬ BeginsPrompt shard s event) .new events := by
  refine @forall_outputs_iff _ _ _ (AcpSessionPool.step shard) Unprompted
    (fun o ↦ CanCancel shard o.after) _ (fun s event hinv ↦ ?_) _ ?_ events
  · have hnext := @exclusive_next shard s hinv.exclusive event
    have hiff := (@canCancel_iff shard _ hnext).trans (unprompted_next_iff hinv event)
    exact ⟨hiff, fun h ↦ ⟨hnext, (unprompted_next_iff hinv event).mpr h⟩⟩
  · exact ⟨exclusive_new, nofun⟩

end Prompts

/-- The pool is safe all along just if every step is careful, and any task can be cancelled all along
just if no prompt is begun. -/
theorem safe_iff_careful (shard : String → ℕ) (events : List PoolEvent) :
    ((∀ o ∈ outputs (AcpSessionPool.step shard) .new events, Safe shard o) ↔
      Along (AcpSessionPool.step shard) (Careful shard) .new events) ∧
    ((∀ o ∈ outputs (AcpSessionPool.step shard) .new events, CanCancel shard o.after) ↔
      Along (AcpSessionPool.step shard) (fun s event ↦ ¬ BeginsPrompt shard s event) .new events) :=
  ⟨forall_safe_iff shard events, forall_canCancel_iff shard events⟩

def lostSession : List PoolEvent :=
  [.call "a" .getOrCreate, .act 0 true, .act 0 true, .act 0 true, .die 0,
    .call "a" .getOrCreate, .act 1 true]

theorem not_safe : ¬ ∀ (shard : String → ℕ) (events : List PoolEvent),
    ∀ o ∈ outputs (AcpSessionPool.step shard) .new events, Safe shard o ∧ CanCancel shard o.after := by
  intro h
  have hsafe := h (fun _ ↦ 0) (lostSession ++ [.act 1 true])
  rw [outputs_concat] at hsafe
  have hwait := (hsafe _ (List.mem_append_right _ List.mem_cons_self)).1.noSelfWait
  have hcalls : ((run (AcpSessionPool.step fun _ ↦ 0) .new lostSession).next (fun _ ↦ 0)
      (.act 1 true)).calls = [⟨"a", .done⟩, ⟨"a", .removing false⟩] := by
    decide +kernel
  refine hwait ⟨"a", .removing false⟩ ?_ (.shard 0) rfl rfl
  rw [AcpSessionPool.step, hcalls]
  exact List.mem_cons_of_mem _ List.mem_cons_self

end AdkGateway.AcpClient
