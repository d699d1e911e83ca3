import AdkGateway.CodingAgent.Conservation

namespace AdkGateway.CodingAgent.TaskQueue

open Foundation Interleaving

section Looks

/-- A call `cancel_task` before its first look, between its two looks, and
after it has found the task active. -/
@[simp] def beforeLooks (t : TaskId) : Point → ℕ
  | .cancelActive id => if id = t then 1 else 0
  | _ => 0

@[simp] def betweenLooks (t : TaskId) : Point → ℕ
  | .cancelPending id => if id = t then 1 else 0
  | _ => 0

@[simp] def afterLooks (t : TaskId) : Point → ℕ
  | .cancelRelease id => if id = t then 1 else 0
  | _ => 0

def cancelling (t : TaskId) (ps : List Point) : ℕ :=
  load (beforeLooks t) ps + load (betweenLooks t) ps + load (afterLooks t) ps

/-- A `try_dequeue` has the task in hand while `cancel_task` is between its looks. -/
def PassesUnseen (t : TaskId) (c : Config TaskQueue Point Event) : Prop :=
  0 < load (betweenLooks t) c.inFlight ∧ 0 < load (inHand t) c.inFlight

/-- One call of `cancel_task`, the only one for the task, from before its first
look to its return; the task has been enqueued and is not completed. -/
structure CancelTask (maxConcurrent : Option ℕ) (t : TaskId) (found : Bool)
    (c₀ : Config TaskQueue Point Event) (visited : List (Config TaskQueue Point Event))
    (c : Config TaskQueue Point Event) : Prop where
  reachable : Reachable program (new maxConcurrent) c₀
  trace : Trace program c₀ visited c
  started : .cancelActive t ∈ c₀.inFlight
  alone : ∀ c ∈ visited, cancelling t c.inFlight = 1
  enqueued : t ∈ pushedIds c₀.history
  uncancelled : t ∉ cancelledIds c₀.history
  uncompleted : t ∉ completedIds c.history
  returned : ∃ evs, c.history = c₀.history ++ evs ∧ .cancelReturned t found ∈ evs

end Looks

section Moves

variable {q q' : TaskQueue} {p : Point} {o : Point ⊕ Output} {evs : List Event}

theorem moves_pending_le (hm : Moves q p q' o evs) (t : TaskId) :
    (pendingIds q').count t ≤ (pendingIds q).count t + (pushedIds evs).count t := by
  cases hm with
  | @cancelPending id _ =>
    rw [pendingIds_eraseP]
    exact (List.erase_sublist.count_le t).trans (Nat.le_add_right _ _)
  | pop hcons => simp [pendingIds, hcons, List.count_cons]
  | _ => simp [pendingIds]

theorem moves_active_le (hm : Moves q p q' o evs) (t : TaskId) :
    activeCount q' t ≤ activeCount q t + inHand t p := by
  cases hm with
  | @insert task =>
    rw [activeCount_insert]
    by_cases ht : t = task.taskId <;> simp [ht]
  | @complete id _ | @cancelActive id _ =>
    rw [activeCount_erase]
    split <;> omega
  | _ => simp [activeCount]

inductive Looks (t : TaskId) (q : TaskQueue) : Point → Point ⊕ Output → List Event → Prop
  | other {p : Point} {o : Point ⊕ Output} {evs : List Event} :
      cancelling t [p] = 0 → cancelling t (remaining o) = 0 → t ∉ cancelledIds evs →
      (∀ found, .cancelReturned t found ∉ evs) → Looks t q p o evs
  | foundActive : activeCount q t = 1 →
      Looks t q (.cancelActive t) (.inl (.cancelRelease t)) [.cancelled t]
  | look : activeCount q t = 0 → Looks t q (.cancelActive t) (.inl (.cancelPending t)) []
  | release : Looks t q (.cancelRelease t) (.inr (.cancelled true))
      [.released t, .cancelReturned t true]
  | foundPending : t ∈ pendingIds q → Looks t q (.cancelPending t) (.inr (.cancelled true))
      [.cancelled t, .cancelReturned t true]
  | missed : t ∉ pendingIds q → Looks t q (.cancelPending t) (.inr (.cancelled false))
      [.cancelReturned t false]
  | dropped : Looks t q (.cancelPending t) (.inr .dropped) []

theorem moves_looks (hm : Moves q p q' o evs) (t : TaskId) : Looks t q p o evs := by
  cases hm with
  | @cancelActive id hfound =>
    by_cases ht : id = t
    · subst ht
      exact .foundActive (activeCount_of_isSome hfound)
    · exact .other (by simp [cancelling, ht]) (by simp [cancelling, ht]) (by simp [Ne.symm ht])
        (by simp)
  | @cancelLook id hnone =>
    by_cases ht : id = t
    · subst ht
      exact .look (if_neg hnone)
    · exact .other (by simp [cancelling, ht]) (by simp [cancelling, ht]) (by simp) (by simp)
  | @cancelRelease id =>
    by_cases ht : id = t
    · subst ht
      exact .release
    · exact .other (by simp [cancelling, ht]) (by simp [cancelling]) (by simp)
        (by simp [Ne.symm ht])
  | @cancelPending id hfound =>
    by_cases ht : id = t
    · subst ht
      exact .foundPending hfound
    · exact .other (by simp [cancelling, ht]) (by simp [cancelling]) (by simp [Ne.symm ht])
        (by simp [Ne.symm ht])
  | @cancelUnknown id hnone =>
    by_cases ht : id = t
    · subst ht
      exact .missed hnone
    · exact .other (by simp [cancelling, ht]) (by simp [cancelling]) (by simp)
        (by simp [Ne.symm ht])
  | @cancelDropped id =>
    by_cases ht : id = t
    · subst ht
      exact .dropped
    · exact .other (by simp [cancelling, ht]) (by simp [cancelling]) (by simp) (by simp)
  | _ => exact .other (by simp [cancelling]) (by simp [cancelling]) (by simp) (by simp)

end Moves

section Stages

variable {t : TaskId} {seen : Prop} {c c' : Config TaskQueue Point Event}

/-- How far the call has come, where `seen` tells whether the task has passed
between its looks. -/
inductive Stage (t : TaskId) (seen : Prop) (c : Config TaskQueue Point Event) : Prop
  | before : load (beforeLooks t) c.inFlight = 1 → (cancelledIds c.history).count t = 0 →
      ¬ seen → Stage t seen c
  | between : load (betweenLooks t) c.inFlight = 1 → (cancelledIds c.history).count t = 0 →
      (seen → (pendingIds c.shared).count t = 0) → (¬ seen → activeCount c.shared t = 0) →
      Stage t seen c
  | after : load (afterLooks t) c.inFlight = 1 → (cancelledIds c.history).count t = 1 →
      ¬ seen → Stage t seen c

theorem pending_of_passesUnseen (hc : Tallied c) (h : PassesUnseen t c) :
    (pendingIds c.shared).count t = 0 := by
  have hplace := hc.place t
  have hone := hc.pushed_le_one t
  have hhand := h.2
  omega

theorem gone_of_cancelled (hc : Tallied c) (h : 0 < (cancelledIds c.history).count t) :
    t ∉ pendingIds c.shared ∧ activeCount c.shared t = 0 := by
  have hplace := hc.place t
  have hone := hc.pushed_le_one t
  exact ⟨List.count_eq_zero.mp (by omega), by omega⟩

theorem Stage.keep (h : Stage t seen c) (hc : Tallied c) (hone : cancelling t c.inFlight = 1)
    (hbefore : load (beforeLooks t) c'.inFlight = load (beforeLooks t) c.inFlight)
    (hbetween : load (betweenLooks t) c'.inFlight = load (betweenLooks t) c.inFlight)
    (hafter : load (afterLooks t) c'.inFlight = load (afterLooks t) c.inFlight)
    (hcancelled : (cancelledIds c'.history).count t = (cancelledIds c.history).count t)
    (hpending : (pendingIds c'.shared).count t ≤ (pendingIds c.shared).count t)
    (hactive : activeCount c'.shared t ≤ activeCount c.shared t + load (inHand t) c.inFlight) :
    Stage t (seen ∨ PassesUnseen t c) c' := by
  have hno : load (betweenLooks t) c.inFlight = 0 → ¬ PassesUnseen t c := by
    intro hzero hpass
    have hpos := hpass.1
    omega
  rw [cancelling] at hone
  cases h with
  | before hload hcount hseen =>
    exact .before (hbefore.trans hload) (hcancelled.trans hcount)
      fun h ↦ h.elim hseen (hno (by omega))
  | after hload hcount hseen =>
    exact .after (hafter.trans hload) (hcancelled.trans hcount)
      fun h ↦ h.elim hseen (hno (by omega))
  | between hload hcount hgone hidle =>
    refine .between (hbetween.trans hload) (hcancelled.trans hcount) (fun h ↦ ?_) fun h ↦ ?_
    · rcases h with hseen | hpass
      · have hzero := hgone hseen
        omega
      · have hzero := pending_of_passesUnseen hc hpass
        omega
    · have hzero := hidle fun hseen ↦ h (.inl hseen)
      have hhand : ¬ 0 < load (inHand t) c.inFlight := fun hpos ↦ h (.inr ⟨by omega, hpos⟩)
      omega

structure Returns (t : TaskId) (found : Bool) (seen : Prop) (evs : List Event)
    (c : Config TaskQueue Point Event) : Prop where
  ended : cancelling t c.inFlight = 0
  only : ∀ found', .cancelReturned t found' ∈ evs → found' = found
  verdict : (found = true ∧ t ∉ pendingIds c.shared ∧ activeCount c.shared t = 0) ↔ ¬ seen

variable {q : TaskQueue} {l r : List Point} {h : List Event}

theorem Stage.of_cancelActive (hone : cancelling t (l ++ .cancelActive t :: r) = 1)
    (hstage : Stage t seen ⟨q, l ++ .cancelActive t :: r, h⟩) :
    (cancelledIds h).count t = 0 ∧ ¬ (seen ∨ PassesUnseen t ⟨q, l ++ .cancelActive t :: r, h⟩) := by
  simp only [cancelling, load_call, beforeLooks, betweenLooks, afterLooks, if_true] at hone
  cases hstage with
  | before hload hcount hseen =>
    refine ⟨hcount, fun h ↦ h.elim hseen fun hpass ↦ ?_⟩
    have hbetween := hpass.1
    simp only [load_call, betweenLooks] at hbetween
    omega
  | between hload _ _ _ =>
    simp only [load_call, betweenLooks] at hload
    omega
  | after hload _ _ =>
    simp only [load_call, afterLooks] at hload
    omega

theorem Stage.of_cancelRelease (hone : cancelling t (l ++ .cancelRelease t :: r) = 1)
    (hstage : Stage t seen ⟨q, l ++ .cancelRelease t :: r, h⟩) :
    (cancelledIds h).count t = 1 ∧ ¬ (seen ∨ PassesUnseen t ⟨q, l ++ .cancelRelease t :: r, h⟩) := by
  simp only [cancelling, load_call, beforeLooks, betweenLooks, afterLooks, if_true] at hone
  cases hstage with
  | after hload hcount hseen =>
    refine ⟨hcount, fun h ↦ h.elim hseen fun hpass ↦ ?_⟩
    have hbetween := hpass.1
    simp only [load_call, betweenLooks] at hbetween
    omega
  | before hload _ _ =>
    simp only [load_call, beforeLooks] at hload
    omega
  | between hload _ _ _ =>
    simp only [load_call, betweenLooks] at hload
    omega

theorem Stage.of_cancelPending (hone : cancelling t (l ++ .cancelPending t :: r) = 1)
    (hstage : Stage t seen ⟨q, l ++ .cancelPending t :: r, h⟩) :
    load (betweenLooks t) (l ++ .cancelPending t :: r) = 1 ∧ (cancelledIds h).count t = 0 ∧
      (seen → (pendingIds q).count t = 0) ∧ (¬ seen → activeCount q t = 0) := by
  simp only [cancelling, load_call, beforeLooks, betweenLooks, afterLooks, if_true] at hone
  cases hstage with
  | between hload hcount hgone hidle => exact ⟨hload, hcount, hgone, hidle⟩
  | before hload _ _ =>
    simp only [load_call, beforeLooks] at hload
    omega
  | after hload _ _ =>
    simp only [load_call, afterLooks] at hload
    omega

theorem cancelling_remaining (hone : cancelling t (l ++ p :: r) = 1) (hp : cancelling t [p] = 1)
    (output : Output) : cancelling t (l ++ (remaining (.inr output) ++ r)) = 0 := by
  simp only [cancelling, load_call, load_cons, load_nil] at hone hp
  simp only [cancelling, load_remaining]
  simp only [remaining_inr, load_nil]
  omega

theorem stage_step {a : Label Call Point Input} (hs : Step program a c c') (hc : Tallied c)
    (hc' : Tallied c') (henqueued : t ∈ pushedIds c.history)
    (huncompleted : t ∉ completedIds c'.history) (hone : cancelling t c.inFlight = 1)
    (hstage : Stage t seen c) : ∃ evs, c'.history = c.history ++ evs ∧
      (((∀ found, .cancelReturned t found ∉ evs) ∧
        (cancelling t c'.inFlight = 1 → Stage t (seen ∨ PassesUnseen t c) c')) ∨
      ∃ found, Returns t found (seen ∨ PassesUnseen t c) evs c') := by
  cases hs with
  | @call q l r h k =>
    refine ⟨[], (List.append_nil _).symm, .inl ⟨by simp, fun hone' ↦ ?_⟩⟩
    have hb := load_call (beforeLooks t) l r (program.start k)
    have hm := load_call (betweenLooks t) l r (program.start k)
    have ha := load_call (afterLooks t) l r (program.start k)
    simp only [cancelling] at hone hone'
    exact hstage.keep hc hone (by simp only; omega) (by simp only; omega) (by simp only; omega) rfl
      le_rfl (Nat.le_add_right _ _)
  | @act q q' l r h evs p o i hstep =>
    have hm := moves_of_step hstep
    have hb := load_act (beforeLooks t) l r p o
    have hw := load_act (betweenLooks t) l r p o
    have ha := load_act (afterLooks t) l r p o
    refine ⟨evs, rfl, ?_⟩
    cases moves_looks hm t with
    | other hp ho hcancelled hreturned =>
      refine .inl ⟨hreturned, fun _ ↦ hstage.keep hc hone ?_ ?_ ?_ ?_ ?_ ?_⟩
      · simp only [cancelling, load_cons, load_nil] at hp ho ⊢
        omega
      · simp only [cancelling, load_cons, load_nil] at hp ho ⊢
        omega
      · simp only [cancelling, load_cons, load_nil] at hp ho ⊢
        omega
      · simp [List.count_eq_zero_of_not_mem hcancelled]
      · have hpushed := List.count_pos_iff.mpr henqueued
        have hpushed' := hc'.pushed_le_one t
        have hmove := moves_pending_le hm t
        simp only [pushedIds, idsOf_append, List.count_append] at hpushed hpushed' hmove ⊢
        omega
      · have hhand : inHand t p ≤ load (inHand t) (l ++ p :: r) := le_load (by simp)
        have hmove := moves_active_le hm t
        simp only
        omega
    | foundActive hactive =>
      obtain ⟨hcount, hseen⟩ := hstage.of_cancelActive hone
      refine .inl ⟨by simp, fun _ ↦ .after ?_ (by simp [hcount]) hseen⟩
      simp only [cancelling, load_call, beforeLooks, betweenLooks, afterLooks, if_true] at hone
      simp only [load_remaining]
      simp only [remaining_inl, load_cons, load_nil, afterLooks, if_true]
      omega
    | look hidle =>
      obtain ⟨hcount, hseen⟩ := hstage.of_cancelActive hone
      refine .inl ⟨by simp, fun _ ↦ .between ?_ (by simpa using hcount) (fun h ↦ absurd h hseen)
        fun _ ↦ ?_⟩
      · simp only [cancelling, load_call, beforeLooks, betweenLooks, afterLooks, if_true] at hone
        simp only [load_remaining]
        simp only [remaining_inl, load_cons, load_nil, betweenLooks, if_true]
        omega
      · have hmove := moves_active_le hm t
        simpa [hidle] using hmove
    | release =>
      obtain ⟨hcount, hseen⟩ := hstage.of_cancelRelease hone
      have hgone := gone_of_cancelled hc' (t := t) (by simp [hcount])
      refine .inr ⟨true, cancelling_remaining hone (by simp [cancelling]) _, by simp, ?_⟩
      exact ⟨fun _ ↦ hseen, fun _ ↦ ⟨rfl, hgone⟩⟩
    | foundPending hpending =>
      obtain ⟨-, -, hzero, -⟩ := hstage.of_cancelPending hone
      have hgone := gone_of_cancelled hc' (t := t) (by simp)
      have hpos : 0 < (pendingIds q).count t := List.count_pos_iff.mpr hpending
      refine .inr ⟨true, cancelling_remaining hone (by simp [cancelling]) _, by simp, ?_⟩
      refine ⟨fun _ h ↦ ?_, fun _ ↦ ⟨rfl, hgone⟩⟩
      rcases h with hseen | hpass
      · exact absurd (hzero hseen) (Nat.ne_of_gt hpos)
      · exact absurd (pending_of_passesUnseen hc hpass) (Nat.ne_of_gt hpos)
    | missed hpending =>
      obtain ⟨hload, hcount, -, hidle⟩ := hstage.of_cancelPending hone
      refine .inr ⟨false, cancelling_remaining hone (by simp [cancelling]) _, by simp, ?_⟩
      refine ⟨fun hfound ↦ absurd hfound.1 Bool.false_ne_true, fun hnot ↦ ?_⟩
      -- not pending, not active, not in hand: the task would be nowhere
      have hplace := hc.place t
      have hpushed := List.count_pos_iff.mpr henqueued
      have hgone : (pendingIds q).count t = 0 := List.count_eq_zero.mpr hpending
      have hactive := hidle fun hseen ↦ hnot (.inl hseen)
      have hhand : ¬ 0 < load (inHand t) (l ++ .cancelPending t :: r) := fun hpos ↦
        hnot (.inr ⟨by rw [hload]; exact Nat.one_pos, hpos⟩)
      have hcompleted : (completedIds h).count t = 0 := by
        refine List.count_eq_zero.mpr fun hmem ↦ huncompleted ?_
        simpa using hmem
      simp only at hplace hpushed hcount hactive
      omega
    | dropped =>
      refine .inl ⟨by simp, fun hone' ↦ ?_⟩
      simp only [cancelling, load_call, load_remaining] at hone hone'
      simp only [remaining_inr, load_nil, beforeLooks, betweenLooks, afterLooks, if_true] at hone hone'
      omega

end Stages

theorem trace_stage {maxConcurrent : Option ℕ} {t : TaskId}
    {c₀ c : Config TaskQueue Point Event} {visited : List (Config TaskQueue Point Event)}
    (hr : Reachable program (new maxConcurrent) c₀) (ht : Trace program c₀ visited c)
    (hstarted : .cancelActive t ∈ c₀.inFlight) (halone : ∀ c ∈ visited, cancelling t c.inFlight = 1)
    (henqueued : t ∈ pushedIds c₀.history) (huncancelled : t ∉ cancelledIds c₀.history)
    (huncompleted : t ∉ completedIds c.history) : ∃ evs, c.history = c₀.history ++ evs ∧
      (((∀ found, .cancelReturned t found ∉ evs) ∧
        (cancelling t c.inFlight = 1 → Stage t (∃ c ∈ visited, PassesUnseen t c) c)) ∨
      ∃ found, Returns t found (∃ c ∈ visited, PassesUnseen t c) evs c) := by
  induction ht with
  | nil =>
    refine ⟨[], (List.append_nil _).symm, .inl ⟨by simp, fun hone ↦ .before ?_ ?_ (by simp)⟩⟩
    · have hpos := le_load (g := beforeLooks t) hstarted
      simp only [beforeLooks, if_true, cancelling] at hpos hone
      omega
    · exact List.count_eq_zero_of_not_mem huncancelled
  | @snoc cs c c' a ht hs ih =>
    have hc := tallied_of_reachable (hr.trans ht.run)
    have hc' := tallied_of_reachable (hr.trans (ht.snoc hs).run)
    obtain ⟨later, hlater⟩ := history_prefix (Run.one hs)
    have huncompleted' : t ∉ completedIds c.history := by
      intro hmem
      apply huncompleted
      rw [← hlater, completedIds, idsOf_append]
      exact List.mem_append_left _ hmem
    obtain ⟨evs, hevs, hcase⟩ := ih (fun c hc ↦ halone c (by simp [hc])) huncompleted'
    have hone : cancelling t c.inFlight = 1 := halone c (by simp)
    rcases hcase with ⟨hquiet, hstage⟩ | ⟨found, hreturns⟩
    · have hmem : t ∈ pushedIds c.history := by
        rw [hevs, pushedIds, idsOf_append]
        exact List.mem_append_left _ henqueued
      have hseen : ((∃ c ∈ cs, PassesUnseen t c) ∨ PassesUnseen t c) =
          ∃ c' ∈ cs ++ [c], PassesUnseen t c' := by
        simp [or_and_right, exists_or]
      obtain ⟨evs', hevs', hcase⟩ := stage_step hs hc hc' hmem huncompleted hone (hstage hone)
      rw [hseen] at hcase
      refine ⟨evs ++ evs', by rw [hevs', hevs, List.append_assoc], ?_⟩
      rcases hcase with ⟨hquiet', hstage'⟩ | ⟨found, hreturns⟩
      · refine .inl ⟨fun found hmem ↦ ?_, hstage'⟩
        exact (List.mem_append.mp hmem).elim (hquiet found) (hquiet' found)
      · refine .inr ⟨found, hreturns.ended, fun found' hmem ↦ ?_, hreturns.verdict⟩
        rcases List.mem_append.mp hmem with hmem | hmem
        · exact absurd hmem (hquiet found')
        · exact hreturns.only found' hmem
    · have hended := hreturns.ended
      omega

/-- The cancellation is missed exactly when a `try_dequeue` has the task in hand
at some moment between the two looks. -/
theorem cancelTask_found_iff {maxConcurrent : Option ℕ} {t : TaskId} {found : Bool}
    {c₀ c : Config TaskQueue Point Event} {visited : List (Config TaskQueue Point Event)}
    (h : CancelTask maxConcurrent t found c₀ visited c) :
    (found = true ∧ t ∉ pendingIds c.shared ∧ activeCount c.shared t = 0) ↔
      ∀ c ∈ visited, ¬ PassesUnseen t c := by
  obtain ⟨evs, hevs, hmem⟩ := h.returned
  obtain ⟨evs', hevs', hcase⟩ := trace_stage h.reachable h.trace h.started h.alone h.enqueued
    h.uncancelled h.uncompleted
  obtain rfl := List.append_cancel_left (hevs.symm.trans hevs')
  rcases hcase with ⟨hquiet, _⟩ | ⟨found', hreturns⟩
  · exact absurd hmem (hquiet found)
  · obtain rfl := hreturns.only found hmem
    rw [hreturns.verdict]
    simp

def fixBuild : QueuedTask := ⟨"t1", "coder", ⟨"fix the build", .controlPanel "ann", none⟩⟩

def cancelPending : Config TaskQueue Point Event :=
  ⟨⟨[fixBuild], ∅, 3, 3, ["t1"]⟩, [.cancelActive "t1"], [.pushed "t1"]⟩

/-- A `try_dequeue` has just popped a task when its cancellation starts. -/
def cancelInHand : Config TaskQueue Point Event :=
  ⟨⟨[], ∅, 3, 2, ["t1"]⟩, [.insertActive fixBuild, .cancelActive "t1"],
    [.pushed "t1", .popped "t1"]⟩

theorem cancelTask_cancelPending : CancelTask none "t1" true cancelPending
    (visits program cancelPending [.act 0 .poll, .act 0 .poll])
    ⟨⟨[], ∅, 3, 3, ["t1"]⟩, [], [.pushed "t1", .cancelled "t1", .cancelReturned "t1" true]⟩ where
  reachable := run_of_play [.call (.enqueue fixBuild.agentId fixBuild.request),
    .act 0 (.uuid "t1"), .act 0 .poll, .call (.cancelTask "t1")] rfl
  trace := trace_of_play rfl
  started := by decide
  alone := by decide
  enqueued := by decide
  uncancelled := by decide
  uncompleted := by decide
  returned := ⟨_, rfl, by decide⟩

theorem cancelTask_found_iff_cancelPending :
    (true = true ∧ "t1" ∉ pendingIds ⟨[], ∅, 3, 3, ["t1"]⟩ ∧
      activeCount ⟨[], ∅, 3, 3, ["t1"]⟩ "t1" = 0) ↔
    ∀ c ∈ visits program cancelPending [.act 0 .poll, .act 0 .poll], ¬ PassesUnseen "t1" c :=
  cancelTask_found_iff cancelTask_cancelPending

theorem cancelTask_cancelInHand : CancelTask none "t1" false cancelInHand
    (visits program cancelInHand [.act 1 .poll, .act 1 .poll])
    ⟨⟨[], ∅, 3, 2, ["t1"]⟩, [.insertActive fixBuild],
      [.pushed "t1", .popped "t1", .cancelReturned "t1" false]⟩ where
  reachable := run_of_play [.call (.enqueue fixBuild.agentId fixBuild.request),
    .act 0 (.uuid "t1"), .act 0 .poll, .call .tryDequeue, .act 0 .poll, .act 0 .poll,
    .call (.cancelTask "t1")] rfl
  trace := trace_of_play rfl
  started := by decide
  alone := by decide
  enqueued := by decide
  uncancelled := by decide
  uncompleted := by decide
  returned := ⟨_, rfl, by decide⟩

theorem not_cancelTask_found : ¬ ∀ maxConcurrent t found c₀ visited c,
    CancelTask maxConcurrent t found c₀ visited c →
      found = true ∧ t ∉ pendingIds c.shared ∧ activeCount c.shared t = 0 :=
  fun h ↦ Bool.false_ne_true (h _ _ _ _ _ _ cancelTask_cancelInHand).1

end AdkGateway.CodingAgent.TaskQueue
