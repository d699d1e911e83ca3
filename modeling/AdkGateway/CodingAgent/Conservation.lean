import AdkGateway.CodingAgent.Queue

namespace AdkGateway.CodingAgent.TaskQueue

open Foundation Interleaving

section Ids

@[simp] def Event.pushed? : Event → Option TaskId
  | .pushed id => some id
  | _ => none

@[simp] def Event.popped? : Event → Option TaskId
  | .popped id => some id
  | _ => none

@[simp] def Event.completed? : Event → Option TaskId
  | .completed id => some id
  | _ => none

@[simp] def Event.cancelled? : Event → Option TaskId
  | .cancelled id => some id
  | _ => none

@[simp] def Event.released? : Event → Option TaskId
  | .released id => some id
  | _ => none

section

variable {ε : Type} (kind : ε → Option TaskId) (h h' : List ε)

def idsOf : List TaskId := h.filterMap kind

@[simp] theorem idsOf_nil : idsOf kind [] = [] := rfl

@[simp] theorem idsOf_cons (e : ε) : idsOf kind (e :: h) = (kind e).toList ++ idsOf kind h := by
  cases hk : kind e <;> simp [idsOf, hk]

@[simp] theorem idsOf_append : idsOf kind (h ++ h') = idsOf kind h ++ idsOf kind h' :=
  List.filterMap_append

end

variable (h : List Event)

abbrev pushedIds : List TaskId := idsOf Event.pushed? h

abbrev poppedIds : List TaskId := idsOf Event.popped? h

abbrev completedIds : List TaskId := idsOf Event.completed? h

abbrev cancelledIds : List TaskId := idsOf Event.cancelled? h

abbrev releasedIds : List TaskId := idsOf Event.released? h

end Ids

section Weights

def pendingIds (q : TaskQueue) : List TaskId := q.pending.map (·.taskId)

def activeCount (q : TaskQueue) (t : TaskId) : ℕ := if (q.active.lookup t).isSome then 1 else 0

/-- A call that will push the task. -/
@[simp] def pushing (t : TaskId) : Point → ℕ
  | .push task => if task.taskId = t then 1 else 0
  | _ => 0

/-- A `try_dequeue` with the task in hand. -/
@[simp] def inHand (t : TaskId) : Point → ℕ
  | .insertActive task => if task.taskId = t then 1 else 0
  | _ => 0

/-- A call that has taken the task out of the active map and drops its permit next. -/
@[simp] def releasing (t : TaskId) : Point → ℕ
  | .completeRelease id => if id = t then 1 else 0
  | .cancelRelease id => if id = t then 1 else 0
  | _ => 0

/-- A `try_dequeue` that holds a permit and no task. -/
@[simp] def waiting : Point → ℕ
  | .popFront => 1
  | .dropPermit => 1
  | _ => 0

/-- A call that holds the permit of some task. -/
@[simp] def holding : Point → ℕ
  | .insertActive _ => 1
  | .completeRelease _ => 1
  | .cancelRelease _ => 1
  | _ => 0

end Weights

section Moves

variable {q q' : TaskQueue} {p : Point} {o : Point ⊕ Output} {evs : List Event}

/-- No task in hand is active already, so `DashMap::insert` overwrites nothing. -/
def Clear (q : TaskQueue) (p : Point) : Prop :=
  ∀ task, p = .insertActive task → activeCount q task.taskId = 0

theorem activeCount_insert (q : TaskQueue) (id t : TaskId) (task : ActiveTask) (n : ℕ) :
    activeCount { q with active := q.active.insert id task, slots := n } t =
      if t = id then 1 else activeCount q t := by
  unfold activeCount
  rw [KeyedMap.lookup_insert_if]
  by_cases ht : t = id <;> simp [ht]

theorem activeCount_erase (q : TaskQueue) (id t : TaskId) :
    activeCount { q with active := q.active.erase id } t = if t = id then 0 else activeCount q t := by
  unfold activeCount
  rw [KeyedMap.lookup_erase_if]
  by_cases ht : t = id <;> simp [ht]

theorem pendingIds_eraseP (q : TaskQueue) (id : TaskId) :
    pendingIds { q with pending := q.pending.eraseP (·.taskId = id) } = (pendingIds q).erase id := by
  have htest : (fun task : QueuedTask ↦ decide (task.taskId = id)) =
      (fun x ↦ id == x) ∘ fun task ↦ task.taskId := by
    funext task
    simp only [Function.comp_apply, beq_eq_decide, eq_comm]
  rw [pendingIds, pendingIds, List.erase_eq_eraseP, List.eraseP_map, htest]

theorem activeCount_of_isSome {id : TaskId} (h : (q.active.lookup id).isSome) :
    activeCount q id = 1 := if_pos h

theorem moves_maxConcurrent (hm : Moves q p q' o evs) : q'.maxConcurrent = q.maxConcurrent := by
  cases hm <;> rfl

theorem moves_permits (hm : Moves q p q' o evs) :
    q'.slots + KeyedMap.size q'.active + load holding (remaining o) + load waiting (remaining o) =
      q.slots + KeyedMap.size q.active + holding p + waiting p := by
  cases hm with
  | insert =>
    rename_i task
    have hsize := KeyedMap.size_insert task.taskId
      (⟨task.taskId, task.agentId, task.request⟩ : ActiveTask) q.active
    simp
    omega
  | @complete id hfound | @cancelActive id hfound =>
    have hsize := KeyedMap.size_erase id q.active
    rw [if_pos hfound] at hsize
    simp
    omega
  | acquire hslots =>
    simp
    omega
  | _ =>
    simp
    try omega

theorem moves_place (hm : Moves q p q' o evs) (hclear : Clear q p) (t : TaskId) :
    (pendingIds q').count t + activeCount q' t + load (inHand t) (remaining o) +
        (completedIds evs).count t + (cancelledIds evs).count t =
      (pendingIds q).count t + activeCount q t + inHand t p + (pushedIds evs).count t := by
  cases hm with
  | @insert task =>
    have hnone := hclear task rfl
    rw [activeCount_insert]
    by_cases ht : t = task.taskId
    · subst ht
      simp [hnone, pendingIds]
    · simp [ht, Ne.symm ht, pendingIds]
  | @complete id hfound | @cancelActive id hfound =>
    rw [activeCount_erase]
    by_cases ht : t = id
    · subst ht
      simp [activeCount_of_isSome hfound, pendingIds]
    · simp [ht, Ne.symm ht, pendingIds]
  | @cancelPending id hfound =>
    rw [pendingIds_eraseP]
    by_cases ht : t = id
    · subst ht
      have hpos : 0 < (pendingIds q).count t := List.count_pos_iff.mpr hfound
      have herase : ((pendingIds q).erase t).count t = (pendingIds q).count t - 1 :=
        List.count_erase_self
      simp [herase, activeCount]
      omega
    · simp [ht, Ne.symm ht, activeCount]
  | pop hcons =>
    simp [hcons, pendingIds, activeCount, List.count_cons, add_right_comm]
  | _ => simp [pendingIds, activeCount, add_comm, add_left_comm]

theorem moves_popped (hm : Moves q p q' o evs) (hclear : Clear q p) (t : TaskId) :
    activeCount q' t + load (inHand t) (remaining o) + load (releasing t) (remaining o) +
        (releasedIds evs).count t =
      activeCount q t + inHand t p + releasing t p + (poppedIds evs).count t := by
  cases hm with
  | @insert task =>
    have hnone := hclear task rfl
    rw [activeCount_insert]
    by_cases ht : t = task.taskId
    · subst ht
      simp [hnone]
    · simp [ht, Ne.symm ht]
  | @complete id hfound | @cancelActive id hfound =>
    rw [activeCount_erase]
    by_cases ht : t = id
    · subst ht
      simp [activeCount_of_isSome hfound]
    · simp [ht, Ne.symm ht]
  | _ => simp [activeCount, List.count_cons]

theorem moves_outstanding (hm : Moves q p q' o evs) (hclear : Clear q p) :
    KeyedMap.size q'.active + load holding (remaining o) + (releasedIds evs).length =
      KeyedMap.size q.active + holding p + (poppedIds evs).length := by
  cases hm with
  | @insert task =>
    have hnone : ¬ (q.active.lookup task.taskId).isSome := fun hsome ↦ by
      have hclear := hclear task rfl
      rw [activeCount_of_isSome hsome] at hclear
      cases hclear
    have hsize := KeyedMap.size_insert task.taskId
      (⟨task.taskId, task.agentId, task.request⟩ : ActiveTask) q.active
    rw [if_neg hnone] at hsize
    simpa using hsize
  | @complete id hfound | @cancelActive id hfound =>
    have hsize := KeyedMap.size_erase id q.active
    rw [if_pos hfound] at hsize
    simpa using hsize
  | _ => simp

theorem moves_issued (hm : Moves q p q' o evs) (hnodup : q.issued.Nodup) (t : TaskId) :
    q'.issued.Nodup ∧ load (pushing t) (remaining o) + (pushedIds evs).count t + q.issued.count t ≤
      pushing t p + q'.issued.count t := by
  cases hm with
  | issue hid => exact ⟨List.nodup_cons.mpr ⟨hid, hnodup⟩, by simp [List.count_cons, add_comm]⟩
  | push => exact ⟨hnodup, by simp [List.count_cons]⟩
  | _ => exact ⟨hnodup, by simp⟩

theorem moves_order (hm : Moves q p q' o evs) {h : List Event}
    (hsub : (poppedIds h ++ pendingIds q).Sublist (pushedIds h)) :
    (poppedIds (h ++ evs) ++ pendingIds q').Sublist (pushedIds (h ++ evs)) := by
  cases hm with
  | @push task =>
    have hmore := hsub.append (List.Sublist.refl [task.taskId])
    simpa [pendingIds] using hmore
  | pop hcons => simpa [pendingIds, hcons] using hsub
  | @cancelPending id hfound =>
    have hless := List.Sublist.append (List.Sublist.refl (poppedIds h))
      (List.erase_sublist (a := id) (l := pendingIds q))
    rw [pendingIds_eraseP]
    simpa using hless.trans hsub
  | _ => simpa [pendingIds] using hsub

end Moves

structure Tallied (c : Config TaskQueue Point Event) : Prop where
  permits : c.shared.slots + KeyedMap.size c.shared.active + load holding c.inFlight +
    load waiting c.inFlight = c.shared.maxConcurrent
  place : ∀ t, (pendingIds c.shared).count t + activeCount c.shared t + load (inHand t) c.inFlight +
    (completedIds c.history).count t + (cancelledIds c.history).count t =
      (pushedIds c.history).count t
  popped : ∀ t, activeCount c.shared t + load (inHand t) c.inFlight +
    load (releasing t) c.inFlight + (releasedIds c.history).count t = (poppedIds c.history).count t
  outstanding : KeyedMap.size c.shared.active + load holding c.inFlight +
    (releasedIds c.history).length = (poppedIds c.history).length
  nodup : c.shared.issued.Nodup
  issued : ∀ t, load (pushing t) c.inFlight + (pushedIds c.history).count t ≤
    c.shared.issued.count t
  order : (poppedIds c.history ++ pendingIds c.shared).Sublist (pushedIds c.history)

namespace Tallied

variable {q q' : TaskQueue} {l r : List Point} {p : Point} {o : Point ⊕ Output}
  {h evs : List Event} {c : Config TaskQueue Point Event}

theorem initial (maxConcurrent : Option ℕ) : Tallied (Interleaving.initial (new maxConcurrent)) := by
  refine ⟨?_, fun t ↦ ?_, fun t ↦ ?_, ?_, List.nodup_nil, fun t ↦ ?_, List.Sublist.refl _⟩
  · exact Nat.add_zero _
  · exact rfl
  · exact rfl
  · exact rfl
  · exact Nat.zero_le _

theorem pushed_le_one (hc : Tallied c) (t : TaskId) : (pushedIds c.history).count t ≤ 1 := by
  have hissued := hc.issued t
  have hone := List.nodup_iff_count_le_one.mp hc.nodup t
  omega

theorem clear (hc : Tallied ⟨q, l ++ p :: r, h⟩) : Clear q p := by
  intro task hp
  have hplace := hc.place task.taskId
  have hone := hc.pushed_le_one task.taskId
  have hhand : inHand task.taskId p ≤ load (inHand task.taskId) (l ++ p :: r) :=
    le_load (by simp)
  subst hp
  simp only [inHand, if_true] at hplace hone hhand
  omega

theorem call (hc : Tallied ⟨q, l ++ r, h⟩) (k : Call) : Tallied ⟨q, l ++ start k :: r, h⟩ := by
  obtain ⟨hpermits, hplace, hpopped, hout, hnodup, hissued, horder⟩ := hc
  refine ⟨?_, fun t ↦ ?_, fun t ↦ ?_, ?_, hnodup, fun t ↦ ?_, horder⟩
  · cases k <;> simpa [start] using hpermits
  · cases k <;> simpa [start] using hplace t
  · cases k <;> simpa [start] using hpopped t
  · cases k <;> simpa [start] using hout
  · cases k <;> simpa [start] using hissued t

theorem act (hc : Tallied ⟨q, l ++ p :: r, h⟩) (hm : Moves q p q' o evs) :
    Tallied ⟨q', l ++ (remaining o ++ r), h ++ evs⟩ := by
  have hclear : Clear q p := hc.clear
  refine ⟨?_, fun t ↦ ?_, fun t ↦ ?_, ?_, (moves_issued hm hc.nodup "").1, fun t ↦ ?_,
    moves_order hm hc.order⟩
  · have hbefore := hc.permits
    have hmove := moves_permits hm
    have hmax := moves_maxConcurrent hm
    have hholding := load_act holding l r p o
    have hwaiting := load_act waiting l r p o
    simp only at hbefore ⊢
    omega
  · have hbefore := hc.place t
    have hmove := moves_place hm hclear t
    have hhand := load_act (inHand t) l r p o
    simp only [pushedIds, completedIds, cancelledIds, idsOf_append, List.count_append]
      at hbefore hmove ⊢
    omega
  · have hbefore := hc.popped t
    have hmove := moves_popped hm hclear t
    have hhand := load_act (inHand t) l r p o
    have hreleasing := load_act (releasing t) l r p o
    simp only [poppedIds, releasedIds, idsOf_append, List.count_append] at hbefore hmove ⊢
    omega
  · have hbefore := hc.outstanding
    have hmove := moves_outstanding hm hclear
    have hholding := load_act holding l r p o
    simp only [poppedIds, releasedIds, idsOf_append, List.length_append] at hbefore hmove ⊢
    omega
  · have hbefore := hc.issued t
    have hmove := (moves_issued hm hc.nodup t).2
    have hpushing := load_act (pushing t) l r p o
    simp only [pushedIds, idsOf_append, List.count_append] at hbefore hmove ⊢
    omega

end Tallied

theorem tallied_of_reachable {maxConcurrent : Option ℕ} {c : Config TaskQueue Point Event}
    (hc : Reachable program (new maxConcurrent) c) : Tallied c :=
  hc.invariant (fun _ _ ↦ trivial) (.initial maxConcurrent) (fun k _ _ hc ↦ hc.call k)
    fun _ hstep _ _ hc ↦ hc.act (moves_of_step hstep)

theorem maxConcurrent_of_reachable {maxConcurrent : Option ℕ} {c : Config TaskQueue Point Event}
    (hc : Reachable program (new maxConcurrent) c) :
    c.shared.maxConcurrent = maxConcurrent.getD defaultMaxConcurrent := by
  induction hc with
  | refl => rfl
  | step _ _ hs ih =>
    cases hs with
    | call k => exact ih
    | act i hstep => exact (moves_maxConcurrent (moves_of_step hstep)).trans ih

def unreleased (h : List Event) : List TaskId := (poppedIds h).filter (· ∉ releasedIds h)

namespace Tallied

variable {c : Config TaskQueue Point Event}

theorem poppedIds_sublist (hc : Tallied c) : (poppedIds c.history).Sublist (pushedIds c.history) :=
  (List.sublist_append_left _ _).trans hc.order

theorem poppedIds_nodup (hc : Tallied c) : (poppedIds c.history).Nodup :=
  hc.poppedIds_sublist.nodup (List.nodup_iff_count_le_one.mpr hc.pushed_le_one)

theorem released_le_popped (hc : Tallied c) (t : TaskId) :
    (releasedIds c.history).count t ≤ (poppedIds c.history).count t := by
  have hpopped := hc.popped t
  omega

theorem length_unreleased (hc : Tallied c) :
    (unreleased c.history).length + (releasedIds c.history).length =
      (poppedIds c.history).length := by
  have hnodup : (releasedIds c.history).Nodup := by
    refine List.nodup_iff_count_le_one.mpr fun t ↦ ?_
    exact (hc.released_le_popped t).trans (List.nodup_iff_count_le_one.mp hc.poppedIds_nodup t)
  have hperm : ((poppedIds c.history).filter (· ∈ releasedIds c.history)).Perm
      (releasedIds c.history) := by
    refine (List.perm_ext_iff_of_nodup (hc.poppedIds_nodup.filter _) hnodup).mpr fun t ↦ ?_
    simp only [List.mem_filter, decide_eq_true_eq]
    refine ⟨And.right, fun ht ↦ ⟨?_, ht⟩⟩
    exact List.count_pos_iff.mp ((List.count_pos_iff.mpr ht).trans_le (hc.released_le_popped t))
  have hsplit := List.length_eq_length_filter_add (l := poppedIds c.history)
    (· ∈ releasedIds c.history)
  rw [hperm.length_eq] at hsplit
  simp only [unreleased, decide_not]
  omega

end Tallied

/-- Conservation of a queue of `max` slots, where calls that hold a permit
without a task may count `extra`. -/
structure Conserves (extra : Point → ℕ) (max : ℕ) (c : Config TaskQueue Point Event) : Prop where
  permits : c.shared.slots + (unreleased c.history).length + load extra c.inFlight = max
  order : (poppedIds c.history).Sublist (pushedIds c.history)
  once : (poppedIds c.history).Nodup
  placed : c.inFlight = [] → ∀ t ∈ pushedIds c.history,
    (pendingIds c.shared).count t + activeCount c.shared t + (completedIds c.history).count t +
      (cancelledIds c.history).count t = 1

/-- In every interleaving, each slot is free, owned by a task dequeued and not
released, or held by a `try_dequeue` that has no task. -/
theorem conserves_of_reachable (maxConcurrent : Option ℕ) (c : Config TaskQueue Point Event)
    (hc : Reachable program (new maxConcurrent) c) :
    Conserves waiting (maxConcurrent.getD defaultMaxConcurrent) c := by
  have htally := tallied_of_reachable hc
  refine ⟨?_, htally.poppedIds_sublist, htally.poppedIds_nodup, fun hquiet t ht ↦ ?_⟩
  · have hpermits := htally.permits
    have hmax := maxConcurrent_of_reachable hc
    have hout := htally.outstanding
    have hlength := htally.length_unreleased
    omega
  · have hplace := htally.place t
    have hone := htally.pushed_le_one t
    have hpos := List.count_pos_iff.mpr ht
    rw [hquiet, load_nil] at hplace
    omega

def dequeueOne : List (Move Call Input) :=
  [.call (.enqueue "coder" ⟨"fix the build", .controlPanel "ann", none⟩), .act 0 (.uuid "t1"),
    .act 0 .poll, .call .tryDequeue, .act 0 .poll, .act 0 .poll, .act 0 .poll]

def dequeuedOne : Config TaskQueue Point Event :=
  ⟨⟨[], AList.singleton "t1" ⟨"t1", "coder", ⟨"fix the build", .controlPanel "ann", none⟩⟩,
    3, 2, ["t1"]⟩, [], [.pushed "t1", .popped "t1", .activated "t1"]⟩

theorem conserves_of_reachable_dequeuedOne : Conserves waiting 3 dequeuedOne :=
  conserves_of_reachable none dequeuedOne (run_of_play dequeueOne rfl)

/-- A `try_dequeue` has acquired its permit and not looked at the queue yet. -/
theorem not_conserves : ¬ ∀ maxConcurrent c, Reachable program (new maxConcurrent) c →
    Conserves (fun _ ↦ 0) (maxConcurrent.getD defaultMaxConcurrent) c := by
  intro h
  have hrun : Reachable program (new none) ⟨{ new none with slots := 2 }, [.popFront], []⟩ :=
    run_of_play [.call .tryDequeue, .act 0 .poll] rfl
  exact absurd (h none _ hrun).permits (by decide)

end AdkGateway.CodingAgent.TaskQueue
