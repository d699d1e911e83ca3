import AdkGateway.ProcessManager.Moves

namespace AdkGateway.ProcessManager

open Foundation Interleaving

/-- The child is in the table under its agent, or a call is about to put it
there or to kill it. -/
def Recorded (c : Config ProcessManager Point Empty) (child : ℕ) (x : Child) : Prop :=
  c.shared.processes.lookup x.agentId = some ⟨x.port, child⟩ ∨
    ∃ p ∈ c.inFlight, inHand p = some (x.agentId, ⟨x.port, child⟩)

structure Unique (c : Config ProcessManager Point Empty) : Prop where
  port : ∀ {child child' : ℕ} {x x' : Child}, c.shared.running.lookup child = some x →
    c.shared.running.lookup child' = some x' → x.port = x'.port → child = child'
  recorded : ∀ {child : ℕ} {x : Child}, c.shared.running.lookup child = some x →
    Recorded c child x
  agent : ∀ {child child' : ℕ} {x x' : Child}, c.shared.running.lookup child = some x →
    c.shared.running.lookup child' = some x' → x.agentId = x'.agentId → child = child'

/-- A spawn finds no entry of its agent only while no other spawn is past this
point and no child of the agent waits to be killed; it fetches no port that
another call holds; and an entry is removed only when its child has ended, or
with no spawn at its port. -/
def Respects (c : Config ProcessManager Point Empty) : Label Call Point Input → Prop
  | .act (.containsKey args) _ => c.shared.processes.lookup args.agentId = none →
    ∀ q ∈ c.inFlight, heldAgent q ≠ some args.agentId
  | .act (.fetchAdd _ (_ + 1)) _ => c.shared.nextPort ≤ c.shared.endPort →
    ∀ q ∈ c.inFlight, heldPort q ≠ some c.shared.nextPort
  | .act (.remove agentId) _ => ∀ process, c.shared.processes.lookup agentId = some process →
    c.shared.running.lookup process.child = none
  | .act (.removeProcess agentId) _ => ∀ process,
    c.shared.processes.lookup agentId = some process →
      ∀ q ∈ c.inFlight, heldPort q ≠ some process.port
  | _ => True

structure Kept (c : Config ProcessManager Point Empty) : Prop where
  agents : (pick heldAgent c.inFlight).Nodup
  ports : (pick heldPort c.inFlight).Nodup
  absent : ∀ p ∈ c.inFlight, ∀ agentId, heldAgent p = some agentId →
    c.shared.processes.lookup agentId = none
  distinct : ∀ {agentId agentId' : String} {process process' : ManagedProcess},
    c.shared.processes.lookup agentId = some process →
    c.shared.processes.lookup agentId' = some process' →
    process.port = process'.port → agentId = agentId'
  free : ∀ p ∈ c.inFlight, ∀ port unseen, soughtPort p = some (port, unseen) →
    FreeUpTo c.shared.processes port unseen
  started : ∀ {child : ℕ} {x : Child}, c.shared.running.lookup child = some x →
    child < c.shared.started
  recorded : ∀ {child : ℕ} {x : Child}, c.shared.running.lookup child = some x →
    Recorded c child x

section Kept

variable {c : Config ProcessManager Point Empty}

theorem Kept.notMem_table (hc : Kept c) {p : Point} {agentId : String} {process : ManagedProcess}
    (hp : p ∈ c.inFlight) (h : inHand p = some (agentId, process)) {agentId' : String}
    {process' : ManagedProcess} (h' : c.shared.processes.lookup agentId' = some process') :
    agentId ≠ agentId' ∧ process.port ≠ process'.port := by
  constructor
  · rintro rfl
    simp [hc.absent p hp _ (heldAgent_of_inHand h)] at h'
  · intro hport
    have hmem := hc.free p hp _ _ (soughtPort_of_inHand h) _ _ h' hport.symm
    simp at hmem

theorem Kept.unique (hc : Kept c) : Unique c where
  recorded := hc.recorded
  port {child child' x x'} hx hx' hport := by
    obtain hin | ⟨p, hp, hin⟩ := hc.recorded hx <;>
      obtain hin' | ⟨p', hp', hin'⟩ := hc.recorded hx'
    · have hagent : x.agentId = x'.agentId := hc.distinct hin hin' hport
      rw [hagent, hin', Option.some.injEq, ManagedProcess.mk.injEq] at hin
      exact hin.2.symm
    · exact absurd hport.symm (hc.notMem_table hp' hin' hin).2
    · exact absurd hport (hc.notMem_table hp hin hin').2
    · have hheld : heldPort p = some x'.port := by
        rw [heldPort_of_inHand hin, ← hport]
      obtain rfl := eq_of_nodup_pick hc.ports hp hp' hheld (heldPort_of_inHand hin')
      rw [hin, Option.some.injEq, Prod.mk.injEq, ManagedProcess.mk.injEq] at hin'
      exact hin'.2.2
  agent {child child' x x'} hx hx' hagent := by
    obtain hin | ⟨p, hp, hin⟩ := hc.recorded hx <;>
      obtain hin' | ⟨p', hp', hin'⟩ := hc.recorded hx'
    · rw [hagent, hin', Option.some.injEq, ManagedProcess.mk.injEq] at hin
      exact hin.2.symm
    · exact absurd hagent.symm (hc.notMem_table hp' hin' hin).1
    · exact absurd hagent (hc.notMem_table hp hin hin').1
    · have hheld : heldAgent p = some x'.agentId := by
        rw [heldAgent_of_inHand hin, ← hagent]
      obtain rfl := eq_of_nodup_pick hc.agents hp hp' hheld (heldAgent_of_inHand hin')
      rw [hin, Option.some.injEq, Prod.mk.injEq, ManagedProcess.mk.injEq] at hin'
      exact hin'.2.2

theorem kept_initial (startPort endPort : UInt16) : Kept (initial (new startPort endPort)) where
  agents := .nil
  ports := .nil
  absent := nofun
  distinct h := by simp [initial, new] at h
  free := nofun
  started h := by simp [initial, new] at h
  recorded h := by simp [initial, new] at h

end Kept

section Steps

variable {pm pm' : ProcessManager} {l r : List Point} {p : Point} {o : Point ⊕ Output}
  {h evs : List Empty}

/-- What stays recorded when the entry that a call has in hand is not lost. -/
theorem recorded_act {child : ℕ} {x : Child} (hrec : Recorded ⟨pm, l ++ p :: r, h⟩ child x)
    (htable : pm.processes.lookup x.agentId = some ⟨x.port, child⟩ →
      Recorded ⟨pm', l ++ (remaining o ++ r), h ++ evs⟩ child x)
    (hhand : inHand p = some (x.agentId, ⟨x.port, child⟩) →
      Recorded ⟨pm', l ++ (remaining o ++ r), h ++ evs⟩ child x) :
    Recorded ⟨pm', l ++ (remaining o ++ r), h ++ evs⟩ child x := by
  obtain hin | ⟨q, hq, hin⟩ := hrec
  · exact htable hin
  · obtain hq | rfl := mem_middle.mp hq
    · exact .inr ⟨q, mem_act.mpr (.inl hq), hin⟩
    · exact hhand hin

/-- A step that leaves the table alone and adds no child keeps what its new
claims allow. -/
theorem kept_goes (hc : Kept ⟨pm, l ++ p :: r, h⟩) (hprocesses : pm'.processes = pm.processes)
    (hrunning : ∀ {child x}, pm'.running.lookup child = some x →
      pm.running.lookup child = some x ∧ inHand p ≠ some (x.agentId, ⟨x.port, child⟩))
    (hstarted : pm'.started = pm.started)
    (hagent : ∀ p' agentId, o = .inl p' → heldAgent p' = some agentId →
      heldAgent p = some agentId ∨
        agentId ∉ pick heldAgent (l ++ r) ∧ pm.processes.lookup agentId = none)
    (hport : ∀ p' port, o = .inl p' → heldPort p' = some port →
      heldPort p = some port ∨ port ∉ pick heldPort (l ++ r))
    (hfree : ∀ p' port unseen, o = .inl p' → soughtPort p' = some (port, unseen) →
      FreeUpTo pm.processes port unseen) :
    Kept ⟨pm', l ++ (remaining o ++ r), h ++ evs⟩ where
  agents := nodup_pick_act hc.agents fun p' agentId ho hp' ↦
    (hagent p' agentId ho hp').imp_right And.left
  ports := nodup_pick_act hc.ports hport
  absent q hq agentId hheld := by
    change pm'.processes.lookup agentId = none
    rw [hprocesses]
    obtain hq | ho := mem_act.mp hq
    · exact hc.absent q (mem_middle.mpr (.inl hq)) agentId hheld
    · obtain hp | ⟨-, hnone⟩ := hagent q agentId ho hheld
      · exact hc.absent p (mem_middle.mpr (.inr rfl)) agentId hp
      · exact hnone
  distinct := by
    change ∀ {agentId agentId' : String} {process process' : ManagedProcess},
      pm'.processes.lookup agentId = some process → pm'.processes.lookup agentId' = some process' →
        process.port = process'.port → agentId = agentId'
    rw [hprocesses]
    exact hc.distinct
  free q hq port unseen hsought := by
    change FreeUpTo pm'.processes port unseen
    rw [hprocesses]
    obtain hq | ho := mem_act.mp hq
    · exact hc.free q (mem_middle.mpr (.inl hq)) port unseen hsought
    · exact hfree q port unseen ho hsought
  started {child x} hx := by
    change child < pm'.started
    rw [hstarted]
    exact hc.started (hrunning hx).1
  recorded {child x} hx := by
    refine recorded_act (hc.recorded (hrunning hx).1) ?_ fun hhand ↦ absurd hhand (hrunning hx).2
    intro hin
    refine .inl ?_
    change pm'.processes.lookup x.agentId = _
    rwa [hprocesses]

theorem kept_follows (hc : Kept ⟨pm, l ++ p :: r, h⟩) (hprocesses : pm'.processes = pm.processes)
    (hrunning : ∀ {child x}, pm'.running.lookup child = some x →
      pm.running.lookup child = some x ∧ inHand p ≠ some (x.agentId, ⟨x.port, child⟩))
    (hstarted : pm'.started = pm.started)
    (ho : ∀ p', o = .inl p' → Follows pm.processes p p') :
    Kept ⟨pm', l ++ (remaining o ++ r), h ++ evs⟩ := by
  refine kept_goes hc hprocesses hrunning hstarted ?_ ?_ ?_
  · intro p' agentId hp' hheld
    exact .inl ((ho p' hp').agent agentId hheld)
  · intro p' port hp' hheld
    exact .inl ((ho p' hp').port port hheld)
  · intro p' port unseen hp' hsought
    obtain hfree | ⟨unseen', hsought', hseen⟩ := (ho p' hp').sought port unseen hsought
    · exact hfree
    · intro agentId process hprocess hport
      by_contra hnot
      have hmem := hc.free p (mem_middle.mpr (.inr rfl)) port unseen' hsought' agentId process
        hprocess hport
      exact hseen agentId hmem hnot process hprocess hport

theorem kept_started {args : SpawnArgs} {port : UInt16}
    (hc : Kept ⟨pm, l ++ .startChild args port :: r, h⟩) :
    Kept ⟨{ pm with
        running := pm.running.insert pm.started ⟨args.agentId, port⟩
        started := pm.started + 1 },
      l ++ (remaining (.inl (.insert args port pm.started) : Point ⊕ Output) ++ r), h ++ evs⟩ where
  agents := nodup_pick_act hc.agents fun p' agentId ho hheld ↦ by
    cases ho
    exact .inl hheld
  ports := nodup_pick_act hc.ports fun p' port' ho hheld ↦ by
    cases ho
    exact .inl hheld
  absent q hq agentId hheld := by
    obtain hq | ho := mem_act.mp hq
    · exact hc.absent q (mem_middle.mpr (.inl hq)) agentId hheld
    · cases ho
      exact hc.absent _ (mem_middle.mpr (.inr rfl)) agentId hheld
  distinct := hc.distinct
  free q hq port' unseen hsought := by
    obtain hq | ho := mem_act.mp hq
    · exact hc.free q (mem_middle.mpr (.inl hq)) port' unseen hsought
    · cases ho
      exact hc.free _ (mem_middle.mpr (.inr rfl)) port' unseen hsought
  started {child x} hx := by
    obtain ⟨rfl, -⟩ | ⟨-, hold⟩ := KeyedMap.lookup_insert_eq_some.mp hx
    · exact Nat.lt_succ_self _
    · exact Nat.lt_succ_of_lt (hc.started hold)
  recorded {child x} hx := by
    obtain ⟨rfl, rfl⟩ | ⟨-, hold⟩ := KeyedMap.lookup_insert_eq_some.mp hx
    · exact .inr ⟨_, mem_act.mpr (.inr rfl), rfl⟩
    · exact recorded_act (hc.recorded hold) .inl nofun

theorem kept_inserted {args : SpawnArgs} {port : UInt16} {child : ℕ} {x : Output}
    (hc : Kept ⟨pm, l ++ .insert args port child :: r, h⟩) :
    Kept ⟨{ pm with processes := pm.processes.insert args.agentId ⟨port, child⟩ },
      l ++ (remaining (.inr x : Point ⊕ Output) ++ r), h ++ evs⟩ := by
  have hmem : Point.insert args port child ∈ l ++ .insert args port child :: r :=
    mem_middle.mpr (.inr rfl)
  have hnone : pm.processes.lookup args.agentId = none := hc.absent _ hmem _ rfl
  have hport {agentId : String} {process : ManagedProcess}
      (hprocess : pm.processes.lookup agentId = some process) : port ≠ process.port :=
    (hc.notMem_table hmem rfl hprocess).2
  constructor
  · exact nodup_pick_act hc.agents nofun
  · exact nodup_pick_act hc.ports nofun
  · intro q hq agentId hheld
    obtain hq | ho := mem_act.mp hq
    · have hne : agentId ≠ args.agentId := by
        rintro rfl
        exact notMem_of_nodup_pick hc.agents rfl (mem_pick _ _ |>.mpr ⟨q, hq, hheld⟩)
      change (pm.processes.insert _ _).lookup agentId = none
      rw [KeyedMap.lookup_insert_if, if_neg hne]
      exact hc.absent q (mem_middle.mpr (.inl hq)) agentId hheld
    · cases ho
  · intro agentId agentId' process process' hprocess hprocess' heq
    obtain ⟨hid, rfl⟩ | ⟨-, hprocess⟩ := KeyedMap.lookup_insert_eq_some.mp hprocess
    · obtain ⟨hid', -⟩ | ⟨-, hprocess'⟩ := KeyedMap.lookup_insert_eq_some.mp hprocess'
      · exact hid.trans hid'.symm
      · exact absurd heq (hport hprocess')
    · obtain ⟨-, rfl⟩ | ⟨-, hprocess'⟩ := KeyedMap.lookup_insert_eq_some.mp hprocess'
      · exact absurd heq.symm (hport hprocess)
      · exact hc.distinct hprocess hprocess' heq
  · intro q hq port' unseen hsought
    obtain hq | ho := mem_act.mp hq
    · intro agentId process hprocess heq
      obtain ⟨-, rfl⟩ | ⟨-, hprocess⟩ := KeyedMap.lookup_insert_eq_some.mp hprocess
      · have hheld : heldPort q = some port := by
          rw [heldPort_of_soughtPort hsought, ← heq]
        exact absurd (mem_pick _ _ |>.mpr ⟨q, hq, hheld⟩) (notMem_of_nodup_pick hc.ports rfl)
      · exact hc.free q (mem_middle.mpr (.inl hq)) port' unseen hsought agentId process hprocess heq
    · cases ho
  · exact hc.started
  · intro child' x' hx'
    refine recorded_act (hc.recorded hx') ?_ ?_
    · intro hin
      have hne : x'.agentId ≠ args.agentId := by
        intro heq
        rw [heq, hnone] at hin
        cases hin
      refine .inl ?_
      change (pm.processes.insert _ _).lookup x'.agentId = _
      rwa [KeyedMap.lookup_insert_if, if_neg hne]
    · intro hhand
      obtain ⟨hagent, hprocess⟩ := Prod.mk.inj (Option.some.inj hhand)
      refine .inl ?_
      change (pm.processes.insert _ _).lookup x'.agentId = _
      rw [KeyedMap.lookup_insert_if, if_pos hagent.symm, hprocess]

theorem kept_erased {agentId : String} (hc : Kept ⟨pm, l ++ p :: r, h⟩) (hp : inHand p = none)
    (hagents : (pick heldAgent (l ++ (remaining o ++ r))).Nodup)
    (hports : (pick heldPort (l ++ (remaining o ++ r))).Nodup)
    (ho : ∀ p', o = .inl p' → ∃ process, pm.processes.lookup agentId = some process ∧
      p' = .kill agentId process)
    (hchild : ∀ process, pm.processes.lookup agentId = some process →
      pm.running.lookup process.child = none ∨ o = .inl (.kill agentId process)) :
    Kept ⟨{ pm with processes := pm.processes.erase agentId },
      l ++ (remaining o ++ r), h ++ evs⟩ where
  agents := hagents
  ports := hports
  absent q hq agentId' hheld := by
    change (pm.processes.erase agentId).lookup agentId' = none
    rw [KeyedMap.lookup_erase_if]
    split
    · rfl
    next hne =>
      obtain hq | hq := mem_act.mp hq
      · exact hc.absent q (mem_middle.mpr (.inl hq)) agentId' hheld
      · obtain ⟨process, -, rfl⟩ := ho q hq
        exact absurd (Option.some.inj hheld).symm hne
  distinct hprocess hprocess' heq :=
    hc.distinct (KeyedMap.lookup_erase_eq_some.mp hprocess).2
      (KeyedMap.lookup_erase_eq_some.mp hprocess').2 heq
  free q hq port unseen hsought agentId' process' hprocess' heq := by
    obtain ⟨hne, hprocess'⟩ := KeyedMap.lookup_erase_eq_some.mp hprocess'
    obtain hq | hq := mem_act.mp hq
    · exact hc.free q (mem_middle.mpr (.inl hq)) port unseen hsought agentId' process' hprocess' heq
    · obtain ⟨process, hprocess, rfl⟩ := ho q hq
      cases hsought
      exact absurd (hc.distinct hprocess' hprocess heq) hne
  started := hc.started
  recorded {child x} hx := by
    refine recorded_act (hc.recorded hx) ?_ fun hhand ↦ ?_
    · intro hin
      by_cases heq : x.agentId = agentId
      · subst heq
        obtain hgone | hkill := hchild _ hin
        · exact absurd hx (by simp [hgone])
        · exact .inr ⟨_, mem_act.mpr (.inr hkill), rfl⟩
      · refine .inl ?_
        change (pm.processes.erase agentId).lookup x.agentId = _
        rwa [KeyedMap.lookup_erase_if, if_neg heq]
    · rw [hp] at hhand
      cases hhand

theorem kept_step {i : Input} (hstep : step i p pm = some (pm', o, evs))
    (hok : Respects ⟨pm, l ++ p :: r, h⟩ (.act p i)) (hc : Kept ⟨pm, l ++ p :: r, h⟩) :
    Kept ⟨pm', l ++ (remaining o ++ r), h ++ evs⟩ := by
  have hothers {α : Type} {f : Point → Option α} {x : α}
      (hnone : ∀ q ∈ l ++ p :: r, f q ≠ some x) : x ∉ pick f (l ++ r) := by
    intro hmem
    obtain ⟨q, hq, hx⟩ := (mem_pick _ _).mp hmem
    exact hnone q (mem_middle.mpr (.inl hq)) hx
  cases moves_of_step hstep with
  | @absent _ args left hnone =>
    refine kept_goes hc rfl (fun hx ↦ ⟨hx, nofun⟩) rfl ?_ nofun nofun
    intro p' agentId hp' hheld
    cases hp'
    cases hheld
    exact .inr ⟨hothers (hok hnone), hnone⟩
  | @fetched _ args left hle =>
    refine kept_goes hc rfl (fun hx ↦ ⟨hx, nofun⟩) rfl ?_ ?_ ?_
    · intro p' agentId hp' hheld
      cases hp'
      exact .inl hheld
    · intro p' port hp' hheld
      cases hp'
      cases hheld
      exact .inr (hothers (hok hle))
    · intro p' port unseen hp' hsought
      cases hp'
      cases hsought
  | goes hp ho =>
    refine kept_follows hc rfl (fun hx ↦ ⟨hx, ?_⟩) rfl ho
    rw [hp]
    nofun
  | started => exact kept_started hc
  | inserted => exact kept_inserted hc
  | @ended _ _ child _ hp ho =>
    refine kept_follows hc rfl ?_ rfl ho
    intro child' x hx
    obtain ⟨hne, hx⟩ := KeyedMap.lookup_erase_eq_some.mp hx
    exact ⟨hx, fun hhand ↦ hne (hp _ hhand)⟩
  | removed =>
    refine kept_erased hc rfl (nodup_pick_act hc.agents nofun) (nodup_pick_act hc.ports nofun)
      nofun fun process hprocess ↦ .inl (hok process hprocess)
  | @killing _ agentId process hsome =>
    refine kept_erased hc rfl (nodup_pick_act hc.agents ?_) (nodup_pick_act hc.ports ?_) ?_ ?_
    · intro p' agentId' hp' hheld
      cases hp'
      cases hheld
      refine .inr fun hmem ↦ ?_
      obtain ⟨q, hq, hx⟩ := (mem_pick _ _).mp hmem
      have hnone := hc.absent q (mem_middle.mpr (.inl hq)) agentId hx
      rw [hsome] at hnone
      cases hnone
    · intro p' port hp' hheld
      cases hp'
      cases hheld
      exact .inr (hothers (hok process hsome))
    · intro p' hp'
      cases hp'
      exact ⟨process, hsome, rfl⟩
    · intro process' hprocess'
      rw [hsome] at hprocess'
      cases hprocess'
      exact .inr rfl

end Steps

theorem kept_call {pm : ProcessManager} {l r : List Point} {h : List Empty} (k : Call)
    (hc : Kept ⟨pm, l ++ r, h⟩) : Kept ⟨pm, l ++ start k :: r, h⟩ := by
  have hagent : heldAgent (start k) = none := by cases k <;> rfl
  have hport : heldPort (start k) = none := by cases k <;> rfl
  refine ⟨nodup_pick_call hc.agents hagent, nodup_pick_call hc.ports hport, ?_, hc.distinct, ?_,
    hc.started, ?_⟩
  · intro q hq agentId hheld
    obtain hq | rfl := mem_middle.mp hq
    · exact hc.absent q hq agentId hheld
    · rw [hagent] at hheld
      cases hheld
  · intro q hq port unseen hsought
    obtain hq | rfl := mem_middle.mp hq
    · exact hc.free q hq port unseen hsought
    · rw [heldPort_of_soughtPort hsought] at hport
      cases hport
  · intro child x hx
    obtain hin | ⟨q, hq, hin⟩ := hc.recorded hx
    · exact .inl hin
    · exact .inr ⟨q, mem_middle.mpr (.inl hq), hin⟩

/-- Over every interleaving that respects the order of a look-up and the entry
it allows, every child that runs is in the table, or about to be, and shares
neither its port nor its agent. -/
theorem unique_of_run (startPort endPort : UInt16) {c : Config ProcessManager Point Empty}
    (h : Run program Respects (initial (new startPort endPort)) c) : Unique c := by
  have hkept : Kept c := Run.invariant (Q := fun _ ↦ True) h (fun _ _ ↦ trivial)
    (kept_initial startPort endPort) (fun k _ _ hc ↦ kept_call k hc)
    fun i hstep hok _ hc ↦ kept_step hstep hok hc
  exact hkept.unique

/-- The call at a place takes some steps on which nothing fails. -/
def goes (n steps : ℕ) : List (Move Call Input) := List.replicate steps (.act n .go)

def spawnOn (n : ℕ) (agentIds : List String) : List (Move Call Input) :=
  List.flatten [goes n 2, agentIds.map fun agentId ↦ .act n (.yield agentId), goes n 4]

def oneSpawned : ProcessManager :=
  { new 19001 19100 with
    processes := (∅ : KeyedMap String ManagedProcess).insert "a" ⟨19001, 0⟩
    nextPort := 19002
    running := (∅ : KeyedMap ℕ Child).insert 0 ⟨"a", 19001⟩
    started := 1 }

def spawnFirst (args : SpawnArgs) (agentIds : List String) : List (Move Call Input) :=
  .call (.spawn args) :: .act 0 .go :: spawnOn 0 agentIds

theorem unique_of_run_two : ∃ c, play program (initial oneSpawned) (spawnFirst ⟨"b", "b"⟩ ["a"]) =
      some c ∧
    c.shared.running.lookup 0 = some ⟨"a", 19001⟩ ∧
    c.shared.running.lookup 1 = some ⟨"b", 19002⟩ ∧ Unique c := by
  have hfirst : Permits program Respects (initial (new 19001 19100))
      (spawnFirst ⟨"a", "a"⟩ []) := by
    refine ⟨trivial, fun _ q hq ↦ ?_, fun _ q hq ↦ ?_, trivial, trivial, trivial, trivial, trivial,
      trivial⟩
    · have hq : q ∈ [.containsKey ⟨"a", "a"⟩] := hq
      cases List.mem_singleton.mp hq
      nofun
    · have hq : q ∈ [.fetchAdd ⟨"a", "a"⟩ 100] := hq
      cases List.mem_singleton.mp hq
      nofun
  have hsecond : Permits program Respects (initial oneSpawned) (spawnFirst ⟨"b", "b"⟩ ["a"]) := by
    refine ⟨trivial, fun _ q hq ↦ ?_, fun _ q hq ↦ ?_, trivial, trivial, trivial, trivial, trivial,
      trivial, trivial⟩
    · have hq : q ∈ [.containsKey ⟨"b", "b"⟩] := hq
      cases List.mem_singleton.mp hq
      nofun
    · have hq : q ∈ [.fetchAdd ⟨"b", "b"⟩ 100] := hq
      cases List.mem_singleton.mp hq
      nofun
  have hrun : play program (initial (new 19001 19100)) (spawnFirst ⟨"a", "a"⟩ []) =
      some (initial oneSpawned) := rfl
  exact ⟨_, rfl, rfl, rfl, unique_of_run 19001 19100
    ((run_of_permits hfirst hrun).trans (run_of_permits hsecond rfl))⟩

/-- Two spawns of one agent look before either has made its entry. -/
def spawnOverlapping : List (Move Call Input) :=
  List.flatten [[.call (.spawn ⟨"a", "a"⟩), .call (.spawn ⟨"a", "a"⟩)], goes 0 1, goes 1 1,
    spawnOn 0 [], spawnOn 0 ["a"]]

def overlapped : ProcessManager :=
  { new 19001 19100 with
    processes := (∅ : KeyedMap String ManagedProcess).insert "a" ⟨19002, 1⟩
    nextPort := 19003
    running := ((∅ : KeyedMap ℕ Child).insert 0 ⟨"a", 19001⟩).insert 1 ⟨"a", 19002⟩
    started := 2 }

/-- The counter wraps while the first spawn has its port but no entry yet. -/
def spawnWrapping : List (Move Call Input) :=
  List.flatten [[.call (.spawn ⟨"a", "a"⟩)], goes 0 5, [.call (.spawn ⟨"c", "c"⟩)], goes 1 4,
    [.call (.spawn ⟨"b", "b"⟩)], goes 1 1, spawnOn 1 [], goes 0 2]

def wrapped : ProcessManager :=
  { new 19001 19001 with
    processes := ((∅ : KeyedMap String ManagedProcess).insert "b" ⟨19001, 0⟩).insert "a" ⟨19001, 1⟩
    nextPort := 19002
    running := ((∅ : KeyedMap ℕ Child).insert 0 ⟨"b", 19001⟩).insert 1 ⟨"a", 19001⟩
    started := 2 }

theorem spawn_not_unique :
    (∃ c, Reachable program (new 19001 19100) c ∧ c.inFlight = [] ∧
      c.shared.running.lookup 0 = some ⟨"a", 19001⟩ ∧
      c.shared.running.lookup 1 = some ⟨"a", 19002⟩ ∧ ¬ Recorded c 0 ⟨"a", 19001⟩) ∧
    ∃ c, Reachable program (new 19001 19001) c ∧ c.inFlight = [] ∧
      c.shared.running.lookup 0 = some ⟨"b", 19001⟩ ∧
      c.shared.running.lookup 1 = some ⟨"a", 19001⟩ := by
  have hoverlapped : Reachable program (new 19001 19100) (initial overlapped) :=
    run_of_play spawnOverlapping rfl
  have hwrapped : Reachable program (new 19001 19001) (initial wrapped) :=
    run_of_play spawnWrapping rfl
  refine ⟨⟨_, hoverlapped, rfl, rfl, rfl, ?_⟩, ⟨_, hwrapped, rfl, rfl, rfl⟩⟩
  intro hrecorded
  obtain hin | ⟨q, hq, -⟩ := hrecorded
  · exact absurd hin (by decide)
  · cases hq

end AdkGateway.ProcessManager
