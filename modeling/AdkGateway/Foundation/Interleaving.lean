import Mathlib.Algebra.BigOperators.Group.List.Basic
import Mathlib.Algebra.GroupWithZero.Nat
import Mathlib.Data.List.Nodup
import Mathlib.Logic.Relation

namespace AdkGateway.Foundation

/-- Code that any number of calls run at the same time: where a call starts,
and what it does next to the shared state. A step goes on to a point or ends
with a result, and tells what happened. -/
structure Program (σ κ π ρ ι ε : Type) where
  start : κ → π
  step : ι → π → σ → Option (σ × (π ⊕ ρ) × List ε)

/-- The shared state, the points of the calls in flight, and what happened so far. -/
structure Config (σ π ε : Type) where
  shared : σ
  inFlight : List π
  history : List ε

namespace Interleaving

variable {σ κ π ρ ι ε : Type}

inductive Label (κ π ι : Type)
  | call (k : κ)
  | act (p : π) (i : ι)

/-- The points left by a step. -/
def remaining : π ⊕ ρ → List π
  | .inl p => [p]
  | .inr _ => []

@[simp] theorem remaining_inl (p : π) : remaining (.inl p : π ⊕ ρ) = [p] := rfl

@[simp] theorem remaining_inr (x : ρ) : remaining (.inr x : π ⊕ ρ) = [] := rfl

inductive Step (P : Program σ κ π ρ ι ε) : Label κ π ι → Config σ π ε → Config σ π ε → Prop
  | call {s : σ} {l r : List π} {h : List ε} (k : κ) :
      Step P (.call k) ⟨s, l ++ r, h⟩ ⟨s, l ++ P.start k :: r, h⟩
  | act {s s' : σ} {l r : List π} {h evs : List ε} {p : π} {o : π ⊕ ρ} (i : ι) :
      P.step i p s = some (s', o, evs) →
        Step P (.act p i) ⟨s, l ++ p :: r, h⟩ ⟨s', l ++ (remaining o ++ r), h ++ evs⟩

inductive Run (P : Program σ κ π ρ ι ε) (ok : Config σ π ε → Label κ π ι → Prop)
    (c₀ : Config σ π ε) : Config σ π ε → Prop
  | refl : Run P ok c₀ c₀
  | step {c c' : Config σ π ε} {a : Label κ π ι} :
      Run P ok c₀ c → ok c a → Step P a c c' → Run P ok c₀ c'

/-- A run, with the configurations it goes through before the last one. -/
inductive Trace (P : Program σ κ π ρ ι ε) (c₀ : Config σ π ε) :
    List (Config σ π ε) → Config σ π ε → Prop
  | nil : Trace P c₀ [] c₀
  | snoc {cs : List (Config σ π ε)} {c c' : Config σ π ε} {a : Label κ π ι} :
      Trace P c₀ cs c → Step P a c c' → Trace P c₀ (cs ++ [c]) c'

def initial (s : σ) : Config σ π ε := ⟨s, [], []⟩

abbrev Any : Config σ π ε → Label κ π ι → Prop := fun _ _ ↦ True

/-- Every interleaving, from the state in which no call has been made. -/
abbrev Reachable (P : Program σ κ π ρ ι ε) (s : σ) : Config σ π ε → Prop := Run P Any (initial s)

section Runs

variable {P : Program σ κ π ρ ι ε} {ok ok' : Config σ π ε → Label κ π ι → Prop}
  {c₀ c c' : Config σ π ε}

theorem Run.one {a : Label κ π ι} (hs : Step P a c c') : Run P Any c c' := Run.refl.step trivial hs

theorem Run.trans (h : Run P ok c₀ c) (h' : Run P ok c c') : Run P ok c₀ c' := by
  induction h' with
  | refl => exact h
  | step _ hok hs ih => exact ih.step hok hs

inductive Solo (P : Program σ κ π ρ ι ε) : σ → π → σ → List ε → Prop
  | done {s s' : σ} {p : π} {x : ρ} {evs : List ε} (i : ι) :
      P.step i p s = some (s', .inr x, evs) → Solo P s p s' evs
  | next {s s' s'' : σ} {p p' : π} {evs evs' : List ε} (i : ι) :
      P.step i p s = some (s', .inl p', evs) → Solo P s' p' s'' evs' →
        Solo P s p s'' (evs ++ evs')

theorem Solo.run_point {s s' : σ} {p : π} {evs : List ε} (hsolo : Solo P s p s' evs) (h : List ε) :
    Run P Any ⟨s, [p], h⟩ ⟨s', [], h ++ evs⟩ := by
  induction hsolo generalizing h with
  | done i hstep => exact Run.one (.act (l := []) (r := []) i hstep)
  | next i hstep _ ih =>
    rw [← List.append_assoc]
    exact (Run.one (.act (l := []) (r := []) i hstep)).trans (ih _)

theorem Solo.run {s s' : σ} {k : κ} {evs : List ε} (hsolo : Solo P s (P.start k) s' evs)
    (h : List ε) : Run P Any ⟨s, [], h⟩ ⟨s', [], h ++ evs⟩ :=
  (Run.one (.call (l := []) (r := []) k)).trans (hsolo.run_point h)

theorem Trace.run {cs : List (Config σ π ε)} (h : Trace P c₀ cs c) : Run P Any c₀ c := by
  induction h with
  | nil => exact .refl
  | snoc _ hs ih => exact ih.step trivial hs

theorem Trace.run_of {cs : List (Config σ π ε)} (h : Trace P c₀ cs c)
    (hok : ∀ c ∈ cs, ∀ a, ok c a) : Run P ok c₀ c := by
  induction h with
  | nil => exact .refl
  | @snoc cs c c' a _ hs ih =>
    refine (ih fun c hc ↦ hok c ?_).step (hok c (by simp) a) hs
    exact List.mem_append_left _ hc

/-- A trace leads to each configuration that it goes through. -/
theorem Trace.to_mem {cs : List (Config σ π ε)} (h : Trace P c₀ cs c) {c' : Config σ π ε}
    (hc' : c' ∈ cs) : ∃ cs', Trace P c₀ cs' c' ∧ cs' ⊆ cs := by
  induction h with
  | nil => cases hc'
  | @snoc cs c _ _ h _ ih =>
    obtain hc' | hc' := List.mem_append.mp hc'
    · obtain ⟨cs', h', hsub⟩ := ih hc'
      exact ⟨cs', h', List.subset_append_of_subset_left _ hsub⟩
    · cases List.mem_singleton.mp hc'
      exact ⟨cs, h, List.subset_append_left _ _⟩

theorem Trace.cons {cs : List (Config σ π ε)} {c₁ : Config σ π ε} {a : Label κ π ι}
    (hs : Step P a c₀ c₁) (h : Trace P c₁ cs c) : Trace P c₀ (c₀ :: cs) c := by
  induction h with
  | nil => exact .snoc .nil hs
  | snoc _ hs' ih => exact ih.snoc hs'

/-- What every allowed step keeps holds throughout; a step may also use what is
known of all states of such runs. -/
theorem Run.invariant {I Q : Config σ π ε → Prop} (h : Run P ok c₀ c)
    (hQ : ∀ c, Run P ok c₀ c → Q c) (h₀ : I c₀)
    (hcall : ∀ {s l r h}, ∀ k, ok ⟨s, l ++ r, h⟩ (.call k) → Q ⟨s, l ++ r, h⟩ →
      I ⟨s, l ++ r, h⟩ → I ⟨s, l ++ P.start k :: r, h⟩)
    (hact : ∀ {s s' l r h evs p o}, ∀ i, P.step i p s = some (s', o, evs) →
      ok ⟨s, l ++ p :: r, h⟩ (.act p i) → Q ⟨s, l ++ p :: r, h⟩ → I ⟨s, l ++ p :: r, h⟩ →
      I ⟨s', l ++ (remaining o ++ r), h ++ evs⟩) : I c := by
  induction h with
  | refl => exact h₀
  | step hr hok hs ih =>
    cases hs with
    | call k => exact hcall k hok (hQ _ hr) ih
    | act i hstep => exact hact i hstep hok (hQ _ hr) ih

theorem history_prefix (h : Run P ok c c') : c.history <+: c'.history := by
  induction h with
  | refl => exact List.prefix_rfl
  | step _ _ hs ih =>
    cases hs with
    | call k => exact ih
    | act i hstep => exact ih.trans (List.prefix_append _ _)

theorem Run.map {σ' κ' π' ρ' ι' ε' : Type} {P' : Program σ' κ' π' ρ' ι' ε'}
    {f : Config σ π ε → Config σ' π' ε'} (h : Run P ok c₀ c)
    (hf : ∀ {c c' a}, Step P a c c' → Run P' Any (f c) (f c')) : Run P' Any (f c₀) (f c) := by
  induction h with
  | refl => exact .refl
  | step _ _ hs ih => exact ih.trans (hf hs)

end Runs

section Projection

variable {σ' κ' π' ρ' ι' ε' : Type}

/-- A program whose calls make calls of another: `point` tells where in one of
the other's calls a point is, if it is in one. -/
structure Projection (P : Program σ κ π ρ ι ε) (P' : Program σ' κ' π' ρ' ι' ε') where
  shared : σ → σ'
  point : π → Option π'
  event : ε → Option ε'
  start : ∀ k, point (P.start k) = none ∨ ∃ k', point (P.start k) = some (P'.start k')
  outside : ∀ {i p s s' o evs}, P.step i p s = some (s', o, evs) → point p = none →
    shared s' = shared s ∧ evs.filterMap event = [] ∧ ((remaining o).filterMap point = [] ∨
      ∃ k', (remaining o).filterMap point = [P'.start k'])
  inside : ∀ {i p s s' o evs p'}, P.step i p s = some (s', o, evs) → point p = some p' →
    ∃ i' o', P'.step i' p' (shared s) = some (shared s', o', evs.filterMap event) ∧
      (remaining o).filterMap point = remaining o'

namespace Projection

variable {P : Program σ κ π ρ ι ε} {P' : Program σ' κ' π' ρ' ι' ε'}
  {ok : Config σ π ε → Label κ π ι → Prop} {c₀ c : Config σ π ε}

def config (f : Projection P P') (c : Config σ π ε) : Config σ' π' ε' :=
  ⟨f.shared c.shared, c.inFlight.filterMap f.point, c.history.filterMap f.event⟩

theorem run (f : Projection P P') (h : Run P ok c₀ c) : Run P' Any (f.config c₀) (f.config c) := by
  refine h.map fun {c c' a} hs ↦ ?_
  cases hs with
  | @call s l r h k =>
    obtain hnone | ⟨k', hsome⟩ := f.start k
    · simpa [config, hnone] using Run.refl
    · simpa [config, hsome] using Run.one (Step.call k')
  | @act s s' l r h evs p o i hstep =>
    cases hp : f.point p with
    | none =>
      obtain ⟨hshared, hevs, hnone | ⟨k', hsome⟩⟩ := f.outside hstep hp
      · simpa [config, hp, hshared, hevs, hnone] using Run.refl
      · simpa [config, hp, hshared, hevs, hsome] using Run.one (Step.call k')
    | some p' =>
      obtain ⟨i', o', hstep', ho⟩ := f.inside hstep hp
      simpa [config, hp, ho] using Run.one (Step.act i' hstep')

end Projection

end Projection

section Pick

variable {α : Type} (kind : ε → Option α) (h h' : List ε)

/-- What the events of one kind tell, in order. -/
def pick : List α := h.filterMap kind

@[simp] theorem pick_nil : pick kind [] = [] := rfl

@[simp] theorem pick_cons (e : ε) : pick kind (e :: h) = (kind e).toList ++ pick kind h := by
  cases hk : kind e <;> simp [pick, hk]

@[simp] theorem pick_append : pick kind (h ++ h') = pick kind h ++ pick kind h' :=
  List.filterMap_append

theorem mem_pick {x : α} : x ∈ pick kind h ↔ ∃ e ∈ h, kind e = some x := List.mem_filterMap

/-- What is told at most once is told by one event. -/
theorem eq_of_count_pick_le_one [DecidableEq α] {kind : ε → Option α} {h : List ε} {x : α}
    {e e' : ε} (hone : (pick kind h).count x ≤ 1) (he : e ∈ h) (he' : e' ∈ h)
    (hx : kind e = some x) (hx' : kind e' = some x) : e = e' := by
  induction h with
  | nil => cases he
  | cons f h ih =>
    rw [pick_cons, List.count_append] at hone
    have hrest : ∀ {g : ε}, g ∈ h → kind g = some x → 0 < (pick kind h).count x :=
      fun hg hgx ↦ List.count_pos_iff.mpr ((mem_pick kind h).mpr ⟨_, hg, hgx⟩)
    have hhead : ∀ {g : ε}, g = f → kind g = some x → (kind f).toList.count x = 1 := by
      rintro g rfl hgx
      simp [hgx]
    obtain heq | he := List.mem_cons.mp he <;> obtain heq' | he' := List.mem_cons.mp he'
    · exact heq.trans heq'.symm
    · have := hhead heq hx
      have := hrest he' hx'
      omega
    · have := hhead heq' hx'
      have := hrest he hx
      omega
    · exact ih (by omega) he he'

end Pick

section Claims

variable {α : Type} {f : π → Option α} {l r : List π} {p q : π} {o : π ⊕ ρ} {x : α}

theorem mem_act : q ∈ l ++ (remaining o ++ r) ↔ q ∈ l ++ r ∨ o = .inl q := by
  cases o with
  | inl p' =>
    simp only [remaining_inl, List.mem_append, List.mem_cons, List.not_mem_nil, or_false,
      Sum.inl.injEq]
    tauto
  | inr y => simp

theorem mem_middle : q ∈ l ++ p :: r ↔ q ∈ l ++ r ∨ q = p := by
  simp only [List.mem_append, List.mem_cons]
  tauto

def Beside (ps : List π) (p q : π) : Prop := ∃ l r, ps = l ++ p :: r ∧ q ∈ l ++ r

theorem not_beside_singleton : ¬ Beside [p] p q := by
  rintro ⟨l, r, heq, hq⟩
  cases l with
  | nil =>
    obtain ⟨-, rfl⟩ := List.cons_eq_cons.mp heq
    cases hq
  | cons p' l => simp at heq

theorem notMem_of_nodup_pick (h : (pick f (l ++ p :: r)).Nodup) (hp : f p = some x) :
    x ∉ pick f (l ++ r) := by
  rw [pick_append, pick_cons, hp, Option.toList_some, List.singleton_append,
    List.nodup_middle, List.nodup_cons] at h
  simpa using h.1

theorem eq_of_nodup_pick {ps : List π} (h : (pick f ps).Nodup) (hp : p ∈ ps) (hq : q ∈ ps)
    (hpx : f p = some x) (hqx : f q = some x) : p = q := by
  classical
  exact eq_of_count_pick_le_one (List.nodup_iff_count_le_one.mp h x) hp hq hpx hqx

theorem nodup_pick_call (h : (pick f (l ++ r)).Nodup) (hp : f p = none) :
    (pick f (l ++ p :: r)).Nodup := by
  simpa [hp] using h

/-- A step claims only what the call claims already or what no other call claims. -/
theorem nodup_pick_act (h : (pick f (l ++ p :: r)).Nodup)
    (ho : ∀ p' x, o = .inl p' → f p' = some x → f p = some x ∨ x ∉ pick f (l ++ r)) :
    (pick f (l ++ (remaining o ++ r))).Nodup := by
  have hrest : (pick f (l ++ r)).Nodup := by
    refine h.sublist ?_
    simp
  cases o with
  | inr y => simpa using hrest
  | inl p' =>
    cases hp' : f p' with
    | none => simpa [hp'] using hrest
    | some x =>
      have hnot : x ∉ pick f (l ++ r) :=
        (ho p' x rfl hp').elim (notMem_of_nodup_pick h) id
      rw [pick_append] at hnot hrest
      rw [remaining_inl, List.singleton_append, pick_append, pick_cons, hp', Option.toList_some,
        List.singleton_append, List.nodup_middle, List.nodup_cons]
      exact ⟨hnot, hrest⟩

end Claims

section Before

def Before (x y : ε) (h : List ε) : Prop := ∃ h₁ h₂, h = h₁ ++ x :: h₂ ∧ y ∈ h₂

variable {x y : ε} {h evs : List ε}

theorem Before.mem (hxy : Before x y h) : x ∈ h := by
  obtain ⟨h₁, h₂, rfl, -⟩ := hxy
  simp

theorem Before.cases_append (hxy : Before x y (h ++ evs)) :
    Before x y h ∨ y ∈ evs ∧ (x ∈ h ∨ Before x y evs) := by
  obtain ⟨h₁, h₂, heq, hy⟩ := hxy
  obtain ⟨a, rfl, ha⟩ | ⟨a, rfl, ha⟩ := List.append_eq_append_iff.mp heq
  · right
    refine ⟨?_, .inr ⟨a, h₂, ha, hy⟩⟩
    simp [ha, hy]
  · cases a with
    | nil =>
      right
      rw [List.nil_append] at ha
      exact ⟨by simp [← ha, hy], .inr ⟨[], h₂, ha.symm, hy⟩⟩
    | cons z a =>
      obtain ⟨rfl, rfl⟩ := List.cons_eq_cons.mp ha
      obtain hy | hy := List.mem_append.mp hy
      · exact .inl ⟨h₁, a, rfl, hy⟩
      · exact .inr ⟨hy, .inl (by simp)⟩

theorem not_before_singleton (e : ε) : ¬ Before x y [e] := by
  intro hxy
  obtain ⟨h₁, h₂, heq, hy⟩ := hxy
  cases h₁ with
  | nil =>
    obtain ⟨-, rfl⟩ := List.cons_eq_cons.mp heq
    cases hy
  | cons z h₁ => simp at heq

end Before

section Load

variable (g : π → ℕ)

/-- What the calls in flight weigh together. -/
def load (ps : List π) : ℕ := (ps.map g).sum

@[simp] theorem load_nil : load g [] = 0 := rfl

@[simp] theorem load_cons (p : π) (ps : List π) : load g (p :: ps) = g p + load g ps := by
  simp [load]

@[simp] theorem load_append (ps qs : List π) : load g (ps ++ qs) = load g ps + load g qs := by
  simp [load]

theorem load_call (l r : List π) (p : π) : load g (l ++ p :: r) = load g (l ++ r) + g p := by
  simp only [load_append, load_cons]
  omega

/-- A step trades the weight of the point for that of what it leaves. -/
theorem load_act (l r : List π) (p : π) (o : π ⊕ ρ) :
    load g (l ++ (remaining o ++ r)) + g p = load g (l ++ p :: r) + load g (remaining o) := by
  simp only [load_append, load_cons]
  omega

theorem load_remaining (l r : List π) (o : π ⊕ ρ) :
    load g (l ++ (remaining o ++ r)) = load g (l ++ r) + load g (remaining o) := by
  simp only [load_append]
  omega

variable {g}

theorem le_load {p : π} {ps : List π} (h : p ∈ ps) : g p ≤ load g ps := by
  obtain ⟨l, r, rfl⟩ := List.append_of_mem h
  rw [load_call]
  omega

theorem load_eq_zero {ps : List π} : load g ps = 0 ↔ ∀ p ∈ ps, g p = 0 := by
  induction ps with
  | nil => simp
  | cons p ps ih => simp [ih]

theorem load_mono {g' : π → ℕ} (hle : ∀ p, g p ≤ g' p) (ps : List π) : load g ps ≤ load g' ps := by
  induction ps with
  | nil => exact Nat.le_refl _
  | cons p ps ih => exact Nat.add_le_add (hle p) ih

end Load

section Play

/-- A schedule: a call starts at a place among those in flight, or the call at
a place takes a step. -/
inductive Move (κ ι : Type)
  | call (k : κ)
  | act (n : ℕ) (i : ι)

variable (P : Program σ κ π ρ ι ε)

def next (c : Config σ π ε) : Move κ ι → Option (Config σ π ε)
  | .call k => some { c with inFlight := c.inFlight ++ [P.start k] }
  | .act n i => do
    let p ← c.inFlight[n]?
    let (s, o, evs) ← P.step i p c.shared
    some ⟨s, c.inFlight.take n ++ (remaining o ++ c.inFlight.drop (n + 1)), c.history ++ evs⟩

def play (c : Config σ π ε) : List (Move κ ι) → Option (Config σ π ε)
  | [] => some c
  | m :: ms => (next P c m).bind fun c' ↦ play c' ms

variable {P}

theorem step_call (c : Config σ π ε) (k : κ) :
    Step P (.call k) c { c with inFlight := c.inFlight ++ [P.start k] } := by
  have hcall := Step.call (P := P) (s := c.shared) (l := c.inFlight) (r := []) (h := c.history) k
  rwa [List.append_nil] at hcall

theorem step_act {c c' : Config σ π ε} {n : ℕ} {i : ι} {p : π} (hp : c.inFlight[n]? = some p)
    (h : next P c (.act n i) = some c') : Step P (.act p i) c c' := by
  obtain ⟨p', hp', h⟩ := Option.bind_eq_some_iff.mp h
  obtain rfl := Option.some_inj.mp (hp'.symm.trans hp)
  obtain ⟨⟨s, o, evs⟩, hstep, h⟩ := Option.bind_eq_some_iff.mp h
  obtain rfl := Option.some_inj.mp h
  have hact := Step.act (l := c.inFlight.take n) (r := c.inFlight.drop (n + 1))
    (h := c.history) i hstep
  obtain ⟨hn, rfl⟩ := List.getElem?_eq_some_iff.mp hp
  rwa [← List.drop_eq_getElem_cons hn, List.take_append_drop] at hact

theorem step_of_next {c c' : Config σ π ε} {m : Move κ ι} (h : next P c m = some c') :
    ∃ a, Step P a c c' := by
  cases m with
  | call k =>
    obtain rfl := Option.some_inj.mp h
    exact ⟨.call k, step_call c k⟩
  | act n i =>
    obtain ⟨p, hp, -⟩ := Option.bind_eq_some_iff.mp h
    exact ⟨.act p i, step_act hp h⟩

theorem run_of_play {c c' : Config σ π ε} (ms : List (Move κ ι)) (h : play P c ms = some c') :
    Run P Any c c' := by
  induction ms generalizing c with
  | nil =>
    obtain rfl := Option.some_inj.mp h
    exact .refl
  | cons m ms ih =>
    obtain ⟨c₁, hnext, h⟩ := Option.bind_eq_some_iff.mp h
    obtain ⟨a, hs⟩ := step_of_next hnext
    exact (Run.one hs).trans (ih h)

def Permits (P : Program σ κ π ρ ι ε) (ok : Config σ π ε → Label κ π ι → Prop)
    (c : Config σ π ε) : List (Move κ ι) → Prop
  | [] => True
  | .call k :: ms => ok c (.call k) ∧
    Permits P ok { c with inFlight := c.inFlight ++ [P.start k] } ms
  | .act n i :: ms =>
    match c.inFlight[n]?, next P c (.act n i) with
    | some p, some c' => ok c (.act p i) ∧ Permits P ok c' ms
    | _, _ => False

theorem run_of_permits {ok : Config σ π ε → Label κ π ι → Prop} {c c' : Config σ π ε}
    {ms : List (Move κ ι)} (hok : Permits P ok c ms) (h : play P c ms = some c') :
    Run P ok c c' := by
  induction ms generalizing c with
  | nil =>
    obtain rfl := Option.some_inj.mp h
    exact .refl
  | cons m ms ih =>
    obtain ⟨c₁, hnext, hplay⟩ := Option.bind_eq_some_iff.mp h
    cases m with
    | call k =>
      obtain rfl := Option.some_inj.mp hnext
      exact (Run.refl.step hok.1 (step_call c k)).trans (ih hok.2 hplay)
    | act n i =>
      obtain ⟨p, hp, -⟩ := Option.bind_eq_some_iff.mp hnext
      simp only [Permits, hp, hnext] at hok
      exact (Run.refl.step hok.1 (step_act hp hnext)).trans (ih hok.2 hplay)

/-- The configurations a schedule goes through before the last one. -/
def visits (P : Program σ κ π ρ ι ε) (c : Config σ π ε) : List (Move κ ι) → List (Config σ π ε)
  | [] => []
  | m :: ms => c :: ((next P c m).map fun c' ↦ visits P c' ms).getD []

theorem trace_of_play {c c' : Config σ π ε} {ms : List (Move κ ι)} (h : play P c ms = some c') :
    Trace P c (visits P c ms) c' := by
  induction ms generalizing c with
  | nil =>
    obtain rfl := Option.some_inj.mp h
    exact .nil
  | cons m ms ih =>
    obtain ⟨c₁, hnext, h⟩ := Option.bind_eq_some_iff.mp h
    obtain ⟨a, hs⟩ := step_of_next hnext
    rw [visits, hnext, Option.map_some, Option.getD_some]
    exact .cons hs (ih h)

end Play

end Interleaving

end AdkGateway.Foundation
