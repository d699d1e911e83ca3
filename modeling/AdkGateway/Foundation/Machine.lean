import AdkGateway.Foundation.Interleaving
import AdkGateway.Foundation.Script
import Mathlib.Data.List.Basic

namespace AdkGateway.Foundation.Machine

variable {σ ι ο : Type} (step : σ → ι → ο × σ)

/-- The state after a list of inputs. -/
def run : σ → List ι → σ
  | s, [] => s
  | s, i :: is => run (step s i).2 is

/-- What the machine answers to each input. -/
def outputs : σ → List ι → List ο
  | _, [] => []
  | s, i :: is => (step s i).1 :: outputs (step s i).2 is

@[simp] theorem run_nil (s : σ) : run step s [] = s := rfl

theorem run_append (s : σ) (is js : List ι) :
    run step s (is ++ js) = run step (run step s is) js := by
  induction is generalizing s with
  | nil => rfl
  | cons i is ih => exact ih (step s i).2

theorem outputs_append (s : σ) (is js : List ι) :
    outputs step s (is ++ js) = outputs step s is ++ outputs step (run step s is) js := by
  induction is generalizing s with
  | nil => rfl
  | cons i is ih => exact congrArg _ (ih (step s i).2)

theorem run_concat (s : σ) (is : List ι) (i : ι) :
    run step s (is ++ [i]) = (step (run step s is) i).2 := run_append step s is [i]

theorem outputs_concat (s : σ) (is : List ι) (i : ι) :
    outputs step s (is ++ [i]) = outputs step s is ++ [(step (run step s is) i).1] :=
  outputs_append step s is [i]

/-- A property of the state and the input holds at every step of a run. -/
def Along (p : σ → ι → Prop) : σ → List ι → Prop
  | _, [] => True
  | s, i :: is => p s i ∧ Along p (step s i).2 is

theorem along_append {p : σ → ι → Prop} {s : σ} {is js : List ι} :
    Along step p s (is ++ js) ↔ Along step p s is ∧ Along step p (run step s is) js := by
  induction is generalizing s with
  | nil => simp [Along]
  | cons i is ih =>
    simp only [List.cons_append, Along, run, ih, and_assoc]

/-- Where the steps with a property keep an invariant and answer rightly, a run of such steps does. -/
theorem forall_outputs_of_along {inv : σ → Prop} {right : ο → Prop} {p : σ → ι → Prop}
    (h : ∀ s i, inv s → p s i → right (step s i).1 ∧ inv (step s i).2) {s : σ} (hs : inv s)
    {is : List ι} (hp : Along step p s is) : ∀ o ∈ outputs step s is, right o := by
  induction is generalizing s with
  | nil => exact nofun
  | cons i is ih =>
    obtain ⟨hright, hkeep⟩ := h s i hs hp.1
    rw [outputs, List.forall_mem_cons]
    exact ⟨hright, ih hkeep hp.2⟩

/-- In a run whose steps are all admissible: where an invariant is kept by the steps with a
property, and these are the steps whose answers are right, all answers are right just if all steps
have the property. -/
theorem forall_outputs_iff_of_along {inv : σ → Prop} {right : ο → Prop} {ok p : σ → ι → Prop}
    (h : ∀ s i, inv s → ok s i → (right (step s i).1 ↔ p s i) ∧ (p s i → inv (step s i).2)) {s : σ}
    (hs : inv s) {is : List ι} (hok : Along step ok s is) :
    (∀ o ∈ outputs step s is, right o) ↔ Along step p s is := by
  induction is generalizing s with
  | nil => exact iff_of_true nofun trivial
  | cons i is ih =>
    obtain ⟨hright, hkeep⟩ := h s i hs hok.1
    rw [outputs, List.forall_mem_cons, hright]
    exact and_congr_right fun hp ↦ ih (hkeep hp) hok.2

theorem along_trivial (s : σ) (is : List ι) : Along step (fun _ _ ↦ True) s is := by
  induction is generalizing s with
  | nil => exact trivial
  | cons i is ih => exact ⟨trivial, ih _⟩

theorem forall_outputs_iff {inv : σ → Prop} {right : ο → Prop} {p : σ → ι → Prop}
    (h : ∀ s i, inv s → (right (step s i).1 ↔ p s i) ∧ (p s i → inv (step s i).2)) {s : σ}
    (hs : inv s) (is : List ι) : (∀ o ∈ outputs step s is, right o) ↔ Along step p s is :=
  forall_outputs_iff_of_along step (fun s i hinv _ ↦ h s i hinv) hs (along_trivial step s is)

/-- Where two properties are the same under an invariant that the steps with them keep, they hold
along the same runs. -/
theorem along_iff_along {inv : σ → Prop} {p q : σ → ι → Prop}
    (h : ∀ s i, inv s → (p s i ↔ q s i) ∧ (q s i → inv (step s i).2)) {s : σ} (hs : inv s)
    (is : List ι) : Along step p s is ↔ Along step q s is := by
  induction is generalizing s with
  | nil => exact Iff.rfl
  | cons i is ih =>
    obtain ⟨hsame, hkeep⟩ := h s i hs
    rw [Along, Along, hsame]
    exact and_congr_right fun hq ↦ ih (hkeep hq)

/-- Each event fits those that came before it. -/
def EachFits {ε : Type} (P : List ε → ε → Prop) : List ε → List ε → Prop
  | _, [] => True
  | h, e :: es => P h e ∧ EachFits P (h ++ [e]) es

section EachFits

variable {ε : Type} {P : List ε → ε → Prop} {h es : List ε}

theorem eachFits_append (es' : List ε) :
    EachFits P h (es ++ es') ↔ EachFits P h es ∧ EachFits P (h ++ es) es' := by
  induction es generalizing h with
  | nil => simp [EachFits]
  | cons e es ih =>
    rw [List.cons_append, EachFits, EachFits, ih, and_assoc, List.append_assoc, List.singleton_append]

theorem eachFits_and {Q : List ε → ε → Prop} (hP : EachFits P h es) (hQ : EachFits Q h es) :
    EachFits (fun h e ↦ P h e ∧ Q h e) h es := by
  induction es generalizing h with
  | nil => trivial
  | cons e es ih => exact ⟨⟨hP.1, hQ.1⟩, ih hP.2 hQ.2⟩

/-- Where each step tells what fits, from what its state remembers of the history, a run does. -/
theorem eachFits_flatten_outputs {step : σ → ι → List ε × σ} {I : σ → List ε → Prop}
    (hstep : ∀ s h i, I s h → EachFits P h (step s i).1 ∧ I (step s i).2 (h ++ (step s i).1)) {s : σ}
    (hs : I s h) (is : List ι) : EachFits P h (outputs step s is).flatten := by
  induction is generalizing s h with
  | nil => exact trivial
  | cons i is ih =>
    obtain ⟨hnow, hnext⟩ := hstep s h i hs
    exact (eachFits_append _).mpr ⟨hnow, ih hnext⟩

end EachFits

section Latest

variable {ε α : Type} {word : ε → Option (Option α)}

/-- The last value that the events of a history give to a register, if it has one. -/
def latest (word : ε → Option (Option α)) (h : List ε) : Option α := (h.reverse.findSome? word).join

@[simp] theorem latest_nil : latest word [] = none := rfl

theorem latest_concat (h : List ε) (e : ε) :
    latest word (h ++ [e]) = (word e).elim (latest word h) id := by
  rw [latest, List.reverse_append, List.reverse_singleton, List.singleton_append,
    List.findSome?_cons]
  cases word e <;> rfl

theorem latest_concat_of_none {e : ε} (he : word e = none) (h : List ε) :
    latest word (h ++ [e]) = latest word h := by
  rw [latest_concat, he]
  rfl

theorem latest_concat_of_some {e : ε} {value : Option α} (he : word e = some value) (h : List ε) :
    latest word (h ++ [e]) = value := by
  rw [latest_concat, he]
  rfl

end Latest

end AdkGateway.Foundation.Machine

namespace AdkGateway.Foundation

structure Done (σ Op : Type) (Answer : Op → Type) where
  state : σ
  op : Op
  answer : Answer op

structure Thread (σ κ Op : Type) (Answer : Op → Type) (ρ : Type) where
  call : κ
  past : List (Done σ Op Answer)
  code : Script Op Answer ρ

inductive Occurrence (σ κ Op : Type) (Answer : Op → Type)
  | did (call : κ) (done : Done σ Op Answer)
  | returned (call : κ) (past : List (Done σ Op Answer))

namespace Threads

open Interleaving

variable {σ κ Op : Type} {Answer : Op → Type} {ρ ι : Type}

/-- Calls of scripts at the same time: each step is one operation. -/
def program (exec : (o : Op) → ι → σ → σ × Answer o) (code : κ → Script Op Answer ρ) :
    Program σ κ (Thread σ κ Op Answer ρ) ρ ι (Occurrence σ κ Op Answer) where
  start k := ⟨k, [], code k⟩
  step i p s :=
    match p.code with
    | .ret x => some (s, .inr x, [.returned p.call p.past])
    | .op o next =>
      let done : Done σ Op Answer := ⟨s, o, (exec o i s).2⟩
      some ((exec o i s).1, .inl ⟨p.call, p.past ++ [done], next done.answer⟩, [.did p.call done])

variable {exec : (o : Op) → ι → σ → σ × Answer o} {code : κ → Script Op Answer ρ}
  {ok : Config σ (Thread σ κ Op Answer ρ) (Occurrence σ κ Op Answer) →
    Label κ (Thread σ κ Op Answer ρ) ι → Prop}
  {c₀ c : Config σ (Thread σ κ Op Answer ρ) (Occurrence σ κ Op Answer)}

/-- What holds throughout: calls may start, end, and perform an operation, as far as that is
allowed. -/
theorem invariant_of_allowed
    {I Q : Config σ (Thread σ κ Op Answer ρ) (Occurrence σ κ Op Answer) → Prop}
    (h : Run (program exec code) ok c₀ c) (hQ : ∀ c, Run (program exec code) ok c₀ c → Q c)
    (h₀ : I c₀)
    (hcall : ∀ {s l r h}, ∀ k, ok ⟨s, l ++ r, h⟩ (.call k) → Q ⟨s, l ++ r, h⟩ →
      I ⟨s, l ++ r, h⟩ → I ⟨s, l ++ ⟨k, [], code k⟩ :: r, h⟩)
    (hret : ∀ {s l r h k past x}, Q ⟨s, l ++ ⟨k, past, .ret x⟩ :: r, h⟩ →
      I ⟨s, l ++ ⟨k, past, .ret x⟩ :: r, h⟩ → I ⟨s, l ++ r, h ++ [.returned k past]⟩)
    (hop : ∀ {s l r h k past o next}, ∀ i, ok ⟨s, l ++ ⟨k, past, .op o next⟩ :: r, h⟩
        (.act ⟨k, past, .op o next⟩ i) → Q ⟨s, l ++ ⟨k, past, .op o next⟩ :: r, h⟩ →
      I ⟨s, l ++ ⟨k, past, .op o next⟩ :: r, h⟩ →
      I ⟨(exec o i s).1, l ++ ⟨k, past ++ [⟨s, o, (exec o i s).2⟩], next (exec o i s).2⟩ :: r,
        h ++ [.did k ⟨s, o, (exec o i s).2⟩]⟩) : I c := by
  refine Run.invariant h hQ h₀ (fun k hok hq hi ↦ hcall k hok hq hi) ?_
  intro s s' l r h evs p out i hstep hok hq hi
  obtain ⟨k, past, code⟩ := p
  cases code with
  | ret x =>
    obtain ⟨rfl, rfl, rfl⟩ : s = s' ∧ .inr x = out ∧ [.returned k past] = evs := by
      simpa [program] using hstep
    exact hret hq hi
  | op o next =>
    obtain ⟨rfl, rfl, rfl⟩ : (exec o i s).1 = s' ∧
        .inl ⟨k, past ++ [⟨s, o, (exec o i s).2⟩], next (exec o i s).2⟩ = out ∧
        [.did k ⟨s, o, (exec o i s).2⟩] = evs := by
      simpa [program] using hstep
    exact hop i hok hq hi

theorem invariant {I Q : Config σ (Thread σ κ Op Answer ρ) (Occurrence σ κ Op Answer) → Prop}
    (h : Run (program exec code) ok c₀ c) (hQ : ∀ c, Run (program exec code) ok c₀ c → Q c)
    (h₀ : I c₀)
    (hcall : ∀ {s l r h}, ∀ k, Q ⟨s, l ++ r, h⟩ → I ⟨s, l ++ r, h⟩ →
      I ⟨s, l ++ ⟨k, [], code k⟩ :: r, h⟩)
    (hret : ∀ {s l r h k past x}, Q ⟨s, l ++ ⟨k, past, .ret x⟩ :: r, h⟩ →
      I ⟨s, l ++ ⟨k, past, .ret x⟩ :: r, h⟩ → I ⟨s, l ++ r, h ++ [.returned k past]⟩)
    (hop : ∀ {s l r h k past o next}, ∀ i, ok ⟨s, l ++ ⟨k, past, .op o next⟩ :: r, h⟩
        (.act ⟨k, past, .op o next⟩ i) → Q ⟨s, l ++ ⟨k, past, .op o next⟩ :: r, h⟩ →
      I ⟨s, l ++ ⟨k, past, .op o next⟩ :: r, h⟩ →
      I ⟨(exec o i s).1, l ++ ⟨k, past ++ [⟨s, o, (exec o i s).2⟩], next (exec o i s).2⟩ :: r,
        h ++ [.did k ⟨s, o, (exec o i s).2⟩]⟩) : I c :=
  invariant_of_allowed h hQ h₀ (fun k _ hq hi ↦ hcall k hq hi) hret hop

section Accounts

def dones (h : List (Occurrence σ κ Op Answer)) : List (Done σ Op Answer) :=
  h.filterMap fun
    | .did _ done => some done
    | .returned _ _ => none

def pasts (h : List (Occurrence σ κ Op Answer)) : List (List (Done σ Op Answer)) :=
  h.filterMap fun
    | .did _ _ => none
    | .returned _ past => some past

@[simp] theorem dones_append (h h' : List (Occurrence σ κ Op Answer)) :
    dones (h ++ h') = dones h ++ dones h' := List.filterMap_append

@[simp] theorem pasts_append (h h' : List (Occurrence σ κ Op Answer)) :
    pasts (h ++ h') = pasts h ++ pasts h' := List.filterMap_append

theorem dones_perm {s : σ} (h : Run (program exec code) ok (initial s) c) :
    (dones c.history).Perm ((pasts c.history).flatten ++ c.inFlight.flatMap Thread.past) := by
  refine invariant_of_allowed (Q := fun _ ↦ True) h (fun _ _ ↦ trivial)
    (I := fun c ↦ (dones c.history).Perm
      ((pasts c.history).flatten ++ c.inFlight.flatMap Thread.past)) .nil ?_ ?_ ?_
  · intro s l r h k _ _ hI
    simpa using hI
  · intro s l r h k past x _ hI
    rw [dones_append, pasts_append, List.flatten_append]
    simp only [List.flatMap_append, List.flatMap_cons] at hI ⊢
    have hdone : dones h ++ dones [.returned k past] = dones h := by simp [dones]
    have hpast : (pasts [.returned k past] : List (List (Done σ Op Answer))).flatten = past := by
      simp [pasts]
    rw [hdone, hpast, List.append_assoc]
    exact hI.trans ((List.perm_append_comm_assoc _ past _).append_left _)
  · intro s l r h k past o next i _ _ hI
    rw [dones_append, pasts_append, List.flatten_append]
    simp only [List.flatMap_append, List.flatMap_cons] at hI ⊢
    refine (hI.append_right _).trans ?_
    simp only [dones, pasts, List.filterMap_cons, List.filterMap_nil, List.flatten_nil,
      List.append_assoc, List.append_nil]
    exact ((List.perm_append_comm.append_left past).append_left _).append_left _

def genuine (exec : (o : Op) → ι → σ → σ × Answer o)
    (allows : Op → List (Done σ Op Answer) → Prop) :
    Script.Protocol Op Answer (List (Done σ Op Answer)) where
  allows := allows
  moves o past a past' := ∃ s i, a = (exec o i s).2 ∧ past' = past ++ [⟨s, o, a⟩]

/-- What a call does comes after what it has done, and is allowed after that. -/
def Fits (allows : κ → Op → List (Done σ Op Answer) → Prop)
    (ends : κ → List (Done σ Op Answer) → Prop) (h : List (Occurrence σ κ Op Answer)) :
    Occurrence σ κ Op Answer → Prop
  | .did k done => ∃ past, (∀ done' ∈ past, .did k done' ∈ h) ∧ allows k done.op past
  | .returned k past => (∀ done ∈ past, .did k done ∈ h) ∧ ends k past

structure Keeps (exec : (o : Op) → ι → σ → σ × Answer o)
    (allows : κ → Op → List (Done σ Op Answer) → Prop) (ends : κ → List (Done σ Op Answer) → Prop)
    (c : Config σ (Thread σ κ Op Answer ρ) (Occurrence σ κ Op Answer)) : Prop where
  fits : Machine.EachFits (Fits allows ends) [] c.history
  follows : ∀ p ∈ c.inFlight,
    p.code.Follows (genuine exec (allows p.call)) (fun _ ↦ ends p.call) p.past
  past : ∀ p ∈ c.inFlight, ∀ done ∈ p.past, .did p.call done ∈ c.history

/-- What the code of a call keeps to by itself it keeps to among others. -/
theorem eachFits_of_run {allows : κ → Op → List (Done σ Op Answer) → Prop}
    {ends : κ → List (Done σ Op Answer) → Prop}
    (hcode : ∀ k, (code k).Follows (genuine exec (allows k)) (fun _ ↦ ends k) []) {s : σ}
    (h : Run (program exec code) ok (initial s) c) :
    Machine.EachFits (Fits allows ends) [] c.history := by
  refine (invariant_of_allowed (I := Keeps exec allows ends) (Q := fun _ ↦ True) h
    (fun _ _ ↦ trivial) ⟨trivial, nofun, nofun⟩ ?_ ?_ ?_).fits
  · intro s l r h k _ _ hI
    refine ⟨hI.fits, fun p hp ↦ ?_, fun p hp ↦ ?_⟩
    · obtain hp | rfl := mem_middle.mp hp
      · exact hI.follows p hp
      · exact hcode k
    · obtain hp | rfl := mem_middle.mp hp
      · exact hI.past p hp
      · exact nofun
  · intro s l r h k past x _ hI
    have hends : ends k past := hI.follows _ (mem_middle.mpr (.inr rfl))
    have hpast := hI.past _ (mem_middle.mpr (.inr rfl))
    refine ⟨(Machine.eachFits_append _).mpr ⟨hI.fits, ⟨hpast, hends⟩, trivial⟩, fun p hp ↦ ?_,
      fun p hp done hdone ↦ ?_⟩
    · exact hI.follows p (mem_middle.mpr (.inl hp))
    · exact List.mem_append_left _ (hI.past p (mem_middle.mpr (.inl hp)) done hdone)
  · intro s l r h k past o next i _ _ hI
    obtain ⟨hallows, hnext⟩ := hI.follows ⟨k, past, .op o next⟩ (mem_middle.mpr (.inr rfl))
    have hpast := hI.past _ (mem_middle.mpr (.inr rfl))
    refine ⟨(Machine.eachFits_append _).mpr ⟨hI.fits, ⟨past, hpast, hallows⟩, trivial⟩,
      fun p hp ↦ ?_, fun p hp done hdone ↦ ?_⟩
    · obtain hp | rfl := mem_middle.mp hp
      · exact hI.follows p (mem_middle.mpr (.inl hp))
      · exact hnext _ _ ⟨s, i, rfl, rfl⟩
    · obtain hp | rfl := mem_middle.mp hp
      · exact List.mem_append_left _ (hI.past p (mem_middle.mpr (.inl hp)) done hdone)
      · obtain hdone | hdone := List.mem_append.mp hdone
        · exact List.mem_append_left _ (hpast done hdone)
        · obtain rfl := List.mem_singleton.mp hdone
          exact List.mem_append_right _ (List.mem_singleton.mpr rfl)

end Accounts

end Threads

end AdkGateway.Foundation
