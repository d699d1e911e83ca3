import AdkGateway.Foundation.SlidingWindow
import AdkGateway.GatewayRoutes.Enforcement
import Mathlib.Data.List.Chain

namespace AdkGateway.GatewayRoutes

open Foundation

def minute : ℤ := DateTime.seconds 60

namespace RateCounter

/-- One turn with the lock held; the counter counts refused requests too, and wraps around. -/
def permit (rate : RateCounter) (now : ℤ) : RateCounter × Bool :=
  let rate : RateCounter := if now - rate.windowStart > minute then ⟨now, 0⟩ else rate
  ({ rate with count := (rate.count + 1) % 2 ^ 64 }, decide (rate.count < 60))

def answers (rate : RateCounter) : List ℤ → List (ℤ × Bool)
  | [] => []
  | now :: later => (now, (rate.permit now).2) :: answers (rate.permit now).1 later

end RateCounter

theorem isWithinRate_eq_permit (gateway : GatewayState) :
    isWithinRate gateway = (gateway.rate.permit gateway.now).2 := by
  rw [isWithinRate, RateCounter.permit, minute]
  split <;> rfl

def passed (log : List (ℤ × Bool)) : List ℤ := (log.filter (·.2)).map (·.1)

structure SlidesByMinute (log : List (ℤ × Bool)) : Prop where
  atMost : ∀ t, (within (· + minute) t (passed log)).length ≤ 60
  refused : ∀ before now after, log = before ++ (now, false) :: after →
    60 ≤ (within (· + minute) (now - minute) (passed before)).length

structure CountedWindow where
  start : ℤ
  requests : List ℤ

namespace CountedWindow

def addFirst (t : ℤ) : List CountedWindow → List CountedWindow
  | [] => []
  | w :: ws => ⟨w.start, t :: w.requests⟩ :: ws

/-- The first request more than a minute after the start of a window starts the next one. -/
def split (start : ℤ) : List ℤ → List CountedWindow
  | [] => [⟨start, []⟩]
  | t :: ts =>
    if t - start > minute then ⟨start, []⟩ :: addFirst t (split t ts)
    else addFirst t (split start ts)

def firstSixty (w : CountedWindow) : List ℤ := w.requests.take 60

/-- The sixtieth request from each of the first ones of a window on, counted into the next window,
comes more than a minute after it. -/
def Spaced (w w' : CountedWindow) : Prop :=
  ∀ i a b, w.firstSixty[i]? = some a → w'.firstSixty[i + 60 - w.firstSixty.length]? = some b →
    a + minute < b

end CountedWindow

open CountedWindow

section Windows

variable {start : ℤ} {ts : List ℤ}

theorem split_eq_cons (start : ℤ) (ts : List ℤ) :
    ∃ requests ws, split start ts = ⟨start, requests⟩ :: ws := by
  induction ts generalizing start with
  | nil => exact ⟨[], [], rfl⟩
  | cons t ts ih =>
    rw [split]
    by_cases hlate : t - start > minute
    · exact ⟨[], _, if_pos hlate⟩
    · obtain ⟨requests, ws, hsplit⟩ := ih start
      rw [if_neg hlate, hsplit]
      exact ⟨t :: requests, ws, rfl⟩

def mark (count : ℕ) : List ℤ → List (ℤ × Bool)
  | [] => []
  | t :: ts => (t, decide (count < 60)) :: mark ((count + 1) % 2 ^ 64) ts

theorem answers_eq_mark (count : ℕ) {requests : List ℤ} {ws : List CountedWindow}
    (h : split start ts = ⟨start, requests⟩ :: ws) :
    RateCounter.answers ⟨start, count⟩ ts =
      mark count requests ++ ws.flatMap fun w ↦ mark 0 w.requests := by
  induction ts generalizing start count requests ws with
  | nil =>
    cases h
    rfl
  | cons t ts ih =>
    rw [split] at h
    by_cases hlate : t - start > minute
    · obtain ⟨later, rest, hsplit⟩ := split_eq_cons t ts
      rw [if_pos hlate, hsplit] at h
      cases h
      rw [RateCounter.answers, RateCounter.permit, if_pos hlate]
      exact congrArg (_ :: ·) (ih _ hsplit)
    · obtain ⟨later, rest, hsplit⟩ := split_eq_cons start ts
      rw [if_neg hlate, hsplit] at h
      cases h
      rw [RateCounter.answers, RateCounter.permit, if_neg hlate]
      exact congrArg (_ :: ·) (ih _ hsplit)

theorem passed_append (l l' : List (ℤ × Bool)) :
    passed (l ++ l') = passed l ++ passed l' := by
  simp only [passed, List.filter_append, List.map_append]

theorem passed_flatMap {α : Type} (f : α → List (ℤ × Bool)) (l : List α) :
    passed (l.flatMap f) = l.flatMap fun x ↦ passed (f x) := by
  induction l with
  | nil => rfl
  | cons x l ih => rw [List.flatMap_cons, passed_append, ih, List.flatMap_cons]

theorem map_fst_answers (rate : RateCounter) (ts : List ℤ) :
    (rate.answers ts).map (·.1) = ts := by
  induction ts generalizing rate with
  | nil => rfl
  | cons t ts ih => exact congrArg (t :: ·) (ih _)

theorem passed_mark {count : ℕ} {requests : List ℤ}
    (h : count + requests.length ≤ 2 ^ 64) :
    passed (mark count requests) = requests.take (60 - count) := by
  induction requests generalizing count with
  | nil => simp [mark, passed]
  | cons t ts ih =>
    rw [List.length_cons] at h
    by_cases hwrap : count + 1 = 2 ^ 64
    · obtain rfl : ts = [] := List.eq_nil_of_length_eq_zero (by omega)
      have hrefused : ¬ count < 60 := by omega
      simp [mark, passed, hrefused, Nat.sub_eq_zero_of_le (not_lt.mp hrefused)]
    · have hnext := @ih (count + 1) (by omega)
      rw [mark, Nat.mod_eq_of_lt (by omega)]
      by_cases hpass : count < 60
      · obtain ⟨n, hn⟩ : ∃ n, 60 - count = n + 1 := ⟨59 - count, by omega⟩
        rw [show 60 - (count + 1) = n by omega] at hnext
        rw [hn, List.take_succ_cons, ← hnext]
        simp [passed, hpass]
      · rw [Nat.sub_eq_zero_of_le (by omega : 60 ≤ count + 1)] at hnext
        rw [Nat.sub_eq_zero_of_le (not_lt.mp hpass), List.take_zero] at *
        rw [← hnext]
        simp [passed, hpass]

theorem mark_append {count : ℕ} (hcount : count < 2 ^ 64) (l l' : List ℤ) :
    mark count (l ++ l') = mark count l ++ mark ((count + l.length) % 2 ^ 64) l' := by
  induction l generalizing count with
  | nil => rw [List.nil_append, List.length_nil, Nat.add_zero, Nat.mod_eq_of_lt hcount]; rfl
  | cons t ts ih =>
    rw [List.cons_append, mark, mark, ih (Nat.mod_lt _ (by decide)), List.length_cons,
      Nat.mod_add_mod, List.cons_append, Nat.add_right_comm, Nat.add_assoc]

structure Tiled (ws : List CountedWindow) : Prop where
  starts : (ws.map (·.start)).Pairwise fun s s' ↦ s + minute < s'
  inside : ∀ w ∈ ws, ∀ t ∈ w.requests, w.start ≤ t ∧ t ≤ w.start + minute

theorem minute_nonneg : 0 ≤ minute := by decide

theorem tiled_split (hle : ∀ t ∈ ts, start ≤ t) (hts : ts.Pairwise (· ≤ ·)) :
    Tiled (split start ts) ∧ ∀ w ∈ split start ts, start ≤ w.start := by
  induction ts generalizing start with
  | nil =>
    refine ⟨⟨List.pairwise_singleton _ _, fun w hw ↦ ?_⟩, fun w hw ↦ ?_⟩ <;>
      obtain rfl := List.mem_singleton.mp hw
    · nofun
    · exact le_rfl
  | cons t ts ih =>
    obtain ⟨ht, hlater⟩ := List.forall_mem_cons.mp hle
    obtain ⟨hfirst, hts⟩ := List.pairwise_cons.mp hts
    rw [split]
    by_cases hlate : t - start > minute
    · obtain ⟨later, rest, hsplit⟩ := split_eq_cons t ts
      obtain ⟨⟨hstarts, hinside⟩, hge⟩ := ih hfirst hts
      rw [if_pos hlate, hsplit, addFirst]
      rw [hsplit] at hstarts hinside hge
      obtain ⟨hhead, htail⟩ := List.forall_mem_cons.mp hinside
      have hminute := minute_nonneg
      refine ⟨⟨List.pairwise_cons.mpr ⟨fun s hs ↦ ?_, hstarts⟩, ?_⟩, ?_⟩
      · obtain ⟨w, hw, rfl⟩ := List.mem_map.mp hs
        obtain rfl | hw := List.mem_cons.mp hw
        · change start + minute < t
          omega
        · have hw := hge w (List.mem_cons_of_mem _ hw)
          change start + minute < w.start
          omega
      · simp only [List.forall_mem_cons]
        exact ⟨nofun, ⟨⟨le_rfl, by omega⟩, hhead⟩, htail⟩
      · simp only [List.forall_mem_cons] at hge ⊢
        refine ⟨le_rfl, ht, fun w hw ↦ ht.trans (hge.2 w hw)⟩
    · obtain ⟨later, rest, hsplit⟩ := split_eq_cons start ts
      obtain ⟨⟨hstarts, hinside⟩, hge⟩ := ih hlater hts
      rw [if_neg hlate, hsplit, addFirst]
      rw [hsplit] at hstarts hinside hge
      obtain ⟨hhead, htail⟩ := List.forall_mem_cons.mp hinside
      refine ⟨⟨hstarts, ?_⟩, List.forall_mem_cons.mpr (List.forall_mem_cons.mp hge)⟩
      simp only [List.forall_mem_cons]
      exact ⟨⟨⟨ht, by omega⟩, hhead⟩, htail⟩

theorem passed_answers_sublist (rate : RateCounter) (ts : List ℤ) :
    (passed (rate.answers ts)).Sublist ts := by
  induction ts generalizing rate with
  | nil => exact List.Sublist.refl []
  | cons t ts ih =>
    rw [RateCounter.answers, passed]
    cases (rate.permit t).2 with
    | false => exact (ih _).cons t
    | true => exact (ih _).cons_cons t

end Windows

section Limit

def CountedWindow.passing (w : CountedWindow) : List ℤ := passed (mark 0 w.requests)

variable {w w' : CountedWindow} {ws : List CountedWindow}

theorem passing_eq (h : w.requests.length ≤ 2 ^ 64) : w.passing = w.firstSixty := by
  rw [passing, passed_mark (by omega), firstSixty]

theorem not_apart_of_wrap (h : 2 ^ 64 < w.requests.length)
    (hinside : ∀ t ∈ w.requests, w.start ≤ t ∧ t ≤ w.start + minute) :
    ¬ Apart (· + minute) 60 w.passing := by
  intro hapart
  have hdrop : 0 < (w.requests.drop (2 ^ 64)).length := by
    rw [List.length_drop]
    omega
  obtain ⟨b, bs, hb⟩ := List.exists_cons_of_length_pos hdrop
  have hsixty : (w.requests.take 60).length = 60 := List.length_take_of_le (by omega)
  have htake : (w.requests.take (2 ^ 64)).length = 2 ^ 64 := List.length_take_of_le h.le
  have hpassing : w.passing = w.requests.take 60 ++ b :: passed (mark 1 bs) := by
    have hmark : mark 0 w.requests = mark 0 (w.requests.take (2 ^ 64)) ++ mark 0 (b :: bs) := by
      conv_lhs => rw [← List.take_append_drop (2 ^ 64) w.requests]
      rw [mark_append (by decide), htake, hb, Nat.zero_add, Nat.mod_self]
    rw [passing, hmark, passed_append, passed_mark (by omega), List.take_take]
    rfl
  obtain ⟨a, as, hfirst⟩ : ∃ a as, w.requests.take 60 = a :: as :=
    List.exists_cons_of_length_pos (by omega)
  have hlt : a + minute < b := by
    refine hapart 0 a b ?_ ?_
    · rw [hpassing, hfirst]
      rfl
    · rw [hpassing, List.getElem?_append_right (by omega), hsixty]
      rfl
  have ha := hinside a (List.mem_of_mem_take (hfirst ▸ List.mem_cons_self))
  have hb := hinside b (List.mem_of_mem_drop (hb ▸ List.mem_cons_self))
  omega

theorem spaced_of_apart (h : Apart (· + minute) 60 (w.firstSixty ++ w'.firstSixty)) :
    Spaced w w' := by
  intro i a b ha hb
  have hi : i < w.firstSixty.length := (List.getElem?_eq_some_iff.mp ha).1
  have hsixty : w.firstSixty.length ≤ 60 := List.length_take_le 60 _
  refine h i a b ?_ ?_
  · rw [List.getElem?_append_left hi, ha]
  · rw [List.getElem?_append_right (by omega), hb]

/-- The sixtieth request after one that passes is in the next window or a later one. -/
theorem apart_of_spaced (htiled : Tiled ws) (h : ws.IsChain Spaced) :
    Apart (· + minute) 60 (ws.flatMap firstSixty) := by
  induction ws with
  | nil => nofun
  | cons w ws ih =>
    obtain ⟨hstarts, hinside⟩ := htiled
    obtain ⟨hhead, htail⟩ := List.forall_mem_cons.mp hinside
    obtain ⟨hstart, hstarts⟩ := List.pairwise_cons.mp hstarts
    have hrest := ih ⟨hstarts, htail⟩ h.of_cons
    have hsixty : w.firstSixty.length ≤ 60 := List.length_take_le 60 _
    intro i a b ha hb
    rw [List.flatMap_cons] at ha hb
    by_cases hi : i < w.firstSixty.length
    · rw [List.getElem?_append_left hi] at ha
      rw [List.getElem?_append_right (by omega)] at hb
      cases ws with
      | nil => cases hb
      | cons w' ws =>
        rw [List.flatMap_cons] at hb
        by_cases hnext : i + 60 - w.firstSixty.length < w'.firstSixty.length
        · rw [List.getElem?_append_left hnext] at hb
          exact (List.isChain_cons_cons.mp h).1 i a b ha hb
        · rw [List.getElem?_append_right (not_lt.mp hnext)] at hb
          obtain ⟨w'', hw'', hmem⟩ := List.mem_flatMap.mp (List.mem_of_getElem? hb)
          have ha := hhead a (List.mem_of_mem_take (List.mem_of_getElem? ha))
          have hb := htail w'' (List.mem_cons_of_mem _ hw'') b (List.mem_of_mem_take hmem)
          -- a whole window is between the two
          have hbetween : w.start + minute < w'.start := hstart w'.start List.mem_cons_self
          have hafter : w'.start + minute < w''.start :=
            (List.pairwise_cons.mp hstarts).1 w''.start (List.mem_map_of_mem hw'')
          change a + minute < b
          omega
    · rw [List.getElem?_append_right (not_lt.mp hi)] at ha
      rw [List.getElem?_append_right (by omega), Nat.sub_add_comm (not_lt.mp hi)] at hb
      exact hrest _ a b ha hb

/-- The windows in which no more than the first sixty pass, and these far enough from those of the
next one. -/
def KeepsLimit (ws : List CountedWindow) : Prop :=
  (∀ w ∈ ws, w.requests.length ≤ 2 ^ 64) ∧ ws.IsChain Spaced

theorem apart_passing_iff (htiled : Tiled ws) :
    Apart (· + minute) 60 (ws.flatMap passing) ↔ KeepsLimit ws := by
  constructor
  · intro h
    have hcount : ∀ w ∈ ws, w.requests.length ≤ 2 ^ 64 := by
      intro w hw
      obtain ⟨ws₁, ws₂, rfl⟩ := List.append_of_mem hw
      rw [List.flatMap_append, List.flatMap_cons] at h
      exact not_lt.mp fun hwrap ↦ not_apart_of_wrap hwrap (htiled.inside w hw) h.infix_append
    refine ⟨hcount, List.isChain_iff_forall_rel_of_append_cons_cons.mpr fun w w' ws₁ ws₂ heq ↦ ?_⟩
    subst heq
    simp only [List.flatMap_append, List.flatMap_cons] at h
    rw [← List.append_assoc w.passing] at h
    refine spaced_of_apart ?_
    rw [← passing_eq (hcount w (by simp)), ← passing_eq (hcount w' (by simp))]
    exact h.infix_append
  · rintro ⟨hcount, hchain⟩
    have hpassing : ws.flatMap passing = ws.flatMap firstSixty :=
      List.flatMap_congr fun w hw ↦ passing_eq (hcount w hw)
    rw [hpassing]
    exact apart_of_spaced htiled hchain

/-- So many of the earlier requests passed since the start of the window as the counter tells, up
to sixty. -/
def Counted (rate : RateCounter) (earlier : List ℤ) : Prop :=
  min rate.count 60 ≤ (earlier.filter (rate.windowStart ≤ ·)).length

theorem counted_permit {rate : RateCounter} {earlier : List ℤ} {now : ℤ}
    (h : Counted rate earlier) (hstart : rate.windowStart ≤ now) :
    Counted (rate.permit now).1 (earlier ++ passed [(now, (rate.permit now).2)]) ∧
      (rate.permit now).1.windowStart ≤ now ∧
      ((rate.permit now).2 = false → 60 ≤ rate.count ∧ now - minute ≤ rate.windowStart) := by
  rw [RateCounter.permit]
  by_cases hlate : now - rate.windowStart > minute
  · simp only [if_pos hlate]
    refine ⟨?_, le_rfl, nofun⟩
    simp [Counted, passed]
  · simp only [if_neg hlate, decide_eq_false_iff_not, not_lt]
    refine ⟨?_, hstart, fun hcount ↦ ⟨hcount, by omega⟩⟩
    rw [Counted] at h ⊢
    rw [List.filter_append, List.length_append]
    by_cases hpass : rate.count < 60
    · have hnext : (rate.count + 1) % 2 ^ 64 = rate.count + 1 := Nat.mod_eq_of_lt (by omega)
      simp only [hnext, passed, hpass, decide_true, List.filter_cons_of_pos, List.filter_nil,
        List.map_cons, List.map_nil, hstart, List.length_singleton]
      omega
    · have hmost := Nat.min_le_right ((rate.count + 1) % 2 ^ 64) 60
      dsimp only
      omega

theorem refused_of_answers {rate : RateCounter} {ts earlier : List ℤ}
    (hle : ∀ t ∈ ts, rate.windowStart ≤ t) (hts : ts.Pairwise (· ≤ ·))
    (hearlier : Counted rate earlier) {before after : List (ℤ × Bool)} {now : ℤ}
    (h : rate.answers ts = before ++ (now, false) :: after) :
    60 ≤ ((earlier ++ passed before).filter (now - minute ≤ ·)).length := by
  induction ts generalizing rate earlier before with
  | nil => simp [RateCounter.answers] at h
  | cons t ts ih =>
    obtain ⟨hfirst, hts⟩ := List.pairwise_cons.mp hts
    obtain ⟨hcounted, hstart, hrefused⟩ := counted_permit hearlier (hle t List.mem_cons_self)
    rw [RateCounter.answers] at h
    cases before with
    | nil =>
      obtain ⟨hnow, -⟩ := List.cons.inj h
      rw [Prod.mk.injEq] at hnow
      obtain ⟨rfl, hanswer⟩ := hnow
      obtain ⟨hcount, hminute⟩ := hrefused hanswer
      rw [Counted, Nat.min_eq_right hcount] at hearlier
      refine hearlier.trans ?_
      rw [passed, List.filter_nil, List.map_nil, List.append_nil]
      refine (List.monotone_filter_right earlier fun p hp ↦ ?_).length_le
      simp only [decide_eq_true_eq] at hp ⊢
      exact hminute.trans hp
    | cons first before =>
      obtain ⟨rfl, hrest⟩ := List.cons.inj h
      have hsixty := ih (fun t' ht' ↦ hstart.trans (hfirst t' ht')) hts hcounted hrest
      rw [List.append_assoc, ← passed_append] at hsixty
      exact hsixty

/-- The limiter slides by the minute if and only if its own windows keep the limit. -/
theorem slidesByMinute_iff {start : ℤ} {ts : List ℤ} (h : (start :: ts).Pairwise (· ≤ ·)) :
    SlidesByMinute (RateCounter.answers ⟨start, 0⟩ ts) ↔ KeepsLimit (split start ts) := by
  obtain ⟨hle, hts⟩ := List.pairwise_cons.mp h
  obtain ⟨requests, ws, hsplit⟩ := split_eq_cons start ts
  have hpassed : passed (RateCounter.answers ⟨start, 0⟩ ts) = (split start ts).flatMap passing := by
    rw [answers_eq_mark 0 hsplit, hsplit, passed_append, List.flatMap_cons, passing, passed_flatMap]
    rfl
  have hsorted : (passed (RateCounter.answers ⟨start, 0⟩ ts)).Pairwise (· ≤ ·) :=
    hts.sublist (passed_answers_sublist _ ts)
  have hmono : Monotone (· + minute) := fun a b hab ↦ by
    change a + minute ≤ b + minute
    omega
  rw [← apart_passing_iff (tiled_split hle hts).1, ← hpassed, apart_iff hmono hsorted]
  constructor
  · exact fun hslides ↦ hslides.atMost
  · refine fun hmost ↦ ⟨hmost, fun before now after heq ↦ ?_⟩
    have hcounted : Counted ⟨start, 0⟩ [] := Nat.zero_le _
    have hsixty := refused_of_answers hle hts hcounted heq
    have htimes := map_fst_answers ⟨start, 0⟩ ts
    rw [heq, List.map_append, List.map_cons] at htimes
    have hbefore : ∀ p ∈ passed before, p ≤ now := by
      intro p hp
      obtain ⟨answer, hanswer, rfl⟩ := List.mem_map.mp hp
      rw [← htimes, List.pairwise_append] at hts
      exact hts.2.2 _ (List.mem_map_of_mem (List.mem_filter.mp hanswer).1) now List.mem_cons_self
    have hwithin : within (· + minute) (now - minute) (passed before) =
        (passed before).filter (now - minute ≤ ·) := by
      refine List.filter_congr fun p hp ↦ ?_
      have hle := hbefore p hp
      simp only [Bool.decide_and, Bool.and_eq_left_iff_imp, decide_eq_true_eq]
      omega
    rw [hwithin]
    exact hsixty

end Limit

theorem slidesByMinute_two : SlidesByMinute (RateCounter.answers ⟨0, 0⟩ [1, minute + 2]) := by
  refine (slidesByMinute_iff (by decide)).mpr ⟨?_, ?_⟩
  · have hlengths : ∀ n ∈ (split 0 [1, minute + 2]).map (·.requests.length), n ≤ 2 ^ 64 := by decide
    exact fun w hw ↦ hlengths _ (List.mem_map_of_mem hw)
  · refine List.isChain_pair.mpr fun i a b ha hb ↦ ?_
    cases i with
    | zero => cases hb
    | succ i => cases ha

/-- Sixty requests shortly before the end of the first minute and one more after it. -/
def burst : List ℤ := List.replicate 60 (DateTime.seconds 59) ++ [DateTime.seconds 61]

theorem not_slidesByMinute : ¬ SlidesByMinute (RateCounter.answers ⟨0, 0⟩ burst) := by
  intro h
  have hpassed : passed (RateCounter.answers ⟨0, 0⟩ burst) = burst := by decide
  have hcount := h.atMost (DateTime.seconds 59)
  rw [hpassed] at hcount
  exact absurd hcount (by decide)

end AdkGateway.GatewayRoutes
