import Mathlib.Logic.Relation

namespace AdkGateway.Foundation.Digraph

variable {α : Type}

def Edge (edges : List (α × α)) (a b : α) : Prop := (a, b) ∈ edges

def Acyclic (edges : List (α × α)) : Prop := ∀ a, ¬ Relation.TransGen (Edge edges) a a

section Search

variable [DecidableEq α] (edges : List (α × α))

def successors (a : α) : List α := (edges.filter (·.1 = a)).map Prod.snd

def unfollowed (visited : List α) : List (α × α) := edges.filter (·.1 ∉ visited)

theorem mem_successors {a b : α} : b ∈ successors edges a ↔ Edge edges a b := by
  simp [successors, Edge]

theorem length_unfollowed_cons {a : α} {visited : List α} (ha : a ∉ visited) :
    (unfollowed edges (a :: visited)).length + (successors edges a).length =
      (unfollowed edges visited).length := by
  rw [successors, List.length_map]
  induction edges with
  | nil => rfl
  | cons edge edges ih =>
    simp only [unfollowed, List.filter_cons, List.mem_cons] at ih ⊢
    by_cases hsource : edge.1 = a
    · simp only [hsource, true_or, not_true_eq_false, decide_false, decide_true, ha,
        not_false_eq_true, if_true, Bool.false_eq_true, if_false, List.length_cons]
      omega
    · by_cases hvisited : edge.1 ∈ visited
      · simpa [hsource, hvisited] using ih
      · simp only [hsource, hvisited, or_self, not_false_eq_true, decide_true, decide_false, if_true,
          Bool.false_eq_true, if_false, List.length_cons]
        omega

def search (goal : α) (visited : List α) : List α → Bool
  | [] => false
  | node :: queue =>
    if node = goal then true
    else if node ∈ visited then search goal visited queue
    else search goal (node :: visited) (queue ++ successors edges node)
termination_by queue => (unfollowed edges visited).length + queue.length
decreasing_by
  · simp
  · rename_i hvisited
    have hfollowed := length_unfollowed_cons edges hvisited
    rw [List.length_append, List.length_cons]
    omega

variable {edges}

def Followed (edges : List (α × α)) (goal : α) (visited queue : List α) : Prop :=
  ∀ a ∈ visited, a ≠ goal ∧ ∀ b, Edge edges a b → b ∈ visited ∨ b ∈ queue

omit [DecidableEq α] in
theorem Followed.exists_queue {goal a : α} {visited queue : List α}
    (h : Followed edges goal visited queue) (ha : a ∈ visited)
    (hreach : Relation.ReflTransGen (Edge edges) a goal) :
    ∃ b ∈ queue, Relation.ReflTransGen (Edge edges) b goal := by
  induction hreach using Relation.ReflTransGen.head_induction_on with
  | refl => exact absurd rfl (h goal ha).1
  | head hedge hrest ih =>
    obtain hvisited | hqueue := (h _ ha).2 _ hedge
    · exact ih hvisited
    · exact ⟨_, hqueue, hrest⟩

theorem search_iff {goal : α} {visited queue : List α} (h : Followed edges goal visited queue) :
    search edges goal visited queue = true ↔
      ∃ a ∈ queue, Relation.ReflTransGen (Edge edges) a goal := by
  induction visited, queue using search.induct edges goal with
  | case1 visited => simp [search]
  | case2 visited queue =>
    rw [search, if_pos rfl]
    exact iff_of_true rfl ⟨goal, List.mem_cons_self, .refl⟩
  | case3 visited node queue hne hvisited ih =>
    have hfollowed : Followed edges goal visited queue := by
      intro a ha
      refine ⟨(h a ha).1, fun b hedge ↦ ?_⟩
      obtain hb | hb := (h a ha).2 b hedge
      · exact .inl hb
      · obtain rfl | hb := List.mem_cons.mp hb
        · exact .inl hvisited
        · exact .inr hb
    rw [search, if_neg hne, if_pos hvisited, ih hfollowed]
    constructor
    · rintro ⟨a, ha, hreach⟩
      exact ⟨a, List.mem_cons_of_mem _ ha, hreach⟩
    · rintro ⟨a, ha, hreach⟩
      obtain rfl | ha := List.mem_cons.mp ha
      · exact hfollowed.exists_queue hvisited hreach
      · exact ⟨a, ha, hreach⟩
  | case4 visited node queue hne hvisited ih =>
    have hfollowed : Followed edges goal (node :: visited) (queue ++ successors edges node) := by
      intro a ha
      obtain rfl | ha := List.mem_cons.mp ha
      · refine ⟨hne, fun b hedge ↦ .inr ?_⟩
        exact List.mem_append_right _ ((mem_successors edges).mpr hedge)
      · refine ⟨(h a ha).1, fun b hedge ↦ ?_⟩
        obtain hb | hb := (h a ha).2 b hedge
        · exact .inl (List.mem_cons_of_mem _ hb)
        · obtain rfl | hb := List.mem_cons.mp hb
          · exact .inl List.mem_cons_self
          · exact .inr (List.mem_append_left _ hb)
    rw [search, if_neg hne, if_neg hvisited, ih hfollowed]
    constructor
    · rintro ⟨a, ha, hreach⟩
      obtain ha | ha := List.mem_append.mp ha
      · exact ⟨a, List.mem_cons_of_mem _ ha, hreach⟩
      · exact ⟨node, List.mem_cons_self, .head ((mem_successors edges).mp ha) hreach⟩
    · rintro ⟨a, ha, hreach⟩
      obtain rfl | ha := List.mem_cons.mp ha
      · obtain rfl | ⟨b, hedge, hrest⟩ := hreach.cases_head
        · exact absurd rfl hne
        · exact ⟨b, List.mem_append_right _ ((mem_successors edges).mpr hedge), hrest⟩
      · exact ⟨a, List.mem_append_left _ ha, hreach⟩

theorem search_singleton_iff {start goal : α} :
    search edges goal [] [start] = true ↔ Relation.ReflTransGen (Edge edges) start goal := by
  rw [search_iff fun _ ha ↦ absurd ha List.not_mem_nil]
  simp

end Search

section Cycles

variable {edges edges' : List (α × α)} {a b : α}

theorem Acyclic.mono (h : edges' ⊆ edges) (hac : Acyclic edges) : Acyclic edges' :=
  fun a hcycle ↦ hac a (Relation.TransGen.mono (fun _ _ hedge ↦ h hedge) _ _ hcycle)

theorem transGen_append {x y : α} (h : Relation.TransGen (Edge (edges ++ [(a, b)])) x y) :
    Relation.TransGen (Edge edges) x y ∨
      Relation.ReflTransGen (Edge edges) x a ∧ Relation.ReflTransGen (Edge edges) b y := by
  have hcases {x y : α} (hedge : Edge (edges ++ [(a, b)]) x y) :
      Edge edges x y ∨ x = a ∧ y = b := by
    obtain hold | hnew := List.mem_append.mp hedge
    · exact .inl hold
    · exact .inr (Prod.mk.inj (List.mem_singleton.mp hnew))
  induction h with
  | single hedge =>
    obtain hold | ⟨rfl, rfl⟩ := hcases hedge
    · exact .inl (.single hold)
    · exact .inr ⟨.refl, .refl⟩
  | tail _ hedge ih =>
    obtain hold | ⟨rfl, rfl⟩ := hcases hedge
    · obtain hway | ⟨hto, hfrom⟩ := ih
      · exact .inl (hway.tail hold)
      · exact .inr ⟨hto, hfrom.tail hold⟩
    · obtain hway | ⟨hto, -⟩ := ih
      · exact .inr ⟨hway.to_reflTransGen, .refl⟩
      · exact .inr ⟨hto, .refl⟩

theorem acyclic_append_iff (hac : Acyclic edges) :
    Acyclic (edges ++ [(a, b)]) ↔ ¬ Relation.ReflTransGen (Edge edges) b a := by
  constructor
  · intro h hback
    have hedge : Edge (edges ++ [(a, b)]) a b := List.mem_append_right _ List.mem_cons_self
    have hle : Edge edges ≤ Edge (edges ++ [(a, b)]) := fun _ _ hold ↦ List.mem_append_left _ hold
    exact h a (.head' hedge (Relation.ReflTransGen.mono hle _ _ hback))
  · intro hback x hcycle
    obtain hold | ⟨hto, hfrom⟩ := transGen_append hcycle
    · exact hac x hold
    · exact hback (hfrom.trans hto)

end Cycles

end AdkGateway.Foundation.Digraph
