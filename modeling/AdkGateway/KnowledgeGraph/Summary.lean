import AdkGateway.Foundation.Machine
import AdkGateway.KnowledgeGraph.Graph
import AdkGateway.ProcessMessage.Shortening

namespace AdkGateway.KnowledgeGraph

open Foundation

section Text

def Entity.line (entity : Entity) (maxObsPerEntity : ℕ) : String :=
  let shown := (entity.observations.reverse.take maxObsPerEntity).reverse.map (·.content)
  "• " ++ entity.name ++ " (" ++ entity.entityType ++ ")" ++
    (if entity.observations.isEmpty then "" else ": " ++ "; ".intercalate shown) ++ "\n"

def Relation.line (rel : Relation) : String :=
  "  " ++ rel.source ++ " —[" ++ rel.relationType ++ "]→ " ++ rel.target ++ "\n"

/-- The order in which the relations of a map come. -/
structure RelationOrder where
  order : KeyedMap ℕ Relation → List Relation
  perm : ∀ relations, (order relations).Perm (KeyedMap.values relations)

def RelationOrder.inserted : RelationOrder := ⟨KeyedMap.values, fun _ ↦ .refl _⟩

variable (iter : RelationOrder)

def UserGraph.summary (graph : UserGraph) (maxObsPerEntity : ℕ) : String :=
  let entities := KeyedMap.values graph.entities
  let relations := iter.order graph.relations
  if entities.isEmpty then ""
  else
    "[Active memory — known entities and facts]\n" ++
      String.join
        ((entities.insertionSort fun a b ↦ a.name ≤ b.name).map (·.line maxObsPerEntity)) ++
      if relations.isEmpty then ""
      else "Relationships:\n" ++ String.join (relations.map Relation.line)

def buildEntitySummary (kg : KnowledgeGraph) (userId : String) (maxObsPerEntity : ℕ) : String :=
  (kg.graph userId).summary iter maxObsPerEntity

end Text

structure MemoryConfig where
  maxObservations : ℕ
  summaryObservations : ℕ

structure Memory where
  kg : KnowledgeGraph
  memorySummaries : KeyedMap String String
  builtFrom : KeyedMap String (UserGraph × ℕ)
  config : Option MemoryConfig

/-- A message or a scheduled run begins with `inject`, a tool may be called while it runs, and a
message that is answered ends with `remember`; others just end. -/
inductive Activity
  | inject (userId : String)
  | tool (userId : String) (op : Op)
  | remember (userId userEntityName : String) (text response : List Char)
  | deleteUserGraph (userId : String)
  | configure (config : Option MemoryConfig)

namespace Memory

def new (kg : KnowledgeGraph) (config : Option MemoryConfig) : Memory := ⟨kg, ∅, ∅, config⟩

variable (iter : RelationOrder) (s : Memory)

def cache (userId : String) (maxObsPerEntity : ℕ) : Memory :=
  { s with
    kg := s.kg.userGraph userId
    memorySummaries := s.memorySummaries.insert userId
      (s.kg.buildEntitySummary iter userId maxObsPerEntity)
    builtFrom := s.builtFrom.insert userId (s.kg.graph userId, maxObsPerEntity) }

def inject (userId : String) : Option String × Memory :=
  match s.config with
  | none => (none, s)
  | some config =>
    match s.memorySummaries.lookup userId with
    | some summary => (some summary, s)
    | none =>
      let summary := s.kg.buildEntitySummary iter userId config.summaryObservations
      (some summary,
        if summary = "" then { s with kg := s.kg.userGraph userId }
        else s.cache iter userId config.summaryObservations)

/-- Where the reply cannot be cut for the store, the run ends in a panic. -/
def remember (userId userEntityName : String) (text response : List Char) : Memory :=
  match s.config with
  | none => s
  | some config =>
    let kg := (s.kg.createEntities userId [⟨userEntityName, "user", []⟩]).2
    match ProcessMessage.observations text response with
    | none => { s with kg := kg }
    | some observations =>
      let kg := (kg.addObservations userId userEntityName (observations.map String.ofList)).2
      let kg := (kg.trimObservations userId config.maxObservations).2
      { s with kg := kg }.cache iter userId config.summaryObservations

def next : Activity → Memory
  | .inject userId => (s.inject iter userId).2
  | .tool userId op => { s with kg := s.kg.apply userId op }
  | .remember userId userEntityName text response =>
    s.remember iter userId userEntityName text response
  | .deleteUserGraph userId => { s with kg := (s.kg.deleteUserGraph userId).2 }
  | .configure config => { s with config := config }

def step (s : Memory) (act : Activity) : Unit × Memory := ((), s.next iter act)

/-- The agent is given the summary of the graph as it is, with the number configured now. -/
def InjectsCurrent : Activity → Prop
  | .inject userId => ∀ config, s.config = some config →
    (s.inject iter userId).1 = some (s.kg.buildEntitySummary iter userId config.summaryObservations)
  | _ => True

def StillShows : Activity → Prop
  | .inject userId => ∀ config, s.config = some config →
    ∀ graph maxObs, s.builtFrom.lookup userId = some (graph, maxObs) →
      graph.summary iter maxObs = (s.kg.graph userId).summary iter config.summaryObservations
  | _ => True

variable {iter s}

/-- A cached summary is that of the graph and the number it was built from. -/
def Kept (iter : RelationOrder) (s : Memory) : Prop :=
  ∀ userId, s.memorySummaries.lookup userId =
    (s.builtFrom.lookup userId).map fun built ↦ built.1.summary iter built.2

theorem Kept.cache (hk : s.Kept iter) (userId : String) (maxObsPerEntity : ℕ) :
    (s.cache iter userId maxObsPerEntity).Kept iter := by
  intro userId'
  simp only [Memory.cache, KeyedMap.lookup_insert_if]
  split
  · rfl
  · exact hk userId'

theorem Kept.withKg (hk : s.Kept iter) (kg : KnowledgeGraph) : Kept iter { s with kg := kg } := hk

theorem Kept.inject (hk : s.Kept iter) (userId : String) : (s.inject iter userId).2.Kept iter := by
  unfold Memory.inject
  split
  · exact hk
  · split
    · exact hk
    · simp only
      split
      · exact hk
      · exact hk.cache _ _

theorem Kept.remember (hk : s.Kept iter) (userId userEntityName : String) (text response : List Char) :
    (s.remember iter userId userEntityName text response).Kept iter := by
  unfold Memory.remember
  split
  · exact hk
  · simp only
    split
    · exact hk
    · exact Kept.cache (hk.withKg _) _ _

theorem Kept.next (hk : s.Kept iter) (act : Activity) : (s.next iter act).Kept iter := by
  cases act with
  | inject userId => exact hk.inject userId
  | remember userId userEntityName text response =>
    exact hk.remember userId userEntityName text response
  | tool | deleteUserGraph | configure => exact hk

theorem injectsCurrent_iff_stillShows (hk : s.Kept iter) (act : Activity) :
    s.InjectsCurrent iter act ↔ s.StillShows iter act := by
  cases act with
  | inject userId =>
    refine forall₂_congr fun config hconfig ↦ ?_
    simp only [Memory.inject, hconfig]
    cases hbuilt : s.builtFrom.lookup userId with
    | none =>
      have hnone : s.memorySummaries.lookup userId = none := by
        rw [hk userId, hbuilt, Option.map_none]
      simp [hnone]
    | some built =>
      have hsome : s.memorySummaries.lookup userId = some (built.1.summary iter built.2) := by
        rw [hk userId, hbuilt, Option.map_some]
      simp only [hsome, Option.some.injEq, buildEntitySummary]
      constructor
      · rintro hsame graph maxObs rfl
        exact hsame
      · intro hshows
        exact hshows built.1 built.2 rfl
  | _ => exact Iff.rfl

theorem injectsCurrent_iff (iter : RelationOrder) (kg : KnowledgeGraph)
    (config : Option MemoryConfig) (acts : List Activity) :
    Machine.Along (step iter) (InjectsCurrent iter) (new kg config) acts ↔
      Machine.Along (step iter) (StillShows iter) (new kg config) acts := by
  have hnew : (new kg config).Kept iter := fun _ ↦ rfl
  have hstep : ∀ (s : Memory) (act : Activity), s.Kept iter →
      (s.InjectsCurrent iter act ↔ s.StillShows iter act) ∧
        (s.StillShows iter act → (step iter s act).2.Kept iter) :=
    fun s act hk ↦ ⟨injectsCurrent_iff_stillShows hk act, fun _ ↦ hk.next act⟩
  exact Machine.along_iff_along (step iter) hstep hnew acts

/-- A message is answered; a tool notes something in a run that fails; the next message comes. -/
def failedRun : List Activity :=
  [.inject "u", .remember "u" "Ann" "hi".toList "hello".toList, .inject "u",
    .tool "u" (.addObservations "Ann" ["likes tea"]), .inject "u"]

theorem not_injectsCurrent : ¬ ∀ (iter : RelationOrder) (kg : KnowledgeGraph)
    (config : Option MemoryConfig) (acts : List Activity),
    Machine.Along (step iter) (InjectsCurrent iter) (new kg config) acts := by
  intro hall
  obtain ⟨-, -, -, -, hcurrent, -⟩ := hall .inserted .new (some ⟨50, 10⟩) failedRun
  have hsame := hcurrent ⟨50, 10⟩ rfl
  exact absurd hsame (by decide)

end Memory

end AdkGateway.KnowledgeGraph
