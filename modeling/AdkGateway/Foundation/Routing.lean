import Mathlib.Data.List.Basic

namespace AdkGateway.Foundation.Routing

inductive Method
  | get
  | head
  | post
  | put
  | delete
  | other (name : String)
  deriving DecidableEq

/-- A path with its parameters in braces, and the methods that it answers to, if not to all. -/
structure Endpoint where
  path : String
  methods : Option (List Method)
  deriving DecidableEq

/-- Whatever answers to a method is called through the layers, the outermost one first. -/
structure Route (Λ : Type) where
  endpoint : Endpoint
  layers : List Λ

abbrev Router (Λ : Type) := List (Route Λ)

section Build

variable {Λ : Type}

def route (path : String) (methods : List Method) : Route Λ := ⟨⟨path, some methods⟩, []⟩

def nestService (path : String) : Router Λ :=
  [path, path ++ "/", path ++ "/{*path}"].map fun path ↦ ⟨⟨path, none⟩, []⟩

def layer (l : Λ) (router : Router Λ) : Router Λ :=
  router.map fun r ↦ { r with layers := l :: r.layers }

def endpoints (router : Router Λ) : List Endpoint := router.map Route.endpoint

theorem mem_layer {l : Λ} {router : Router Λ} {r : Route Λ} (h : r ∈ layer l router) :
    l ∈ r.layers ∧ r.endpoint ∈ endpoints router := by
  obtain ⟨r', hr', rfl⟩ := List.mem_map.mp h
  exact ⟨List.mem_cons_self, List.mem_map.mpr ⟨r', hr', rfl⟩⟩

theorem endpoints_layer (l : Λ) (router : Router Λ) :
    endpoints (layer l router) = endpoints router := by
  simp [endpoints, layer]

end Build

section Dispatch

def segments (path : String) : List (List Char) := path.toList.splitOn '/'

inductive Kind
  | literal
  | parameter
  | catchAll
  deriving DecidableEq

def Kind.ofSegment : List Char → Kind
  | '{' :: '*' :: _ => .catchAll
  | '{' :: _ => .parameter
  | _ => .literal

def Kind.rank : Kind → ℕ
  | literal => 0
  | parameter => 1
  | catchAll => 2

def matchesSegments : List (List Char) → List (List Char) → Bool
  | [], [] => true
  | pattern :: patterns, segment :: rest =>
    match Kind.ofSegment pattern with
    | .catchAll => true
    | .parameter => !segment.isEmpty && matchesSegments patterns rest
    | .literal => pattern == segment && matchesSegments patterns rest
  | _, _ => false

/-- A pattern goes before another one if it is more definite where they first differ. -/
def precedes : List (List Char) → List (List Char) → Bool
  | pattern :: patterns, other :: others =>
    let rank := (Kind.ofSegment pattern).rank
    let rank' := (Kind.ofSegment other).rank
    rank < rank' || (rank == rank' && precedes patterns others)
  | _, _ => false

variable {Λ : Type}

def dispatch (path : String) : Router Λ → Option (Route Λ)
  | [] => none
  | r :: router =>
    if matchesSegments (segments r.endpoint.path) (segments path) then
      match dispatch path router with
      | none => some r
      | some r' =>
        if precedes (segments r'.endpoint.path) (segments r.endpoint.path) then some r' else some r
    else dispatch path router

def Endpoint.answersTo (endpoint : Endpoint) (method : Method) : Bool :=
  match endpoint.methods with
  | none => true
  | some methods => methods.contains method || (method = .head && methods.contains .get)

/-- The endpoint whose handler is called, if the layers let the request pass. -/
def call (passes : Λ → Bool) (router : Router Λ) (method : Method) (path : String) :
    Option Endpoint :=
  (dispatch path router).bind fun r ↦
    if r.endpoint.answersTo method && r.layers.all passes then some r.endpoint else none

def Endpoint.Matches (endpoint : Endpoint) (path : String) : Prop :=
  matchesSegments (segments endpoint.path) (segments path) = true

instance (endpoint : Endpoint) (path : String) : Decidable (endpoint.Matches path) :=
  inferInstanceAs (Decidable (_ = true))

theorem dispatch_spec {path : String} {router : Router Λ} {r : Route Λ}
    (h : dispatch path router = some r) : r ∈ router ∧ r.endpoint.Matches path := by
  induction router with
  | nil => cases h
  | cons r' router ih =>
    have hrest (h : dispatch path router = some r) : r ∈ r' :: router ∧ r.endpoint.Matches path :=
      ⟨List.mem_cons_of_mem _ (ih h).1, (ih h).2⟩
    rw [dispatch] at h
    split at h
    next hmatches =>
      have hfirst (h : some r' = some r) : r ∈ r' :: router ∧ r.endpoint.Matches path := by
        obtain rfl := Option.some_inj.mp h
        exact ⟨List.mem_cons_self, hmatches⟩
      split at h
      next => exact hfirst h
      next r'' hdispatch =>
        split at h
        · exact hrest (hdispatch.trans h)
        · exact hfirst h
    next => exact hrest h

theorem segments_ofList (cs : List Char) : segments (String.ofList cs) = cs.splitOn '/' := by
  rw [segments, String.toList_ofList]

/-- A text in quotes is the list of its characters by definition. -/
theorem not_matches_of_ofList {methods : Option (List Method)} {pattern path : String}
    {cs cs' : List Char} (hpattern : pattern = String.ofList cs) (hpath : path = String.ofList cs')
    (h : matchesSegments (cs.splitOn '/') (cs'.splitOn '/') = false) :
    ¬ (Endpoint.mk pattern methods).Matches path := by
  rw [Endpoint.Matches, hpattern, hpath, segments_ofList, segments_ofList, h]
  exact Bool.false_ne_true

theorem dispatch_append {path : String} {router router' : Router Λ}
    (h : ∀ e ∈ endpoints router, ¬ e.Matches path) :
    dispatch path (router ++ router') = dispatch path router' := by
  induction router with
  | nil => rfl
  | cons r router ih =>
    obtain ⟨hr, hrest⟩ := List.forall_mem_cons.mp h
    rw [Endpoint.Matches] at hr
    rw [List.cons_append, dispatch, if_neg hr, ih hrest]

theorem dispatch_eq_some {path : String} {before after : Router Λ} {r : Route Λ}
    (hbefore : ∀ e ∈ endpoints before, ¬ e.Matches path) (hr : r.endpoint.Matches path)
    (hafter : ∀ e ∈ endpoints after, e.Matches path →
      precedes (segments e.path) (segments r.endpoint.path) = false) :
    dispatch path (before ++ r :: after) = some r := by
  rw [Endpoint.Matches] at hr
  rw [dispatch_append hbefore, dispatch, if_pos hr]
  cases hdispatch : dispatch path after with
  | none => rfl
  | some r' =>
    obtain ⟨hmem, hmatches⟩ := dispatch_spec hdispatch
    simp only [hafter _ (List.mem_map_of_mem hmem) hmatches, Bool.false_eq_true, if_false]

theorem exists_route_of_call {passes : Λ → Bool} {router : Router Λ} {method : Method}
    {path : String} {endpoint : Endpoint} (h : call passes router method path = some endpoint) :
    ∃ r ∈ router, r.endpoint = endpoint ∧ endpoint.Matches path ∧
      ∀ l ∈ r.layers, passes l = true := by
  obtain ⟨r, hr, hcall⟩ := Option.bind_eq_some_iff.mp h
  obtain ⟨hmem, hmatches⟩ := dispatch_spec hr
  split at hcall
  next hpasses =>
    obtain rfl := Option.some_inj.mp hcall
    exact ⟨r, hmem, rfl, hmatches, List.all_eq_true.mp (Bool.and_eq_true_iff.mp hpasses).2⟩
  next => cases hcall

end Dispatch

end AdkGateway.Foundation.Routing
