import AdkGateway.Foundation.Interleaving
import AdkGateway.Foundation.KeyedMap

namespace AdkGateway.Jwt

open Foundation Interleaving

structure Jwk where
  kty : String
  kid : Option String
  n : Option String
  e : Option String

structure JwksDocument where
  keys : List Jwk

inductive JwtError
  | unknownKid (kid : String)
  | jwksFetchFailed (message : String)

section Keys

-- `fromRsaComponents` is what the library makes of a modulus and an exponent
variable {Key : Type} (fromRsaComponents : String → String → Option Key)

def decodingKeyFromJwk (jwk : Jwk) : Option Key :=
  if jwk.kty = "RSA" then
    jwk.n.bind fun n ↦ jwk.e.bind fun e ↦ fromRsaComponents n e
  else none

def insertKey (keys : KeyedMap String Key) (jwk : Jwk) : KeyedMap String Key :=
  match jwk.kid with
  | some kid =>
    match decodingKeyFromJwk fromRsaComponents jwk with
    | some key => keys.insert kid key
    | none => keys
  | none => keys

def keysOf (doc : JwksDocument) : KeyedMap String Key :=
  doc.keys.foldl (insertKey fromRsaComponents) ∅

def Jwk.Gives (jwk : Jwk) (kid : String) (key : Key) : Prop :=
  jwk.kid = some kid ∧ decodingKeyFromJwk fromRsaComponents jwk = some key

def Holds (doc : JwksDocument) (kid : String) (key : Key) : Prop :=
  ∃ jwk ∈ doc.keys, jwk.Gives fromRsaComponents kid key

def HasKey (doc : JwksDocument) (kid : String) : Prop := ∃ key, Holds fromRsaComponents doc kid key

variable {fromRsaComponents} {keys : KeyedMap String Key} {kid : String} {key : Key}

theorem lookup_insertKey (keys : KeyedMap String Key) (jwk : Jwk) (kid : String) :
    (insertKey fromRsaComponents keys jwk).lookup kid =
      if jwk.kid = some kid then (decodingKeyFromJwk fromRsaComponents jwk).or (keys.lookup kid)
      else keys.lookup kid := by
  rw [insertKey]
  cases hkid : jwk.kid with
  | none => rfl
  | some kid' =>
    cases decodingKeyFromJwk fromRsaComponents jwk with
    | none => simp
    | some key =>
      by_cases heq : kid' = kid
      · simp [heq]
      · simp [heq, Ne.symm heq]

theorem lookup_foldl_insertKey {jwks : List Jwk}
    (hkey : (jwks.foldl (insertKey fromRsaComponents) keys).lookup kid = some key) :
    (∃ jwk ∈ jwks, jwk.Gives fromRsaComponents kid key) ∨ keys.lookup kid = some key := by
  induction jwks generalizing keys with
  | nil => exact .inr hkey
  | cons jwk jwks ih =>
    obtain ⟨jwk', hmem, hgives⟩ | hold := ih hkey
    · exact .inl ⟨jwk', List.mem_cons_of_mem _ hmem, hgives⟩
    · rw [lookup_insertKey] at hold
      split at hold
      · rename_i hkid
        obtain hnew | ⟨-, hold⟩ := Option.or_eq_some_iff.mp hold
        · exact .inl ⟨jwk, List.mem_cons_self, hkid, hnew⟩
        · exact .inr hold
      · exact .inr hold

/-- A later entry may replace a key, but never takes it away. -/
theorem isSome_foldl_insertKey {jwks : List Jwk}
    (h : (∃ key, ∃ jwk ∈ jwks, jwk.Gives fromRsaComponents kid key) ∨ (keys.lookup kid).isSome) :
    ((jwks.foldl (insertKey fromRsaComponents) keys).lookup kid).isSome := by
  induction jwks generalizing keys with
  | nil => simpa using h
  | cons jwk jwks ih =>
    refine ih ?_
    rw [lookup_insertKey]
    obtain ⟨key, jwk', hmem, hgives⟩ | hold := h
    · obtain rfl | hmem := List.mem_cons.mp hmem
      · right
        rw [if_pos hgives.1, hgives.2]
        rfl
      · exact .inl ⟨key, jwk', hmem, hgives⟩
    · right
      split <;> simp [hold]

theorem holds_of_lookup {doc : JwksDocument}
    (h : (keysOf fromRsaComponents doc).lookup kid = some key) :
    Holds fromRsaComponents doc kid key := by
  obtain hnew | hold := lookup_foldl_insertKey h
  · exact hnew
  · cases hold

theorem exists_lookup {doc : JwksDocument} (h : HasKey fromRsaComponents doc kid) :
    ∃ key, (keysOf fromRsaComponents doc).lookup kid = some key :=
  Option.isSome_iff_exists.mp (isSome_foldl_insertKey (.inl h))

end Keys

section Calls

/-- The cache and the provider. The fetches are numbered as they are issued, and
`cached` tells which one the keys are from. -/
structure World (Key : Type) where
  keys : KeyedMap String Key
  lastRefresh : Option ℕ
  cached : Option (ℕ × JwksDocument)
  issued : ℕ
  published : List JwksDocument

inductive Call
  | getKey (kid : String)
  | rotate (doc : JwksDocument)

inductive Point
  | looking (kid : String)
  | requesting (kid : String)
  | fetching (n since : ℕ) (kid : String)
  | storing (n : ℕ) (kid : String) (doc : JwksDocument)
  | rereading (kid : String) (own : JwksDocument)
  | publishing (doc : JwksDocument)

inductive Output (Key : Type)
  | key (result : Except JwtError Key)
  | rotated

inductive Event (Key : Type)
  | answered (n : ℕ) (doc : JwksDocument)
  | returned (kid : String) (own : JwksDocument) (result : Except JwtError Key)

/-- The clock, and which of the provider's documents a fetch is answered with. -/
structure Input where
  now : ℕ
  answer : Except String ℕ

variable {Key : Type}

def World.new (published : List JwksDocument) : World Key := ⟨∅, none, none, 0, published⟩

def needsRefresh (ttl now : ℕ) (s : World Key) : Bool :=
  match s.lastRefresh with
  | some t => ttl ≤ now - t
  | none => true

def start : Call → Point
  | .getKey kid => .looking kid
  | .rotate doc => .publishing doc

variable (fromRsaComponents : String → String → Option Key) (ttl : ℕ)

def step (i : Input) : Point → World Key →
    Option (World Key × (Point ⊕ Output Key) × List (Event Key))
  | .looking kid, s =>
    match if needsRefresh ttl i.now s then none else s.keys.lookup kid with
    | some key => some (s, .inr (.key (.ok key)), [])
    | none => some (s, .inl (.requesting kid), [])
  | .requesting kid, s =>
    some ({ s with issued := s.issued + 1 },
      .inl (.fetching s.issued (s.published.length - 1) kid), [])
  | .fetching n since kid, s =>
    match i.answer with
    | .error message => some (s, .inr (.key (.error (.jwksFetchFailed message))), [])
    | .ok j =>
      if since ≤ j then
        s.published[j]?.map fun doc ↦ (s, .inl (.storing n kid doc), [.answered n doc])
      else none
  | .storing n kid doc, s =>
    some ({ s with
      keys := keysOf fromRsaComponents doc
      lastRefresh := some i.now
      cached := some (n, doc) }, .inl (.rereading kid doc), [])
  | .rereading kid own, s =>
    let result := match s.keys.lookup kid with
      | some key => .ok key
      | none => .error (.unknownKid kid)
    some (s, .inr (.key result), [.returned kid own result])
  | .publishing doc, s =>
    some ({ s with published := s.published ++ [doc] }, .inr .rotated, [])

def program : Program (World Key) Call Point (Output Key) Input (Event Key) where
  start := start
  step := step fromRsaComponents ttl

end Calls

section Rotation

variable {Key : Type} (fromRsaComponents : String → String → Option Key)

def Latest (h : List (Event Key)) (n : ℕ) (doc : JwksDocument) : Prop :=
  .answered n doc ∈ h ∧ ∀ m doc', .answered m doc' ∈ h → m ≤ n

def KeepsKeys (c : Config (World Key) Point (Event Key)) : Prop :=
  ∀ h kid own result, c.history = h ++ [.returned kid own result] →
    (HasKey fromRsaComponents own kid → ∃ key, result = .ok key) ∧
      ∀ key, result = .ok key → ∃ n doc, Latest h n doc ∧ Holds fromRsaComponents doc kid key

/-- A document is stored only over an older one, and only if it has the keys that calls
have just stored and not looked up yet; a call looks up only if no newer document is
about to be stored. -/
def Orderly (c : Config (World Key) Point (Event Key)) : Label Call Point Input → Prop
  | .act (.storing n _ doc) _ =>
    (∀ m old, c.shared.cached = some (m, old) → m ≤ n) ∧
      ∀ kid own, .rereading kid own ∈ c.inFlight → HasKey fromRsaComponents own kid →
        HasKey fromRsaComponents doc kid
  | .act (.rereading _ _) _ =>
    ∀ n kid doc, .storing n kid doc ∈ c.inFlight →
      ∃ m cur, c.shared.cached = some (m, cur) ∧ n ≤ m
  | _ => True

variable {fromRsaComponents} {ttl : ℕ} {s s' : World Key} {l r : List Point} {p : Point}
  {o : Point ⊕ Output Key} {h evs : List (Event Key)}

inductive Moves (fromRsaComponents : String → String → Option Key) (s : World Key) :
    Point → World Key → Point ⊕ Output Key → List (Event Key) → Prop
  | found (kid : String) (result : Except JwtError Key) :
      Moves fromRsaComponents s (.looking kid) s (.inr (.key result)) []
  | refresh (kid : String) : Moves fromRsaComponents s (.looking kid) s (.inl (.requesting kid)) []
  | request (kid : String) (since : ℕ) :
      Moves fromRsaComponents s (.requesting kid) { s with issued := s.issued + 1 }
        (.inl (.fetching s.issued since kid)) []
  | fail (n since : ℕ) (kid : String) (result : Except JwtError Key) :
      Moves fromRsaComponents s (.fetching n since kid) s (.inr (.key result)) []
  | answer (n since : ℕ) (kid : String) (doc : JwksDocument) :
      Moves fromRsaComponents s (.fetching n since kid) s (.inl (.storing n kid doc))
        [.answered n doc]
  | store (n : ℕ) (kid : String) (doc : JwksDocument) (now : ℕ) :
      Moves fromRsaComponents s (.storing n kid doc)
        { s with
          keys := keysOf fromRsaComponents doc
          lastRefresh := some now
          cached := some (n, doc) } (.inl (.rereading kid doc)) []
  | found_again {kid : String} (own : JwksDocument) {key : Key}
      (hkey : s.keys.lookup kid = some key) :
      Moves fromRsaComponents s (.rereading kid own) s (.inr (.key (.ok key)))
        [.returned kid own (.ok key)]
  | unknown {kid : String} (own : JwksDocument) (hkey : s.keys.lookup kid = none) :
      Moves fromRsaComponents s (.rereading kid own) s (.inr (.key (.error (.unknownKid kid))))
        [.returned kid own (.error (.unknownKid kid))]
  | publish (doc : JwksDocument) :
      Moves fromRsaComponents s (.publishing doc) { s with published := s.published ++ [doc] }
        (.inr .rotated) []

theorem moves_of_step {i : Input} (h : step fromRsaComponents ttl i p s = some (s', o, evs)) :
    Moves fromRsaComponents s p s' o evs := by
  cases p with
  | looking kid =>
    simp only [step] at h
    split at h
    · cases h
      exact .found kid _
    · cases h
      exact .refresh kid
  | requesting kid =>
    cases h
    exact .request kid _
  | fetching n since kid =>
    simp only [step] at h
    split at h
    · cases h
      exact .fail n since kid _
    · obtain ⟨-, h⟩ := Option.ite_none_right_eq_some.mp h
      obtain ⟨doc, -, h⟩ := Option.map_eq_some_iff.mp h
      cases h
      exact .answer n since kid doc
  | storing n kid doc =>
    cases h
    exact .store n kid doc _
  | rereading kid own =>
    simp only [step] at h
    split at h
    · cases h
      exact .found_again own ‹_›
    · cases h
      exact .unknown own ‹_›
  | publishing doc =>
    cases h
    exact .publish doc

structure Settled (fromRsaComponents : String → String → Option Key)
    (c : Config (World Key) Point (Event Key)) : Prop where
  blank : c.shared.cached = none → c.shared.keys = ∅
  cached : ∀ n doc, c.shared.cached = some (n, doc) →
    c.shared.keys = keysOf fromRsaComponents doc ∧ .answered n doc ∈ c.history
  storing : ∀ n kid doc, .storing n kid doc ∈ c.inFlight → .answered n doc ∈ c.history
  answered : ∀ n doc, .answered n doc ∈ c.history →
    (∃ kid, .storing n kid doc ∈ c.inFlight) ∨ ∃ m cur, c.shared.cached = some (m, cur) ∧ n ≤ m
  rereading : ∀ kid own, .rereading kid own ∈ c.inFlight → HasKey fromRsaComponents own kid →
    ∃ m cur, c.shared.cached = some (m, cur) ∧ HasKey fromRsaComponents cur kid

theorem Settled.call (hc : Settled fromRsaComponents ⟨s, l ++ r, h⟩) (k : Call) :
    Settled fromRsaComponents ⟨s, l ++ start k :: r, h⟩ := by
  have hother : ∀ q : Point, q ≠ start k → q ∈ l ++ start k :: r → q ∈ l ++ r := by
    intro q hne hq
    exact (mem_middle.mp hq).resolve_right hne
  refine ⟨hc.blank, hc.cached, fun n kid doc hq ↦ ?_, fun n doc he ↦ ?_, fun kid own hq ↦ ?_⟩
  · exact hc.storing n kid doc (hother _ (by cases k <;> simp [start]) hq)
  · obtain ⟨kid, hq⟩ | hdone := hc.answered n doc he
    · exact .inl ⟨kid, mem_middle.mpr (.inl hq)⟩
    · exact .inr hdone
  · exact hc.rereading kid own (hother _ (by cases k <;> simp [start]) hq)

def Point.Plain (p : Point) : Prop :=
  (∀ n kid doc, p ≠ .storing n kid doc) ∧ ∀ kid own, p ≠ .rereading kid own

theorem Settled.frame (hc : Settled fromRsaComponents ⟨s, l ++ p :: r, h⟩)
    (hkeys : s'.keys = s.keys) (hcached : s'.cached = s.cached)
    (hp : ∀ n kid doc, p ≠ .storing n kid doc) (ho : ∀ q, o = .inl q → q.Plain)
    (hevs : ∀ n doc, .answered n doc ∉ evs) :
    Settled fromRsaComponents ⟨s', l ++ (remaining o ++ r), h ++ evs⟩ := by
  have hold : ∀ {q}, q ∈ l ++ (remaining o ++ r) → ¬ q.Plain → q ∈ l ++ p :: r := by
    intro q hq hplain
    obtain hq | hq := mem_act.mp hq
    · exact mem_middle.mpr (.inl hq)
    · exact absurd (ho q hq) hplain
  refine ⟨fun hnone ↦ ?_, fun n doc hsome ↦ ?_, fun n kid doc hq ↦ ?_, fun n doc he ↦ ?_,
    fun kid own hq hkey ↦ ?_⟩
  · exact hkeys.trans (hc.blank (hcached.symm.trans hnone))
  · obtain ⟨hdoc, he⟩ := hc.cached n doc (hcached.symm.trans hsome)
    exact ⟨hkeys.trans hdoc, List.mem_append_left _ he⟩
  · have he := hc.storing n kid doc (hold hq fun hplain ↦ hplain.1 n kid doc rfl)
    exact List.mem_append_left _ he
  · have hbefore := (List.mem_append.mp he).resolve_right (hevs n doc)
    obtain ⟨kid, hq⟩ | ⟨m, cur, hsome, hle⟩ := hc.answered n doc hbefore
    · have hstays := (mem_middle.mp hq).resolve_right (hp n kid doc).symm
      exact .inl ⟨kid, mem_act.mpr (.inl hstays)⟩
    · exact .inr ⟨m, cur, hcached.trans hsome, hle⟩
  · obtain ⟨m, cur, hsome, hcur⟩ :=
      hc.rereading kid own (hold hq fun hplain ↦ hplain.2 kid own rfl) hkey
    exact ⟨m, cur, hcached.trans hsome, hcur⟩

theorem Settled.answer {n since : ℕ} {kid : String} {doc : JwksDocument}
    (hc : Settled fromRsaComponents ⟨s, l ++ .fetching n since kid :: r, h⟩) :
    Settled fromRsaComponents ⟨s, l ++ .storing n kid doc :: r, h ++ [.answered n doc]⟩ := by
  have hlast : .answered n doc ∈ h ++ [.answered n doc] := by simp
  refine ⟨hc.blank, fun m cur hsome ↦ ?_, fun m kid' doc' hq ↦ ?_, fun m doc' he ↦ ?_,
    fun kid' own hq ↦ ?_⟩
  · obtain ⟨hdoc, he⟩ := hc.cached m cur hsome
    exact ⟨hdoc, List.mem_append_left _ he⟩
  · obtain hq | heq := mem_middle.mp hq
    · exact List.mem_append_left _ (hc.storing m kid' doc' (mem_middle.mpr (.inl hq)))
    · cases heq
      exact hlast
  · obtain he | he := List.mem_append.mp he
    · obtain ⟨kid', hq⟩ | hdone := hc.answered m doc' he
      · have hstays := (mem_middle.mp hq).resolve_right (by simp)
        exact .inl ⟨kid', mem_middle.mpr (.inl hstays)⟩
      · exact .inr hdone
    · cases List.mem_singleton.mp he
      exact .inl ⟨kid, mem_middle.mpr (.inr rfl)⟩
  · have hstays := (mem_middle.mp hq).resolve_right (by simp)
    exact hc.rereading kid' own (mem_middle.mpr (.inl hstays))

theorem Settled.store {n now : ℕ} {kid : String} {doc : JwksDocument}
    (hc : Settled fromRsaComponents ⟨s, l ++ .storing n kid doc :: r, h⟩)
    (holder : ∀ m old, s.cached = some (m, old) → m ≤ n)
    (hkeys : ∀ kid' own, .rereading kid' own ∈ l ++ .storing n kid doc :: r →
      HasKey fromRsaComponents own kid' → HasKey fromRsaComponents doc kid') :
    Settled fromRsaComponents ⟨{ s with
      keys := keysOf fromRsaComponents doc
      lastRefresh := some now
      cached := some (n, doc) }, l ++ .rereading kid doc :: r, h⟩ := by
  refine ⟨fun hnone ↦ (nomatch hnone), fun m cur hsome ↦ ?_, fun m kid' doc' hq ↦ ?_,
    fun m doc' he ↦ ?_, fun kid' own hq hkey ↦ ?_⟩
  · cases hsome
    exact ⟨rfl, hc.storing n kid doc (mem_middle.mpr (.inr rfl))⟩
  · have hstays := (mem_middle.mp hq).resolve_right (by simp)
    exact hc.storing m kid' doc' (mem_middle.mpr (.inl hstays))
  · obtain ⟨kid', hq⟩ | ⟨k, cur, hsome, hle⟩ := hc.answered m doc' he
    · obtain hq | heq := mem_middle.mp hq
      · exact .inl ⟨kid', mem_middle.mpr (.inl hq)⟩
      · cases heq
        exact .inr ⟨n, doc, rfl, Nat.le_refl n⟩
    · exact .inr ⟨n, doc, rfl, hle.trans (holder k cur hsome)⟩
  · obtain hq | heq := mem_middle.mp hq
    · exact ⟨n, doc, rfl, hkeys kid' own (mem_middle.mpr (.inl hq)) hkey⟩
    · cases heq
      exact ⟨n, doc, rfl, hkey⟩

theorem Settled.act (hc : Settled fromRsaComponents ⟨s, l ++ p :: r, h⟩)
    (hm : Moves fromRsaComponents s p s' o evs) {i : Input}
    (hok : Orderly fromRsaComponents ⟨s, l ++ p :: r, h⟩ (.act p i)) :
    Settled fromRsaComponents ⟨s', l ++ (remaining o ++ r), h ++ evs⟩ := by
  cases hm with
  | answer n since kid doc => exact hc.answer
  | store n kid doc now =>
    rw [List.append_nil]
    exact hc.store hok.1 hok.2
  | _ => exact hc.frame rfl rfl (by simp) (by simp [Point.Plain]) (by simp)

theorem keepsKeys_act (hc : Settled fromRsaComponents ⟨s, l ++ p :: r, h⟩)
    (hkept : KeepsKeys fromRsaComponents ⟨s, l ++ p :: r, h⟩)
    (hm : Moves fromRsaComponents s p s' o evs) {i : Input}
    (hok : Orderly fromRsaComponents ⟨s, l ++ p :: r, h⟩ (.act p i)) :
    KeepsKeys fromRsaComponents ⟨s', l ++ (remaining o ++ r), h ++ evs⟩ := by
  intro before kid own result heq
  cases hm with
  | answer n since kid' doc => cases (List.append_inj' heq rfl).2
  | @found_again kid' own' key hkey =>
    obtain ⟨rfl, hlast⟩ := List.append_inj' heq rfl
    cases hlast
    refine ⟨fun _ ↦ ⟨key, rfl⟩, fun key' hkey' ↦ ?_⟩
    cases hkey'
    cases hcached : s.cached with
    | none =>
      rw [show s.keys = ∅ from hc.blank hcached] at hkey
      cases hkey
    | some cached =>
      obtain ⟨n, doc⟩ := cached
      obtain ⟨hkeys, he⟩ := hc.cached n doc hcached
      have hdoc : s.keys = keysOf fromRsaComponents doc := hkeys
      rw [hdoc] at hkey
      refine ⟨n, doc, ⟨he, fun m doc' he' ↦ ?_⟩, holds_of_lookup hkey⟩
      obtain ⟨kid', hq⟩ | ⟨k, cur, hsome, hle⟩ := hc.answered m doc' he'
      · obtain ⟨k, cur, hsome, hle⟩ := hok m kid' doc' hq
        cases hcached.symm.trans hsome
        exact hle
      · cases hcached.symm.trans hsome
        exact hle
  | @unknown kid' own' hnone =>
    obtain ⟨rfl, hlast⟩ := List.append_inj' heq rfl
    cases hlast
    refine ⟨fun hkey ↦ ?_, fun key hkey ↦ (nomatch hkey)⟩
    obtain ⟨n, doc, hcached, hhas⟩ := hc.rereading kid own (mem_middle.mpr (.inr rfl)) hkey
    have hdoc : s.keys = keysOf fromRsaComponents doc := (hc.cached n doc hcached).1
    obtain ⟨key, hsome⟩ := exists_lookup hhas
    rw [hdoc] at hnone
    cases hnone.symm.trans hsome
  | _ => exact hkept before kid own result (by simpa using heq)

theorem settled_of_run {published : List JwksDocument} {c : Config (World Key) Point (Event Key)}
    (h : Run (program fromRsaComponents ttl) (Orderly fromRsaComponents)
      (initial (World.new published)) c) : Settled fromRsaComponents c := by
  have hnew : Settled fromRsaComponents (initial (World.new published)) :=
    ⟨fun _ ↦ rfl, by simp [initial, World.new], by simp [initial], by simp [initial],
      by simp [initial]⟩
  exact h.invariant (fun _ _ ↦ trivial) hnew (fun k _ _ hc ↦ hc.call k)
    fun i hstep hok _ hc ↦ hc.act (moves_of_step hstep) hok

theorem keepsKeys_of_run {published : List JwksDocument}
    {c : Config (World Key) Point (Event Key)}
    (h : Run (program fromRsaComponents ttl) (Orderly fromRsaComponents)
      (initial (World.new published)) c) : KeepsKeys fromRsaComponents c :=
  h.invariant (fun _ ↦ settled_of_run) (by simp [KeepsKeys, initial]) (fun _ _ _ hkept ↦ hkept)
    fun _ hstep hok hc hkept ↦ keepsKeys_act hc hkept (moves_of_step hstep) hok

end Rotation

section Schedules

def rsaPair (n e : String) : Option (String × String) := some (n, e)

def oneKey (kid : String) : JwksDocument := ⟨[⟨"RSA", some kid, some "sXchDaQe", some "AQAB"⟩]⟩

def poll (n : ℕ) : Move Call Input := .act n ⟨0, .error "timeout"⟩

def answerWith (n j : ℕ) : Move Call Input := .act n ⟨0, .ok j⟩

def requestBoth : List (Move Call Input) :=
  [.call (.getKey "a"), poll 0, poll 0, .call (.rotate (oneKey "b")), poll 1,
    .call (.getKey "b"), poll 1, poll 1]

def oneByOne : List (Move Call Input) :=
  requestBoth ++ ([answerWith 0 0, poll 0, poll 0, answerWith 0 1, poll 0, poll 0] :
    List (Move Call Input))

def storeBoth : List (Move Call Input) :=
  requestBoth ++ ([answerWith 0 0, answerWith 1 1, poll 0, poll 1, poll 0] :
    List (Move Call Input))

def theKey : String × String := ("sXchDaQe", "AQAB")

theorem keepsKeys_oneByOne : ∃ c,
    play (program rsaPair 3600) (initial (World.new [oneKey "a"])) oneByOne = some c ∧
      c.history = [.answered 0 (oneKey "a"), .returned "a" (oneKey "a") (.ok theKey),
        .answered 1 (oneKey "b"), .returned "b" (oneKey "b") (.ok theKey)] ∧
      KeepsKeys rsaPair c := by
  have hpermits : Permits (program rsaPair 3600) (Orderly rsaPair)
      (initial (World.new [oneKey "a"])) oneByOne := by
    repeat' first
      | exact trivial
      | refine And.intro trivial ?_
      | refine And.intro ⟨fun m old hcached ↦ ?_, fun kid own hq ↦ ?_⟩ ?_
      | refine And.intro (fun n kid doc hq ↦ ?_) ?_
    · cases hcached
    · simp [initial, program, start] at hq
    · simp [initial, program, start] at hq
    · cases hcached
      exact Nat.zero_le _
    · simp [initial, program, start] at hq
    · simp [initial, program, start] at hq
  exact ⟨_, rfl, rfl, keepsKeys_of_run (run_of_permits hpermits rfl)⟩

theorem hasKey_oneKey (kid : String) : HasKey rsaPair (oneKey kid) kid :=
  ⟨_, _, List.mem_singleton.mpr rfl, rfl, rfl⟩

theorem not_keepsKeys : ¬ ∀ c, Reachable (program rsaPair 3600) (World.new [oneKey "a"]) c →
    KeepsKeys rsaPair c := by
  intro hall
  have hplay : ∃ c, play (program rsaPair 3600) (initial (World.new [oneKey "a"])) storeBoth =
      some c ∧ c.history = [.answered 0 (oneKey "a"), .answered 1 (oneKey "b")] ++
        [.returned "a" (oneKey "a") (.error (.unknownKid "a"))] := ⟨_, rfl, rfl⟩
  obtain ⟨c, hplay, hhistory⟩ := hplay
  obtain ⟨key, hkey⟩ := (hall c (run_of_play _ hplay) _ _ _ _ hhistory).1 (hasKey_oneKey "a")
  cases hkey

end Schedules

end AdkGateway.Jwt
