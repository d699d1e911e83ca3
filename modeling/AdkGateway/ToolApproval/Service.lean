import AdkGateway.Foundation.Glob
import AdkGateway.Foundation.Interleaving
import AdkGateway.Foundation.Json
import AdkGateway.Foundation.KeyedMap
import AdkGateway.Foundation.Time

namespace AdkGateway.ToolApproval

open Foundation

inductive ApprovalDecision
  | required
  | notRequired
  deriving DecidableEq

def defaultDangerousTools : List String := ["fs_write", "fs_delete", "shell_exec", "run_command"]

def matchesPattern (toolName pattern : String) : Bool :=
  if pattern = "*" then true
  else
    let name := toolName.toList
    let chars := pattern.toList
    let startsWithStar := decide (chars.head? = some '*')
    let endsWithStar := decide (chars.getLast? = some '*')
    match startsWithStar, endsWithStar with
    | true, true =>
      let inner := chars.tail.dropLast
      if inner.isEmpty then true else decide (inner <:+: name)
    | true, false => decide (chars.tail <:+ name)
    | false, true => decide (chars.dropLast <+: name)
    | false, false => decide (toolName = pattern)

/-- Rules that are configured take the place of the default ones. -/
def checkRequiresApproval (toolName : String) (requireApproval : List String) : ApprovalDecision :=
  if requireApproval ≠ [] then
    if requireApproval.any (matchesPattern toolName) then .required else .notRequired
  else if defaultDangerousTools.any (matchesPattern toolName) then .required
  else .notRequired

/-- What is left of a pattern without a star at its beginning and one at its end. -/
def interior (chars : List Char) : List Char :=
  let chars := if chars.head? = some '*' then chars.tail else chars
  if chars.getLast? = some '*' then chars.dropLast else chars

def StarsAtEnds (pattern : String) : Prop := '*' ∉ interior pattern.toList

instance (pattern : String) : Decidable (StarsAtEnds pattern) := inferInstanceAs (Decidable (¬ _))

inductive Shape : List Char → List Char → Prop
  | star : Shape ['*'] []
  | both {inner : List Char} : Shape ('*' :: (inner ++ ['*'])) inner
  | leading {inner : List Char} : inner ≠ [] → inner.getLast? ≠ some '*' → Shape ('*' :: inner) inner
  | trailing {inner : List Char} : inner ≠ [] → inner.head? ≠ some '*' → Shape (inner ++ ['*']) inner
  | neither {inner : List Char} : inner.head? ≠ some '*' → inner.getLast? ≠ some '*' →
      Shape inner inner

section Shapes

variable {chars inner : List Char} {pattern toolName : String}

theorem shape_interior (chars : List Char) : Shape chars (interior chars) := by
  cases chars with
  | nil => exact .neither (fun h ↦ by cases h) (fun h ↦ by cases h)
  | cons c cs =>
    by_cases hc : c = '*'
    · subst hc
      have hinterior : interior ('*' :: cs) = if cs.getLast? = some '*' then cs.dropLast else cs := rfl
      rw [hinterior]
      rcases List.eq_nil_or_concat cs with rfl | ⟨inner, d, rfl⟩
      · exact .star
      · rw [List.concat_eq_append, List.getLast?_concat, List.dropLast_concat]
        split
        · next hd =>
          rw [Option.some_inj.mp hd]
          exact .both
        · next hd => exact .leading (by simp) (by simpa using hd)
    · have hhead : (c :: cs).head? ≠ some '*' := by simpa using hc
      rw [interior, if_neg hhead]
      split
      · next hlast =>
        obtain ⟨inner, hinner⟩ := List.getLast?_eq_some_iff.mp hlast
        rw [hinner, List.dropLast_concat]
        rw [hinner] at hhead
        cases inner with
        | nil => exact absurd rfl hhead
        | cons d inner => exact .trailing (List.cons_ne_nil d inner) hhead
      · next hlast => exact .neither hhead hlast

theorem ne_star (hchars : pattern.toList = chars) (h : chars ≠ ['*']) : pattern ≠ "*" := by
  intro hstar
  rw [hstar] at hchars
  exact h hchars.symm

theorem matchesPattern_both (hchars : pattern.toList = '*' :: (inner ++ ['*'])) :
    matchesPattern toolName pattern = true ↔ inner <:+: toolName.toList := by
  have hne : pattern ≠ "*" := ne_star hchars (by simp)
  have hlast : ('*' :: (inner ++ ['*'])).getLast? = some '*' := List.getLast?_concat (l := '*' :: inner)
  simp only [matchesPattern, hne, if_false, hchars, List.head?_cons, hlast, decide_true,
    List.tail_cons, List.dropLast_concat]
  cases inner with
  | nil => simp
  | cons c inner => simp

theorem matchesPattern_leading (hinner : inner ≠ []) (hend : inner.getLast? ≠ some '*')
    (hchars : pattern.toList = '*' :: inner) :
    matchesPattern toolName pattern = true ↔ inner <:+ toolName.toList := by
  have hne : pattern ≠ "*" := ne_star hchars (by simpa using hinner)
  have hlast : ('*' :: inner).getLast? ≠ some '*' := by
    rwa [List.getLast?_cons_of_ne_nil hinner]
  simp only [matchesPattern, hne, if_false, hchars, List.head?_cons, hlast, decide_true,
    decide_false, List.tail_cons, decide_eq_true_eq]

theorem matchesPattern_trailing (hinner : inner ≠ []) (hstart : inner.head? ≠ some '*')
    (hchars : pattern.toList = inner ++ ['*']) :
    matchesPattern toolName pattern = true ↔ inner <+: toolName.toList := by
  have hne : pattern ≠ "*" := ne_star hchars (by simpa using hinner)
  have hhead : (inner ++ ['*']).head? ≠ some '*' := by
    rwa [List.head?_append_of_ne_nil _ hinner]
  simp only [matchesPattern, hne, if_false, hchars, hhead, List.getLast?_concat, decide_true,
    decide_false, List.dropLast_concat, decide_eq_true_eq]

theorem matchesPattern_neither (hstart : inner.head? ≠ some '*') (hend : inner.getLast? ≠ some '*')
    (hchars : pattern.toList = inner) :
    matchesPattern toolName pattern = true ↔ toolName.toList = inner := by
  have hne : pattern ≠ "*" := by
    refine ne_star hchars ?_
    intro heq
    rw [heq] at hstart
    exact hstart rfl
  have hname : toolName = pattern ↔ toolName.toList = inner := by
    rw [← hchars]
    exact String.toList_inj.symm
  simp only [matchesPattern, hne, if_false, hchars, hstart, hend, decide_false, hname,
    decide_eq_true_eq]

theorem isInfix_of_matchesPattern (h : Shape chars inner) (hchars : pattern.toList = chars)
    (hmatch : matchesPattern toolName pattern = true) : inner <:+: toolName.toList := by
  cases h with
  | star => exact List.nil_infix
  | both => exact (matchesPattern_both hchars).mp hmatch
  | leading hinner hend => exact ((matchesPattern_leading hinner hend hchars).mp hmatch).isInfix
  | trailing hinner hstart =>
    exact ((matchesPattern_trailing hinner hstart hchars).mp hmatch).isInfix
  | neither hstart hend =>
    rw [(matchesPattern_neither hstart hend hchars).mp hmatch]

theorem matchesPattern_iff_matches (h : Shape chars inner) (hchars : pattern.toList = chars)
    (hinner : '*' ∉ inner) : matchesPattern toolName pattern = true ↔
      Glob.Matches '*' chars toolName.toList := by
  cases h with
  | star =>
    have hstar : pattern = "*" := String.toList_inj.mp hchars
    rw [matchesPattern, if_pos hstar]
    exact iff_of_true rfl (Glob.matches_star _)
  | both => rw [matchesPattern_both hchars, Glob.matches_between_stars hinner]
  | leading hne hend => rw [matchesPattern_leading hne hend hchars, Glob.matches_cons_star hinner]
  | trailing hne hstart =>
    rw [matchesPattern_trailing hne hstart hchars, Glob.matches_concat_star hinner]
  | neither hstart hend =>
    rw [matchesPattern_neither hstart hend hchars, Glob.matches_literal hinner]

end Shapes

/-- A pattern accepts the names that come of it when its stars are replaced. -/
def IsGlob (pattern : String) : Prop :=
  ∀ toolName, matchesPattern toolName pattern = true ↔
    Glob.Matches '*' pattern.toList toolName.toList

/-- A star in the interior is taken for a character of the name. -/
theorem isGlob_iff (pattern : String) : IsGlob pattern ↔ StarsAtEnds pattern := by
  constructor
  · intro h hstar
    let bare := pattern.toList.filter fun c ↦ c ≠ '*'
    have hmatches : Glob.Matches '*' pattern.toList (String.ofList bare).toList := by
      rw [String.toList_ofList]
      exact Glob.matches_filter pattern.toList
    have hin := isInfix_of_matchesPattern (shape_interior _) rfl ((h _).mpr hmatches)
    rw [String.toList_ofList] at hin
    have hmem : '*' ∈ bare := hin.subset hstar
    simp [bare] at hmem
  · intro h toolName
    exact matchesPattern_iff_matches (shape_interior _) rfl h

/-- A tool is approved by hand if a configured rule, or else a default one, is a glob for its name. -/
theorem checkRequiresApproval_eq_required {requireApproval : List String}
    (h : ∀ pattern ∈ requireApproval, StarsAtEnds pattern) (toolName : String) :
    checkRequiresApproval toolName requireApproval = .required ↔
      ∃ pattern ∈ if requireApproval = [] then defaultDangerousTools else requireApproval,
        Glob.Matches '*' pattern.toList toolName.toList := by
  have hdefault : ∀ pattern ∈ defaultDangerousTools, StarsAtEnds pattern := by decide
  have hany {patterns : List String} (hpatterns : ∀ pattern ∈ patterns, StarsAtEnds pattern) :
      patterns.any (matchesPattern toolName) = true ↔
        ∃ pattern ∈ patterns, Glob.Matches '*' pattern.toList toolName.toList := by
    rw [List.any_eq_true]
    refine exists_congr fun pattern ↦ and_congr_right fun hpattern ↦ ?_
    exact (isGlob_iff pattern).mpr (hpatterns pattern hpattern) toolName
  unfold checkRequiresApproval
  by_cases hempty : requireApproval = []
  · rw [if_neg (not_not_intro hempty), if_pos hempty, ← hany hdefault]
    cases defaultDangerousTools.any (matchesPattern toolName) <;> simp
  · rw [if_pos hempty, if_neg hempty, ← hany h]
    cases requireApproval.any (matchesPattern toolName) <;> simp

/-- No approval is asked for the deletion of a node. -/
theorem not_isGlob : ¬ ∀ pattern, IsGlob pattern := by
  intro h
  have hmatches : Glob.Matches '*' "kg_*_node".toList "kg_delete_node".toList :=
    .char (by decide) (.char (by decide) (.char (by decide) (.star "delete".toList
      ((Glob.matches_literal (by decide)).mpr rfl))))
  have hfalse := (h "kg_*_node" "kg_delete_node").mpr hmatches
  exact absurd hfalse (by decide)

open Interleaving

inductive ApprovalState
  | pending (expiresAtMs : UInt64)
  | approved
  | rejected
  | timedOut
  deriving DecidableEq

structure Sender where
  request : String
  deriving DecidableEq

structure PendingApproval where
  id : String
  toolName : String
  toolArgs : Json
  userId : String
  requestedAt : DateTime
  expiresAt : DateTime
  callbackTx : Option Sender

/-- A call of `handle_callback`; the serial number tells equal calls apart. -/
structure Callback where
  serial : ℕ
  callbackId : String
  approved : Bool
  madeAt : DateTime
  deriving DecidableEq

def Callback.state (cb : Callback) : ApprovalState :=
  if cb.approved then .approved else .rejected

/-- The receiving half. Beside each decision in it stands the callback that the
decision comes from, if it comes from one. -/
structure Receiver where
  alive : Bool
  inbox : List (ApprovalState × Option Callback)

structure DefaultToolApprovalService where
  pending : KeyedMap String PendingApproval
  timeout : DateTime

def DefaultToolApprovalService.new (timeoutSecs : UInt64) : DefaultToolApprovalService :=
  ⟨∅, DateTime.seconds timeoutSecs.toNat⟩

/-- The service with the receivers handed out, the clock, and how many ids have
been drawn and how many callbacks made. -/
structure World where
  service : DefaultToolApprovalService
  receivers : KeyedMap String Receiver
  now : DateTime
  drawn : ℕ
  callbacks : ℕ

namespace World

def new (timeoutSecs : UInt64) (now : DateTime) : World := ⟨.new timeoutSecs, ∅, now, 0, 0⟩

def advance (w : World) (elapsed : ℕ) : World := { w with now := w.now + elapsed }

def setPending (w : World) (pending : KeyedMap String PendingApproval) : World :=
  { w with service := { w.service with pending := pending } }

/-- `oneshot::channel()` for the next request. -/
def openChannel (w : World) (id : String) : World :=
  { w with drawn := w.drawn + 1, receivers := w.receivers.insert id ⟨true, []⟩ }

def sent (w : World) (tx : Sender) : Bool := (w.receivers.lookup tx.request).any Receiver.alive

def send (w : World) (tx : Sender) (state : ApprovalState) (source : Option Callback) : World :=
  { w with receivers := KeyedMap.modify tx.request (fun rx ↦
      if rx.alive then { rx with inbox := rx.inbox ++ [(state, source)] } else rx) w.receivers }

def dropReceiver (w : World) (id : String) : World :=
  { w with receivers := KeyedMap.modify id (fun rx ↦ { rx with alive := false }) w.receivers }

def resolve (w : World) (approval : PendingApproval) (state : ApprovalState)
    (source : Option Callback) : World :=
  approval.callbackTx.elim w fun tx ↦ w.send tx state source

end World

inductive Call
  | requestApproval (toolName : String) (toolArgs : Json) (userId : String)
  | handleCallback (callbackId : String) (approved : Bool)
  | expireStale
  | dropReceiver (id : String)

/-- From `spawned` on, a call of `request_approval` has returned and goes on as the
timeout task. An iteration over the map visits its entries one at a time. -/
inductive Point
  | request (toolName : String) (toolArgs : Json) (userId : String)
  | insert (approval : PendingApproval)
  | spawned (id : String)
  | sleeping (id : String) (deadline : DateTime)
  | timedOut (id : String) (approval : PendingApproval)
  | callback (callbackId : String) (approved : Bool)
  | remove (cb : Callback)
  | answer (cb : Callback) (approval : PendingApproval)
  | expireStale
  | scanning (now : DateTime) (expiredIds : List String)
  | expiring (expiredIds : List String)
  | expired (approval : PendingApproval) (expiredIds : List String)
  | dropReceiver (id : String)

/-- The time that passes before the step, and the entry an iteration visits next. -/
structure Input where
  elapsed : ℕ
  visit : Option String

inductive Output
  | timeoutRan
  | handled (result : Except String Unit)
  | swept
  | dropped

inductive Event
  | requested (id : String) (expiresAt : DateTime)
  | returned (cb : Callback) (result : Except String Unit)
  | timeoutRan (id : String)

def receiverDropped : String := "Failed to send approval state — receiver dropped"

def notFound (callbackId : String) : String :=
  "Approval '" ++ callbackId ++ "' not found — it may have already expired or been processed"

def start : Call → Point
  | .requestApproval toolName toolArgs userId => .request toolName toolArgs userId
  | .handleCallback callbackId approved => .callback callbackId approved
  | .expireStale => .expireStale
  | .dropReceiver id => .dropReceiver id

def World.approval (w : World) (id toolName : String) (toolArgs : Json) (userId : String) :
    PendingApproval where
  id := id
  toolName := toolName
  toolArgs := toolArgs
  userId := userId
  requestedAt := w.now
  expiresAt := w.now + w.service.timeout
  callbackTx := some ⟨id⟩

/-- The answer of `handle_callback` once it has sent its decision. -/
def World.answered (w : World) (approval : PendingApproval) : Except String Unit :=
  match approval.callbackTx with
  | some tx => if w.sent tx then .ok () else .error receiverDropped
  | none => .ok ()

section Step

variable (uuid : ℕ → String)

/-- `uuid` gives the ids in the order in which they are drawn. -/
def act (visit : Option String) (p : Point) (w : World) :
    Option (World × (Point ⊕ Output) × List Event) :=
  match p with
  | .request toolName toolArgs userId =>
    let approval := w.approval (uuid w.drawn) toolName toolArgs userId
    some (w.openChannel approval.id, .inl (.insert approval),
      [.requested approval.id approval.expiresAt])
  | .insert approval =>
    some (w.setPending (w.service.pending.insert approval.id approval),
      .inl (.spawned approval.id), [])
  | .spawned id => some (w, .inl (.sleeping id (w.now + w.service.timeout)), [])
  | .sleeping id deadline =>
    if deadline ≤ w.now then
      match w.service.pending.lookup id with
      | some approval =>
        some (w.setPending (w.service.pending.erase id), .inl (.timedOut id approval), [])
      | none => some (w, .inr .timeoutRan, [.timeoutRan id])
    else none
  | .timedOut id approval =>
    some (w.resolve approval .timedOut none, .inr .timeoutRan, [.timeoutRan id])
  | .callback callbackId approved =>
    some ({ w with callbacks := w.callbacks + 1 },
      .inl (.remove ⟨w.callbacks, callbackId, approved, w.now⟩), [])
  | .remove cb =>
    match w.service.pending.lookup cb.callbackId with
    | some approval =>
      some (w.setPending (w.service.pending.erase cb.callbackId), .inl (.answer cb approval), [])
    | none => some (w, .inr (.handled (.error (notFound cb.callbackId))),
        [.returned cb (.error (notFound cb.callbackId))])
  | .answer cb approval =>
    some (w.resolve approval cb.state (some cb), .inr (.handled (w.answered approval)),
      [.returned cb (w.answered approval)])
  | .expireStale => some (w, .inl (.scanning w.now []), [])
  | .scanning now expiredIds =>
    match visit with
    | some id =>
      if (w.service.pending.lookup id).any fun approval ↦ approval.expiresAt ≤ now then
        some (w, .inl (.scanning now (expiredIds ++ [id])), [])
      else some (w, .inl (.scanning now expiredIds), [])
    | none => some (w, .inl (.expiring expiredIds), [])
  | .expiring [] => some (w, .inr .swept, [])
  | .expiring (id :: expiredIds) =>
    match w.service.pending.lookup id with
    | some approval =>
      some (w.setPending (w.service.pending.erase id), .inl (.expired approval expiredIds), [])
    | none => some (w, .inl (.expiring expiredIds), [])
  | .expired approval expiredIds =>
    some (w.resolve approval .timedOut none, .inl (.expiring expiredIds), [])
  | .dropReceiver id => some (w.dropReceiver id, .inr .dropped, [])

def step (i : Input) (p : Point) (w : World) : Option (World × (Point ⊕ Output) × List Event) :=
  act uuid i.visit p (w.advance i.elapsed)

def program : Program World Call Point Output Input Event := ⟨start, step uuid⟩

end Step

end AdkGateway.ToolApproval
