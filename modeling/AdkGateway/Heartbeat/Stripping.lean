import AdkGateway.Foundation.Removal
import AdkGateway.Foundation.Text

namespace AdkGateway.Heartbeat

open Foundation

def heartbeatOkResponse : String := "HEARTBEAT_OK"

def heartbeatTurnMarker : String := "__heartbeat_v2__"

structure Turn where
  role : String
  content : String
  metadata : Option String
  deriving DecidableEq

namespace Turn

def regular (role content : String) : Turn := ⟨role, content, none⟩

def heartbeat (role content : String) : Turn := ⟨role, content, some heartbeatTurnMarker⟩

def isHeartbeat (turn : Turn) : Bool := turn.metadata = some heartbeatTurnMarker

end Turn

inductive HeartbeatResponseKind
  | ok
  | alert (content : String)
  deriving DecidableEq

def classifyResponse (response : String) : HeartbeatResponseKind :=
  if Text.trim response = heartbeatOkResponse then .ok else .alert response

def marksAt (history : List Turn) (i : ℕ) : List ℕ :=
  match history[i]? with
  | none => []
  | some turn =>
    if turn.isHeartbeat then
      if turn.role = "assistant" then
        if classifyResponse turn.content = .ok then
          if 0 < i ∧ (history[i - 1]?).any fun before ↦ before.isHeartbeat ∧ before.role = "user" then
            [i, i - 1]
          else [i]
        else []
      else if turn.role = "user" then
        match history[i + 1]? with
        | none => [i]
        | some next =>
          -- a reply marks its prompt itself
          if next.isHeartbeat ∧ next.role = "assistant" then []
          else if next.isHeartbeat then []
          else [i]
      else []
    else []

def indicesToRemove (history : List Turn) : List ℕ :=
  (List.range history.length).flatMap (marksAt history)

def stripHeartbeatTurns (history : List Turn) : List Turn :=
  Removal.removeAll (indicesToRemove history) history

open Removal

namespace Turn

def isPrompt (turn : Turn) : Bool := turn.isHeartbeat && decide (turn.role = "user")

def isReply (turn : Turn) : Bool := turn.isHeartbeat && decide (turn.role = "assistant")

def isOkReply (turn : Turn) : Bool :=
  turn.isReply && decide (classifyResponse turn.content = .ok)

def isAlertReply (turn : Turn) : Bool := turn.isReply && !turn.isOkReply

end Turn

structure RightlyKept (history : List Turn) (keep : ℕ → Bool) : Prop where
  regular : ∀ i turn, history[i]? = some turn → turn.isHeartbeat = false → keep i = true
  pairs : ∀ i prompt reply, history[i]? = some prompt → history[i + 1]? = some reply →
    prompt.isPrompt = true → reply.isAlertReply = true → keep i = true ∧ keep (i + 1) = true
  prompts : ∀ i prompt, history[i]? = some prompt → keep i = true → prompt.isPrompt = true →
    ∃ reply, history[i + 1]? = some reply ∧ reply.isAlertReply = true
  replies : ∀ i reply, history[i]? = some reply → keep i = true → reply.isOkReply = false

/-- What is left of a history are the turns to keep, in their order, and nothing is left to strip. -/
def StripsRightly (history : List Turn) : Prop :=
  (∃ keep, RightlyKept history keep ∧ stripHeartbeatTurns history = pick keep history) ∧
    stripHeartbeatTurns (stripHeartbeatTurns history) = stripHeartbeatTurns history

/-- What follows a prompt of the heartbeat is its reply or a regular turn. -/
def PromptsAnswered (history : List Turn) : Prop :=
  ∀ i prompt next, history[i]? = some prompt → history[i + 1]? = some next →
    prompt.isPrompt = true → next.isHeartbeat = true → next.isReply = true

section Kept

def drops (turn : Turn) (next : Option Turn) : Bool :=
  turn.isOkReply ||
    (turn.isPrompt && next.all fun next ↦ !next.isHeartbeat || next.isOkReply)

def kept : List Turn → List Turn
  | [] => []
  | turn :: rest => if drops turn rest.head? then kept rest else turn :: kept rest

def dropsAt (history : List Turn) (i : ℕ) : Bool :=
  (history[i]?).any fun turn ↦ drops turn history[i + 1]?

theorem pick_eq_kept (history : List Turn) :
    pick (fun i ↦ !dropsAt history i) history = kept history := by
  induction history with
  | nil => rfl
  | cons turn rest ih =>
    have hnext : (turn :: rest)[0 + 1]? = rest.head? := by
      rw [List.getElem?_cons_succ, List.head?_eq_getElem?]
    have htail (i : ℕ) : dropsAt (turn :: rest) (i + 1) = dropsAt rest i := rfl
    have hhead : dropsAt (turn :: rest) 0 = drops turn rest.head? := by
      rw [dropsAt, hnext]
      rfl
    simp only [pick, kept, hhead, htail, ih]
    cases drops turn rest.head? <;> rfl

theorem not_isPrompt_of_isReply {turn : Turn} (h : turn.isReply = true) : turn.isPrompt = false := by
  rw [Turn.isReply, Bool.and_eq_true, decide_eq_true_eq] at h
  simp [Turn.isPrompt, h.2]

theorem mem_replyMarks {history : List Turn} {i j : ℕ} :
    j ∈ (if 0 < i ∧ (history[i - 1]?).any fun before ↦ before.isHeartbeat ∧ before.role = "user" then
        [i, i - 1] else [i]) ↔
      j = i ∨ j + 1 = i ∧ ∃ prompt, history[j]? = some prompt ∧ prompt.isPrompt = true := by
  cases i with
  | zero => simp
  | succ i =>
    rw [Nat.add_sub_cancel]
    cases hbefore : history[i]? with
    | none =>
      simp only [Option.any_none, Bool.false_eq_true, and_false, if_false, List.mem_singleton,
        Nat.add_right_cancel_iff]
      refine (or_iff_left ?_).symm
      intro hmarked
      obtain ⟨rfl, prompt, hprompt, -⟩ := hmarked
      cases hbefore.symm.trans hprompt
    | some before =>
      have hiff : (j + 1 = i + 1 ∧ ∃ prompt, history[j]? = some prompt ∧ prompt.isPrompt = true) ↔
          j = i ∧ before.isPrompt = true := by
        rw [Nat.add_right_cancel_iff]
        refine and_congr_right fun hj ↦ ?_
        subst hj
        rw [hbefore]
        constructor
        · intro hexists
          obtain ⟨prompt, heq, hprompt⟩ := hexists
          rwa [Option.some_inj.mp heq]
        · exact fun hprompt ↦ ⟨before, rfl, hprompt⟩
      rw [hiff]
      by_cases hprompt : before.isPrompt = true
      · have hboth : before.isHeartbeat = true ∧ before.role = "user" := by
          simpa [Turn.isPrompt] using hprompt
        simp [hboth, hprompt]
      · have hnot : ¬ (before.isHeartbeat = true ∧ before.role = "user") := by
          simpa [Turn.isPrompt] using hprompt
        simp [hnot, hprompt]

theorem mem_marksAt {history : List Turn} {i j : ℕ} {turn : Turn} (hturn : history[i]? = some turn) :
    j ∈ marksAt history i ↔
      turn.isOkReply = true ∧
          (j = i ∨ j + 1 = i ∧ ∃ prompt, history[j]? = some prompt ∧ prompt.isPrompt = true) ∨
        turn.isPrompt = true ∧ j = i ∧
          (history[i + 1]?).all (fun next ↦ !next.isHeartbeat) = true := by
  unfold marksAt
  rw [hturn]
  simp only [Turn.isOkReply, Turn.isReply, Turn.isPrompt]
  by_cases hheartbeat : turn.isHeartbeat = true
  · by_cases hassistant : turn.role = "assistant"
    · by_cases hok : classifyResponse turn.content = .ok
      · simp only [hheartbeat, hassistant, hok, if_true, mem_replyMarks]
        simp [Turn.isPrompt]
      · simp [hheartbeat, hassistant, hok]
    · by_cases huser : turn.role = "user"
      · cases hnext : history[i + 1]? with
        | none => simp [hheartbeat, huser]
        | some next =>
          by_cases hregular : next.isHeartbeat = true
          · simp [hheartbeat, huser, hregular]
          · simp [hheartbeat, huser, hregular]
      · simp [hheartbeat, hassistant, huser]
  · simp [hheartbeat]

theorem mem_indicesToRemove {history : List Turn} {j : ℕ} :
    j ∈ indicesToRemove history ↔ dropsAt history j = true := by
  simp only [indicesToRemove, List.mem_flatMap, List.mem_range, dropsAt, Option.any_eq_true, drops,
    Bool.or_eq_true, Bool.and_eq_true]
  constructor
  · intro hmarked
    obtain ⟨i, hi, hmark⟩ := hmarked
    have hturn := List.getElem?_eq_getElem hi
    rcases (mem_marksAt hturn).mp hmark with ⟨hok, rfl | ⟨rfl, prompt, hprompt, hisPrompt⟩⟩ |
      ⟨hprompt, rfl, hnext⟩
    · exact ⟨_, hturn, .inl hok⟩
    · refine ⟨prompt, hprompt, .inr ⟨hisPrompt, ?_⟩⟩
      rw [hturn, Option.all_some, hok, Bool.or_true]
    · refine ⟨_, hturn, .inr ⟨hprompt, ?_⟩⟩
      cases hget : history[j + 1]? with
      | none => rfl
      | some next =>
        rw [hget, Option.all_some] at hnext
        rw [Option.all_some, hnext, Bool.true_or]
  · intro hdropped
    obtain ⟨turn, hturn, hdrops⟩ := hdropped
    have hj : j < history.length := (List.getElem?_eq_some_iff.mp hturn).1
    rcases hdrops with hok | ⟨hprompt, hnext⟩
    · exact ⟨j, hj, (mem_marksAt hturn).mpr (.inl ⟨hok, .inl rfl⟩)⟩
    · cases hget : history[j + 1]? with
      | none => exact ⟨j, hj, (mem_marksAt hturn).mpr (.inr ⟨hprompt, rfl, by rw [hget]; rfl⟩)⟩
      | some next =>
        rw [hget, Option.all_some, Bool.or_eq_true] at hnext
        rcases hnext with hregular | hok
        · exact ⟨j, hj, (mem_marksAt hturn).mpr (.inr ⟨hprompt, rfl, by rw [hget]; exact hregular⟩)⟩
        · exact ⟨j + 1, (List.getElem?_eq_some_iff.mp hget).1,
            (mem_marksAt hget).mpr (.inl ⟨hok, .inr ⟨rfl, turn, hturn, hprompt⟩⟩)⟩

theorem stripHeartbeatTurns_eq_kept (history : List Turn) :
    stripHeartbeatTurns history = kept history := by
  rw [stripHeartbeatTurns, removeAll_eq_pick, ← pick_eq_kept]
  congr 1
  funext i
  simp only [mem_indicesToRemove]
  cases dropsAt history i <;> rfl

end Kept

section Answered

variable {history rest : List Turn} {turn : Turn}

theorem not_isOkReply_of_isAlertReply (h : turn.isAlertReply = true) : turn.isOkReply = false := by
  rw [Turn.isAlertReply, Bool.and_eq_true, Bool.not_eq_true'] at h
  exact h.2

theorem isReply_of_isAlertReply (h : turn.isAlertReply = true) : turn.isReply = true := by
  rw [Turn.isAlertReply, Bool.and_eq_true] at h
  exact h.1

theorem isHeartbeat_of_isReply (h : turn.isReply = true) : turn.isHeartbeat = true := by
  rw [Turn.isReply, Bool.and_eq_true] at h
  exact h.1

theorem isAlertReply_of_isReply (h : turn.isReply = true) (hok : turn.isOkReply = false) :
    turn.isAlertReply = true := by
  rw [Turn.isAlertReply, h, hok]
  rfl

theorem PromptsAnswered.tail (h : PromptsAnswered (turn :: rest)) : PromptsAnswered rest :=
  fun i prompt next hprompt hnext ↦ h (i + 1) prompt next hprompt hnext

theorem rightlyKept_of_promptsAnswered (h : PromptsAnswered history) :
    RightlyKept history fun i ↦ !dropsAt history i where
  regular i turn hturn hregular := by
    have hnot : turn.isOkReply = false := by
      rw [Turn.isOkReply, Turn.isReply, hregular]
      rfl
    simp [dropsAt, drops, hturn, hnot, Turn.isPrompt, hregular]
  pairs i prompt reply hprompt hreply hisPrompt halert := by
    have hok := not_isOkReply_of_isAlertReply halert
    have hreplies := isReply_of_isAlertReply halert
    have hheartbeat := isHeartbeat_of_isReply hreplies
    have hnotReply : prompt.isOkReply = false := by
      cases hboth : prompt.isReply with
      | false => rw [Turn.isOkReply, hboth, Bool.false_and]
      | true => cases hisPrompt.symm.trans (not_isPrompt_of_isReply hboth)
    constructor
    · simp [dropsAt, drops, hprompt, hreply, hnotReply, hheartbeat, hok]
    · simp [dropsAt, drops, hreply, hok, not_isPrompt_of_isReply hreplies]
  prompts i prompt hprompt hkeep hisPrompt := by
    cases hget : history[i + 1]? with
    | none => simp [dropsAt, drops, hprompt, hget, hisPrompt] at hkeep
    | some next =>
      simp only [dropsAt, drops, hprompt, hget, hisPrompt, Option.any_some, Option.all_some,
        Bool.true_and, Bool.not_or, Bool.and_eq_true, Bool.not_eq_true', Bool.not_eq_false'] at hkeep
      obtain ⟨-, hheartbeat, hok⟩ := hkeep
      have hreply := h i prompt next hprompt hget hisPrompt hheartbeat
      exact ⟨next, rfl, isAlertReply_of_isReply hreply hok⟩
  replies i reply hreply hkeep := by
    simp only [dropsAt, drops, hreply, Option.any_some, Bool.not_or, Bool.and_eq_true,
      Bool.not_eq_true'] at hkeep
    exact hkeep.1

theorem kept_kept (h : PromptsAnswered history) : kept (kept history) = kept history := by
  induction history with
  | nil => rfl
  | cons turn rest ih =>
    have hrest := ih h.tail
    rw [kept]
    split
    · exact hrest
    · next hkeep =>
      have hagain : drops turn (kept rest).head? = false := by
        rw [Bool.not_eq_true] at hkeep
        simp only [drops, Bool.or_eq_false_iff] at hkeep ⊢
        refine ⟨hkeep.1, ?_⟩
        cases hprompt : turn.isPrompt with
        | false => rfl
        | true =>
          cases rest with
          | nil => simp [hprompt] at hkeep
          | cons next rest =>
            have hnext : (!next.isHeartbeat || next.isOkReply) = false := by
              simpa [hprompt] using hkeep.2
            obtain ⟨hheartbeat, hok⟩ := Bool.or_eq_false_iff.mp hnext
            have hreply := h 0 turn next rfl rfl hprompt (by simpa using hheartbeat)
            -- the alert stays behind its prompt
            have hstays : drops next rest.head? = false := by
              rw [drops, hok, not_isPrompt_of_isReply hreply]
              rfl
            rw [kept, hstays]
            simp only [Bool.false_eq_true, if_false, List.head?_cons, Option.all_some, hnext]
            rfl
      rw [kept, hagain, hrest]
      rfl

end Answered

section Counting

variable {history rest : List Turn} {turn : Turn} {keep : ℕ → Bool}

def alerts : List Turn → ℕ
  | [] => 0
  | turn :: rest =>
    alerts rest + if turn.isPrompt && rest.head?.any Turn.isAlertReply then 1 else 0

def strays : List Turn → ℕ
  | [] => 0
  | turn :: rest =>
    strays rest +
      if turn.isPrompt && rest.head?.any fun next ↦ next.isHeartbeat && !next.isReply then 1 else 0

theorem RightlyKept.tail (h : RightlyKept (turn :: rest) keep) :
    RightlyKept rest fun i ↦ keep (i + 1) where
  regular i := h.regular (i + 1)
  pairs i := h.pairs (i + 1)
  prompts i := h.prompts (i + 1)
  replies i := h.replies (i + 1)

theorem countP_pick (h : RightlyKept history keep) :
    (pick keep history).countP Turn.isPrompt = alerts history := by
  induction history generalizing keep with
  | nil => rfl
  | cons turn rest ih =>
    have hrest := ih h.tail
    have hhead : (keep 0 && turn.isPrompt) =
        (turn.isPrompt && rest.head?.any Turn.isAlertReply) := by
      rw [Bool.eq_iff_iff, Bool.and_eq_true, Bool.and_eq_true, Option.any_eq_true,
        List.head?_eq_getElem?]
      constructor
      · intro hkept
        exact ⟨hkept.2, h.prompts 0 turn rfl hkept.1 hkept.2⟩
      · intro hanswered
        obtain ⟨hprompt, reply, hreply, halert⟩ := hanswered
        exact ⟨(h.pairs 0 turn reply rfl hreply hprompt halert).1, hprompt⟩
    rw [pick, alerts, ← hhead, ← hrest]
    cases keep 0 with
    | false => simp
    | true =>
      simp only [if_true, Bool.true_and, List.countP_cons]

theorem not_drops_of_isPrompt {next : Option Turn} (h : turn.isPrompt = true) :
    (if drops turn next then 0 else 1) = (if next.any Turn.isAlertReply then 1 else 0) +
      if next.any fun next ↦ next.isHeartbeat && !next.isReply then 1 else 0 := by
  have hok : turn.isOkReply = false := by
    cases hreply : turn.isReply with
    | false => rw [Turn.isOkReply, hreply, Bool.false_and]
    | true => cases h.symm.trans (not_isPrompt_of_isReply hreply)
  cases next with
  | none => simp [drops, hok, h]
  | some next =>
    simp only [drops, hok, h, Bool.false_or, Bool.true_and, Option.all_some, Option.any_some]
    by_cases hreply : next.isReply = true
    · have hheartbeat := isHeartbeat_of_isReply hreply
      by_cases hnextOk : next.isOkReply = true
      · simp [hheartbeat, hreply, hnextOk, Turn.isAlertReply]
      · simp [hheartbeat, hreply, hnextOk, Turn.isAlertReply]
    · have hnextOk : next.isOkReply = false := by simp [Turn.isOkReply, hreply]
      by_cases hheartbeat : next.isHeartbeat = true
      · simp [hheartbeat, hreply, hnextOk, Turn.isAlertReply]
      · simp [hheartbeat, hreply, hnextOk, Turn.isAlertReply]

theorem countP_kept (history : List Turn) :
    (kept history).countP Turn.isPrompt = alerts history + strays history := by
  induction history with
  | nil => rfl
  | cons turn rest ih =>
    rw [kept, alerts, strays]
    cases hprompt : turn.isPrompt with
    | false =>
      simp only [Bool.false_and, Bool.false_eq_true, if_false, Nat.add_zero]
      split
      · exact ih
      · rw [List.countP_cons_of_neg (by simp [hprompt]), ih]
    | true =>
      have hcount := @not_drops_of_isPrompt turn rest.head? hprompt
      simp only [Bool.true_and]
      split
      · next hdrops =>
        rw [if_pos hdrops] at hcount
        omega
      · next hkeeps =>
        rw [if_neg hkeeps] at hcount
        rw [List.countP_cons_of_pos hprompt, ih]
        omega

theorem promptsAnswered_of_strays (h : strays history = 0) : PromptsAnswered history := by
  induction history with
  | nil => exact fun i prompt next hprompt ↦ by cases hprompt
  | cons turn rest ih =>
    obtain ⟨hrest, hhead⟩ := Nat.add_eq_zero_iff.mp h
    intro i prompt next hprompt hnext hisPrompt hheartbeat
    cases i with
    | succ i => exact ih hrest i prompt next hprompt hnext hisPrompt hheartbeat
    | zero =>
      obtain rfl := Option.some_inj.mp hprompt
      have hget : rest.head? = some next := by rwa [List.head?_eq_getElem?]
      by_contra hnot
      simp [hisPrompt, hget, hheartbeat, hnot] at hhead

end Counting

/-- The pairs come apart only where a prompt is followed by a turn of the heartbeat that is no
reply. -/
theorem stripsRightly_iff (history : List Turn) :
    StripsRightly history ↔ PromptsAnswered history := by
  simp only [StripsRightly, stripHeartbeatTurns_eq_kept]
  constructor
  · intro hright
    obtain ⟨⟨keep, hkeep, hresult⟩, -⟩ := hright
    have hcount := countP_pick hkeep
    rw [← hresult, countP_kept] at hcount
    exact promptsAnswered_of_strays (by omega)
  · intro h
    exact ⟨⟨_, rightlyKept_of_promptsAnswered h, (pick_eq_kept history).symm⟩, kept_kept h⟩

def promptedTwice : List Turn :=
  [.heartbeat "user" "Anything to report?", .heartbeat "user" "Anything to report?"]

theorem not_stripsRightly : ¬ ∀ history, StripsRightly history := by
  intro h
  have htwice := (h promptedTwice).2
  rw [stripHeartbeatTurns_eq_kept, stripHeartbeatTurns_eq_kept] at htwice
  exact absurd htwice (by decide)

end AdkGateway.Heartbeat
