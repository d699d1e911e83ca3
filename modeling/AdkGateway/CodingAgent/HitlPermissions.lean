import AdkGateway.CodingAgent.PermissionPool
import AdkGateway.Foundation.Interleaving
import AdkGateway.Foundation.Splitting
import Mathlib.Logic.Function.Basic

namespace AdkGateway.CodingAgent.HitlPermissions

open Foundation Interleaving Text

structure PermissionRequest where
  title : String
  options : List String
  deriving DecidableEq

/-- `allowOnce` is what the library builds for a request without options. -/
inductive PermissionDecision
  | allow (id : String)
  | allowOnce
  | deny
  deriving DecidableEq

inductive Channel
  | waiting
  | sent (approved : Bool)
  | closed
  deriving DecidableEq

def PermissionRequest.decision (request : PermissionRequest) : Channel → Option PermissionDecision
  | .waiting => none
  | .sent true => some ((request.options.head?.map PermissionDecision.allow).getD .allowOnce)
  | .sent false => some .deny
  | .closed => some .deny

section Callbacks

def callbackData (permId : String) (approved : Bool) : String :=
  if approved then "perm_allow:" ++ permId else "perm_deny:" ++ permId

def parsePermCallback (data : String) : Option (String × Bool) :=
  match stripPrefix "perm_allow:" data.toList with
  | some id => some (String.ofList id, true)
  | none => (stripPrefix "perm_deny:" data.toList).map fun id ↦ (String.ofList id, false)

def isPermCallback (data : String) : Bool :=
  "perm_allow:".toList.isPrefixOf data.toList || "perm_deny:".toList.isPrefixOf data.toList

theorem isPermCallback_iff (data : String) :
    isPermCallback data = (parsePermCallback data).isSome := by
  unfold isPermCallback parsePermCallback stripPrefix
  cases "perm_allow:".toList.isPrefixOf data.toList <;>
    cases "perm_deny:".toList.isPrefixOf data.toList <;> rfl

theorem parsePermCallback_callbackData (permId : String) (approved : Bool) :
    parsePermCallback (callbackData permId approved) = some (permId, approved) := by
  cases approved with
  | true =>
    have hdata : (callbackData permId true).toList = "perm_allow:".toList ++ permId.toList := by
      rw [callbackData, if_pos rfl, String.toList_append]
    rw [parsePermCallback, hdata, stripPrefix_append]
    simp
  | false =>
    have hdata : (callbackData permId false).toList = "perm_deny:".toList ++ permId.toList := by
      rw [callbackData, if_neg Bool.false_ne_true, String.toList_append]
    have hno : stripPrefix "perm_allow:" ("perm_deny:".toList ++ permId.toList) = none := rfl
    rw [parsePermCallback, hdata, hno, stripPrefix_append]
    simp

def button (text permId : String) (approved : Bool) : Json :=
  .object [("text", .string text), ("callback_data", .string (callbackData permId approved))]

def message (manager : HitlPermissionManager) (request : PermissionRequest) (permId : String) :
    Json :=
  .object [
    ("chat_id", .string manager.chatId),
    ("text", .string ("🔐 *Coding Agent Permission Request*\n\n" ++ request.title ++
      "\n\n_Waiting for your decision..._")),
    ("parse_mode", .string "Markdown"),
    ("reply_markup", .object [("inline_keyboard",
      .array [.array [button "✅ Allow" permId true, button "❌ Deny" permId false]])])]

def presses (body : Json) : List String :=
  (do
    let rows ← ((← body.get "reply_markup").get "inline_keyboard").bind Json.asArray
    let row ← rows.head?.bind Json.asArray
    some (row.filterMap fun cell ↦ (Json.get "callback_data" cell).bind Json.asStr)).getD []

theorem presses_message (manager : HitlPermissionManager) (request : PermissionRequest)
    (permId : String) : presses (message manager request permId) =
      [callbackData permId true, callbackData permId false] := rfl

end Callbacks

/-- The senders that wait for an answer, the channels, and the requests whose messages are still to
be posted, all by the number of the draw. -/
structure World where
  drawn : ℕ
  pending : KeyedMap String ℕ
  channels : ℕ → Channel
  outbox : KeyedMap ℕ PermissionRequest

def World.new : World := ⟨0, ∅, fun _ ↦ .waiting, ∅⟩

/-- A sender that was stored under the id is dropped. -/
def World.store (w : World) (permId : String) (serial : ℕ) : World where
  drawn := w.drawn
  pending := w.pending.insert permId serial
  channels := match w.pending.lookup permId with
    | some old => Function.update w.channels old .closed
    | none => w.channels
  outbox := w.outbox

def World.spawn (w : World) (serial : ℕ) (request : PermissionRequest) : World :=
  { w with outbox := w.outbox.insert serial request }

def World.post (w : World) (serial : ℕ) : World := { w with outbox := w.outbox.erase serial }

def World.take (w : World) (permId : String) : World :=
  { w with pending := w.pending.erase permId }

def World.send (w : World) (serial : ℕ) (approved : Bool) : World :=
  { w with channels := Function.update w.channels serial (.sent approved) }

/-- A request of an agent, the task that posts a message of the outbox, which may fail, or a press
that is handed to the manager. -/
inductive Call
  | policy (request : PermissionRequest)
  | post (serial : ℕ) (delivered : Bool)
  | handleCallback (data : String)

inductive Point
  | draw (request : PermissionRequest)
  | insert (serial : ℕ) (request : PermissionRequest)
  | recv (serial : ℕ) (request : PermissionRequest)
  | post (serial : ℕ) (delivered : Bool)
  | press (data : String)
  | remove (data : String)
  | send (data : String) (serial : ℕ) (approved : Bool)

inductive Output
  | decision (d : PermissionDecision)
  | posted
  | handled (result : Bool)

/-- A request is asked when its message has reached the chat, which can be any time after it was
stored, and never. -/
inductive Event
  | stored (serial : ℕ) (request : PermissionRequest)
  | asked (serial : ℕ) (request : PermissionRequest) (body : Json)
  | unposted (serial : ℕ)
  | pressed (data : String)
  | answered (data : String) (serial : ℕ) (approved : Bool)
  | ignored (data : String)
  | decided (serial : ℕ) (request : PermissionRequest) (d : PermissionDecision)

def start : Call → Point
  | .policy request => .draw request
  | .post serial delivered => .post serial delivered
  | .handleCallback data => .press data

/-- A request whose channel has nothing yet stays where it is. -/
def step (manager : HitlPermissionManager) (uuid : ℕ → String) (_ : Unit) :
    Point → World → Option (World × (Point ⊕ Output) × List Event)
  | .draw request, w =>
    some ({ w with drawn := w.drawn + 1 }, .inl (.insert w.drawn request), [])
  | .insert serial request, w =>
    some ((w.store (uuid serial) serial).spawn serial request, .inl (.recv serial request),
      [.stored serial request])
  | .recv serial request, w =>
    (request.decision (w.channels serial)).map fun d ↦
      (w, .inr (.decision d), [.decided serial request d])
  | .post serial delivered, w =>
    (w.outbox.lookup serial).map fun request ↦ (w.post serial, .inr .posted,
      [if delivered then .asked serial request (message manager request (uuid serial))
        else .unposted serial])
  | .press data, w => some (w, .inl (.remove data), [.pressed data])
  | .remove data, w =>
    match parsePermCallback data with
    | some (permId, approved) =>
      match w.pending.lookup permId with
      | some serial => some (w.take permId, .inl (.send data serial approved), [])
      | none => some (w, .inr (.handled false), [.ignored data])
    | none => some (w, .inr (.handled false), [.ignored data])
  | .send data serial approved, w =>
    some (w.send serial approved, .inr (.handled true), [.answered data serial approved])

def program (manager : HitlPermissionManager) (uuid : ℕ → String) :
    Program World Call Point Output Unit Event := ⟨start, step manager uuid⟩

variable {manager : HitlPermissionManager} {uuid : ℕ → String}

inductive Moves (manager : HitlPermissionManager) (uuid : ℕ → String) (w : World) :
    Point → World → Point ⊕ Output → List Event → Prop
  | draw {request : PermissionRequest} : Moves manager uuid w (.draw request)
      { w with drawn := w.drawn + 1 } (.inl (.insert w.drawn request)) []
  | insert {n : ℕ} {request : PermissionRequest} : Moves manager uuid w (.insert n request)
      ((w.store (uuid n) n).spawn n request) (.inl (.recv n request)) [.stored n request]
  | recv {n : ℕ} {request : PermissionRequest} {d : PermissionDecision} :
      request.decision (w.channels n) = some d →
      Moves manager uuid w (.recv n request) w (.inr (.decision d)) [.decided n request d]
  | post {n : ℕ} {request : PermissionRequest} : w.outbox.lookup n = some request →
      Moves manager uuid w (.post n true) (w.post n) (.inr .posted)
        [.asked n request (message manager request (uuid n))]
  | fail {n : ℕ} {request : PermissionRequest} : w.outbox.lookup n = some request →
      Moves manager uuid w (.post n false) (w.post n) (.inr .posted) [.unposted n]
  | press {data : String} :
      Moves manager uuid w (.press data) w (.inl (.remove data)) [.pressed data]
  | ignore {data : String} :
      Moves manager uuid w (.remove data) w (.inr (.handled false)) [.ignored data]
  | remove {data permId : String} {n : ℕ} {approved : Bool} :
      parsePermCallback data = some (permId, approved) → w.pending.lookup permId = some n →
      Moves manager uuid w (.remove data) (w.take permId) (.inl (.send data n approved)) []
  | send {data : String} {n : ℕ} {approved : Bool} : Moves manager uuid w (.send data n approved)
      (w.send n approved) (.inr (.handled true)) [.answered data n approved]

theorem moves_of_step {i : Unit} {p : Point} {w w' : World} {o : Point ⊕ Output}
    {evs : List Event} (h : step manager uuid i p w = some (w', o, evs)) :
    Moves manager uuid w p w' o evs := by
  cases p with
  | draw request =>
    cases h
    exact .draw
  | insert n request =>
    cases h
    exact .insert
  | recv n request =>
    obtain ⟨d, hd, heq⟩ := Option.map_eq_some_iff.mp h
    cases heq
    exact .recv hd
  | post n delivered =>
    obtain ⟨request, hfound, heq⟩ := Option.map_eq_some_iff.mp h
    cases heq
    cases delivered with
    | true => exact .post hfound
    | false => exact .fail hfound
  | press data =>
    cases h
    exact .press
  | remove data =>
    simp only [step] at h
    split at h
    · rename_i permId approved hparse
      split at h
      · rename_i n hfound
        cases h
        exact .remove hparse hfound
      · cases h
        exact .ignore
    · cases h
      exact .ignore
  | send data n approved =>
    cases h
    exact .send

section Custody

def carrying (n : ℕ) : Point → ℕ
  | .insert m _ | .send _ m _ => if m = n then 1 else 0
  | _ => 0

def asking (n : ℕ) : Point → ℕ
  | .insert m _ | .recv m _ => if m = n then 1 else 0
  | _ => 0

def storing (n : ℕ) : Point → ℕ
  | .insert m _ => if m = n then 1 else 0
  | _ => 0

/-- Where the sender of a channel is while nothing has come of it: with a call, or in the map. -/
def World.stored (uuid : ℕ → String) (w : World) (n : ℕ) : ℕ :=
  if w.pending.lookup (uuid n) = some n then 1 else 0

def World.spent (w : World) (n : ℕ) : ℕ := if w.channels n = .waiting then 0 else 1

def World.used (w : World) (n : ℕ) : ℕ := if n < w.drawn then 1 else 0

def World.outboxed (w : World) (n : ℕ) : ℕ := if (w.outbox.lookup n).isSome then 1 else 0

def stores (h : List Event) : List ℕ :=
  pick (fun | .stored n _ => some n | _ => none) h

def asks (h : List Event) : List ℕ :=
  pick (fun | .asked n _ _ => some n | _ => none) h

def answers (h : List Event) : List ℕ :=
  pick (fun | .answered _ n _ => some n | _ => none) h

def decisions (h : List Event) : List ℕ :=
  pick (fun | .decided n _ _ => some n | _ => none) h

structure Counted (uuid : ℕ → String) (c : Config World Point Event) : Prop where
  key : ∀ id n, c.shared.pending.lookup id = some n → uuid n = id
  sender : ∀ n, load (carrying n) c.inFlight + c.shared.stored uuid n + c.shared.spent n =
    c.shared.used n
  request : ∀ n, load (asking n) c.inFlight + (decisions c.history).count n = c.shared.used n
  stored : ∀ n, load (storing n) c.inFlight + (stores c.history).count n = c.shared.used n
  asked : ∀ n, c.shared.outboxed n + (asks c.history).count n ≤ (stores c.history).count n
  answered : ∀ n, (answers c.history).count n ≤ c.shared.spent n

variable {w w' : World} {p : Point} {o : Point ⊕ Output} {l r : List Point} {h evs : List Event}

theorem Moves.key (hm : Moves manager uuid w p w' o evs)
    (hkey : ∀ id n, w.pending.lookup id = some n → uuid n = id) (id : String) (n : ℕ)
    (hfound : w'.pending.lookup id = some n) : uuid n = id := by
  cases hm with
  | insert =>
    obtain ⟨rfl, rfl⟩ | ⟨-, hold⟩ := KeyedMap.lookup_insert_eq_some.mp hfound
    · rfl
    · exact hkey id n hold
  | remove => exact hkey id n (KeyedMap.lookup_erase_eq_some.mp hfound).2
  | _ => exact hkey id n hfound

section

variable (w : World) (permId : String) (m n : ℕ) (approved : Bool)

@[simp] theorem used_store : (w.store permId m).used n = w.used n := rfl

@[simp] theorem used_take : (w.take permId).used n = w.used n := rfl

@[simp] theorem used_send : (w.send m approved).used n = w.used n := rfl

@[simp] theorem spent_take : (w.take permId).spent n = w.spent n := rfl

@[simp] theorem stored_send : (w.send m approved).stored uuid n = w.stored uuid n := rfl

@[simp] theorem used_spawn (request : PermissionRequest) : (w.spawn m request).used n = w.used n :=
  rfl

@[simp] theorem spent_spawn (request : PermissionRequest) :
    (w.spawn m request).spent n = w.spent n := rfl

@[simp] theorem stored_spawn (request : PermissionRequest) :
    (w.spawn m request).stored uuid n = w.stored uuid n := rfl

@[simp] theorem used_post : (w.post m).used n = w.used n := rfl

@[simp] theorem spent_post : (w.post m).spent n = w.spent n := rfl

@[simp] theorem stored_post : (w.post m).stored uuid n = w.stored uuid n := rfl

end

theorem used_le_one (w : World) (n : ℕ) : w.used n ≤ 1 := by
  unfold World.used
  split <;> omega

theorem spent_store (w : World) (permId : String) (m n : ℕ) : (w.store permId m).spent n =
    if w.pending.lookup permId = some n then 1 else w.spent n := by
  unfold World.spent World.store
  cases hold : w.pending.lookup permId with
  | none => rfl
  | some old =>
    simp only [Function.update_apply, Option.some.injEq]
    obtain rfl | hne := eq_or_ne n old
    · rw [if_pos rfl, if_pos rfl, if_neg nofun]
    · rw [if_neg hne, if_neg hne.symm]

theorem stored_store (w : World) (m n : ℕ) : (w.store (uuid m) m).stored uuid n =
    if m = n then 1 else if uuid n = uuid m then 0 else w.stored uuid n := by
  unfold World.stored
  have hlookup : (w.store (uuid m) m).pending.lookup (uuid n) =
      if uuid n = uuid m then some m else w.pending.lookup (uuid n) :=
    KeyedMap.lookup_insert_if _ _ _ _
  rw [hlookup]
  obtain rfl | hne := eq_or_ne m n
  · rw [if_pos rfl, if_pos rfl, if_pos rfl]
  · by_cases hid : uuid n = uuid m
    · rw [if_pos hid, if_neg (by simpa using hne), if_neg hne, if_pos hid]
    · rw [if_neg hid, if_neg hne, if_neg hid]

theorem stored_take (w : World) (permId : String) (n : ℕ) : (w.take permId).stored uuid n =
    if uuid n = permId then 0 else w.stored uuid n := by
  unfold World.stored
  have hlookup : (w.take permId).pending.lookup (uuid n) =
      if uuid n = permId then none else w.pending.lookup (uuid n) :=
    KeyedMap.lookup_erase_if _ _ _
  rw [hlookup]
  by_cases hid : uuid n = permId
  · rw [if_pos hid, if_neg nofun, if_pos hid]
  · rw [if_neg hid, if_neg hid]

theorem spent_send (w : World) (m n : ℕ) (approved : Bool) : (w.send m approved).spent n =
    if m = n then 1 else w.spent n := by
  unfold World.spent World.send
  simp only [Function.update_apply]
  obtain rfl | hne := eq_or_ne m n
  · rw [if_pos rfl, if_neg nofun, if_pos rfl]
  · rw [if_neg hne.symm, if_neg hne]

theorem Moves.sender (hm : Moves manager uuid w p w' o evs)
    (hkey : ∀ id n, w.pending.lookup id = some n → uuid n = id) (n : ℕ)
    (hone : carrying n p + w.stored uuid n + w.spent n ≤ w.used n) :
    load (carrying n) (remaining o) + w'.stored uuid n + w'.spent n + w.used n =
      carrying n p + w.stored uuid n + w.spent n + w'.used n := by
  have hle := used_le_one w n
  cases hm with
  | draw =>
    have hsame : World.stored uuid { w with drawn := w.drawn + 1 } n = w.stored uuid n := rfl
    have hspent : World.spent { w with drawn := w.drawn + 1 } n = w.spent n := rfl
    simp only [remaining_inl, load_cons, load_nil, carrying, World.used, hsame, hspent]
    split_ifs <;> omega
  | @insert m request =>
    have hcarry : carrying n (.recv m request) = 0 := rfl
    have hinsert : carrying n (.insert m request) = if m = n then 1 else 0 := rfl
    rw [hinsert] at hone ⊢
    rw [stored_spawn, spent_spawn, used_spawn, stored_store, spent_store, used_store, remaining_inl,
      load_cons, load_nil, hcarry]
    by_cases hheld : w.pending.lookup (uuid m) = some n
    · -- the sender that was there is dropped
      have hid := hkey _ _ hheld
      have hstored : w.stored uuid n = 1 := if_pos (hid ▸ hheld)
      rw [if_pos hheld, if_pos hid]
      split_ifs at hone ⊢ <;> omega
    · rw [if_neg hheld]
      by_cases hid : uuid n = uuid m
      · have hstored : w.stored uuid n = 0 := if_neg (hid ▸ hheld)
        rw [if_pos hid]
        split_ifs at hone ⊢ <;> omega
      · have hne : m ≠ n := fun heq ↦ hid (heq ▸ rfl)
        rw [if_neg hid, if_neg hne, if_neg hne]
  | recv | post | fail | press | ignore => simp [carrying]
  | @remove data permId m approved hparse hfound =>
    have hid := hkey _ _ hfound
    have hremove : carrying n (.remove data) = 0 := rfl
    have hsend : carrying n (.send data m approved) = if m = n then 1 else 0 := rfl
    rw [stored_take, used_take, spent_take, remaining_inl, load_cons, load_nil, hremove, hsend]
    by_cases hmn : m = n
    · have hstored : w.stored uuid n = 1 := if_pos (hmn ▸ hid ▸ hfound)
      rw [if_pos hmn, if_pos (hmn ▸ hid)]
      omega
    · rw [if_neg hmn]
      split_ifs with hid'
      · have hstored : w.stored uuid n = 0 := by
          refine if_neg fun hlookup ↦ hmn ?_
          exact Option.some.inj ((hid' ▸ hfound).symm.trans hlookup)
        omega
      · omega
  | @send data m approved =>
    rw [spent_send, used_send, stored_send, remaining_inr, load_nil]
    simp only [carrying] at hone ⊢
    split_ifs at hone ⊢ <;> omega

theorem Moves.request (hm : Moves manager uuid w p w' o evs) (n : ℕ) :
    load (asking n) (remaining o) + (decisions evs).count n + w.used n =
      asking n p + w'.used n := by
  cases hm with
  | draw =>
    simp only [remaining_inl, load_cons, load_nil, asking, World.used, decisions, pick_nil,
      List.count_nil]
    split_ifs <;> omega
  | insert | remove => simp [asking, decisions]
  | recv | post | fail | press | ignore | send =>
    simp [asking, decisions, List.count_singleton]

theorem Moves.stored (hm : Moves manager uuid w p w' o evs) (n : ℕ) :
    load (storing n) (remaining o) + (stores evs).count n + w.used n = storing n p + w'.used n := by
  cases hm with
  | draw =>
    simp only [remaining_inl, load_cons, load_nil, storing, World.used, stores, pick_nil,
      List.count_nil]
    split_ifs <;> omega
  | insert => simp [storing, stores, List.count_singleton]
  | recv | post | fail | press | ignore | remove | send => simp [storing, stores]

theorem Moves.asked (hm : Moves manager uuid w p w' o evs) (n : ℕ) :
    w'.outboxed n + (asks evs).count n ≤ w.outboxed n + (stores evs).count n := by
  cases hm with
  | @insert m request =>
    have hlookup : ((w.store (uuid m) m).spawn m request).outbox.lookup n =
        if n = m then some request else w.outbox.lookup n := KeyedMap.lookup_insert_if _ _ _ _
    rw [World.outboxed, hlookup]
    obtain rfl | hne := eq_or_ne n m
    · simp [asks, stores]
    · simp [asks, stores, World.outboxed, hne, hne.symm]
  | @post m request hfound | @fail m request hfound =>
    have hlookup : (w.post m).outbox.lookup n = if n = m then none else w.outbox.lookup n :=
      KeyedMap.lookup_erase_if _ _ _
    rw [World.outboxed, hlookup]
    obtain rfl | hne := eq_or_ne n m
    · simp [asks, stores, World.outboxed, hfound]
    · simp [asks, stores, World.outboxed, hne, hne.symm]
  | draw | recv | press | ignore | remove | send => exact Nat.le_refl _

theorem Moves.answered (hm : Moves manager uuid w p w' o evs) (n : ℕ)
    (hone : carrying n p + w.stored uuid n + w.spent n ≤ w.used n) :
    (answers evs).count n + w.spent n ≤ w'.spent n := by
  have hle := used_le_one w n
  cases hm with
  | @insert m request =>
    rw [spent_spawn, spent_store]
    simp only [answers, pick_cons, pick_nil, Option.toList_none, List.append_nil, List.count_nil]
    split_ifs <;> omega
  | @send data m approved =>
    have hsend : carrying n (.send data m approved) = if m = n then 1 else 0 := rfl
    rw [hsend] at hone
    rw [spent_send]
    simp only [answers, pick_cons, pick_nil, Option.toList_some, List.append_nil,
      List.count_singleton, beq_iff_eq]
    split_ifs at hone ⊢ <;> omega
  | draw => simp [answers, World.spent]
  | recv | post | fail | press | ignore | remove => simp [answers]

theorem Counted.act (hc : Counted uuid ⟨w, l ++ p :: r, h⟩) (hm : Moves manager uuid w p w' o evs) :
    Counted uuid ⟨w', l ++ (remaining o ++ r), h ++ evs⟩ := by
  have hone : ∀ n, carrying n p + w.stored uuid n + w.spent n ≤ w.used n := by
    intro n
    have hsender := hc.sender n
    simp only [load_append, load_cons] at hsender
    omega
  refine ⟨hm.key hc.key, fun n ↦ ?_, fun n ↦ ?_, fun n ↦ ?_, fun n ↦ ?_, fun n ↦ ?_⟩
  · have hmove := hm.sender hc.key n (hone n)
    have hsender := hc.sender n
    have hload := load_act (carrying n) l r p o
    simp only at hsender hload ⊢
    omega
  · have hmove := hm.request n
    have hrequest := hc.request n
    have hload := load_act (asking n) l r p o
    simp only [decisions, pick_append, List.count_append] at hmove hrequest hload ⊢
    omega
  · have hmove := hm.stored n
    have hstored := hc.stored n
    have hload := load_act (storing n) l r p o
    simp only [stores, pick_append, List.count_append] at hmove hstored hload ⊢
    omega
  · have hmove := hm.asked n
    have hasked := hc.asked n
    simp only [asks, stores, pick_append, List.count_append] at hmove hasked ⊢
    omega
  · have hmove := hm.answered n (hone n)
    have hanswered := hc.answered n
    simp only [answers, pick_append, List.count_append] at hmove hanswered ⊢
    omega

theorem counted_of_run {c : Config World Point Event}
    (hc : Reachable (program manager uuid) World.new c) : Counted uuid c := by
  refine hc.invariant (fun _ _ ↦ trivial) ?_ (fun k _ _ hi ↦ ?_) fun i hstep _ _ hi ↦ ?_
  · exact ⟨nofun, fun _ ↦ rfl, fun _ ↦ rfl, fun _ ↦ rfl, fun _ ↦ Nat.le_refl _,
      fun _ ↦ Nat.zero_le _⟩
  · cases k <;> exact ⟨hi.key, by simpa [program, start, carrying] using hi.sender,
      by simpa [program, start, asking] using hi.request,
      by simpa [program, start, storing] using hi.stored, hi.asked, hi.answered⟩
  · exact hi.act (moves_of_step (i := i) hstep)

end Custody

section Grounds

/-- A decision follows a press of a button that names the request, which was looked up after the
request had been stored; or the request's id was drawn again, and then it is denied. -/
def Grounded (uuid : ℕ → String) (h : List Event) (n : ℕ) (request : PermissionRequest)
    (d : PermissionDecision) : Prop :=
  (∃ data approved, request.decision (.sent approved) = some d ∧
      parsePermCallback data = some (uuid n, approved) ∧
      [.stored n request, .answered data n approved, .decided n request d].Sublist h ∧
      [.pressed data, .answered data n approved, .decided n request d].Sublist h) ∨
    ∃ m request', d = .deny ∧ m ≠ n ∧ uuid m = uuid n ∧
      [.stored n request, .stored m request', .decided n request d].Sublist h

def Follows (h : List Event) (n : ℕ) (e : Event) : Prop :=
  ∀ request, .stored n request ∈ h → [.stored n request, e].Sublist h

def Sound (uuid : ℕ → String) (h : List Event) : Point → Prop
  | .recv n request => .stored n request ∈ h
  | .remove data => .pressed data ∈ h
  | .send data n approved => parsePermCallback data = some (uuid n, approved) ∧ .pressed data ∈ h
  | _ => True

structure Informed (manager : HitlPermissionManager) (uuid : ℕ → String)
    (c : Config World Point Event) : Prop where
  points : ∀ p ∈ c.inFlight, Sound uuid c.history p
  outbox : ∀ n request, c.shared.outbox.lookup n = some request → .stored n request ∈ c.history
  asked : ∀ n request body, .asked n request body ∈ c.history →
    body = message manager request (uuid n) ∧ .stored n request ∈ c.history
  sent : ∀ n approved, c.shared.channels n = .sent approved → ∃ data,
    parsePermCallback data = some (uuid n, approved) ∧
      Follows c.history n (.answered data n approved) ∧
      [.pressed data, .answered data n approved].Sublist c.history
  closed : ∀ n, c.shared.channels n = .closed → ∃ m request, m ≠ n ∧ uuid m = uuid n ∧
    Follows c.history n (.stored m request)
  decided : ∀ n request d, .decided n request d ∈ c.history → Grounded uuid c.history n request d

variable {w w' : World} {p : Point} {o : Point ⊕ Output} {l r : List Point} {h evs : List Event}
  {n : ℕ} {request : PermissionRequest} {d : PermissionDecision} {e : Event}

theorem Grounded.mono (hd : Grounded uuid h n request d) :
    Grounded uuid (h ++ evs) n request d := by
  have hgrow : h.Sublist (h ++ evs) := List.sublist_append_left _ _
  obtain hpress | hdrawn := hd
  · obtain ⟨data, approved, hdecision, hparse, hstored, hpressed⟩ := hpress
    exact .inl ⟨data, approved, hdecision, hparse, hstored.trans hgrow, hpressed.trans hgrow⟩
  · obtain ⟨m, request', hdeny, hne, hid, hsub⟩ := hdrawn
    exact .inr ⟨m, request', hdeny, hne, hid, hsub.trans hgrow⟩

theorem Follows.mono (hf : Follows h n e) (hno : ∀ request, .stored n request ∉ evs) :
    Follows (h ++ evs) n e := by
  intro request hmem
  have hbefore := (List.mem_append.mp hmem).resolve_right (hno request)
  exact (hf request hbefore).trans (List.sublist_append_left _ _)

theorem follows_concat (hno : ∀ request, e ≠ .stored n request) : Follows (h ++ [e]) n e := by
  intro request hmem
  have hbefore : .stored n request ∈ h := by
    refine (List.mem_append.mp hmem).resolve_right fun hlast ↦ ?_
    exact hno request (List.mem_singleton.mp hlast).symm
  exact (List.singleton_sublist.mpr hbefore).append (List.Sublist.refl [e])

theorem Moves.channel (hm : Moves manager uuid w p w' o evs) (n : ℕ) :
    w'.channels n = w.channels n ∨
      (∃ data approved, p = .send data n approved ∧ w'.channels n = .sent approved ∧
        evs = [.answered data n approved]) ∨
      ∃ m request, p = .insert m request ∧ w.pending.lookup (uuid m) = some n ∧
        w'.channels n = .closed ∧ evs = [.stored m request] := by
  cases hm with
  | @insert m request =>
    have hsame : ((w.store (uuid m) m).spawn m request).channels n =
        (w.store (uuid m) m).channels n := rfl
    rw [hsame]
    unfold World.store
    cases hold : w.pending.lookup (uuid m) with
    | none => exact .inl rfl
    | some old =>
      obtain rfl | hne := eq_or_ne n old
      · exact .inr (.inr ⟨m, request, rfl, hold, Function.update_self _ _ _, rfl⟩)
      · exact .inl (Function.update_of_ne hne _ _)
  | @send data m approved =>
    obtain rfl | hne := eq_or_ne n m
    · exact .inr (.inl ⟨data, approved, rfl, Function.update_self _ _ _, rfl⟩)
    · exact .inl (Function.update_of_ne hne _ _)
  | _ => exact .inl rfl

theorem Moves.waiting_of_stored (hm : Moves manager uuid w p w' o evs)
    (hone : carrying n p + w.stored uuid n + w.spent n ≤ 1)
    (hmem : .stored n request ∈ evs) : w.channels n = .waiting := by
  cases hm with
  | @insert m request' =>
    cases List.mem_singleton.mp hmem
    have hcarry : carrying n (.insert n request) = 1 := if_pos rfl
    by_contra hspent
    have hone' : w.spent n = 1 := if_neg hspent
    omega
  | draw | remove => cases hmem
  | recv | post | fail | press | ignore | send => cases List.mem_singleton.mp hmem

theorem Sound.mono (hp : Sound uuid h p) : Sound uuid (h ++ evs) p := by
  cases p with
  | recv | remove => exact List.mem_append_left _ hp
  | send => exact ⟨hp.1, List.mem_append_left _ hp.2⟩
  | _ => trivial

theorem Moves.outbox (hm : Moves manager uuid w p w' o evs)
    (hfound : w'.outbox.lookup n = some request) :
    w.outbox.lookup n = some request ∨ .stored n request ∈ evs := by
  cases hm with
  | insert =>
    obtain ⟨rfl, rfl⟩ | ⟨-, hold⟩ := KeyedMap.lookup_insert_eq_some.mp hfound
    · exact .inr (List.mem_singleton.mpr rfl)
    · exact .inl hold
  | post | fail => exact .inl (KeyedMap.lookup_erase_eq_some.mp hfound).2
  | _ => exact .inl hfound

theorem Informed.act (hi : Informed manager uuid ⟨w, l ++ p :: r, h⟩)
    (hc : Counted uuid ⟨w, l ++ p :: r, h⟩) (hm : Moves manager uuid w p w' o evs) :
    Informed manager uuid ⟨w', l ++ (remaining o ++ r), h ++ evs⟩ := by
  have hone : ∀ n, carrying n p + w.stored uuid n + w.spent n ≤ 1 := by
    intro n
    have hsender := hc.sender n
    have hused := used_le_one w n
    simp only [load_append, load_cons] at hsender
    omega
  have hquiet : ∀ n, w.channels n ≠ .waiting → ∀ request, .stored n request ∉ evs :=
    fun n hne request hmem ↦ hne (hm.waiting_of_stored (hone n) hmem)
  have hp := hi.points p (by simp)
  constructor
  case points =>
    intro q hq
    obtain hq | rfl := mem_act.mp hq
    · exact (hi.points q (mem_middle.mpr (.inl hq))).mono
    · cases hm with
      | insert | press => exact List.mem_append_right _ (List.mem_singleton.mpr rfl)
      | @remove data permId m approved hparse hfound =>
        have hid := hc.key _ _ hfound
        exact ⟨hid ▸ hparse, List.mem_append_left _ hp⟩
      | draw => trivial
  case outbox =>
    intro n request hfound
    obtain hold | hnew := hm.outbox hfound
    · exact List.mem_append_left _ (hi.outbox n request hold)
    · exact List.mem_append_right _ hnew
  case asked =>
    intro n request body hmem
    obtain hold | hnew := List.mem_append.mp hmem
    · obtain ⟨hbody, hstored⟩ := hi.asked n request body hold
      exact ⟨hbody, List.mem_append_left _ hstored⟩
    · cases hm with
      | post hfound =>
        cases List.mem_singleton.mp hnew
        exact ⟨rfl, List.mem_append_left _ (hi.outbox _ _ hfound)⟩
      | draw | remove => cases hnew
      | insert | recv | fail | press | ignore | send => cases List.mem_singleton.mp hnew
  case sent =>
    intro n approved hsent
    obtain heq | ⟨data, approved', rfl, heq, rfl⟩ | ⟨m, request, rfl, -, heq, -⟩ := hm.channel n
    · simp only at hsent
      rw [heq] at hsent
      obtain ⟨data, hparse, hfollows, hpressed⟩ := hi.sent n approved hsent
      exact ⟨data, hparse, hfollows.mono (hquiet n (by simp [hsent])),
        hpressed.trans (List.sublist_append_left _ _)⟩
    · cases heq.symm.trans hsent
      exact ⟨data, hp.1, follows_concat nofun,
        (List.singleton_sublist.mpr hp.2).append (List.Sublist.refl _)⟩
    · cases heq.symm.trans hsent
  case closed =>
    intro n hclosed
    obtain heq | ⟨data, approved', rfl, heq, rfl⟩ | ⟨m, request, rfl, hfound, heq, rfl⟩ :=
      hm.channel n
    · simp only at hclosed
      rw [heq] at hclosed
      obtain ⟨m, request, hne, hid, hfollows⟩ := hi.closed n hclosed
      exact ⟨m, request, hne, hid, hfollows.mono (hquiet n (by simp [hclosed]))⟩
    · cases heq.symm.trans hclosed
    · have hid : uuid n = uuid m := hc.key _ _ hfound
      have hstored : w.stored uuid n = 1 := if_pos (hid ▸ hfound)
      have hne : m ≠ n := by
        rintro rfl
        have hcarry : carrying m (.insert m request) = 1 := if_pos rfl
        have := hone m
        omega
      refine ⟨m, request, hne, hid.symm, follows_concat fun request' heq ↦ ?_⟩
      exact hne (Event.stored.inj heq).1
  case decided =>
    intro n request d hmem
    obtain hold | hnew := List.mem_append.mp hmem
    · exact (hi.decided n request d hold).mono
    · cases hm with
      | @recv m request' d' hd =>
        cases List.mem_singleton.mp hnew
        have hlast : [Event.decided n request d].Sublist [.decided n request d] :=
          List.Sublist.refl _
        cases hchannel : w.channels n with
        | waiting =>
          rw [hchannel] at hd
          cases hd
        | sent approved =>
          obtain ⟨data, hparse, hfollows, hpressed⟩ := hi.sent n approved hchannel
          exact .inl ⟨data, approved, hchannel ▸ hd, hparse, (hfollows request hp).append hlast,
            hpressed.append hlast⟩
        | closed =>
          obtain ⟨m, request', hne, hid, hfollows⟩ := hi.closed n hchannel
          rw [hchannel] at hd
          exact .inr ⟨m, request', (Option.some.inj hd).symm, hne, hid,
            (hfollows request hp).append hlast⟩
      | draw | remove => cases hnew
      | insert | post | fail | press | ignore | send => cases List.mem_singleton.mp hnew

theorem informed_of_run {c : Config World Point Event}
    (hc : Reachable (program manager uuid) World.new c) : Informed manager uuid c := by
  refine hc.invariant (fun _ hc ↦ counted_of_run hc) ?_ (fun k _ _ hi ↦ ?_)
    fun i hstep _ hcounted hi ↦ hi.act hcounted (moves_of_step (i := i) hstep)
  · exact ⟨nofun, nofun, nofun, nofun, nofun, nofun⟩
  · refine ⟨fun q hq ↦ ?_, hi.outbox, hi.asked, hi.sent, hi.closed, hi.decided⟩
    obtain hq | rfl := mem_middle.mp hq
    · exact hi.points q hq
    · cases k <;> trivial

end Grounds

section Consent

def Honest (h : List Event) : Prop :=
  ∀ before data after, h = before ++ .pressed data :: after →
    ∃ n request body, .asked n request body ∈ before ∧ data ∈ presses body

def Consents (h : List Event) (n : ℕ) (request : PermissionRequest) (d : PermissionDecision) :
    Prop :=
  ∃ body data approved, data ∈ presses body ∧ request.decision (.sent approved) = some d ∧
    [.asked n request body, .pressed data, .answered data n approved,
      .decided n request d].Sublist h

/-- Nothing is decided without a press, and nothing twice; and where the presses are those of
messages in the chat and the request's id was drawn once, the user had the request's own. -/
structure Consented (uuid : ℕ → String) (c : Config World Point Event) : Prop where
  grounded : ∀ n request d, .decided n request d ∈ c.history → Grounded uuid c.history n request d
  decisions : (decisions c.history).Nodup
  answers : (answers c.history).Nodup
  asks : (asks c.history).Nodup
  buttons : ∀ n request body, .asked n request body ∈ c.history →
    presses body = [callbackData (uuid n) true, callbackData (uuid n) false]
  consents : Honest c.history → ∀ n request d, (∀ m, uuid m = uuid n → m = n) →
    .decided n request d ∈ c.history → Consents c.history n request d

variable {h : List Event} {c : Config World Point Event} {n : ℕ} {request : PermissionRequest}
  {d : PermissionDecision}

theorem exists_of_mem_presses {data permId : String}
    (hdata : data ∈ presses (message manager request permId)) :
    ∃ approved, data = callbackData permId approved := by
  rw [presses_message] at hdata
  obtain rfl | hdata := List.mem_cons.mp hdata
  · exact ⟨true, rfl⟩
  · exact ⟨false, List.mem_singleton.mp hdata⟩

theorem Informed.consents (hi : Informed manager uuid c) (hc : Counted uuid c)
    (hhonest : Honest c.history) (hunique : ∀ m, uuid m = uuid n → m = n)
    (hdecided : .decided n request d ∈ c.history) : Consents c.history n request d := by
  obtain hpress | hdrawn := hi.decided n request d hdecided
  · obtain ⟨data, approved, hdecision, hparse, hstored, hpressed⟩ := hpress
    obtain ⟨h₁, h₂, hsplit, hmem, hrest⟩ := List.cons_sublist_iff.mp hpressed
    obtain ⟨before, after, rfl⟩ := List.append_of_mem hmem
    have hhistory : c.history = before ++ .pressed data :: (after ++ h₂) := by simp [hsplit]
    obtain ⟨m, request', body, hasked, hdata⟩ := hhonest before data _ hhistory
    have hasked' : .asked m request' body ∈ c.history := by
      rw [hhistory]
      exact List.mem_append_left _ hasked
    obtain ⟨rfl, hstored'⟩ := hi.asked m request' body hasked'
    obtain ⟨approved', rfl⟩ := exists_of_mem_presses hdata
    rw [parsePermCallback_callbackData, Option.some.injEq, Prod.mk.injEq] at hparse
    obtain rfl := hunique m hparse.1
    -- a request is stored once, so the message was the one of this request
    have hone : (stores c.history).count m ≤ 1 := by
      have hcount := hc.stored m
      have hused := used_le_one c.shared m
      omega
    have hsame : Event.stored m request' = .stored m request :=
      eq_of_count_pick_le_one hone hstored' (hstored.subset List.mem_cons_self) rfl rfl
    cases hsame
    refine ⟨_, _, approved, hdata, hdecision, ?_⟩
    rw [hhistory]
    refine (List.singleton_sublist.mpr hasked).append (List.Sublist.cons_cons _ ?_)
    exact hrest.trans (List.sublist_append_right _ _)
  · obtain ⟨m, -, -, hne, hid, -⟩ := hdrawn
    exact absurd (hunique m hid) hne

/-- A request that waits has an answer, or one that is on its way, or else any press of a button
of its message is an answer once it is handed to the manager. -/
def Answerable (manager : HitlPermissionManager) (uuid : ℕ → String)
    (c : Config World Point Event) (n : ℕ) (request : PermissionRequest) : Prop :=
  (∃ d, request.decision (c.shared.channels n) = some d) ∨
    (∃ data approved, .send data n approved ∈ c.inFlight) ∨
    ∀ data ∈ presses (message manager request (uuid n)), ∃ approved w,
      parsePermCallback data = some (uuid n, approved) ∧
      Solo (program manager uuid) c.shared (start (.handleCallback data)) w
        [.pressed data, .answered data n approved] ∧
      request.decision (w.channels n) = request.decision (.sent approved)

theorem solo_handleCallback {w : World} {data permId : String} {approved : Bool}
    (hparse : parsePermCallback data = some (permId, approved))
    (hfound : w.pending.lookup permId = some n) :
    Solo (program manager uuid) w (start (.handleCallback data))
      ((w.take permId).send n approved) [.pressed data, .answered data n approved] := by
  have hpress : (program manager uuid).step () (.press data) w =
      some (w, .inl (.remove data), [.pressed data]) := rfl
  have hremove : (program manager uuid).step () (.remove data) w =
      some (w.take permId, .inl (.send data n approved), []) := by
    simp only [program, step, hparse, hfound]
  have hsend : (program manager uuid).step () (.send data n approved) (w.take permId) =
      some ((w.take permId).send n approved, .inr (.handled true), [.answered data n approved]) :=
    rfl
  exact .next () hpress (.next () hremove (.done () hsend))

theorem consented_of_run (manager : HitlPermissionManager) (uuid : ℕ → String)
    (c : Config World Point Event) (hc : Reachable (program manager uuid) World.new c) :
    Consented uuid c := by
  have hcounted := counted_of_run hc
  have hinformed := informed_of_run hc
  refine ⟨hinformed.decided, ?_, ?_, ?_, fun n request body hmem ↦ ?_, ?_⟩
  · refine List.nodup_iff_count_le_one.mpr fun n ↦ ?_
    have hrequest := hcounted.request n
    have hused := used_le_one c.shared n
    omega
  · refine List.nodup_iff_count_le_one.mpr fun n ↦ ?_
    have hanswered := hcounted.answered n
    have hsender := hcounted.sender n
    have hused := used_le_one c.shared n
    omega
  · refine List.nodup_iff_count_le_one.mpr fun n ↦ ?_
    have hasked := hcounted.asked n
    have hstored := hcounted.stored n
    have hused := used_le_one c.shared n
    omega
  · rw [(hinformed.asked n request body hmem).1, presses_message]
  · intro hhonest n request d hunique hdecided
    exact hinformed.consents hcounted hhonest hunique hdecided

theorem answerable_of_recv (manager : HitlPermissionManager) (uuid : ℕ → String)
    (c : Config World Point Event) (hc : Reachable (program manager uuid) World.new c)
    (n : ℕ) (request : PermissionRequest) (hrecv : .recv n request ∈ c.inFlight) :
    Answerable manager uuid c n request := by
  have hcounted := counted_of_run hc
  have hstored := (informed_of_run hc).points _ hrecv
  -- the request has been drawn, and it is past the point where it holds its sender
  have hused : c.shared.used n = 1 := by
    have hrequest := hcounted.request n
    have hle := le_load (g := asking n) hrecv
    have hone : asking n (.recv n request) = 1 := if_pos rfl
    have hused := used_le_one c.shared n
    omega
  have hstoring : load (storing n) c.inFlight = 0 := by
    have hcount : 0 < (stores c.history).count n :=
      List.count_pos_iff.mpr ((mem_pick _ _).mpr ⟨_, hstored, rfl⟩)
    have hstores := hcounted.stored n
    omega
  have hsender := hcounted.sender n
  by_cases hspent : c.shared.channels n = .waiting
  · by_cases hheld : c.shared.pending.lookup (uuid n) = some n
    · refine .inr (.inr fun data hdata ↦ ?_)
      obtain ⟨approved, rfl⟩ := exists_of_mem_presses hdata
      have hparse := parsePermCallback_callbackData (uuid n) approved
      refine ⟨approved, _, hparse, solo_handleCallback hparse hheld, ?_⟩
      have hsent : ((c.shared.take (uuid n)).send n approved).channels n = .sent approved :=
        Function.update_self _ _ _
      rw [hsent]
    · have hnot : c.shared.stored uuid n = 0 := if_neg hheld
      have hunspent : c.shared.spent n = 0 := if_pos hspent
      have hcarried : load (carrying n) c.inFlight ≠ 0 := by omega
      rw [Ne, load_eq_zero] at hcarried
      push Not at hcarried
      obtain ⟨p, hp, hcarrying⟩ := hcarried
      cases p with
      | insert m request' =>
        have hstore : storing n (.insert m request') = 0 := load_eq_zero.mp hstoring _ hp
        exact absurd hstore hcarrying
      | send data m approved =>
        obtain rfl : m = n := by
          by_contra hne
          exact hcarrying (if_neg hne)
        exact .inr (.inl ⟨data, approved, hp⟩)
      | _ => exact absurd rfl hcarrying
  · left
    cases hchannel : c.shared.channels n with
    | waiting => exact absurd hchannel hspent
    | sent approved => cases approved <;> exact ⟨_, rfl⟩
    | closed => exact ⟨_, rfl⟩

end Consent

def sampleManager : HitlPermissionManager := ⟨"bot", "42"⟩

def sampleUuid (n : ℕ) : String := String.ofList (List.replicate n '0')

def sampleRequest : PermissionRequest := ⟨"run a command", ["once", "always"]⟩

/-- Two requests, of which the first is posted and allowed and the other's message is lost. -/
def allowOne : List (Move Call Unit) :=
  [.call (.policy sampleRequest), .act 0 (), .act 0 (), .call (.policy ⟨"delete a file", []⟩),
    .act 1 (), .act 1 (), .call (.post 0 true), .act 2 (), .call (.post 1 false), .act 2 (),
    .call (.handleCallback "perm_allow:"), .act 2 (), .act 2 (), .act 2 (), .act 0 ()]

theorem consented_of_run_allowOne : ∃ c,
    play (program sampleManager sampleUuid) (initial World.new) allowOne = some c ∧
      .decided 0 sampleRequest (.allow "once") ∈ c.history ∧ Consented sampleUuid c :=
  ⟨_, rfl, List.mem_of_getLast? rfl, consented_of_run sampleManager sampleUuid _
    (run_of_play (P := program sampleManager sampleUuid) allowOne rfl)⟩

theorem answerable_of_recv_allowOne : ∃ c,
    play (program sampleManager sampleUuid) (initial World.new) allowOne = some c ∧
      .recv 1 ⟨"delete a file", []⟩ ∈ c.inFlight ∧
      Answerable sampleManager sampleUuid c 1 ⟨"delete a file", []⟩ :=
  ⟨_, rfl, .head _, answerable_of_recv sampleManager sampleUuid _
    (run_of_play (P := program sampleManager sampleUuid) allowOne rfl) 1 _ (.head _)⟩

end AdkGateway.CodingAgent.HitlPermissions
