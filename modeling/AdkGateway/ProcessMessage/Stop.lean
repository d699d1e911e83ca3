import AdkGateway.ProcessMessage.Duties
import AdkGateway.ProcessMessage.Restrictions

namespace AdkGateway.ProcessMessage

open Foundation Interleaving

attribute [local irreducible] processMessage

section Requests

def senderOf (p : MessageThread) : String := p.call.senderId

def tokenOf (p : MessageThread) : Option ℕ := (dutiesOf p.past).request

def SameChannel (p q : MessageThread) : Prop :=
  p.call.inbound.message.channelType = q.call.inbound.message.channelType ∧
    p.call.inbound.message.accountId = q.call.inbound.message.accountId

def Cancelled (s : Requests) (p : MessageThread) : Prop :=
  p.call.reads.hasFallbacks = false ∧ ∃ token, tokenOf p = some token ∧ token ∈ s.cancelled

def Running (s : Requests) (p : MessageThread) : Prop := (tokenOf p).isSome = true ∧ ¬ Cancelled s p

def Stoppable (s : Requests) (p : MessageThread) : Prop :=
  Cancelled (exec (.stop (senderOf p)) false s).1 p

/-- A stop cancels what its sender has running on the channel and nothing else, and a request that
comes to its end leaves the others as stoppable as they are. -/
def StopsOwn (p : MessageThread) (c c' : MessageConfig) : Prop :=
  match p.code with
  | .op (.stop _) _ => ∀ q, Beside c.inFlight p q → (tokenOf q).isSome = true →
    (Cancelled c'.shared q ↔
      Cancelled c.shared q ∨ senderOf q = senderOf p ∧ SameChannel q p)
  | .op (.removeRequest _) _ => ∀ q, Beside c.inFlight p q → Running c.shared q →
    Stoppable c.shared q → Stoppable c'.shared q
  | .ret _ => ∀ q, Beside c.inFlight p q → Running c.shared q →
    Stoppable c.shared q → Stoppable c'.shared q
  | _ => True

def registration : Occurrence Requests Message Op Op.Answer → Option (String × ℕ)
  | .did _ ⟨_, .register id, token⟩ => some (id, token)
  | _ => none

def registrations (c : MessageConfig) : List (String × ℕ) := pick registration c.history

def Overtaken (c : MessageConfig) (p : MessageThread) : Prop :=
  ∃ token later, tokenOf p = some token ∧ token < later ∧ (senderOf p, later) ∈ registrations c

/-- The one that a stop of its sender is taken to mean. -/
def Addressed (c : MessageConfig) (p : MessageThread) : Prop :=
  p.call.reads.hasFallbacks = false ∧ ¬ Overtaken c p

/-- At a stop the requests that its sender has running on the channel are addressed and those on
other channels are not, and no request comes to its end while its sender has an addressed one
running. -/
def Considerate (c : MessageConfig) : Label Message MessageThread Bool → Prop
  | .call _ => True
  | .act p _ =>
    match p.code with
    | .op (.stop _) _ => ∀ q, Beside c.inFlight p q → Running c.shared q →
      senderOf q = senderOf p → (SameChannel q p ↔ Addressed c q)
    | .op (.removeRequest _) _ => ∀ q, Beside c.inFlight p q → Running c.shared q →
      senderOf q = senderOf p → ¬ Addressed c q
    | _ => True

end Requests

section Cancelling

variable {s : Requests} {p q : MessageThread} {id : String} {timeUp : Bool}

theorem cancelled_stop_iff : Cancelled (exec (.stop id) timeUp s).1 p ↔ Cancelled s p ∨
    p.call.reads.hasFallbacks = false ∧
      ∃ token, tokenOf p = some token ∧ s.activeRequests.lookup id = some token := by
  cases hlookup : s.activeRequests.lookup id with
  | none =>
    simp only [exec, hlookup]
    refine (or_iff_left ?_).symm
    intro h
    obtain ⟨-, token, -, hnone⟩ := h
    cases hnone
  | some token =>
    simp only [exec, hlookup, Cancelled, List.mem_cons, Option.some.injEq]
    constructor
    · intro h
      obtain ⟨hdirect, token', htoken, heq | hmem⟩ := h
      · exact .inr ⟨hdirect, token', htoken, heq.symm⟩
      · exact .inl ⟨hdirect, token', htoken, hmem⟩
    · intro h
      rcases h with ⟨hdirect, token', htoken, hmem⟩ | ⟨hdirect, token', htoken, heq⟩
      · exact ⟨hdirect, token', htoken, .inr hmem⟩
      · exact ⟨hdirect, token', htoken, .inl heq.symm⟩

end Cancelling

section Invariant

structure Found (c : MessageConfig) (id : String) (token : ℕ) : Prop where
  registered : (id, token) ∈ registrations c
  last : ∀ later, (id, later) ∈ registrations c → later ≤ token
  untouched : token ∉ c.shared.cancelled

structure Held (c : MessageConfig) : Prop where
  dutiful : ∀ p ∈ c.inFlight, Dutiful (fun _ ↦ True) (fun _ _ ↦ True) p
  fresh : ∀ id token, (id, token) ∈ registrations c → token < c.shared.next
  sole : ∀ id id' token, (id, token) ∈ registrations c → (id', token) ∈ registrations c → id = id'
  cancelled : ∀ token ∈ c.shared.cancelled, token < c.shared.next
  own : ∀ p ∈ c.inFlight, ∀ token, tokenOf p = some token →
    (senderOf p, token) ∈ registrations c
  found : ∀ id token, c.shared.activeRequests.lookup id = some token → Found c id token
  addressed : ∀ p ∈ c.inFlight, ∀ token, tokenOf p = some token →
    token ∉ c.shared.cancelled → Addressed c p →
    c.shared.activeRequests.lookup (senderOf p) = some token

variable {c : MessageConfig} {p : MessageThread} {id : String}

theorem Held.found_iff (h : Held c) (hp : p ∈ c.inFlight) (hrunning : Running c.shared p) :
    (p.call.reads.hasFallbacks = false ∧
        ∃ token, tokenOf p = some token ∧ c.shared.activeRequests.lookup id = some token) ↔
      senderOf p = id ∧ Addressed c p := by
  obtain ⟨hsome, hnot⟩ := hrunning
  obtain ⟨token, htoken⟩ := Option.isSome_iff_exists.mp hsome
  constructor
  · intro hfound
    obtain ⟨hdirect, token', htoken', hlookup⟩ := hfound
    have hlast := h.found id token' hlookup
    obtain rfl := h.sole _ _ _ (h.own p hp token' htoken') hlast.registered
    refine ⟨rfl, hdirect, ?_⟩
    intro hovertaken
    obtain ⟨token'', later, htoken'', hlt, hlater⟩ := hovertaken
    obtain rfl := Option.some_inj.mp (htoken''.symm.trans htoken')
    have hle := hlast.last later hlater
    omega
  · intro haddressed
    obtain ⟨rfl, haddressed⟩ := haddressed
    have huntouched : token ∉ c.shared.cancelled :=
      fun hmem ↦ hnot ⟨haddressed.1, token, htoken, hmem⟩
    exact ⟨haddressed.1, token, htoken, h.addressed p hp token htoken huntouched haddressed⟩

section Steps

variable {s s' : Requests} {l r : List MessageThread} {p' : MessageThread}
  {h h' : List (Occurrence Requests Message Op Op.Answer)}

theorem addressed_congr {c' : MessageConfig} (hregistrations : registrations c' = registrations c)
    (hcall : p'.call = p.call) (htoken : tokenOf p' = tokenOf p) :
    Addressed c' p' ↔ Addressed c p := by
  simp only [Addressed, Overtaken, senderOf, hregistrations, hcall, htoken]

theorem Held.step (hi : Held ⟨s, l ++ p :: r, h⟩)
    (hdutiful : Dutiful (fun _ ↦ True) (fun _ _ ↦ True) p')
    (hregistrations : pick registration h' = pick registration h) (hcall : p'.call = p.call)
    (htoken : tokenOf p' = none ∨ tokenOf p' = tokenOf p) (hnext : s.next ≤ s'.next)
    (hcancelled : ∀ token ∈ s'.cancelled, token < s'.next)
    (hlookup : ∀ id token, s'.activeRequests.lookup id = some token →
      s.activeRequests.lookup id = some token ∧ token ∉ s'.cancelled)
    (hkeeps : ∀ q ∈ l ++ p :: r, Beside (l ++ p :: r) p q ∨ tokenOf p' = tokenOf p →
      ∀ token, tokenOf q = some token → token ∉ s'.cancelled → Addressed ⟨s, l ++ p :: r, h⟩ q →
        s'.activeRequests.lookup (senderOf q) = some token) :
    Held ⟨s', l ++ p' :: r, h'⟩ := by
  have hsame : registrations ⟨s', l ++ p' :: r, h'⟩ = registrations ⟨s, l ++ p :: r, h⟩ :=
    hregistrations
  constructor
  · intro q hq
    rcases mem_middle.mp hq with hq | rfl
    · exact hi.dutiful q (mem_middle.mpr (.inl hq))
    · exact hdutiful
  · intro id token hmem
    rw [hsame] at hmem
    exact (hi.fresh id token hmem).trans_le hnext
  · rw [hsame]
    exact hi.sole
  · exact hcancelled
  · intro q hq token htok
    rw [hsame]
    rcases mem_middle.mp hq with hq | rfl
    · exact hi.own q (mem_middle.mpr (.inl hq)) token htok
    · rcases htoken with hnone | heq
      · cases hnone.symm.trans htok
      · have hown := hi.own p (mem_middle.mpr (.inr rfl)) token (heq.symm.trans htok)
        rw [senderOf, hcall]
        exact hown
  · intro id token hfound
    obtain ⟨hbefore, huntouched⟩ := hlookup id token hfound
    have hlast := hi.found id token hbefore
    exact ⟨hsame ▸ hlast.registered, hsame ▸ hlast.last, huntouched⟩
  · intro q hq token htok huntouched haddressed
    rcases mem_middle.mp hq with hq | rfl
    · exact hkeeps q (mem_middle.mpr (.inl hq)) (.inl ⟨l, r, rfl, hq⟩) token htok huntouched
        ((addressed_congr hsame rfl rfl).mp haddressed)
    · rcases htoken with hnone | heq
      · cases hnone.symm.trans htok
      · have hlookup' := hkeeps p (mem_middle.mpr (.inr rfl)) (.inr heq) token
          (heq.symm.trans htok) huntouched ((addressed_congr hsame hcall heq).mp haddressed)
        rw [senderOf, hcall]
        exact hlookup'

section Operations

variable {message : Message} {past : List (Done Requests Op Op.Answer)} {timeUp : Bool}

theorem Held.stop {id : String} {next : Bool → Code (Option (Except String Unit))}
    (hi : Held ⟨s, l ++ ⟨message, past, .op (.stop id) next⟩ :: r, h⟩) :
    Held ⟨(exec (.stop id) timeUp s).1,
      l ++ ⟨message, past ++ [⟨s, .stop id, (exec (.stop id) timeUp s).2⟩],
        next (exec (.stop id) timeUp s).2⟩ :: r,
      h ++ [.did message ⟨s, .stop id, (exec (.stop id) timeUp s).2⟩]⟩ := by
  have hdutiful := hi.dutiful _ (mem_middle.mpr (.inr rfl))
  have htoken : tokenOf ⟨message, past ++ [⟨s, .stop id, (exec (.stop id) timeUp s).2⟩],
      next (exec (.stop id) timeUp s).2⟩ = none := by
    obtain ⟨-, hidle⟩ := hdutiful.1
    simp only [tokenOf, dutiesOf_concat, Duties.after, hidle]
    rfl
  refine hi.step (hdutiful.next timeUp s fun _ _ ↦ trivial) ?_ rfl (.inl htoken) ?_ ?_ ?_ ?_
  · simp [registration]
  · simp only [exec]
    split <;> exact le_rfl
  · simp only [exec]
    split
    case h_1 token hfound =>
      intro token' hmem
      rcases List.mem_cons.mp hmem with rfl | hmem
      · exact hi.fresh id _ (hi.found id _ hfound).registered
      · exact hi.cancelled token' hmem
    case h_2 => exact hi.cancelled
  · simp only [exec]
    split
    case h_1 token hfound =>
      intro id' token' hlookup
      obtain ⟨hne, hlookup⟩ := KeyedMap.lookup_erase_eq_some.mp hlookup
      have hlast := hi.found id' token' hlookup
      refine ⟨hlookup, fun hmem ↦ ?_⟩
      rcases List.mem_cons.mp hmem with rfl | hmem
      · exact hne (hi.sole _ _ _ hlast.registered (hi.found id _ hfound).registered)
      · exact hlast.untouched hmem
    case h_2 => exact fun id' token' hlookup ↦ ⟨hlookup, (hi.found id' token' hlookup).untouched⟩
  · intro q hq _ token htok
    simp only [exec]
    split
    case h_1 token' hfound =>
      intro huntouched haddressed
      obtain ⟨hne, huntouched⟩ := not_or.mp (mt List.mem_cons.mpr huntouched)
      have hlookup := hi.addressed q hq token htok huntouched haddressed
      refine KeyedMap.lookup_erase_eq_some.mpr ⟨?_, hlookup⟩
      intro hsender
      rw [hsender] at hlookup
      exact hne (Option.some_inj.mp (hlookup.symm.trans hfound))
    case h_2 => exact hi.addressed q hq token htok

theorem Held.removeRequest {id : String} {next : Unit → Code (Option (Except String Unit))}
    (hi : Held ⟨s, l ++ ⟨message, past, .op (.removeRequest id) next⟩ :: r, h⟩)
    (hok : Considerate ⟨s, l ++ ⟨message, past, .op (.removeRequest id) next⟩ :: r, h⟩
      (.act ⟨message, past, .op (.removeRequest id) next⟩ timeUp)) :
    Held ⟨(exec (.removeRequest id) timeUp s).1,
      l ++ ⟨message, past ++ [⟨s, .removeRequest id, ()⟩], next ()⟩ :: r,
      h ++ [.did message ⟨s, .removeRequest id, ()⟩]⟩ := by
  have hdutiful := hi.dutiful _ (mem_middle.mpr (.inr rfl))
  obtain ⟨hsender, hrequest⟩ := hdutiful.1
  have htoken : tokenOf ⟨message, past ++ [⟨s, .removeRequest id, ()⟩], next ()⟩ = none := by
    simp only [tokenOf, dutiesOf_concat, Duties.after]
  refine hi.step (hdutiful.next timeUp s fun _ _ ↦ trivial) ?_ rfl (.inl htoken) le_rfl
    hi.cancelled ?_ ?_
  · simp [registration]
  · intro id' token hlookup
    obtain ⟨-, hlookup⟩ := KeyedMap.lookup_erase_eq_some.mp hlookup
    exact ⟨hlookup, (hi.found id' token hlookup).untouched⟩
  · intro q hq hbeside token htok huntouched haddressed
    refine KeyedMap.lookup_erase_eq_some.mpr
      ⟨?_, hi.addressed q hq token htok huntouched haddressed⟩
    intro hsame
    have hrunning : Running s q := by
      refine ⟨by rw [htok]; rfl, ?_⟩
      intro hcancelled
      obtain ⟨-, token', htok', hmem⟩ := hcancelled
      obtain rfl := Option.some_inj.mp (htok'.symm.trans htok)
      exact huntouched hmem
    rcases hbeside with hbeside | heq
    · exact hok q hbeside hrunning (hsame.trans hsender) haddressed
    · exact hrequest (heq.symm.trans htoken)

theorem Held.register {id : String} {next : ℕ → Code (Option (Except String Unit))}
    (hi : Held ⟨s, l ++ ⟨message, past, .op (.register id) next⟩ :: r, h⟩) :
    Held ⟨(exec (.register id) timeUp s).1,
      l ++ ⟨message, past ++ [⟨s, .register id, s.next⟩], next s.next⟩ :: r,
      h ++ [.did message ⟨s, .register id, s.next⟩]⟩ := by
  have hdutiful := hi.dutiful _ (mem_middle.mpr (.inr rfl))
  have hid : id = message.senderId := hdutiful.1.1
  subst hid
  have hregistrations (entry : String × ℕ) :
      entry ∈ pick registration (h ++ [.did message ⟨s, .register message.senderId, s.next⟩]) ↔
        entry ∈ pick registration h ∨ entry = (message.senderId, s.next) := by
    simp [registration]
  have hfresh (id : String) (token : ℕ) (hmem : (id, token) ∈ pick registration h) :
      token < s.next := hi.fresh id token hmem
  constructor
  · intro q hq
    rcases mem_middle.mp hq with hq | rfl
    · exact hi.dutiful q (mem_middle.mpr (.inl hq))
    · exact hdutiful.next timeUp s fun _ _ ↦ trivial
  · intro id token hmem
    rcases (hregistrations _).mp hmem with hmem | heq
    · exact Nat.lt_succ_of_lt (hfresh id token hmem)
    · rw [(Prod.mk.inj heq).2]
      exact Nat.lt_succ_self _
  · intro id id' token hmem hmem'
    rcases (hregistrations _).mp hmem with hmem | heq
    · rcases (hregistrations _).mp hmem' with hmem' | heq'
      · exact hi.sole id id' token hmem hmem'
      · exact absurd (Prod.mk.inj heq').2 (hfresh id token hmem).ne
    · rcases (hregistrations _).mp hmem' with hmem' | heq'
      · exact absurd (Prod.mk.inj heq).2 (hfresh id' token hmem').ne
      · exact (Prod.mk.inj heq).1.trans (Prod.mk.inj heq').1.symm
  · exact fun token hmem ↦ Nat.lt_succ_of_lt (hi.cancelled token hmem)
  · intro q hq token htok
    rcases mem_middle.mp hq with hq | rfl
    · exact (hregistrations _).mpr (.inl (hi.own q (mem_middle.mpr (.inl hq)) token htok))
    · have heq : s.next = token := by simpa [tokenOf, Duties.after] using htok
      rw [← heq]
      exact (hregistrations _).mpr (.inr rfl)
  · intro id token hlookup
    rcases KeyedMap.lookup_insert_eq_some.mp hlookup with ⟨rfl, rfl⟩ | ⟨hne, hlookup⟩
    · refine ⟨(hregistrations _).mpr (.inr rfl), ?_, fun hmem ↦ lt_irrefl _ (hi.cancelled _ hmem)⟩
      intro later hlater
      rcases (hregistrations _).mp hlater with hlater | heq
      · exact (hfresh _ later hlater).le
      · exact (Prod.mk.inj heq).2.le
    · have hlast := hi.found id token hlookup
      refine ⟨(hregistrations _).mpr (.inl hlast.registered), ?_, hlast.untouched⟩
      intro later hlater
      rcases (hregistrations _).mp hlater with hlater | heq
      · exact hlast.last later hlater
      · exact absurd (Prod.mk.inj heq).1 hne
  · intro q hq token htok huntouched haddressed
    obtain ⟨hdirect, hovertaken⟩ := haddressed
    rcases mem_middle.mp hq with hq | rfl
    · have hq' : q ∈ l ++ ⟨message, past, .op (.register message.senderId) next⟩ :: r :=
        mem_middle.mpr (.inl hq)
      by_cases hsender : senderOf q = message.senderId
      · refine absurd ⟨token, s.next, htok, hfresh _ token (hi.own q hq' token htok), ?_⟩ hovertaken
        rw [hsender]
        exact (hregistrations _).mpr (.inr rfl)
      · refine KeyedMap.lookup_insert_eq_some.mpr (.inr ⟨hsender, ?_⟩)
        refine hi.addressed q hq' token htok huntouched ⟨hdirect, fun hbefore ↦ hovertaken ?_⟩
        obtain ⟨token', later, htok', hlt, hlater⟩ := hbefore
        exact ⟨token', later, htok', hlt, (hregistrations _).mpr (.inl hlater)⟩
    · have heq : s.next = token := by simpa [tokenOf, Duties.after] using htok
      rw [← heq]
      exact KeyedMap.lookup_insert_eq_some.mpr (.inl ⟨rfl, rfl⟩)

theorem Held.unrelated {o : Op} {next : o.Answer → Code (Option (Except String Unit))}
    (hi : Held ⟨s, l ++ ⟨message, past, .op o next⟩ :: r, h⟩)
    (hrequests : (exec o timeUp s).1.activeRequests = s.activeRequests)
    (hcancelled : (exec o timeUp s).1.cancelled = s.cancelled)
    (hnext : s.next ≤ (exec o timeUp s).1.next)
    (htoken : ∀ d : Duties, (d.after o (exec o timeUp s).2).request = d.request)
    (hregistration : registration (.did message ⟨s, o, (exec o timeUp s).2⟩) = none) :
    Held ⟨(exec o timeUp s).1,
      l ++ ⟨message, past ++ [⟨s, o, (exec o timeUp s).2⟩], next (exec o timeUp s).2⟩ :: r,
      h ++ [.did message ⟨s, o, (exec o timeUp s).2⟩]⟩ := by
  have hdutiful := hi.dutiful _ (mem_middle.mpr (.inr rfl))
  refine hi.step (hdutiful.next timeUp s fun _ _ ↦ trivial) ?_ rfl (.inr ?_) hnext ?_ ?_ ?_
  · simp [hregistration]
  · simp only [tokenOf, dutiesOf_concat, htoken]
  · rw [hcancelled]
    exact fun token hmem ↦ (hi.cancelled token hmem).trans_le hnext
  · rw [hrequests, hcancelled]
    exact fun id token hlookup ↦ ⟨hlookup, (hi.found id token hlookup).untouched⟩
  · rw [hrequests, hcancelled]
    exact fun q hq _ ↦ hi.addressed q hq

end Operations

end Steps

theorem held_of_run (h : Run messages Considerate (initial .idle) c) : Held c := by
  refine Threads.invariant (I := Held) (Q := fun _ ↦ True) h (fun _ _ ↦ trivial) ?_ ?_ ?_ ?_
  · constructor
    · exact fun _ hp ↦ by cases hp
    · exact fun _ _ hmem ↦ by cases hmem
    · exact fun _ _ _ hmem ↦ by cases hmem
    · exact fun _ hmem ↦ by cases hmem
    · exact fun _ hp ↦ by cases hp
    · exact fun _ _ hlookup ↦ by cases hlookup
    · exact fun _ hp ↦ by cases hp
  · intro s l r h message _ hi
    have htoken : tokenOf ⟨message, [], message.code⟩ = none := rfl
    refine ⟨?_, hi.fresh, hi.sole, hi.cancelled, ?_, fun id token hlookup ↦ ?_, ?_⟩
    · intro p hp
      rcases mem_middle.mp hp with hp | rfl
      · exact hi.dutiful p hp
      · exact dutiful_start message (fun _ _ ↦ trivial) fun _ _ ↦ trivial
    · intro p hp token htok
      rcases mem_middle.mp hp with hp | rfl
      · exact hi.own p hp token htok
      · cases htoken.symm.trans htok
    · have hlast := hi.found id token hlookup
      exact ⟨hlast.registered, hlast.last, hlast.untouched⟩
    · intro p hp token htok
      rcases mem_middle.mp hp with hp | rfl
      · exact hi.addressed p hp token htok
      · cases htoken.symm.trans htok
  · intro s l r h message past x _ hi
    have hsame : registrations ⟨s, l ++ r, h ++ [.returned message past]⟩ =
        registrations ⟨s, l ++ ⟨message, past, .ret x⟩ :: r, h⟩ := by
      simp [registrations, registration]
    have hflight {p : MessageThread} (hp : p ∈ l ++ r) : p ∈ l ++ ⟨message, past, .ret x⟩ :: r :=
      mem_middle.mpr (.inl hp)
    refine ⟨fun p hp ↦ hi.dutiful p (hflight hp), ?_, ?_, hi.cancelled, ?_,
      fun id token hlookup ↦ ?_, ?_⟩
    · rw [hsame]
      exact hi.fresh
    · rw [hsame]
      exact hi.sole
    · rw [hsame]
      exact fun p hp ↦ hi.own p (hflight hp)
    · have hlast := hi.found id token hlookup
      exact ⟨hsame ▸ hlast.registered, hsame ▸ hlast.last, hlast.untouched⟩
    · intro p hp token htok huntouched haddressed
      exact hi.addressed p (hflight hp) token htok huntouched
        ((addressed_congr hsame rfl rfl).mp haddressed)
  · intro s l r h message past o next timeUp hok _ hi
    cases o with
    | stop id => exact hi.stop
    | register id => exact hi.register
    | removeRequest id => exact hi.removeRequest hok
    | spawnTyping => exact hi.unrelated rfl rfl (Nat.le_succ _) (fun _ ↦ rfl) rfl
    | _ => exact hi.unrelated rfl rfl le_rfl (fun _ ↦ rfl) rfl

end Invariant

section Verdict

variable {c c' : MessageConfig} {p q : MessageThread} {id : String} {timeUp : Bool}

theorem mem_of_beside {ps : List MessageThread} (h : Beside ps p q) : q ∈ ps := by
  obtain ⟨l, r, rfl, hq⟩ := h
  exact mem_middle.mpr (.inl hq)

theorem Held.stops_iff (h : Held c) (hq : q ∈ c.inFlight) :
    ((tokenOf q).isSome = true →
        (Cancelled (exec (.stop (senderOf p)) timeUp c.shared).1 q ↔
          Cancelled c.shared q ∨ senderOf q = senderOf p ∧ SameChannel q p)) ↔
      (Running c.shared q → senderOf q = senderOf p → (SameChannel q p ↔ Addressed c q)) := by
  by_cases hcancelled : Cancelled c.shared q
  · refine iff_of_true (fun _ ↦ ?_) fun hrunning ↦ absurd hcancelled hrunning.2
    rw [cancelled_stop_iff]
    exact iff_of_true (.inl hcancelled) (.inl hcancelled)
  · have hrunning : (tokenOf q).isSome = true ↔ Running c.shared q :=
      (and_iff_left hcancelled).symm
    rw [hrunning]
    refine forall_congr' fun hrunning ↦ ?_
    rw [cancelled_stop_iff, h.found_iff hq hrunning, or_iff_right hcancelled,
      or_iff_right hcancelled, and_congr_right_iff]
    exact forall_congr' fun _ ↦ iff_comm

theorem Held.stoppable_iff (h : Held c) (hq : q ∈ c.inFlight) (hrunning : Running c.shared q) :
    Stoppable c.shared q ↔ Addressed c q := by
  rw [Stoppable, cancelled_stop_iff, or_iff_right hrunning.2, h.found_iff hq hrunning]
  exact and_iff_right rfl

theorem Held.keeps_iff (h : Held c) (hq : q ∈ c.inFlight) :
    (Running c.shared q → Stoppable c.shared q →
        Stoppable (exec (.removeRequest id) timeUp c.shared).1 q) ↔
      (Running c.shared q → senderOf q = id → ¬ Addressed c q) := by
  refine forall_congr' fun hrunning ↦ ?_
  have hnot : ¬ Cancelled (exec (.removeRequest id) timeUp c.shared).1 q := hrunning.2
  rw [h.stoppable_iff hq hrunning, Stoppable, cancelled_stop_iff, or_iff_right hnot]
  constructor
  · intro hkeeps hsender haddressed
    obtain ⟨-, token, -, hlookup⟩ := hkeeps haddressed
    exact (KeyedMap.lookup_erase_eq_some.mp hlookup).1 hsender
  · intro hapart haddressed
    obtain ⟨hdirect, token, htoken, hlookup⟩ := (h.found_iff hq hrunning).mpr ⟨rfl, haddressed⟩
    refine ⟨hdirect, token, htoken, KeyedMap.lookup_erase_eq_some.mpr ⟨?_, hlookup⟩⟩
    exact fun hsender ↦ hapart hsender haddressed

theorem stopsOwn_iff_of_held (h : Held c) (hstep : Step messages (.act p timeUp) c c') :
    StopsOwn p c c' ↔ Considerate c (.act p timeUp) := by
  cases hstep with
  | @act s s' l r hist evs _ out _ hstep =>
    obtain ⟨message, past, code⟩ := p
    cases code with
    | ret x =>
      obtain ⟨rfl, -⟩ : s = s' ∧ _ := by simpa [messages, Threads.program] using hstep
      exact iff_of_true (fun _ _ _ hstoppable ↦ hstoppable) trivial
    | op o next =>
      obtain ⟨rfl, -⟩ : (exec o timeUp s).1 = s' ∧ _ := by
        simpa [messages, Threads.program] using hstep
      cases o with
      | stop id =>
        have hid : id = message.senderId := (h.dutiful _ (mem_middle.mpr (.inr rfl))).1.1
        subst hid
        refine forall_congr' fun q ↦ forall_congr' fun hq ↦ ?_
        exact @Held.stops_iff _ ⟨message, past, .op (.stop message.senderId) next⟩ q timeUp h
          (mem_of_beside hq)
      | removeRequest id =>
        have hid : id = message.senderId := (h.dutiful _ (mem_middle.mpr (.inr rfl))).1.1
        subst hid
        refine forall_congr' fun q ↦ forall_congr' fun hq ↦ ?_
        exact @Held.keeps_iff _ q message.senderId timeUp h (mem_of_beside hq)
      | _ => exact iff_of_true trivial trivial

/-- In a run of considerate steps a step does what it should just if it is considerate, too. -/
theorem stopsOwn_iff (hrun : Run messages Considerate (initial .idle) c)
    (hstep : Step messages (.act p timeUp) c c') :
    StopsOwn p c c' ↔ Considerate c (.act p timeUp) :=
  stopsOwn_iff_of_held (held_of_run hrun) hstep

theorem considerate_of_alone (h : ∀ q, ¬ Beside c.inFlight p q) :
    Considerate c (.act p timeUp) := by
  obtain ⟨message, past, code⟩ := p
  cases code with
  | ret x => trivial
  | op o next =>
    cases o with
    | stop id => exact fun q hq ↦ absurd hq (h q)
    | removeRequest id => exact fun q hq ↦ absurd hq (h q)
    | _ => trivial

section TwoChannels

def stopMessage (channelType : ChannelType) : Message :=
  ⟨⟨⟨channelType, "", "7"⟩, "/stop", .channel⟩, writerReads⟩

theorem stopsOwn_iff_stopMessage : ∃ c c' p, Run messages Considerate (initial .idle) c ∧
    Step messages (.act p false) c c' ∧ p.call = stopMessage .slack ∧ StopsOwn p c c' := by
  have hsome : (next messages ⟨.idle, [⟨stopMessage .slack, [], (stopMessage .slack).code⟩], []⟩
    (.act 0 false)).isSome = true := by decide +kernel
  obtain ⟨c', hnext⟩ := Option.isSome_iff_exists.mp hsome
  have hcall : Step messages (.call (stopMessage .slack)) (initial .idle)
      ⟨.idle, [⟨stopMessage .slack, [], (stopMessage .slack).code⟩], []⟩ := step_call _ _
  have hrun := Run.refl.step (show Considerate _ (.call (stopMessage .slack)) from trivial) hcall
  have hstep := step_act rfl hnext
  exact ⟨_, c', _, hrun, hstep, rfl,
    (stopsOwn_iff hrun hstep).mpr (considerate_of_alone fun _ ↦ not_beside_singleton)⟩

def nextOp {α : Type} : Code α → Option Op
  | .ret _ => none
  | .op o _ => some o

theorem eq_op_of_nextOp {α : Type} {code : Code α} {o : Op} (h : nextOp code = some o) :
    ∃ next, code = .op o next := by
  cases code with
  | ret x => cases h
  | op o' next =>
    cases Option.some_inj.mp h
    exact ⟨next, rfl⟩

def twoChannels : List (Move Message Bool) :=
  .call ⟨writerMessage, writerReads⟩ ::
    (.replicate 10 (.act 0 false) ++ [.call (stopMessage .slack)])

theorem not_stopsOwn : ¬ ∀ c c' p timeUp, Reachable messages .idle c →
    Step messages (.act p timeUp) c c' → StopsOwn p c c' := by
  intro h
  have hplay : (play messages (initial .idle) twoChannels).map (fun c ↦
      (c.inFlight.map fun p ↦ (p.call.inbound.message.channelType, p.call.reads.hasFallbacks),
        c.inFlight.map fun p ↦ (tokenOf p, nextOp p.code == some (.stop "7")))) =
      some ([(.telegram, false), (.slack, false)], [(some 1, false), (none, true)]) := by
    decide +kernel
  have hshared : (play messages (initial .idle) twoChannels).map (fun c ↦
      (c.shared.activeRequests.lookup "7", c.shared.cancelled)) = some (some 1, []) := by
    decide +kernel
  obtain ⟨⟨shared, inFlight, history⟩, hc, hflight⟩ := Option.map_eq_some_iff.mp hplay
  rw [hc, Option.map_some] at hshared
  obtain ⟨hlookup, hcancelled⟩ := Prod.mk.inj (Option.some_inj.mp hshared)
  obtain ⟨hcalls, htokens⟩ := Prod.mk.inj hflight
  obtain ⟨q, rest, rfl, hq, hrest⟩ := List.map_eq_cons_iff.mp hcalls
  obtain ⟨p, rest', rfl, hp, hrest'⟩ := List.map_eq_cons_iff.mp hrest
  obtain rfl := List.map_eq_nil_iff.mp hrest'
  obtain ⟨⟨htoken, -⟩, -, hstop⟩ : (tokenOf q = some 1 ∧ _) ∧ tokenOf p = none ∧
      nextOp p.code = some (.stop "7") := by simpa using htokens
  obtain ⟨next, hcode⟩ := eq_op_of_nextOp hstop
  obtain ⟨call, past, code⟩ := p
  cases hcode
  have hstep : Step messages (.act ⟨call, past, .op (.stop "7") next⟩ false)
      ⟨shared, [q] ++ ⟨call, past, .op (.stop "7") next⟩ :: [], history⟩ _ := .act false rfl
  have hstops := h _ _ _ false (run_of_play _ hc) hstep q
    ⟨[q], [], rfl, List.mem_singleton.mpr rfl⟩ (by rw [htoken]; rfl)
  have hdone : Cancelled (exec (.stop "7") false shared).1 q :=
    cancelled_stop_iff.mpr (.inr ⟨(Prod.mk.inj hq).2, 1, htoken, hlookup⟩)
  rcases hstops.mp hdone with ⟨-, token, -, hmem⟩ | ⟨-, hchannel, -⟩
  · have hnone : token ∈ [] := hcancelled ▸ hmem
    cases hnone
  · cases (Prod.mk.inj hq).1.symm.trans (hchannel.trans (Prod.mk.inj hp).1)

end TwoChannels

end Verdict

end AdkGateway.ProcessMessage
