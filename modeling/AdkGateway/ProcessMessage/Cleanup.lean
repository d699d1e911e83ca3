import AdkGateway.Foundation.Custody
import AdkGateway.ProcessMessage.Duties
import AdkGateway.ProcessMessage.Restrictions

namespace AdkGateway.ProcessMessage

open Foundation Interleaving

attribute [local irreducible] processMessage

section Alone

/-- What a message leaves if no other one is processed and its time is not over. -/
def Message.alone (message : Message) : Requests :=
  (message.code.run exec (fun _ ↦ false) .idle).1

def Shows (senderId : String) (s : Requests) (d : Duties) : Prop :=
  s.typing = d.typing.toList ∧
    ∀ id, s.activeRequests.lookup id = if id = senderId then d.request else none

variable {senderId : String} {mayDrop : Duties → Prop} {s : Requests} {d : Duties}

theorem shows_exec {o : Op} (hallows : (duties senderId mayDrop).allows o d)
    (h : Shows senderId s d) :
    Shows senderId (exec o false s).1 (d.after o (exec o false s).2) := by
  obtain ⟨htyping, hrequest⟩ := h
  cases o with
  | stop id =>
    obtain ⟨rfl, rfl⟩ := hallows
    have hnone : s.activeRequests.lookup id = none := by
      rw [hrequest, if_pos rfl]
      rfl
    simp only [exec, hnone]
    exact ⟨htyping, hrequest⟩
  | spawnTyping =>
    have hnone : d.typing = none := hallows
    refine ⟨?_, hrequest⟩
    simp [exec, Duties.after, htyping, hnone]
  | stopTyping task =>
    have htask : d.typing = some task := hallows
    refine ⟨?_, hrequest⟩
    simp [exec, Duties.after, htyping, htask]
  | register id =>
    obtain ⟨rfl, -⟩ := hallows
    refine ⟨htyping, fun id' ↦ ?_⟩
    simp only [exec, Duties.after, KeyedMap.lookup_insert_if, hrequest]
    split <;> rfl
  | removeRequest id =>
    obtain ⟨rfl, -⟩ := hallows
    refine ⟨htyping, fun id' ↦ ?_⟩
    simp only [exec, Duties.after, KeyedMap.lookup_erase_if, hrequest]
    split <;> rfl
  | _ => exact ⟨htyping, hrequest⟩

theorem exec_moves (senderId : String) (o : Op) (s : Requests) (d : Duties)
    (hallows : (duties senderId fun _ ↦ False).allows o d) (h : Shows senderId s d) :
    ∃ d', (duties senderId fun _ ↦ False).moves o d (exec o false s).2 d' ∧
      Shows senderId (exec o false s).1 d' := by
  refine ⟨_, ⟨rfl, ?_⟩, shows_exec hallows h⟩
  cases o with
  | timer => exact fun h ↦ by cases h
  | _ => trivial

theorem idle_iff_of_shows (h : Shows senderId s d) :
    d = .idle ↔ s.typing = [] ∧ ∀ id, s.activeRequests.lookup id = none := by
  obtain ⟨htyping, hrequest⟩ := h
  obtain ⟨typing, request⟩ := d
  rw [htyping]
  constructor
  · intro heq
    cases heq
    refine ⟨rfl, fun id ↦ ?_⟩
    rw [hrequest]
    exact ite_self none
  · intro h
    obtain ⟨hnone, hall⟩ := h
    have hsender := (hrequest senderId).symm.trans (hall senderId)
    rw [if_pos rfl] at hsender
    cases typing with
    | none => exact congrArg _ hsender
    | some task => cases hnone

theorem alone_iff (message : Message) : (message.alone.typing = [] ∧
    ∀ id, message.alone.activeRequests.lookup id = none) ↔ message.Clean := by
  have hfollows : message.code.Follows (duties message.senderId fun _ ↦ False)
      (fun _ d ↦ d = .idle ↔ message.Clean) .idle :=
    timed_follows (processMessage_follows fun _ hd ↦ hd) fun _ h ↦ h.elim
  have hidle : Shows message.senderId .idle .idle := ⟨rfl, fun _ ↦ (ite_self none).symm⟩
  obtain ⟨d, hd, hshows⟩ := hfollows.run (exec_moves message.senderId) hidle
  exact (idle_iff_of_shows hshows).symm.trans hd

end Alone

section Runs

def spawnedTask : Done Requests Op Op.Answer → Option ℕ
  | ⟨_, .spawnTyping, task⟩ => some task
  | _ => none

def registeredToken : Done Requests Op Op.Answer → Option ℕ
  | ⟨_, .register _, token⟩ => some token
  | _ => none

/-- What a message starts has ended when it returns, and no more is going on than there are messages
in flight. -/
structure CleansUp (c : MessageConfig) : Prop where
  typing : ∀ p ∈ c.inFlight, ∀ result, p.code = .ret result →
    ∀ task ∈ p.past.filterMap spawnedTask, task ∉ c.shared.typing
  request : ∀ p ∈ c.inFlight, ∀ result, p.code = .ret result →
    ∀ token ∈ p.past.filterMap registeredToken,
      c.shared.activeRequests.lookup p.call.senderId ≠ some token
  typing_le : c.shared.typing.length ≤ c.inFlight.length
  requests_le : KeyedMap.size c.shared.activeRequests ≤ c.inFlight.length

/-- Messages are clean, and their time is not over while they have something on their hands. -/
def Tidy (_ : MessageConfig) : Label Message MessageThread Bool → Prop
  | .call message => message.Clean
  | .act p timeUp => (∃ next, p.code = .op .timer next) → timeUp = true → dutiesOf p.past = .idle

def typingTasks : Holding Requests MessageThread ℕ where
  live s task := task ∈ s.typing
  used s task := task < s.next
  holds p := (dutiesOf p.past).typing
  made p := p.past.filterMap spawnedTask

def requestEntries : Holding Requests MessageThread (String × ℕ) where
  live s entry := s.activeRequests.lookup entry.1 = some entry.2
  used s entry := entry.2 < s.next
  holds p := (dutiesOf p.past).request.map fun token ↦ (p.call.senderId, token)
  made p := (p.past.filterMap registeredToken).map fun token ↦ (p.call.senderId, token)

theorem typingTasks_holds {p : MessageThread} (h : dutiesOf p.past = .idle) :
    typingTasks.holds p = none := congrArg Duties.typing h

theorem requestEntries_holds {p : MessageThread} (h : dutiesOf p.past = .idle) :
    requestEntries.holds p = none :=
  congrArg (fun d ↦ d.request.map fun token ↦ (p.call.senderId, token)) h

def Numbered (s : Requests) : Prop := s.typing.Nodup ∧ ∀ task ∈ s.typing, task < s.next

structure Orderly (c : MessageConfig) : Prop where
  dutiful : ∀ p ∈ c.inFlight, Dutiful (fun d ↦ d = .idle) (fun _ d ↦ d = .idle) p
  numbered : Numbered c.shared
  typing : typingTasks.Kept c.shared c.inFlight
  requests : requestEntries.Kept c.shared c.inFlight

section Step

variable {message : Message} {past : List (Done Requests Op Op.Answer)} {o : Op}
  {s : Requests} {mayDrop : Duties → Prop} (timeUp : Bool)
  {next : o.Answer → Code (Option (Except String Unit))}
  (hallows : (duties message.senderId mayDrop).allows o (dutiesOf past))

theorem numbered_exec (h : Numbered s) : Numbered (exec o timeUp s).1 := by
  obtain ⟨hnodup, hlt⟩ := h
  cases o with
  | stop id =>
    simp only [exec]
    split <;> exact ⟨hnodup, hlt⟩
  | spawnTyping =>
    refine ⟨List.nodup_cons.mpr ⟨fun hmem ↦ lt_irrefl _ (hlt _ hmem), hnodup⟩, ?_⟩
    intro task htask
    rcases List.mem_cons.mp htask with rfl | htask
    · exact Nat.lt_succ_self _
    · exact Nat.lt_succ_of_lt (hlt task htask)
  | stopTyping task => exact ⟨hnodup.erase task, fun t ht ↦ hlt t (List.mem_of_mem_erase ht)⟩
  | register id => exact ⟨hnodup, fun task htask ↦ Nat.lt_succ_of_lt (hlt task htask)⟩
  | _ => exact ⟨hnodup, hlt⟩

include hallows

theorem typing_handles (hnumbered : Numbered s) : typingTasks.Handles s ⟨message, past, .op o next⟩
    (exec o timeUp s).1
    ⟨message, past ++ [⟨s, o, (exec o timeUp s).2⟩], next (exec o timeUp s).2⟩ := by
  cases o with
  | spawnTyping =>
    have hnone : (dutiesOf past).typing = none := hallows
    constructor
    · exact fun task htask ↦ Nat.lt_succ_of_lt htask
    · intro task htask
      rcases List.mem_cons.mp htask with rfl | htask
      · refine .inr ⟨lt_irrefl _, ?_⟩
        simp [typingTasks, Duties.after, exec]
      · exact .inl htask
    · intro task _ hholds
      cases hnone.symm.trans hholds
    · intro task htask
      have htask' : task ∈ past.filterMap spawnedTask ∨ task = s.next := by
        simpa [typingTasks, spawnedTask, exec] using htask
      rcases htask' with htask | rfl
      · exact .inl htask
      · refine .inr ⟨Nat.lt_succ_self _, ?_⟩
        simp [typingTasks, Duties.after, exec]
  | stopTyping task =>
    have htask : (dutiesOf past).typing = some task := hallows
    constructor
    · exact fun _ h ↦ h
    · exact fun _ h ↦ .inl (List.mem_of_mem_erase h)
    · intro t ht hholds
      cases htask.symm.trans hholds
      exact absurd ht hnumbered.1.not_mem_erase
    · intro t ht
      left
      simpa [typingTasks, spawnedTask] using ht
  | stop id =>
    refine Holding.handles_of_same (fun task htask ↦ ?_) (fun task htask ↦ ?_) ?_ ?_
    · simp only [typingTasks, exec] at htask ⊢
      split <;> exact htask
    · simp only [typingTasks, exec] at htask
      split at htask <;> exact htask
    · simp [typingTasks, Duties.after]
    · simp [typingTasks, spawnedTask]
  | register id =>
    refine Holding.handles_of_same (fun _ h ↦ Nat.lt_succ_of_lt h) (fun _ h ↦ h) ?_ ?_
    · simp [typingTasks, Duties.after]
    · simp [typingTasks, spawnedTask]
  | _ =>
    refine Holding.handles_of_same (fun _ h ↦ h) (fun _ h ↦ h) ?_ ?_
    · simp [typingTasks, Duties.after]
    · simp [typingTasks, spawnedTask]

theorem requests_handles : requestEntries.Handles s ⟨message, past, .op o next⟩
    (exec o timeUp s).1
    ⟨message, past ++ [⟨s, o, (exec o timeUp s).2⟩], next (exec o timeUp s).2⟩ := by
  cases o with
  | register id =>
    obtain ⟨rfl, hnone⟩ := hallows
    constructor
    · exact fun _ h ↦ Nat.lt_succ_of_lt h
    · intro entry hentry
      rcases KeyedMap.lookup_insert_eq_some.mp hentry with ⟨hid, hnew⟩ | ⟨-, hold⟩
      · refine .inr ⟨by simp [requestEntries, hnew], ?_⟩
        simp [requestEntries, Duties.after, exec, Prod.ext_iff, hid, hnew]
      · exact .inl hold
    · intro entry _ hholds
      simp [requestEntries, hnone] at hholds
    · intro entry hentry
      have hmade : entry ∈ requestEntries.made
            ⟨message, past, .op (.register message.senderId) next⟩ ++
          [(message.senderId, s.next)] := by
        simpa [requestEntries, registeredToken, exec] using hentry
      rcases List.mem_append.mp hmade with hentry | hentry
      · exact .inl hentry
      · rw [List.mem_singleton.mp hentry]
        refine .inr ⟨Nat.lt_succ_self _, ?_⟩
        simp [requestEntries, Duties.after, exec]
  | removeRequest id =>
    obtain ⟨rfl, -⟩ := hallows
    constructor
    · exact fun _ h ↦ h
    · exact fun _ h ↦ .inl (KeyedMap.lookup_erase_eq_some.mp h).2
    · intro entry hentry hholds
      obtain ⟨token, -, rfl⟩ := Option.map_eq_some_iff.mp hholds
      exact absurd rfl (KeyedMap.lookup_erase_eq_some.mp hentry).1
    · intro entry hentry
      left
      simpa [requestEntries, registeredToken] using hentry
  | stop id =>
    obtain ⟨rfl, hidle⟩ := hallows
    refine Holding.handles_of_same (fun entry hentry ↦ ?_) (fun entry hentry ↦ ?_) ?_ ?_
    · simp only [requestEntries, exec] at hentry ⊢
      split <;> exact hentry
    · simp only [requestEntries, exec] at hentry ⊢
      split at hentry
      · exact (KeyedMap.lookup_erase_eq_some.mp hentry).2
      · exact hentry
    · simp [requestEntries, Duties.after]
    · simp [requestEntries, registeredToken]
  | spawnTyping =>
    refine Holding.handles_of_same (fun _ h ↦ Nat.lt_succ_of_lt h) (fun _ h ↦ h) ?_ ?_
    · simp [requestEntries, Duties.after]
    · simp [requestEntries, registeredToken]
  | _ =>
    refine Holding.handles_of_same (fun _ h ↦ h) (fun _ h ↦ h) ?_ ?_
    · simp [requestEntries, Duties.after]
    · simp [requestEntries, registeredToken]

end Step

theorem orderly_of_run {c : MessageConfig} (h : Run messages Tidy (initial .idle) c) :
    Orderly c := by
  refine Threads.invariant_of_allowed (I := Orderly) (Q := fun _ ↦ True) h (fun _ _ ↦ trivial)
    ?_ ?_ ?_ ?_
  · refine ⟨fun _ hp ↦ (by cases hp), ⟨List.nodup_nil, fun _ h ↦ (by cases h)⟩, ?_, ?_⟩
    · exact Holding.kept_nil fun _ h ↦ by cases h
    · exact Holding.kept_nil fun _ h ↦ by cases h
  · intro s l r h message hclean _ hi
    refine ⟨?_, hi.numbered, hi.typing.start rfl, hi.requests.start rfl⟩
    intro p hp
    rcases mem_middle.mp hp with hp | rfl
    · exact hi.dutiful p hp
    · exact dutiful_start message (fun _ hd ↦ hd.mpr hclean) fun _ hd ↦ hd
  · intro s l r h message past x _ hi
    have hidle : dutiesOf past = .idle := hi.dutiful _ (mem_middle.mpr (.inr rfl))
    refine ⟨fun p hp ↦ hi.dutiful p (mem_middle.mpr (.inl hp)), hi.numbered, ?_, ?_⟩
    · exact hi.typing.finish (typingTasks_holds hidle)
    · exact hi.requests.finish (requestEntries_holds hidle)
  · intro s l r h message past o next timeUp htidy _ hi
    have hdutiful := hi.dutiful ⟨message, past, .op o next⟩ (mem_middle.mpr (.inr rfl))
    refine ⟨?_, numbered_exec timeUp hi.numbered,
      hi.typing.step (typing_handles timeUp hdutiful.1 hi.numbered),
      hi.requests.step (requests_handles timeUp hdutiful.1)⟩
    intro p hp
    rcases mem_middle.mp hp with hp | rfl
    · exact hi.dutiful p (mem_middle.mpr (.inl hp))
    · refine hdutiful.next timeUp s ?_
      rintro rfl
      exact htidy ⟨next, rfl⟩

theorem typing_le {c : MessageConfig} (h : Orderly c) :
    c.shared.typing.length ≤ c.inFlight.length := by
  have hsub : c.shared.typing ⊆ c.inFlight.filterMap fun p ↦ (dutiesOf p.past).typing := by
    intro task htask
    obtain ⟨p, hp, hholds⟩ := h.typing.held task htask
    exact List.mem_filterMap.mpr ⟨p, hp, hholds⟩
  exact (List.subperm_of_subset h.numbered.1 hsub).length_le.trans (List.length_filterMap_le _ _)

theorem requests_le {c : MessageConfig} (h : Orderly c) :
    KeyedMap.size c.shared.activeRequests ≤ c.inFlight.length := by
  have hsub : c.shared.activeRequests.keys ⊆ c.inFlight.map fun p ↦ p.call.senderId := by
    intro id hid
    obtain ⟨token, htoken⟩ := AList.lookup_isSome.mpr hid |> Option.isSome_iff_exists.mp
    obtain ⟨p, hp, hholds⟩ := h.requests.held (id, token) htoken
    obtain ⟨_, -, heq⟩ := Option.map_eq_some_iff.mp hholds
    exact List.mem_map.mpr ⟨p, hp, congrArg Prod.fst heq⟩
  rw [← KeyedMap.length_keys, ← List.length_map fun p : MessageThread ↦ p.call.senderId]
  exact (List.subperm_of_subset c.shared.activeRequests.nodupKeys hsub).length_le

theorem cleansUp_of_orderly {c : MessageConfig} (h : Orderly c) : CleansUp c := by
  have hidle {p : MessageThread} {result : Option (Except String Unit)} (hp : p ∈ c.inFlight)
      (hret : p.code = .ret result) : dutiesOf p.past = .idle := by
    have hdutiful := h.dutiful p hp
    rw [Dutiful, hret] at hdutiful
    exact hdutiful
  refine ⟨?_, ?_, typing_le h, requests_le h⟩
  · intro p hp result hret task htask
    exact h.typing.gone hp (typingTasks_holds (hidle hp hret)) htask
  · intro p hp result hret token htoken
    exact h.requests.gone hp (requestEntries_holds (hidle hp hret))
      (List.mem_map.mpr ⟨token, htoken, rfl⟩)

/-- A message that is processed alone leaves nothing just if it is clean, and where only clean
messages are processed, whatever else goes on, each has ended what it started when it returns. -/
theorem cleansUp_of_tidy (message : Message) (c : MessageConfig) :
    ((message.alone.typing = [] ∧ ∀ id, message.alone.activeRequests.lookup id = none) ↔
        message.Clean) ∧
      (Run messages Tidy (initial .idle) c → CleansUp c) :=
  ⟨alone_iff message, fun h ↦ cleansUp_of_orderly (orderly_of_run h)⟩

end Runs

section Untimed

theorem run_of_untimed {c c' : MessageConfig} {moves : List (Move Message Bool)}
    (hclean : ∀ message, .call message ∈ moves → message.Clean)
    (htimeUp : ∀ n timeUp, .act n timeUp ∈ moves → timeUp = false)
    (h : play messages c moves = some c') : Run messages Tidy c c' := by
  induction moves generalizing c with
  | nil =>
    obtain rfl := Option.some_inj.mp h
    exact .refl
  | cons move moves ih =>
    obtain ⟨c₁, hnext, hplay⟩ := Option.bind_eq_some_iff.mp h
    have hrest := ih (fun message hmem ↦ hclean message (List.mem_cons_of_mem _ hmem))
      (fun n timeUp hmem ↦ htimeUp n timeUp (List.mem_cons_of_mem _ hmem)) hplay
    cases move with
    | call message =>
      obtain rfl := Option.some_inj.mp hnext
      exact (Run.refl.step (hclean message List.mem_cons_self) (step_call c message)).trans hrest
    | act n timeUp =>
      obtain ⟨p, hp, -⟩ := Option.bind_eq_some_iff.mp hnext
      have htidy : Tidy c (.act p timeUp) := by
        intro _ hup
        cases (htimeUp n timeUp List.mem_cons_self).symm.trans hup
      exact (Run.refl.step htidy (step_act hp hnext)).trans hrest

def writerInbox : Message := ⟨writerMessage, writerReads⟩

theorem clean_writerInbox : writerInbox.Clean := by
  have hnone : (beforeRun writerInbox.reads writerInbox.inbound).isNone = true := by
    decide +kernel
  unfold Message.Clean Clean
  rw [Option.isNone_iff_eq_none.mp hnone]
  exact .inr (.inr ⟨rfl, rfl⟩)

def writerMoves : List (Move Message Bool) := .call writerInbox :: .replicate 10 (.act 0 false)

theorem cleansUp_of_tidy_writerInbox : ∃ c, play messages (initial .idle) writerMoves = some c ∧
    (c.shared.typing.length, KeyedMap.size c.shared.activeRequests, c.inFlight.length) =
      (1, 1, 1) ∧ CleansUp c := by
  have hplay : (play messages (initial .idle) writerMoves).map (fun c ↦ (c.shared.typing.length,
      KeyedMap.size c.shared.activeRequests, c.inFlight.length)) = some (1, 1, 1) := by
    decide +kernel
  obtain ⟨c, hc, hcounts⟩ := Option.map_eq_some_iff.mp hplay
  refine ⟨c, hc, hcounts, (cleansUp_of_tidy writerInbox c).2 (run_of_untimed ?_ ?_ hc)⟩
  · intro message hmem
    have heq : message = writerInbox := by simpa [writerMoves] using hmem
    rw [heq]
    exact clean_writerInbox
  · intro n timeUp hmem
    have heq : n = 0 ∧ timeUp = false := by simpa [writerMoves] using hmem
    exact heq.2

end Untimed

section Offline

def offlineMessage : Message := ⟨writerMessage, { writerReads with run := .error "offline" }⟩

/-- When the model cannot be reached the bot is shown as typing for ever. -/
theorem not_cleansUp : ¬ ∀ c, Reachable messages .idle c → CleansUp c := by
  intro h
  have hplay : (play messages (initial .idle)
      (.call offlineMessage :: .replicate 13 (.act 0 false))).map (fun c ↦
        (c.shared.typing.length, c.inFlight.length)) = some (1, 0) := by decide +kernel
  obtain ⟨c, hc, hleft⟩ := Option.map_eq_some_iff.mp hplay
  obtain ⟨htyping, hflight⟩ := Prod.mk.inj hleft
  have hle := (h c (run_of_play _ hc)).typing_le
  omega

end Offline

end AdkGateway.ProcessMessage
