import AdkGateway.Foundation.Decimal

namespace AdkGateway.Cron

open Foundation Text Decimal

/-- A build with overflow checks panics where one without them wraps. -/
inductive Build
  | debug
  | release
  deriving DecidableEq

/-- The product of two `u64`; `none` is a panic. -/
def Build.mul : Build → ℕ → ℕ → Option ℕ
  | .debug, m, n => if m * n < 2 ^ 64 then some (m * n) else none
  | .release, m, n => some (m * n % 2 ^ 64)

def stripSuffix (c : Char) (cs : List Char) : Option (List Char) :=
  if cs.getLast? = some c then some cs.dropLast else none

def numberBefore (c : Char) (rest : List Char) : Option ℕ :=
  (stripSuffix c rest).bind fun number ↦ parseUnsigned 64 (strip isWhitespace number)

/-- The interval in seconds, unless the arithmetic panics. -/
def parseScheduleInterval (build : Build) (schedule : String) : Option ℕ :=
  match stripPrefix "@every " schedule.toList with
  | some rest =>
    let rest := strip isWhitespace rest
    match numberBefore 's' rest with
    | some n => some n
    | none =>
      match numberBefore 'm' rest with
      | some n => build.mul n 60
      | none =>
        match numberBefore 'h' rest with
        | some n => build.mul n 3600
        | none => some 3600
  | none => some 3600

inductive IntervalUnit
  | second
  | minute
  | hour

namespace IntervalUnit

def letter : IntervalUnit → Char
  | second => 's'
  | minute => 'm'
  | hour => 'h'

def seconds : IntervalUnit → ℕ
  | second => 1
  | minute => 60
  | hour => 3600

theorem letter_inj {u v : IntervalUnit} (h : u.letter = v.letter) : u = v := by
  cases u <;> cases v <;> first | rfl | exact absurd h (by decide)

theorem not_whitespace (u : IntervalUnit) : isWhitespace u.letter = false := by
  cases u <;> decide

end IntervalUnit

/-- A schedule text `@every N<unit>`, with blanks round the number as they come. -/
def IsEvery (schedule : String) (n : ℕ) (u : IntervalUnit) : Prop :=
  ∃ lead numeral pad trail, (∀ c ∈ lead ++ pad ++ trail, isWhitespace c = true) ∧
    IsNumeral numeral n ∧
    schedule.toList = "@every ".toList ++ (lead ++ (numeral ++ pad ++ [u.letter]) ++ trail)

/-- The interval is that of the text in every build, and one hour where the text has none that
fits. -/
def ReadsRight (schedule : String) : Prop :=
  ∀ build,
    (∀ n u, IsEvery schedule n u → n * u.seconds < 2 ^ 64 →
      parseScheduleInterval build schedule = some (n * u.seconds)) ∧
    ((∀ n u, IsEvery schedule n u → 2 ^ 64 ≤ n * u.seconds) →
      parseScheduleInterval build schedule = some 3600)

theorem stripSuffix_eq_some_iff {c : Char} {cs number : List Char} :
    stripSuffix c cs = some number ↔ cs = number ++ [c] := by
  constructor
  · intro h
    rw [stripSuffix, Option.ite_none_right_eq_some, List.getLast?_eq_some_iff] at h
    obtain ⟨⟨body, rfl⟩, heq⟩ := h
    rw [List.dropLast_concat] at heq
    rw [Option.some.inj heq]
  · rintro rfl
    rw [stripSuffix, if_pos List.getLast?_concat, List.dropLast_concat]

theorem numberBefore_eq_some_iff {c : Char} {rest : List Char} {n : ℕ} :
    numberBefore c rest = some n ↔
      ∃ number, rest = number ++ [c] ∧ IsNumeral (strip isWhitespace number) n ∧ n < 2 ^ 64 := by
  simp only [numberBefore, Option.bind_eq_some_iff, stripSuffix_eq_some_iff,
    parseUnsigned_eq_some_iff]

variable {schedule : String} {n : ℕ} {u : IntervalUnit}

theorem strip_numeral {cs : List Char} (h : IsNumeral cs n) : strip isWhitespace cs = cs :=
  strip_eq_self_of_forall fun _ hc ↦ h.not_whitespace hc

/-- The form of a text can be seen in what is left of it after its prefix is taken and its ends
are trimmed. -/
theorem isEvery_iff : IsEvery schedule n u ↔
    ∃ rest number, stripPrefix "@every " schedule.toList = some rest ∧
      strip isWhitespace rest = number ++ [u.letter] ∧ IsNumeral (strip isWhitespace number) n := by
  simp only [stripPrefix_eq_some_iff]
  constructor
  · rintro ⟨lead, numeral, pad, trail, hpads, hnumeral, htext⟩
    simp only [List.forall_mem_append] at hpads
    obtain ⟨⟨hlead, hpad⟩, htrail⟩ := hpads
    refine ⟨_, numeral ++ pad, htext, ?_, ?_⟩
    · obtain ⟨c, cs, rfl⟩ := List.exists_cons_of_ne_nil hnumeral.ne_nil
      have hc : isWhitespace c = false := hnumeral.not_whitespace List.mem_cons_self
      rw [strip_append_of_all hlead htrail]
      exact strip_append hc u.not_whitespace [] (cs ++ pad)
    · have hstrip := strip_append_of_all (List.forall_mem_nil _) hpad numeral
      rw [List.nil_append, strip_numeral hnumeral] at hstrip
      rwa [hstrip]
  · rintro ⟨rest, number, htext, hrest, hnumeral⟩
    obtain ⟨lead, trail, hlead, htrail, heq⟩ := exists_eq_append_strip isWhitespace rest
    obtain ⟨before, pad, hbefore, hpad, hnumber⟩ := exists_eq_append_strip isWhitespace number
    refine ⟨lead ++ before, _, pad, trail, ?_, hnumeral, ?_⟩
    · simp only [List.forall_mem_append]
      exact ⟨⟨⟨hlead, hbefore⟩, hpad⟩, htrail⟩
    · rw [htext, heq, hrest]
      conv_lhs => rw [hnumber]
      simp only [List.append_assoc]

theorem numberBefore_other {c d : Char} (h : d ≠ c) (number : List Char) :
    numberBefore c (number ++ [d]) = none := by
  have hsuffix : stripSuffix c (number ++ [d]) = none := by
    rw [stripSuffix, List.getLast?_concat, if_neg (by simpa using h)]
  rw [numberBefore, hsuffix, Option.bind_none]

theorem Build.mul_of_lt {m k : ℕ} (build : Build) (h : m * k < 2 ^ 64) :
    build.mul m k = some (m * k) := by
  cases build
  · exact if_pos h
  · exact congrArg some (Nat.mod_eq_of_lt h)

theorem Build.debug_mul_of_le {m k : ℕ} (h : 2 ^ 64 ≤ m * k) : Build.debug.mul m k = none :=
  if_neg (not_lt.mpr h)

theorem parseScheduleInterval_of_isEvery (build : Build) (h : IsEvery schedule n u)
    (hn : n < 2 ^ 64) : parseScheduleInterval build schedule = build.mul n u.seconds := by
  obtain ⟨rest, number, hevery, hrest, hnumeral⟩ := isEvery_iff.mp h
  have hread : numberBefore u.letter (strip isWhitespace rest) = some n :=
    numberBefore_eq_some_iff.mpr ⟨number, hrest, hnumeral, hn⟩
  have hother : ∀ v : IntervalUnit, v.letter ≠ u.letter →
      numberBefore v.letter (strip isWhitespace rest) = none := by
    intro v hv
    rw [hrest]
    exact numberBefore_other hv.symm number
  simp only [parseScheduleInterval, hevery]
  cases u with
  | second =>
    rw [show numberBefore 's' _ = some n from hread, IntervalUnit.seconds,
      build.mul_of_lt (by rwa [mul_one]), mul_one]
  | minute =>
    rw [show numberBefore 's' _ = none from hother .second (by decide),
      show numberBefore 'm' _ = some n from hread]
    rfl
  | hour =>
    rw [show numberBefore 's' _ = none from hother .second (by decide),
      show numberBefore 'm' _ = none from hother .minute (by decide),
      show numberBefore 'h' _ = some n from hread]
    rfl

theorem parseScheduleInterval_default (build : Build)
    (h : ∀ n u, IsEvery schedule n u → 2 ^ 64 ≤ n) :
    parseScheduleInterval build schedule = some 3600 := by
  rw [parseScheduleInterval]
  split
  next rest hevery =>
    have hnone : ∀ u : IntervalUnit, numberBefore u.letter (strip isWhitespace rest) = none := by
      intro u
      rw [Option.eq_none_iff_forall_ne_some]
      intro n hread
      obtain ⟨number, hrest, hnumeral, hn⟩ := numberBefore_eq_some_iff.mp hread
      have hle := h n u (isEvery_iff.mpr ⟨rest, number, hevery, hrest, hnumeral⟩)
      omega
    simp only [show numberBefore 's' _ = none from hnone .second,
      show numberBefore 'm' _ = none from hnone .minute,
      show numberBefore 'h' _ = none from hnone .hour]
  next => rfl

theorem IsEvery.unique {m : ℕ} {v : IntervalUnit} (h : IsEvery schedule n u)
    (h' : IsEvery schedule m v) : n = m ∧ u = v := by
  obtain ⟨rest, number, hevery, hrest, hnumeral⟩ := isEvery_iff.mp h
  obtain ⟨rest', number', hevery', hrest', hnumeral'⟩ := isEvery_iff.mp h'
  rw [hevery, Option.some.injEq] at hevery'
  subst hevery'
  rw [hrest, List.append_singleton_inj] at hrest'
  obtain ⟨rfl, hletter⟩ := hrest'
  exact ⟨hnumeral.unique hnumeral', IntervalUnit.letter_inj hletter⟩

/-- The number fits in 64 bits and its seconds do not, in a build that checks. -/
def Panics (build : Build) (schedule : String) : Prop :=
  build = .debug ∧ ∃ n u, IsEvery schedule n u ∧ n < 2 ^ 64 ∧ 2 ^ 64 ≤ n * u.seconds

theorem isSome_parseScheduleInterval_iff {build : Build} :
    (parseScheduleInterval build schedule).isSome = true ↔ ¬ Panics build schedule := by
  by_cases hevery : ∃ n u, IsEvery schedule n u ∧ n < 2 ^ 64
  · obtain ⟨n, u, hevery, hn⟩ := hevery
    rw [parseScheduleInterval_of_isEvery build hevery hn]
    cases build with
    | release => exact iff_of_true rfl fun h ↦ by cases h.1
    | debug =>
      rw [Build.mul, Option.isSome_ite, ← not_le, not_iff_not]
      refine ⟨fun hle ↦ ⟨rfl, n, u, hevery, hn, hle⟩, ?_⟩
      rintro ⟨-, m, v, hother, -, hle⟩
      obtain ⟨rfl, rfl⟩ := hevery.unique hother
      exact hle
  · have hdefault : parseScheduleInterval build schedule = some 3600 := by
      refine parseScheduleInterval_default build fun n u h ↦ ?_
      by_contra hn
      exact hevery ⟨n, u, h, not_le.mp hn⟩
    rw [hdefault]
    refine iff_of_true rfl fun h ↦ ?_
    obtain ⟨-, n, u, h, hn, -⟩ := h
    exact hevery ⟨n, u, h, hn⟩

theorem isEvery_print (n : ℕ) (u : IntervalUnit) :
    IsEvery ("@every " ++ toString n ++ String.singleton u.letter) n u := by
  refine ⟨[], (toString n).toList, [], [], by simp, isNumeral_toString n, ?_⟩
  simp [String.toList_append]

/-- An interval is read right in every build if and only if its number of seconds fits in 64 bits
whenever its number does. -/
theorem readsRight_iff (schedule : String) : ReadsRight schedule ↔
    ∀ n u, IsEvery schedule n u → n < 2 ^ 64 → n * u.seconds < 2 ^ 64 := by
  constructor
  · intro h n u hevery hn
    by_contra hlt
    have hle : 2 ^ 64 ≤ n * u.seconds := not_lt.mp hlt
    have hdefault : parseScheduleInterval .debug schedule = some 3600 := by
      refine (h .debug).2 fun m v hother ↦ ?_
      obtain ⟨rfl, rfl⟩ := hevery.unique hother
      exact hle
    rw [parseScheduleInterval_of_isEvery .debug hevery hn, Build.debug_mul_of_le hle] at hdefault
    cases hdefault
  · intro h build
    refine ⟨fun n u hevery hlt ↦ ?_, fun hnone ↦ ?_⟩
    · have hn : n < 2 ^ 64 := by
        refine lt_of_le_of_lt (Nat.le_mul_of_pos_right n ?_) hlt
        cases u <;> decide
      rw [parseScheduleInterval_of_isEvery build hevery hn, build.mul_of_lt hlt]
    · refine parseScheduleInterval_default build fun n u hevery ↦ ?_
      by_contra hn
      have hlt := h n u hevery (not_le.mp hn)
      have hle := hnone n u hevery
      omega

/-- So many minutes are 44 seconds more than 64 bits hold. -/
theorem not_readsRight_of_wrapping :
    parseScheduleInterval .release "@every 307445734561825861m" = some 44 ∧
    parseScheduleInterval .debug "@every 307445734561825861m" = none ∧
    ¬ ReadsRight "@every 307445734561825861m" := by
  have hevery : IsEvery "@every 307445734561825861m" 307445734561825861 .minute :=
    isEvery_print 307445734561825861 .minute
  have hfits : 307445734561825861 < 2 ^ 64 := by decide
  refine ⟨?_, ?_, fun h ↦ ?_⟩
  · rw [parseScheduleInterval_of_isEvery .release hevery hfits]
    rfl
  · rw [parseScheduleInterval_of_isEvery .debug hevery hfits]
    rfl
  · have hdefault : parseScheduleInterval .debug "@every 307445734561825861m" = some 3600 := by
      refine (h .debug).2 fun m v hother ↦ ?_
      obtain ⟨rfl, rfl⟩ := hevery.unique hother
      decide
    rw [parseScheduleInterval_of_isEvery .debug hevery hfits] at hdefault
    exact absurd hdefault (by decide)

end AdkGateway.Cron
