import AdkGateway.Foundation.Interval
import AdkGateway.SchemaSanitizer.Entries

namespace AdkGateway.SchemaSanitizer

open Foundation Interval

def bound (schema : Value) (key : String) : Option ℚ :=
  ((schema.get key).bind Value.asNumber).map Number.value

def Limited (schema : Value) (n : ℤ) : Prop :=
  (∀ q ∈ bound schema "minimum", q ≤ n) ∧ ∀ q ∈ bound schema "maximum", n ≤ q

def Allowed (schema : Value) (n : ℤ) : Prop :=
  Limited schema n ∧ (∀ q ∈ bound schema "exclusiveMinimum", q < n) ∧
    ∀ q ∈ bound schema "exclusiveMaximum", n < q

structure IntegerNode where
  fields : Fields
  distinct : fields.keys.Nodup
  isIntegerType : (typeInfo gemini fields).isIntegerType = true

def IntegerNode.value (node : IntegerNode) : Value := .object node.fields

def BoundsSurvive (node : IntegerNode) : Prop :=
  ∀ n, Limited (GeminiSanitizer.sanitize node.value) n ↔ Allowed node.value n

namespace Side

def Within : Side → ℤ → ℤ → Prop
  | lower, l, n => l ≤ n
  | upper, u, n => n ≤ u

def tighter : Side → ℤ → ℤ → ℤ
  | lower => max
  | upper => min

/-- The outermost integer that is within an inclusive bound. -/
def limit : Side → ℚ → ℤ
  | lower, q => ⌈q⌉
  | upper, q => ⌊q⌋

/-- The outermost integer that is within an exclusive bound. -/
def strictLimit : Side → ℚ → ℤ
  | lower, q => ⌊q⌋ + 1
  | upper, q => ⌈q⌉ - 1

def IsLast : Side → ℚ → Prop
  | lower, q => q = 2 ^ 63 - 1 ∨ q = 2 ^ 64 - 1
  | upper, q => q = -2 ^ 63

end Side

section Conditions

variable (fields : Fields) (side : Side)

def inclusiveLimit : Option ℤ := (bound (.object fields) side.inclusive).map side.limit

def exclusiveLimit : Option ℤ := (bound (.object fields) side.exclusive).map side.strictLimit

def exclusiveStays : Prop :=
  fields.lookup side.inclusive = none ∨ fields.before side.inclusive side.exclusive = true

instance : Decidable (exclusiveStays fields side) := inferInstanceAs (Decidable (_ ∨ _))

/-- A converted bound that stays has a neighbour in its machine word and is no looser than the
inclusive one, and any other exclusive bound is no tighter than the inclusive one. -/
def Kept : Prop :=
  ∀ number, (fields.lookup side.exclusive).bind Value.asNumber = some number →
    if exclusiveStays fields side ∧ (side.convert (.number number)).isSome then
      ¬ side.IsLast number.value ∧
        ∀ l ∈ inclusiveLimit fields side, side.Within l (side.strictLimit number.value)
    else ∃ l ∈ inclusiveLimit fields side, side.Within (side.strictLimit number.value) l

def tightest : Option ℤ :=
  Option.merge side.tighter (inclusiveLimit fields side) (exclusiveLimit fields side)

/-- The limit that is written last. -/
def remaining : Option ℤ :=
  if exclusiveStays fields side then
    (((fields.lookup side.exclusive).bind side.convert).map fun n ↦ side.limit n.value).or
      (inclusiveLimit fields side)
  else inclusiveLimit fields side

end Conditions

section Limits

variable {side : Side} {fields : Fields} {schema : Value} {n : ℤ}

theorem within_limit {q : ℚ} : side.Within (side.limit q) n ↔
    match side with
    | .lower => q ≤ n
    | .upper => n ≤ q := by
  cases side with
  | lower => exact Int.ceil_le
  | upper => exact Int.le_floor

theorem within_strictLimit {q : ℚ} : side.Within (side.strictLimit q) n ↔
    match side with
    | .lower => q < n
    | .upper => n < q := by
  cases side with
  | lower => exact Int.add_one_le_iff.trans Int.floor_lt
  | upper => exact Int.le_sub_one_iff.trans Int.lt_ceil

theorem within_tighter {l l' : ℤ} : side.Within (side.tighter l l') n ↔
    side.Within l n ∧ side.Within l' n := by
  cases side with
  | lower => exact max_le_iff
  | upper => exact le_min_iff

theorem tighter_eq_left {l l' : ℤ} : side.tighter l l' = l ↔ side.Within l' l := by
  cases side with
  | lower => exact max_eq_left_iff
  | upper => exact min_eq_left_iff

theorem tighter_eq_right {l l' : ℤ} : side.tighter l l' = l' ↔ side.Within l l' := by
  cases side with
  | lower => exact max_eq_right_iff
  | upper => exact min_eq_right_iff

theorem forall_side {P : Side → Prop} : (∀ side, P side) ↔ P .lower ∧ P .upper := by
  constructor
  · exact fun h ↦ ⟨h .lower, h .upper⟩
  · intro h side
    cases side with
    | lower => exact h.1
    | upper => exact h.2

theorem limited_iff : Limited schema n ↔
    ∀ side : Side, ∀ l ∈ (bound schema side.inclusive).map side.limit, side.Within l n := by
  simp only [forall_side, Option.mem_map, forall_exists_index, and_imp, forall_apply_eq_imp_iff₂,
    within_limit]
  rfl

theorem allowed_iff : Allowed (.object fields) n ↔
    ∀ side : Side, ∀ l ∈ tightest fields side, side.Within l n := by
  have hexclusive : ((∀ q ∈ bound (.object fields) "exclusiveMinimum", q < n) ∧
      ∀ q ∈ bound (.object fields) "exclusiveMaximum", n < q) ↔
      ∀ side : Side, ∀ l ∈ exclusiveLimit fields side, side.Within l n := by
    simp only [forall_side, exclusiveLimit, Option.mem_map, forall_exists_index, and_imp,
      forall_apply_eq_imp_iff₂, within_strictLimit]
    rfl
  rw [Allowed, limited_iff, hexclusive, ← forall_and]
  refine forall_congr' fun side ↦ ?_
  rw [tightest, ← inclusiveLimit]
  cases inclusiveLimit fields side with
  | none => simp
  | some l =>
    cases exclusiveLimit fields side with
    | none => simp
    | some l' => simp [within_tighter]

theorem asNumber_sanitizeValue (value : Value) :
    (sanitizeValue gemini value).asNumber = value.asNumber := by
  cases value with
  | array items =>
    rw [sanitizeValue_array]
    rfl
  | object fields =>
    rw [sanitizeValue, sanitizeRecursive_object]
    rfl
  | _ =>
    rw [sanitizeValue, sanitizeRecursive_scalar _ rfl]
    rfl

/-- The bounds that are left are those written last. -/
theorem bound_sanitize (node : IntegerNode) :
    (bound (GeminiSanitizer.sanitize node.value) side.inclusive).map side.limit =
      remaining node.fields side := by
  have hconverted : converted (typeInfo gemini node.fields) node.fields side =
      (node.fields.lookup side.exclusive).bind side.convert := by
    rw [converted, if_pos node.isIntegerType]
  rw [bound, IntegerNode.value, GeminiSanitizer.sanitize, sanitizeRecursive_object, Value.get,
    lookup_inclusive node.distinct, hconverted, remaining, inclusiveLimit, bound, Value.get]
  cases hlookup : node.fields.lookup side.inclusive with
  | none =>
    have hstays : exclusiveStays node.fields side := .inl hlookup
    rw [if_pos hstays]
    cases (node.fields.lookup side.exclusive).bind side.convert with
    | none => simp
    | some number => simp [Value.asNumber]
  | some value =>
    cases hbefore : node.fields.before side.inclusive side.exclusive with
    | true =>
      have hstays : exclusiveStays node.fields side := .inr hbefore
      rw [if_pos rfl, if_pos hstays]
      cases (node.fields.lookup side.exclusive).bind side.convert with
      | none => simp [asNumber_sanitizeValue]
      | some number => simp [Value.asNumber]
    | false =>
      have hreplaced : ¬ exclusiveStays node.fields side := by
        simp [exclusiveStays, hlookup, hbefore]
      rw [if_neg Bool.false_ne_true, if_neg hreplaced]
      simp [asNumber_sanitizeValue]

theorem limit_intCast (m : ℤ) : side.limit m = m := by
  cases side with
  | lower => exact Int.ceil_intCast m
  | upper => exact Int.floor_intCast m

theorem strictLimit_intCast (m : ℤ) : side.strictLimit m =
    match side with
    | .lower => m + 1
    | .upper => m - 1 := by
  cases side with
  | lower => rw [Side.strictLimit, Int.floor_intCast]
  | upper => rw [Side.strictLimit, Int.ceil_intCast]

theorem isLast_intCast (m : ℤ) : side.IsLast m ↔
    match side with
    | .lower => m = 2 ^ 63 - 1 ∨ m = 2 ^ 64 - 1
    | .upper => m = -2 ^ 63 := by
  cases side with
  | lower =>
    rw [Side.IsLast]
    norm_cast
  | upper =>
    rw [Side.IsLast]
    norm_cast

theorem wrapI64_eq (h : -2 ^ 63 ≤ n ∧ n < 2 ^ 63) : wrapI64 n = n := by
  rw [wrapI64, Int.bmod_def]
  split <;> omega

theorem wrapU64_eq (h : 0 ≤ n ∧ n < 2 ^ 64) : wrapU64 n = n := Int.emod_eq_of_lt h.1 h.2

/-- An exclusive bound is converted just if it is an integer, and then to the next one unless it is
the last of its machine word. -/
theorem convert_int (side : Side) (hn : -2 ^ 63 ≤ n ∧ n < 2 ^ 64) :
    ∃ c : ℤ, (side.convert (.number (.int n hn))).map Number.value = some (c : ℚ) ∧
      (side.IsLast n → ¬ side.Within (side.strictLimit n) c) ∧
      (¬ side.IsLast n → c = side.strictLimit n) := by
  rw [strictLimit_intCast]
  simp only [isLast_intCast]
  cases side with
  | lower =>
    simp only [Side.convert, exclusiveMinimum, Number.asI64, Number.asU64, Side.Within]
    by_cases hsmall : n < 2 ^ 63
    · rw [if_pos hsmall]
      refine ⟨wrapI64 (n + 1), rfl, fun hlast ↦ ?_, fun hnot ↦ wrapI64_eq (by omega)⟩
      have hn' : n = 2 ^ 63 - 1 := by omega
      rw [hn']
      decide
    · rw [if_neg hsmall, if_pos (by omega)]
      refine ⟨wrapU64 (n + 1), rfl, fun hlast ↦ ?_, fun hnot ↦ wrapU64_eq (by omega)⟩
      have hn' : n = 2 ^ 64 - 1 := by omega
      rw [hn']
      decide
  | upper =>
    simp only [Side.convert, exclusiveMaximum, Number.asI64, Number.asU64, Side.Within]
    by_cases hsmall : n < 2 ^ 63
    · rw [if_pos hsmall]
      refine ⟨wrapI64 (n - 1), rfl, fun hlast ↦ ?_, fun hnot ↦ wrapI64_eq (by omega)⟩
      rw [hlast]
      decide
    · have hpred : saturatingPred n.toNat = n - 1 := by
        rw [saturatingPred]
        omega
      rw [if_neg hsmall, if_pos (by omega)]
      refine ⟨wrapU64 (saturatingPred n.toNat), rfl, fun hlast ↦ by omega, fun _ ↦ ?_⟩
      rw [hpred, wrapU64_eq (by omega)]

theorem convert_eq (value : Value) : side.convert value =
    value.asNumber.bind fun number ↦ side.convert (.number number) := by
  cases value with
  | number number => rfl
  | _ => cases side <;> rfl

/-- An exclusive bound that does not stay is made up for by the inclusive one. -/
theorem eq_merge_iff {given : Option ℤ} {l : ℤ} :
    given = Option.merge side.tighter given (some l) ↔ ∃ l' ∈ given, side.Within l l' := by
  cases given with
  | none => simp
  | some l' => simp [eq_comm (a := l'), tighter_eq_left]

theorem some_eq_merge_iff {given : Option ℤ} {l : ℤ} :
    some l = Option.merge side.tighter given (some l) ↔ ∀ l' ∈ given, side.Within l' l := by
  cases given with
  | none => simp
  | some l' => simp [eq_comm (a := l), tighter_eq_right]

theorem within_of_eq_merge {given : Option ℤ} {l l' : ℤ}
    (h : some l' = Option.merge side.tighter given (some l)) : side.Within l l' := by
  have hrefl (m : ℤ) : side.Within m m := by
    cases side with
    | lower => exact le_refl m
    | upper => exact le_refl m
  cases given with
  | none =>
    obtain rfl := Option.some_inj.mp h
    exact hrefl l'
  | some m =>
    obtain rfl := Option.some_inj.mp h
    exact (within_tighter.mp (hrefl _)).2

theorem remaining_eq_tightest_iff : remaining fields side = tightest fields side ↔
    Kept fields side := by
  have hconvert : (fields.lookup side.exclusive).bind side.convert =
      ((fields.lookup side.exclusive).bind Value.asNumber).bind
        fun number ↦ side.convert (.number number) := by
    cases fields.lookup side.exclusive with
    | none => rfl
    | some value => exact convert_eq value
  rw [remaining, tightest, Kept, exclusiveLimit, bound, Value.get, hconvert]
  cases (fields.lookup side.exclusive).bind Value.asNumber with
  | none => simp
  | some number =>
    simp only [Option.bind_some, Option.map_some, Option.some.injEq, forall_eq']
    cases number with
    | float x =>
      have hnone : side.convert (.number (.float x)) = none := by cases side <;> rfl
      have hnot : ¬ (exclusiveStays fields side ∧ (none : Option Number).isSome = true) :=
        fun h ↦ absurd h.2 Bool.false_ne_true
      rw [hnone, Option.map_none, Option.none_or, ite_self, if_neg hnot]
      exact eq_merge_iff
    | int n hn =>
      obtain ⟨c, hc, hlast, hnext⟩ := convert_int side hn
      obtain ⟨number, hnumber, hvalue⟩ := Option.map_eq_some_iff.mp hc
      rw [hnumber, Option.map_some, hvalue, limit_intCast]
      by_cases hstays : exclusiveStays fields side
      · rw [if_pos hstays, if_pos ⟨hstays, rfl⟩, Option.some_or]
        by_cases hislast : side.IsLast n
        · exact iff_of_false (fun h ↦ hlast hislast (within_of_eq_merge h)) fun h ↦ h.1 hislast
        · rw [hnext hislast]
          exact some_eq_merge_iff.trans (iff_and_self.mpr fun _ ↦ hislast)
      · rw [if_neg hstays, if_neg fun h ↦ hstays h.1]
        exact eq_merge_iff

end Limits

/-- The bounds survive just if they are kept on both sides or leave no integer anyway. -/
theorem boundsSurvive_iff (node : IntegerNode) : BoundsSurvive node ↔
    (∀ side, Kept node.fields side) ∨
      Crossed (tightest node.fields .lower) (tightest node.fields .upper) ∧
        Crossed (remaining node.fields .lower) (remaining node.fields .upper) := by
  have hbetween (limits : Side → Option ℤ) (n : ℤ) :
      (∀ side : Side, ∀ l ∈ limits side, side.Within l n) ↔
        Between (limits .lower) (limits .upper) n := forall_side
  have hsurvive : BoundsSurvive node ↔
      ∀ n, Between (tightest node.fields .lower) (tightest node.fields .upper) n ↔
        Between (remaining node.fields .lower) (remaining node.fields .upper) n := by
    refine forall_congr' fun n ↦ ?_
    have hallowed : Allowed node.value n ↔
        ∀ side, ∀ l ∈ tightest node.fields side, side.Within l n := allowed_iff
    rw [limited_iff, hallowed, ← hbetween, ← hbetween]
    simp only [bound_sanitize]
    exact Iff.comm
  rw [hsurvive, between_iff_between, forall_side]
  simp only [← remaining_eq_tightest_iff, eq_comm]

def overridden : IntegerNode where
  fields := [("type", .string "integer"), ("exclusiveMinimum", .number (.int 10 (by decide))),
    ("minimum", .number (.int 5 (by decide)))]
  distinct := by decide
  isIntegerType := rfl

theorem not_boundsSurvive : ¬ ∀ node, BoundsSurvive node := by
  intro h
  have hsanitize : GeminiSanitizer.sanitize overridden.value =
      .object [("type", .string "integer"), ("minimum", .number (.int 5 (by decide)))] := by
    rw [GeminiSanitizer.sanitize, IntegerNode.value, sanitizeRecursive_object]
    rfl
  have hlimited : Limited (GeminiSanitizer.sanitize overridden.value) 7 := by
    rw [hsanitize]
    refine ⟨fun q hq ↦ ?_, fun q hq ↦ ?_⟩
    · obtain rfl := Option.some_inj.mp hq
      norm_num [Number.value]
    · cases (show none = some q from hq)
  have hexclusive := ((h overridden 7).mp hlimited).2.1 10 rfl
  norm_num at hexclusive

end AdkGateway.SchemaSanitizer
