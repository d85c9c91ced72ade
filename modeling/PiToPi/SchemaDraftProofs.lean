import PiToPi.SchemaDraft
import PiToPi.SchemaLimits
import Mathlib.Data.Nat.Digits.Lemmas

/-!
`matchesSchema` evaluates a schema as Draft 2020-12 means it, where no limit is hit and doubles
do not mislead it (`matchesSchema_draft`). The shortest decimals of doubles are in their order,
and those of whole numbers are whole.
-/
namespace PiToPi
open FloatRounding

namespace JsNumber

section Exact

variable {n m : JsNumber}

theorem exact_mono (le : n.value ≤ m.value) : n.exact ≤ m.exact := roundNearest_mono (by norm_num) le

/-- One decimal is written for a double. -/
theorem IsShortest.value_eq (first : n.IsShortest) (second : m.IsShortest) (same : n.exact = m.exact) :
    n.value = m.value := by
  have preferences := le_antisymm (first m same.symm) (second n same)
  have inner := congrArg (fun p => (ofLex (ofLex (ofLex p).2).2).2) preferences
  exact inner

/-- Decimals are in the order of the doubles they stand for. -/
theorem exact_le_iff (first : n.IsShortest) (second : m.IsShortest) : n.exact ≤ m.exact ↔ n.value ≤ m.value := by
  constructor
  · intro le
    by_contra above
    have below := exact_mono (le_of_lt (not_le.mp above))
    exact above (first.value_eq second (le_antisymm le below)).le
  · exact exact_mono

theorem exact_lt_iff (first : n.IsShortest) (second : m.IsShortest) : n.exact < m.exact ↔ n.value < m.value := by
  rw [← not_le, ← not_le, exact_le_iff second first]

/-- Whole numbers with so many places are doubles. -/
theorem exact_of_integer {k : ℤ} (value : n.value = k) (small : |k| < 2 ^ 53) : n.exact = k := by
  have float : IsFloat 53 (-1074) n.value := ⟨k, 0, small, by norm_num, by rw [value, zpow_zero, mul_one]⟩
  unfold exact
  rw [float.roundNearest_eq, value]

theorem den_eq_one_iff {q : ℚ} : q.den = 1 ↔ ∃ k : ℤ, q = k :=
  ⟨fun den => ⟨q.num, (Rat.coe_int_num_of_den_eq_one den).symm⟩, fun ⟨_, same⟩ => same ▸ Rat.den_intCast _⟩

/-- A decimal without a fraction. -/
theorem value_of_isInteger (integer : n.isInteger = true) : ∃ k : ℤ, n.value = k := by
  unfold isInteger at integer
  obtain ⟨exponent, same⟩ := Int.eq_ofNat_of_zero_le (of_decide_eq_true integer)
  refine ⟨(if n.negative then -1 else 1) * n.significand * 10 ^ exponent, ?_⟩
  unfold value
  rw [same, zpow_natCast]
  cases n.negative <;> push_cast <;> rfl

theorem exact_of_isSafeInteger (safe : n.isSafeInteger = true) : n.exact.den = 1 := by
  unfold isSafeInteger at safe
  rw [Bool.and_eq_true, Bool.and_eq_true, decide_eq_true_eq, decide_eq_true_eq] at safe
  obtain ⟨⟨integer, lower⟩, upper⟩ := safe
  obtain ⟨k, value⟩ := value_of_isInteger integer
  rw [value] at lower upper
  have most : maxSafeInteger < 2 ^ 53 := by decide
  have low : -(maxSafeInteger : ℤ) ≤ k := by exact_mod_cast lower
  have high : k ≤ (maxSafeInteger : ℤ) := by exact_mod_cast upper
  have small : |k| < 2 ^ 53 := by
    rw [abs_lt]
    constructor <;> omega
  exact den_eq_one_iff.mpr ⟨k, exact_of_integer value small⟩

end Exact

section Shortest

theorem digits_div (s : ℕ) : (Nat.digits 10 (s / 10)).length ≤ (Nat.digits 10 s).length := by
  cases s with
  | zero => simp
  | succ s =>
    rw [Nat.digits_def' (by norm_num) (Nat.succ_pos s)]
    exact Nat.le_succ _

/-- The zeros at the end of a number are not among the digits of its decimal. -/
theorem stripZeros_digits (fuel s : ℕ) (e : ℤ) :
    (Nat.digits 10 (stripZeros fuel s e).1).length ≤ (Nat.digits 10 s).length := by
  induction fuel generalizing s e with
  | zero => exact le_rfl
  | succ fuel ih =>
    unfold stripZeros
    split
    · exact (ih _ _).trans (digits_div s)
    · exact le_rfl

theorem stripZeros_value (fuel s : ℕ) (e : ℤ) :
    ((stripZeros fuel s e).1 : ℚ) * 10 ^ (stripZeros fuel s e).2 = s * 10 ^ e := by
  induction fuel generalizing s e with
  | zero => rfl
  | succ fuel ih =>
    unfold stripZeros
    split
    · rename_i trailing
      rw [ih]
      have multiple : s = s / 10 * 10 := by omega
      have cast : (s : ℚ) = (s / 10 : ℕ) * 10 := by exact_mod_cast multiple
      rw [zpow_add₀ (by norm_num), zpow_one, cast]
      ring
    · rfl

theorem ofNat_value (k : ℕ) : (ofNat k).value = k := by
  unfold ofNat value
  split
  · rename_i zero
    simp [zero]
  · have stripped := stripZeros_value k k 0
    rw [zpow_zero, mul_one] at stripped
    simpa using stripped

theorem ofNat_digits (k : ℕ) : (Nat.digits 10 (ofNat k).significand).length ≤ (Nat.digits 10 k).length := by
  unfold ofNat
  split
  · simp
  · exact stripZeros_digits k k 0

/-- The decimal with a sign. -/
def withSign (negative : Bool) (n : JsNumber) : JsNumber := { n with negative }

theorem withSign_value (n m : JsNumber) :
    (m.withSign n.negative).value = (if n.negative then -1 else 1) * |m.value| := by
  rw [Validation.value_magnitude]
  unfold withSign value
  rw [mul_assoc]

variable {n : JsNumber}

/-- The magnitude of a number and of its double. -/
theorem abs_exact (n : JsNumber) : |n.exact| = roundNearest 53 (-1074) |n.value| := by
  unfold exact
  rcases abs_choice n.value with same | same
  · rw [same]
    exact abs_of_nonneg (same ▸ roundNearest_nonneg (abs_nonneg _))
  · have nonneg : 0 ≤ roundNearest 53 (-1074) |n.value| := roundNearest_nonneg (abs_nonneg _)
    rw [same, roundNearest_neg] at nonneg ⊢
    exact abs_of_nonpos (by linarith)

/-- No decimal for the double, or for its negative, has fewer digits. -/
theorem IsShortest.digits_le (shortest : n.IsShortest) {m : JsNumber}
    (same : roundNearest 53 (-1074) |m.value| = |n.exact|) :
    (Nat.digits 10 n.significand).length ≤ (Nat.digits 10 m.significand).length := by
  have unsigned : n.value = (if n.negative then -1 else 1) * |n.value| := by
    rw [Validation.value_magnitude]
    unfold value
    rw [mul_assoc]
  have exact : (m.withSign n.negative).exact = n.exact := by
    unfold JsNumber.exact
    rw [withSign_value, unsigned]
    rw [abs_exact] at same
    cases n.negative with
    | true => simp only [if_true, neg_one_mul, roundNearest_neg, same]
    | false => simp only [Bool.false_eq_true, if_false, one_mul, same]
  have le := shortest _ exact
  unfold preference at le
  rcases Prod.Lex.le_iff.mp le with lt | ⟨eq, -⟩
  · exact lt.le
  · exact eq.le

/-- The shortest decimal of a whole number is whole: one with a fraction has more digits than the
number, or is so small that the number is nought. -/
theorem IsShortest.isInteger (shortest : n.IsShortest) (whole : n.exact.den = 1) : n.isInteger = true := by
  obtain ⟨k, exact⟩ := den_eq_one_iff.mp whole
  by_contra fraction
  have exponent : n.exponent < 0 := by
    unfold JsNumber.isInteger at fraction
    simpa using fraction
  have nonzero : n.significand ≠ 0 := by
    intro zero
    have none := n.shortest
    rw [if_pos zero] at none
    omega
  have small : |n.value| ≤ n.significand / 10 := by
    rw [Validation.value_magnitude, div_eq_mul_inv]
    have power : (10 : ℚ) ^ n.exponent ≤ 10 ^ (-1 : ℤ) := zpow_le_zpow_right₀ (by norm_num) (by omega)
    rw [zpow_neg_one] at power
    exact mul_le_mul_of_nonneg_left power (Nat.cast_nonneg _)
  have size : |n.exact| = (k.natAbs : ℚ) := by rw [exact, Nat.cast_natAbs, Int.cast_abs]
  have float : roundNearest 53 (-1074) |n.exact| = |n.exact| := by
    rw [abs_exact]
    exact roundNearest_idem (by norm_num) _
  generalize k.natAbs = magnitude at size
  have digits : n.significand < 10 ^ (Nat.digits 10 magnitude).length := by
    rw [← Nat.digits_length_le_iff (by norm_num)]
    refine le_trans (shortest.digits_le (m := ofNat magnitude) ?_) (ofNat_digits magnitude)
    rw [ofNat_value, ← size, abs_abs]
    exact float
  cases length : (Nat.digits 10 magnitude).length with
  | zero =>
    rw [length, pow_zero] at digits
    omega
  | succ places =>
    have power : 10 ^ places ≤ magnitude := by
      rw [← Nat.lt_digits_length_iff (by norm_num), length]
      exact Nat.lt_succ_self places
    have one : 1 ≤ magnitude := Nat.one_le_pow _ _ (by norm_num) |>.trans power
    -- the power of ten lies between the decimal and the number, and has one digit
    have between : roundNearest 53 (-1074) ((10 : ℚ) ^ places) = |n.exact| := by
      refine le_antisymm ?_ ?_
      · rw [← float]
        refine roundNearest_mono (by norm_num) ?_
        rw [size]
        exact_mod_cast power
      · rw [abs_exact]
        refine roundNearest_mono (by norm_num) (small.trans ?_)
        rw [length, pow_succ] at digits
        rw [div_le_iff₀ (by norm_num)]
        exact_mod_cast digits.le
    have single : n.significand < 10 := by
      have one : (1 : ℕ) % 10 ≠ 0 := by norm_num
      have le := shortest.digits_le (m := ⟨false, 1, places, one⟩) (by
        rw [Validation.value_magnitude]
        simpa using between)
      exact (Nat.digits_length_le_iff (by norm_num) (k := 1) _).mp le
    have below : |n.exact| ≤ 15 / 16 := by
      have bound : |n.value| ≤ 15 / 16 := by
        refine small.trans ?_
        have cast : (n.significand : ℚ) ≤ 9 := by exact_mod_cast Nat.le_of_lt_succ single
        linarith
      have exact : roundNearest 53 (-1074) (15 / 16 : ℚ) = 15 / 16 :=
        IsFloat.roundNearest_eq ⟨15, -4, by norm_num, by norm_num, by norm_num⟩
      rw [abs_exact, ← exact]
      exact roundNearest_mono (by norm_num) bound
    have above : (1 : ℚ) ≤ |n.exact| := by
      rw [size]
      exact_mod_cast one
    linarith

end Shortest

section Multiples

variable {n divisor : JsNumber}

/-- An exact multiple passes the test with doubles: its quotient is whole, or overflows. -/
theorem isMultipleOf_of_exact (whole : (n.exact / divisor.exact).den = 1) : n.isMultipleOf divisor = true := by
  unfold isMultipleOf quotient
  split
  · rfl
  · split
    · obtain ⟨k, same⟩ := den_eq_one_iff.mp whole
      obtain ⟨j, rounded⟩ := @roundNearest_int 53 (-1074) k
      rw [same, rounded, Option.all_some, decide_eq_true_eq]
      have nearest : mathRound (j : ℚ) = j := by
        unfold mathRound
        rw [Int.floor_intCast_add]
        norm_num
      rw [nearest, sub_self, roundNearest_zero, abs_zero]
      exact roundNearest_nonneg (by norm_num)
    · rfl

end Multiples

end JsNumber

namespace Validation
open JsNumber Inquiry

section References

theorem part_mapKeyword {root schema member : Json} {key name : JsString} (inside : Part root schema)
    (listed : (name, member) ∈ mapKeyword schema key) : Part root member := by
  unfold mapKeyword at listed
  cases found : schema.get? key with
  | none =>
    rw [found] at listed
    cases listed
  | some value =>
    rw [found, Option.filter_some] at listed
    split at listed
    · cases value with
      | object readOnly members => exact (inside.get? found).member listed
      | null | bool _ | number _ | string _ | array _ => cases listed
    · cases listed

theorem part_arrayKeyword {root schema child : Json} {key : JsString} (inside : Part root schema)
    (listed : child ∈ arrayKeyword schema key) : Part root child := by
  unfold arrayKeyword at listed
  cases found : schema.get? key with
  | none =>
    rw [found] at listed
    cases listed
  | some value =>
    rw [found, Option.bind_some] at listed
    cases value with
    | array elements => exact (inside.get? found).element listed
    | null | bool _ | number _ | string _ | object _ _ => cases listed

theorem part_collectedChildren {root schema child : Json} (inside : Part root schema)
    (listed : child ∈ collectedChildren schema) : Part root child := by
  have listed := (List.mem_filter.mp listed).1
  rcases List.mem_append.mp listed with listed | found
  · rcases List.mem_append.mp listed with listed | found
    · rcases List.mem_append.mp listed with found | found
      · obtain ⟨key, -, found⟩ := List.mem_flatMap.mp found
        obtain ⟨⟨name, member⟩, entry, rfl⟩ := List.mem_map.mp found
        exact part_mapKeyword inside entry
      · obtain ⟨key, -, found⟩ := List.mem_filterMap.mp found
        exact inside.get? found
    · exact part_arrayKeyword inside found
  · obtain ⟨key, -, found⟩ := List.mem_flatMap.mp found
    exact part_arrayKeyword inside found

theorem part_collectAnchors {root schema value : Json} {name : JsString} (inside : Part root schema)
    (listed : (name, value) ∈ collectAnchors schema) : Part root value := by
  induction schema using collectAnchors.induct with
  | case1 schema plain ih =>
    rw [collectAnchors, if_pos plain] at listed
    simp only [List.mem_append, List.mem_map, Option.mem_toList, List.mem_flatMap, Prod.mk.injEq] at listed
    rcases listed with (⟨_, -, -, rfl⟩ | ⟨_, -, -, rfl⟩) | ⟨⟨child, found⟩, -, listed⟩
    · exact inside
    · exact inside
    · exact ih child found (part_collectedChildren inside found) listed
  | case2 schema notPlain =>
    rw [collectAnchors, if_neg notPlain] at listed
    cases listed

theorem part_followPointer {root value target : Json} {pointer : List JsString} (inside : Part root value)
    (found : followPointer value pointer = some target) : Part root target := by
  induction pointer generalizing value with
  | nil =>
    rw [followPointer] at found
    exact Option.some.inj found ▸ inside
  | cons token rest ih =>
    cases value with
    | object readOnly members =>
      cases readOnly with
      | none =>
        rw [followPointer] at found
        obtain ⟨next, here, found⟩ := Option.bind_eq_some_iff.mp found
        exact ih (inside.get? here) found
      | some names => cases found
    | array elements =>
      rw [followPointer] at found
      obtain ⟨-, -, found⟩ := Option.bind_eq_some_iff.mp found
      obtain ⟨next, here, found⟩ := Option.bind_eq_some_iff.mp found
      exact ih (inside.element (List.mem_of_getElem? here)) found
    | null | bool _ | number _ | string _ => cases found

/-- The last of the anchors of a name is the one in the index. -/
theorem get?_foldl_set (anchors : List (JsString × Json)) (index : JsMap JsString Json) (name : JsString) :
    (anchors.foldl (fun index (anchor, value) => index.set anchor value) index).get? name =
      ((anchors.reverse.find? fun anchor => anchor.1 = name).map Prod.snd).or (index.get? name) := by
  induction anchors generalizing index with
  | nil => rfl
  | cons anchor rest ih =>
    rw [List.foldl_cons, ih, List.reverse_cons, List.find?_append, JsMap.get?_set]
    cases rest.reverse.find? fun anchor => anchor.1 = name with
    | some found => rfl
    | none =>
      by_cases same : name = anchor.1
      · simp [same]
      · simp [same, Ne.symm same]

/-- Where anchors are unique, references are resolved to what they refer to. -/
theorem resolveSchemaReference_draft {root : Json} (unique : UniqueAnchors root) (reference : JsString) :
    resolveSchemaReference (collectSchemaIndex root) reference = draftRefers root reference := by
  have anchored : ∀ name, (collectSchemaIndex root).anchors.get? name =
      ((collectAnchors root).find? fun anchor => anchor.1 = name).map Prod.snd := by
    intro name
    unfold collectSchemaIndex
    dsimp only
    rw [get?_foldl_set, JsMap.get?_empty, Option.or_none]
    cases last : (collectAnchors root).reverse.find? fun anchor => anchor.1 = name with
    | none =>
      have absent : (collectAnchors root).find? (fun anchor => anchor.1 = name) = none := by
        rw [List.find?_eq_none] at last ⊢
        exact fun anchor listed => last anchor (List.mem_reverse.mpr listed)
      rw [absent]
    | some found =>
      cases first : (collectAnchors root).find? fun anchor => anchor.1 = name with
      | none =>
        rw [List.find?_eq_none] at first
        have listed := List.mem_reverse.mp (List.mem_of_find?_eq_some last)
        exact absurd (List.find?_some last) (first found listed)
      | some other =>
        have named : found.1 = name := by simpa using List.find?_some last
        have named' : other.1 = name := by simpa using List.find?_some first
        obtain ⟨key, value⟩ := found
        obtain ⟨key', value'⟩ := other
        dsimp only at named named'
        subst named named'
        exact congrArg some (unique key' value value' (List.mem_reverse.mp (List.mem_of_find?_eq_some last))
          (List.mem_of_find?_eq_some first))
  unfold resolveSchemaReference draftRefers
  rw [anchored]
  rfl

theorem part_resolved {root target : Json} {reference : JsString}
    (found : resolveSchemaReference (collectSchemaIndex root) reference = some target)
    (unique : UniqueAnchors root) : Part root target := by
  rw [resolveSchemaReference_draft unique] at found
  unfold draftRefers at found
  split at found
  · split at found
    · exact part_followPointer .whole (Option.filter_eq_some_iff.mp found).1
    · split at found
      · obtain ⟨⟨name, value⟩, first, rfl⟩ := Option.map_eq_some_iff.mp found
        exact part_collectAnchors .whole (List.mem_of_find?_eq_some first)
      · cases found
  · cases found

end References

section Agreement

variable {regExp : JsString → Option (JsString → Bool)} {compileDraft2020Schema : Json → Option (Json → Bool)}
  {root value schema : Json} {n : JsNumber}

/-- What `judgeType` asks of the types named. -/
theorem judgeType_eq (R : Reading) (callable : (Question.type value schema).isCallable = true) :
    judgeType R value schema =
      some ((schema.get? "type").isNone || (namedTypes schema).any (hasType R value)) := by
  unfold Question.isCallable at callable
  unfold judgeType namedTypes
  dsimp only at callable
  cases found : schema.get? "type" with
  | none => rfl
  | some type =>
    rw [found] at callable
    cases type with
    | string type => simp
    | array types =>
      dsimp only
      rw [List.any_filterMap]
      rfl
    | null | bool _ | number _ | object _ _ => cases callable

/-- Types are read alike, but for whole numbers. -/
theorem hasType_congr {R R' : Reading} {type : JsString}
    (integers : type = "integer" → ∀ n, value = .number n → R.isInteger n = R'.isInteger n) :
    hasType R value type = hasType R' value type := by
  unfold hasType
  split_ifs with _ _ _ _ _ integer
  all_goals first
    | rfl
    | skip
  cases value with
  | number n => exact integers integer n rfl
  | null | bool _ | string _ | array _ | object _ _ => rfl

/-- Whole numbers that are not too large are safe integers. -/
theorem isSafeInteger_of_exact (shortest : n.IsShortest) (whole : n.exact.den = 1)
    (small : |n.exact| ≤ maxSafeInteger) : n.isSafeInteger = true := by
  have integer := shortest.isInteger whole
  obtain ⟨k, value⟩ := value_of_isInteger integer
  have bound : |n.value| ≤ maxSafeInteger := by
    by_contra above
    have large : (2 : ℚ) ^ 53 ≤ |n.value| := by
      rw [value] at above ⊢
      have integral : ¬|k| ≤ (maxSafeInteger : ℤ) := fun le => above (by exact_mod_cast le)
      have most : (maxSafeInteger : ℤ) + 1 = 2 ^ 53 := by decide
      have least : (2 : ℤ) ^ 53 ≤ |k| := by omega
      exact_mod_cast least
    have power : IsFloat 53 (-1074) ((2 : ℚ) ^ 53) := ⟨1, 53, by norm_num, by norm_num, by norm_num⟩
    have rounded := @roundNearest_mono 53 (-1074) _ _ (by norm_num) large
    rw [power.roundNearest_eq, ← abs_exact] at rounded
    have most : (maxSafeInteger : ℚ) < 2 ^ 53 := by unfold maxSafeInteger; norm_num
    linarith
  unfold JsNumber.isSafeInteger
  rw [Bool.and_eq_true, Bool.and_eq_true, decide_eq_true_eq, decide_eq_true_eq]
  exact ⟨⟨integer, (abs_le.mp bound).1⟩, (abs_le.mp bound).2⟩

theorem isInteger_draft (shortest : n.IsShortest) (small : n.exact.den = 1 → |n.exact| ≤ maxSafeInteger) :
    n.isSafeInteger = decide (n.exact.den = 1) := by
  by_cases whole : n.exact.den = 1
  · rw [isSafeInteger_of_exact shortest whole (small whole), decide_eq_true whole]
  · rw [decide_eq_false whole, Bool.eq_false_iff]
    exact fun safe => whole (exact_of_isSafeInteger safe)

/-- The types named are read as Draft 2020-12 reads them. -/
theorem judgeType_draft (index : SchemaIndex) (callable : (Question.type value schema).isCallable = true)
    (written : ∀ n, value = .number n → n.IsShortest) (fits : (Question.type value schema).Fits) :
    judgeType (codeReading (doubleHost regExp compileDraft2020Schema) index) value schema =
      judgeType (draftReading regExp root) value schema := by
  rw [judgeType_eq _ callable, judgeType_eq _ callable]
  congr 2
  cases value with
  | number n =>
    by_cases named : ("number" : JsString) ∈ namedTypes schema
    · have both : ∀ R : Reading, (namedTypes schema).any (hasType R (.number n)) = true := fun R =>
        List.any_eq_true.mpr ⟨_, named, rfl⟩
      rw [both, both]
    · rw [Bool.eq_iff_iff, List.any_eq_true, List.any_eq_true]
      refine exists_congr fun type => and_congr_right fun listed => ?_
      rw [hasType_congr fun integer m same => ?_]
      obtain rfl := Json.number.inj same
      exact isInteger_draft (written n rfl) (fits (integer ▸ listed) named)
  | null | bool _ | string _ | array _ | object _ _ => rfl

/-- The bounds of a number are read as Draft 2020-12 reads them. -/
theorem inquireNumber_draft (index : SchemaIndex) (written : ∀ n, value = .number n → n.IsShortest)
    (bounds : ∀ key bound, (schema.get? key).bind Json.asNumber? = some bound → bound.IsShortest) :
    inquireNumber (codeReading (doubleHost regExp compileDraft2020Schema) index) value schema =
      inquireNumber (draftReading regExp root) value schema := by
  unfold inquireNumber
  cases value with
  | number n =>
    have shortest := written n rfl
    have limit : ∀ (key : JsString) (f g : JsNumber → Bool), (∀ bound : JsNumber, bound.IsShortest → f bound = g bound) →
        ((schema.get? key).bind Json.asNumber?).all f = ((schema.get? key).bind Json.asNumber?).all g := by
      intro key f g same
      cases found : (schema.get? key).bind Json.asNumber? with
      | none => rfl
      | some bound => exact same bound (bounds key bound found)
    have lower := limit "minimum" (fun bound => decide (bound.value ≤ n.value)) (fun bound => decide (bound.exact ≤ n.exact))
      fun bound written => decide_eq_decide.mpr (exact_le_iff written shortest).symm
    have upper := limit "maximum" (fun bound => decide (n.value ≤ bound.value)) (fun bound => decide (n.exact ≤ bound.exact))
      fun bound written => decide_eq_decide.mpr (exact_le_iff shortest written).symm
    have above := limit "exclusiveMinimum" (fun bound => decide (bound.value < n.value))
      (fun bound => decide (bound.exact < n.exact)) fun bound written => decide_eq_decide.mpr (exact_lt_iff written shortest).symm
    have below := limit "exclusiveMaximum" (fun bound => decide (n.value < bound.value))
      (fun bound => decide (n.exact < bound.exact)) fun bound written => decide_eq_decide.mpr (exact_lt_iff shortest written).symm
    exact congrArg (Inquiry.forAll id) (congrArg₂ List.cons rfl (congrArg₂ List.cons (congrArg Inquiry.answer lower)
      (congrArg₂ List.cons (congrArg Inquiry.answer upper) (congrArg₂ List.cons (congrArg Inquiry.answer above)
        (congrArg₂ List.cons (congrArg Inquiry.answer below) rfl)))))
  | null | bool _ | string _ | array _ | object _ _ => rfl

/-- What a schema asks on its way is what it asks in Draft 2020-12. -/
theorem inquire_draft (unique : UniqueAnchors root) (written : ∀ n, value = .number n → n.IsShortest)
    (bounds : ∀ key bound, (schema.get? key).bind Json.asNumber? = some bound → bound.IsShortest) :
    inquire (codeReading (doubleHost regExp compileDraft2020Schema) (collectSchemaIndex root)) value schema =
      inquire (draftReading regExp root) value schema := by
  have reference : inquireReference (codeReading (doubleHost regExp compileDraft2020Schema) (collectSchemaIndex root))
      value schema = inquireReference (draftReading regExp root) value schema := by
    unfold inquireReference
    cases schemaReference schema with
    | none => rfl
    | some reference =>
      have same : (codeReading (doubleHost regExp compileDraft2020Schema) (collectSchemaIndex root)).refers reference =
          (draftReading regExp root).refers reference := resolveSchemaReference_draft unique reference
      dsimp only
      rw [same]
  unfold inquire
  rw [reference, inquireNumber_draft _ written bounds]
  rfl

section Origin

variable {R : Reading}

/-- What questions are about: parts of the value or keys, and parts of the schema. -/
def Question.From (value root : Json) : Question → Prop
  | .schema _ item child => (Part value item ∨ ∃ key, item = .string key) ∧ Part root child
  | .type item child => (Part value item ∨ ∃ key, item = .string key) ∧ Part root child
  | .multiple .. => True

theorem within_inquireReference {item : Json} (here : Part value item ∨ ∃ key, item = .string key)
    (refers : ∀ reference target, R.refers reference = some target → Part root target) :
    (inquireReference R item schema).Within (Question.From value root) := by
  unfold inquireReference
  cases schemaReference schema with
  | none => exact within_answer _
  | some reference =>
    dsimp only
    cases found : R.refers reference with
    | none => exact within_answer _
    | some target => exact within_test ⟨here, refers reference target found⟩

theorem within_inquireNumber {item : Json} : (inquireNumber R item schema).Within (Question.From value root) := by
  unfold inquireNumber
  cases item with
  | number n =>
    refine within_forAll fun stage listed => ?_
    simp only [List.mem_cons, List.not_mem_nil, or_false] at listed
    rcases listed with rfl | rfl | rfl | rfl | rfl
    · cases (schema.get? "multipleOf").bind Json.asNumber? with
      | none => exact within_answer _
      | some divisor => exact within_test trivial
    all_goals exact within_answer _
  | null | bool _ | string _ | array _ | object _ _ => exact within_answer _

theorem within_inquireString {item : Json} : (inquireString R item schema).Within (Question.From value root) := by
  unfold inquireString
  cases item with
  | string text =>
    refine within_forAll fun stage listed => ?_
    simp only [List.mem_cons, List.not_mem_nil, or_false] at listed
    rcases listed with rfl | rfl | rfl
    all_goals exact within_answer _
  | null | bool _ | number _ | array _ | object _ _ => exact within_answer _

theorem within_inquireArray {item : Json} (here : Part value item ∨ ∃ key, item = .string key)
    (inside : Part root schema) : (inquireArray item schema).Within (Question.From value root) := by
  unfold inquireArray
  cases item with
  | array elements =>
    have outer : Part value (.array elements) := by
      rcases here with part | ⟨key, text⟩
      · exact part
      · cases text
    refine within_forAll fun stage listed => ?_
    simp only [List.mem_cons, List.not_mem_nil, or_false] at listed
    rcases listed with rfl | rfl | rfl | rfl | rfl | rfl
    iterate 3 exact within_answer _
    · refine within_forAll fun entry zipped => within_test ⟨.inl (outer.element (List.of_mem_zip zipped).1), ?_⟩
      exact part_arrayKeyword inside (List.of_mem_zip zipped).2
    · refine within_forAll fun child found => within_forAll fun element later => within_test ?_
      exact ⟨.inl (outer.element (List.mem_of_mem_drop later)), inside.get? (Option.mem_toList.mp found)⟩
    · unfold inquireContains
      cases found : schema.get? "contains" with
      | none => exact within_answer _
      | some child =>
        refine (within_count (fun element listed => within_test ?_) 0).bind fun _ => within_answer _
        exact ⟨.inl (outer.element listed), inside.get? found⟩
  | null | bool _ | number _ | string _ | object _ _ => exact within_answer _

theorem within_inquireObject {item : Json} (here : Part value item ∨ ∃ key, item = .string key)
    (inside : Part root schema) : (inquireObject R item schema).Within (Question.From value root) := by
  unfold inquireObject
  rcases item with _ | _ | _ | _ | _ | ⟨_ | names, members⟩
  case object.none =>
    have outer : Part value (.object none members) := by
      rcases here with part | ⟨key, text⟩
      · exact part
      · cases text
    refine within_forAll fun stage listed => ?_
    simp only [List.mem_cons, List.not_mem_nil, or_false] at listed
    rcases listed with rfl | rfl | rfl | rfl | rfl | rfl | rfl | rfl | rfl
    iterate 3 exact within_answer _
    · refine within_forAll fun entry listed => within_forAll fun member found => within_test ?_
      exact ⟨.inl (outer.get? (Option.mem_toList.mp found)), part_mapKeyword inside listed⟩
    · refine within_forAll fun entry listed => within_forAll fun member found => ?_
      split
      · exact within_test ⟨.inl (outer.member found), part_mapKeyword inside listed⟩
      · exact within_answer _
    · unfold inquireAdditional
      cases found : schema.get? "additionalProperties" with
      | none => exact within_answer _
      | some child =>
        refine within_forAll fun member listed => ?_
        dsimp only
        split
        · exact within_answer _
        · split
          · exact within_answer _
          · exact within_test ⟨.inl (outer.member (List.mem_filter.mp listed).1), inside.get? found⟩
    · exact within_answer _
    · refine within_forAll fun entry listed => ?_
      split
      · exact within_test ⟨.inl outer, part_mapKeyword inside listed⟩
      · exact within_answer _
    · refine within_forAll fun child found => within_forAll fun member _ => within_test ?_
      exact ⟨.inr ⟨member.1, rfl⟩, inside.get? (Option.mem_toList.mp found)⟩
  all_goals exact within_answer _

theorem within_inquireCombining {item : Json} (here : Part value item ∨ ∃ key, item = .string key)
    (inside : Part root schema) : (inquireCombining item schema).Within (Question.From value root) := by
  refine within_forAll fun stage listed => ?_
  simp only [List.mem_cons, List.not_mem_nil, or_false] at listed
  rcases listed with rfl | rfl | rfl
  · exact within_forAll fun child listed => within_test ⟨here, part_arrayKeyword inside listed⟩
  · cases found : (schema.get? "anyOf").bind Json.asArray? with
    | none => exact within_answer _
    | some schemas =>
      exact within_forSome fun child listed => within_test ⟨here, part_arrayKeyword inside (mem_arrayKeyword found listed)⟩
  · cases found : (schema.get? "oneOf").bind Json.asArray? with
    | none => exact within_answer _
    | some schemas =>
      refine (within_count (fun child listed => within_test ?_) 0).bind fun _ => within_answer _
      exact ⟨here, part_arrayKeyword inside (mem_arrayKeyword found listed)⟩

theorem within_inquireNot {item : Json} (here : Part value item ∨ ∃ key, item = .string key)
    (inside : Part root schema) : (inquireNot item schema).Within (Question.From value root) := by
  unfold inquireNot
  cases found : schema.get? "not" with
  | none => exact within_answer _
  | some child =>
    exact Within.bind (within_test ⟨here, inside.get? found⟩) fun _ => within_answer _

theorem within_inquireConditional {item : Json} (here : Part value item ∨ ∃ key, item = .string key)
    (inside : Part root schema) : (inquireConditional item schema).Within (Question.From value root) := by
  unfold inquireConditional
  cases found : schema.get? "if" with
  | none => exact within_answer _
  | some child =>
    refine Within.bind (within_test ⟨here, inside.get? found⟩) fun condition => ?_
    cases chosen : schema.get? (if condition then "then" else "else") with
    | none => exact within_answer _
    | some conditional => exact within_test ⟨here, inside.get? chosen⟩

theorem within_inquire {item : Json} (here : Part value item ∨ ∃ key, item = .string key) (inside : Part root schema)
    (refers : ∀ reference target, R.refers reference = some target → Part root target) :
    (inquire R item schema).Within (Question.From value root) := by
  refine within_forAll fun stage listed => ?_
  simp only [List.mem_cons, List.not_mem_nil, or_false] at listed
  rcases listed with rfl | rfl | rfl | rfl | rfl | rfl | rfl | rfl | rfl | rfl | rfl
  · exact within_inquireReference here refers
  · exact within_test ⟨here, inside⟩
  · exact within_answer _
  · exact within_answer _
  · exact within_inquireNumber
  · exact within_inquireString
  · exact within_inquireArray here inside
  · exact within_inquireObject here inside
  · exact within_inquireCombining here inside
  · exact within_inquireNot here inside
  · exact within_inquireConditional here inside

/-- All questions on the way are about parts of what the first is about. -/
theorem comesTo_from (refers : ∀ reference target, R.refers reference = some target → Part root target)
    {levels : Nat} {question other : Question} (whence : question.From value root)
    (come : other ∈ comesTo R levels question) : other.From value root := by
  induction levels generalizing question with
  | zero =>
    obtain rfl := List.mem_singleton.mp come
    exact whence
  | succ levels ih =>
    rcases List.mem_cons.mp come with rfl | later
    · exact whence
    · obtain ⟨next, led, come⟩ := List.mem_flatMap.mp later
      refine ih ?_ come
      cases question with
      | schema use item child =>
        cases asks : inquireSchema R item child with
        | none =>
          rw [leadsTo, asks] at led
          cases led
        | some inquiry =>
          rw [leadsTo_schema asks] at led
          refine Within.asked ?_ next led
          unfold inquireSchema at asks
          split at asks
          · obtain rfl := Option.some.inj asks
            exact within_answer _
          · cases asks
          · obtain rfl := Option.some.inj asks
            exact within_inquire whence.1 whence.2 refers
      | type item child => cases led
      | multiple n divisor => cases led

end Origin

/-- The code reads what it comes to ask as Draft 2020-12 does. -/
theorem readAlike_draft (unique : UniqueAnchors root)
    (written : ∀ n, Part value (.number n) ∨ Part root (.number n) → n.IsShortest) {question : Question}
    (whence : question.From value root) (callable : question.isCallable = true) (fits : question.Fits) :
    ReadAlike (codeReading (doubleHost regExp compileDraft2020Schema) (collectSchemaIndex root)) (draftReading regExp root)
      question := by
  have number : ∀ item, (Part value item ∨ ∃ key, item = .string key) → ∀ n, item = .number n → n.IsShortest := by
    rintro item (inside | ⟨key, rfl⟩) n same
    · exact written n (.inl (same ▸ inside))
    · cases same
  cases question with
  | schema use item child =>
    refine inquire_draft unique (number item whence.1) fun key bound found => ?_
    obtain ⟨keyword, here, numeric⟩ := Option.bind_eq_some_iff.mp found
    cases keyword with
    | number limit =>
      obtain rfl := Option.some.inj numeric
      exact written _ (.inr (whence.2.get? here))
    | null | bool _ | string _ | array _ | object _ _ => cases numeric
  | type item child => exact judgeType_draft _ callable (number item whence.1) fits
  | multiple n divisor =>
    show n.isMultipleOf divisor = decide ((n.exact / divisor.exact).den = 1)
    rw [Bool.eq_iff_iff, decide_eq_true_eq]
    exact ⟨fits, isMultipleOf_of_exact⟩

/-- Where no limit is hit and the doubles do not mislead it about a question it comes to, the result of
`matchesSchema` is the meaning of the schema in Draft 2020-12. -/
theorem matchesSchema_draft (data : isJsonData value = true) (unique : UniqueAnchors root)
    (written : ∀ n, Part value (.number n) ∨ Part root (.number n) → n.IsShortest)
    (fits : ∀ question, ComesTo (codeReading (doubleHost regExp compileDraft2020Schema) (collectSchemaIndex root))
      value root question → question.isCallable = true ∧ question.Fits)
    {outcome : Except TypeError SchemaValidationResult}
    (unlimited : Unlimited (doubleHost regExp compileDraft2020Schema) root value outcome) :
    outcome = .ok .valid ↔ Says (draftReading regExp root) true value root := by
  have start : (Question.schema .plain value root).From value root := ⟨.inl .whole, .whole⟩
  obtain ⟨result, rfl, meant⟩ := @says_of_unlimited _ root value (draftReading regExp root) outcome data
    (fun question come => (fits question come).1) (fun question come => by
      obtain ⟨callable, fit⟩ := fits question come
      obtain ⟨levels, -, listed⟩ := come
      exact readAlike_draft unique written
        (comesTo_from (fun reference target found => part_resolved found unique) start listed) callable fit) unlimited
  constructor
  · intro valid
    obtain rfl := Except.ok.inj valid
    exact meant
  · intro holds
    have same := says_unique meant holds
    cases result with
    | valid => rfl
    | invalid place reason => cases same

end Agreement

section Samples

/-- Values among which each holds only others of them. -/
def holdOnly (values : List Json) : Bool := values.all fun value =>
  match value with
  | .array elements => elements.all values.contains
  | .object _ members => (members.map Prod.snd).all values.contains
  | _ => true

theorem part_mem {values : List Json} {whole part : Json} (closed : holdOnly values = true) (start : whole ∈ values)
    (inside : Part whole part) : part ∈ values := by
  induction inside with
  | whole => exact start
  | element _ listed ih =>
    have each := List.all_eq_true.mp closed _ ih
    exact List.contains_iff_mem.mp (List.all_eq_true.mp each _ listed)
  | member _ listed ih =>
    have each := List.all_eq_true.mp closed _ ih
    exact List.contains_iff_mem.mp (List.all_eq_true.mp each _ (List.mem_map_of_mem listed))

/-- A whole number of one digit. -/
def oneDigit (digit : ℕ) (some : digit % 10 ≠ 0) : JsNumber where
  negative := false
  significand := digit
  exponent := 0
  shortest := by
    rw [if_neg (by rintro rfl; exact some rfl)]
    exact some

theorem oneDigit_shortest {digit : ℕ} (some : digit % 10 ≠ 0) (small : digit < 10) :
    (oneDigit digit some).IsShortest := by
  have value : (oneDigit digit some).value = (digit : ℤ) := by
    unfold oneDigit JsNumber.value
    simp
  have exact : (oneDigit digit some).exact = (digit : ℤ) := exact_of_integer value (by rw [abs_lt]; omega)
  intro m same
  have nonzero : m.significand ≠ 0 := by
    intro zero
    have value := value_zero zero
    unfold JsNumber.exact at same
    rw [value, roundNearest_zero] at same
    change 0 = (oneDigit digit some).exact at same
    rw [exact] at same
    have none : digit = 0 := by exact_mod_cast same.symm
    omega
  have places : (Nat.digits 10 (oneDigit digit some).significand).length ≤ (Nat.digits 10 m.significand).length := by
    have one := (Nat.digits_length_le_iff (b := 10) (k := 1) (by norm_num) digit).mpr (by omega)
    have most : 0 < (Nat.digits 10 m.significand).length := by
      rw [Nat.lt_digits_length_iff (by norm_num)]
      omega
    exact one.trans most
  unfold preference
  refine Prod.Lex.le_iff.mpr (places.lt_or_eq.imp id fun equal => ⟨equal, ?_⟩)
  have distance : |(oneDigit digit some).value - (oneDigit digit some).exact| = 0 := by
    rw [value, exact, sub_self, abs_zero]
  rw [distance]
  refine Prod.Lex.le_iff.mpr ((abs_nonneg (m.value - m.exact)).lt_or_eq.imp id fun equal => ⟨equal, ?_⟩)
  have same' : m.value = (oneDigit digit some).value := by
    rw [sub_eq_zero.mp (abs_eq_zero.mp equal.symm), same, exact, value]
  have unsigned := value_eq_iff.mp same'
  rw [Json.unsigned_nonzero nonzero, Json.unsigned_nonzero (by
    rintro rfl
    exact some rfl)] at unsigned
  rw [unsigned]
  exact le_refl _

/-- A host where every expression matches. -/
abbrev anyDoubleHost : SchemaHost := doubleHost (fun _ => some fun _ => true) fun _ => some fun _ => true

def three : JsNumber := oneDigit 3 (by norm_num)
def six : JsNumber := oneDigit 6 (by norm_num)

/-- A whole number of threes. -/
def threesSchema : Json := .record [("type", .string "integer"), ("multipleOf", .number three)]

theorem threesSchema_draft :
    (.ok .valid : Except TypeError SchemaValidationResult) = .ok .valid ↔
      Says (draftReading (fun _ => some fun _ => true) threesSchema) true (.number six) threesSchema := by
  have unlimited : Unlimited anyDoubleHost threesSchema (.number six) (.ok .valid) :=
    ⟨128, 200000, by decide +kernel, by decide +kernel, by decide +kernel⟩
  refine matchesSchema_draft (by decide +kernel) ?_ ?_ (fun question come => ?_) unlimited
  · intro name first second here
    have none : collectAnchors threesSchema = [] := by decide +kernel
    rw [none] at here
    cases here
  · rintro n (inside | inside)
    · have listed := @part_mem [.number six] _ _ (by decide +kernel) List.mem_cons_self inside
      rw [List.mem_singleton] at listed
      obtain rfl := Json.number.inj listed
      exact oneDigit_shortest _ (by norm_num)
    · have listed := @part_mem [threesSchema, .string "integer", .number three] _ _ (by decide +kernel)
        List.mem_cons_self inside
      simp only [List.mem_cons, List.not_mem_nil, or_false] at listed
      rcases listed with listed | listed | listed
      · cases listed
      · cases listed
      · obtain rfl := Json.number.inj listed
        exact oneDigit_shortest _ (by norm_num)
  · have listed : question ∈ comesTo (codeReading anyDoubleHost (collectSchemaIndex threesSchema)) 1
        (.schema .plain (.number six) threesSchema) := come.mem (by decide +kernel)
    have all : comesTo (codeReading anyDoubleHost (collectSchemaIndex threesSchema)) 1
        (.schema .plain (.number six) threesSchema) =
          [.schema .plain (.number six) threesSchema, .type (.number six) threesSchema, .multiple six three] := by
      decide +kernel
    rw [all] at listed
    simp only [List.mem_cons, List.not_mem_nil, or_false] at listed
    rcases listed with rfl | rfl | rfl
    · exact ⟨by decide +kernel, trivial⟩
    · exact ⟨by decide +kernel, fun _ _ _ => by decide +kernel⟩
    · exact ⟨rfl, fun _ => by decide +kernel⟩

/-- `1e300`, `0.3` and `0.1`. -/
def huge : JsNumber := ⟨false, 1, 300, by decide⟩
def threeTenths : JsNumber := ⟨false, 3, -1, by decide⟩
def oneTenth : JsNumber := ⟨false, 1, -1, by decide⟩

def integerSchema : Json := .record [("type", .string "integer")]
def tenthsSchema : Json := .record [("multipleOf", .number oneTenth)]

/-- A whole number beyond the safe ones is not taken for an integer, and a number that is no
multiple is taken for one. -/
theorem doubles_mislead :
    (validateJsonSchema anyDoubleHost schemaOptions integerSchema = .ok (.success integerSchema) ∧
      ∃ outcome, Unlimited anyDoubleHost integerSchema (.number huge) outcome ∧ ¬(outcome = .ok .valid ↔
        Says (draftReading (fun _ => some fun _ => true) integerSchema) true (.number huge) integerSchema)) ∧
    (validateJsonSchema anyDoubleHost schemaOptions tenthsSchema = .ok (.success tenthsSchema) ∧
      ∃ outcome, Unlimited anyDoubleHost tenthsSchema (.number threeTenths) outcome ∧ ¬(outcome = .ok .valid ↔
        Says (draftReading (fun _ => some fun _ => true) tenthsSchema) true (.number threeTenths) tenthsSchema)) := by
  refine ⟨⟨by decide +kernel, .ok (.invalid "$" "value does not match schema type"),
    ⟨128, 200000, by decide +kernel, by decide +kernel, by decide +kernel⟩, fun same => ?_⟩,
    by decide +kernel, .ok .valid, ⟨128, 200000, by decide +kernel, by decide +kernel, by decide +kernel⟩, fun same => ?_⟩
  · exact absurd (same.mpr ⟨1, by decide +kernel⟩) nofun
  · have other : Says (draftReading (fun _ => some fun _ => true) tenthsSchema) false (.number threeTenths)
        tenthsSchema := ⟨1, by decide +kernel⟩
    exact absurd (says_unique (same.mp rfl) other) nofun

end Samples

end Validation
end PiToPi
