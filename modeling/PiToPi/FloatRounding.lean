import Mathlib.Data.Int.Log
import Mathlib.Data.Rat.Floor
import Mathlib.Algebra.Order.Round
import Mathlib.Algebra.Order.Field.Power
import Mathlib.Tactic.Linarith
import Mathlib.Tactic.Positivity
import Mathlib.Tactic.Ring
import Mathlib.Tactic.FieldSimp
import Mathlib.Tactic.NormNum

/-!
Rounding of rationals to the floating-point numbers of a precision and a least exponent, to the
nearest and of two to the even one. The numbers are unbounded; a format with a greatest exponent
overflows where the result is too large for it.
-/
namespace FloatRounding

section Integers

/-- The nearest integer, of two the even one. -/
def roundEven (q : ℚ) : ℤ :=
  if q - ⌊q⌋ < 1 / 2 then ⌊q⌋
  else if 1 / 2 < q - ⌊q⌋ then ⌊q⌋ + 1
  else if ⌊q⌋ % 2 = 0 then ⌊q⌋
  else ⌊q⌋ + 1

theorem roundEven_intCast (n : ℤ) : roundEven n = n := by
  unfold roundEven
  rw [Int.floor_intCast, sub_self, if_pos (by norm_num)]

theorem roundEven_bounds (q : ℚ) : ⌊q⌋ ≤ roundEven q ∧ roundEven q ≤ ⌊q⌋ + 1 := by
  unfold roundEven
  split_ifs <;> omega

theorem roundEven_mono {q r : ℚ} (le : q ≤ r) : roundEven q ≤ roundEven r := by
  have floors := Int.floor_le_floor le
  by_cases same : ⌊q⌋ = ⌊r⌋
  · unfold roundEven
    rw [same]
    have order : q - ⌊r⌋ ≤ r - ⌊r⌋ := by linarith
    split_ifs
    all_goals first
      | omega
      | linarith
  · have upper := (roundEven_bounds q).2
    have lower := (roundEven_bounds r).1
    omega

theorem roundEven_nonneg {q : ℚ} (nonneg : 0 ≤ q) : 0 ≤ roundEven q :=
  (Int.floor_nonneg.mpr nonneg).trans (roundEven_bounds q).1

/-- Rounding does not prefer a sign. -/
theorem roundEven_neg (q : ℚ) : roundEven (-q) = -roundEven q := by
  have lower := Int.floor_le q
  have upper := Int.lt_floor_add_one q
  by_cases whole : q = ⌊q⌋
  · rw [whole, ← Int.cast_neg, roundEven_intCast, roundEven_intCast]
  · have inside : (⌊q⌋ : ℚ) < q := lt_of_le_of_ne lower (Ne.symm whole)
    have floor : ⌊-q⌋ = -⌊q⌋ - 1 := by
      rw [Int.floor_eq_iff]
      push_cast
      constructor <;> linarith
    unfold roundEven
    rw [floor]
    push_cast
    have parity : (-⌊q⌋ - 1) % 2 = 0 ↔ ¬⌊q⌋ % 2 = 0 := by omega
    split_ifs
    all_goals first
      | omega
      | (exfalso; linarith)

end Integers

variable (precision : ℕ) (least : ℤ)

/-- The exponent of the last place of a number. -/
def placeExponent (q : ℚ) : ℤ := max (Int.log 2 |q| + 1 - precision) least

/-- The nearest number of the format. -/
def roundNearest (q : ℚ) : ℚ :=
  roundEven (q / 2 ^ placeExponent precision least q) * 2 ^ placeExponent precision least q

variable {precision least} {q r : ℚ}

theorem two_zpow_pos (e : ℤ) : (0 : ℚ) < 2 ^ e := zpow_pos (by norm_num) e

theorem placeExponent_neg (q : ℚ) : placeExponent precision least (-q) = placeExponent precision least q := by
  unfold placeExponent
  rw [abs_neg]

theorem roundNearest_neg (q : ℚ) : roundNearest precision least (-q) = -roundNearest precision least q := by
  unfold roundNearest
  rw [placeExponent_neg, neg_div, roundEven_neg, Int.cast_neg, neg_mul]

theorem roundNearest_zero : roundNearest precision least 0 = 0 := by
  unfold roundNearest
  rw [zero_div, ← Int.cast_zero, roundEven_intCast, Int.cast_zero, zero_mul]

/-- A number is less than the precision many places. -/
theorem abs_lt_places (q : ℚ) : |q| < 2 ^ (placeExponent precision least q + precision) := by
  have bound : |q| < (2 : ℚ) ^ (Int.log 2 |q| + 1) := by
    exact_mod_cast Int.lt_zpow_succ_log_self (R := ℚ) (b := 2) (by norm_num) |q|
  refine bound.trans_le (zpow_le_zpow_right₀ (by norm_num) ?_)
  have := le_max_left (Int.log 2 |q| + 1 - precision) least
  unfold placeExponent
  omega

/-- A number of the format: so many places, of an exponent that is not too small. -/
def IsFloat (precision : ℕ) (least : ℤ) (q : ℚ) : Prop :=
  ∃ m e : ℤ, |m| < 2 ^ precision ∧ least ≤ e ∧ q = (m : ℚ) * (2 : ℚ) ^ e

/-- Multiples of a place are multiples of each smaller one. -/
theorem mul_zpow_eq {m e f : ℤ} (le : f ≤ e) : ∃ k : ℤ, (m : ℚ) * (2 : ℚ) ^ e = k * (2 : ℚ) ^ f := by
  obtain ⟨shift, rfl⟩ := Int.le.dest le
  refine ⟨m * 2 ^ shift, ?_⟩
  rw [zpow_add₀ (by norm_num), zpow_natCast]
  push_cast
  ring

theorem roundNearest_of_places {k : ℤ} (places : q = k * (2 : ℚ) ^ placeExponent precision least q) :
    roundNearest precision least q = q := by
  unfold roundNearest
  have quotient : q / 2 ^ placeExponent precision least q = k := by
    rw [div_eq_iff (two_zpow_pos _).ne']
    exact places
  rw [quotient, roundEven_intCast]
  exact places.symm

/-- The place of a number of the format is no larger than the one it is given by. -/
theorem placeExponent_le {m e : ℤ} (nonzero : m ≠ 0) (small : |m| < 2 ^ precision) (bound : least ≤ e) :
    placeExponent precision least ((m : ℚ) * (2 : ℚ) ^ e) ≤ e := by
  refine max_le ?_ bound
  have cast : (m : ℚ) ≠ 0 := by exact_mod_cast nonzero
  have positive : 0 < |(m : ℚ) * (2 : ℚ) ^ e| := abs_pos.mpr (mul_ne_zero cast (two_zpow_pos e).ne')
  have below : |(m : ℚ) * (2 : ℚ) ^ e| < ((2 : ℕ) : ℚ) ^ ((precision : ℤ) + e) := by
    rw [abs_mul, abs_of_pos (two_zpow_pos e), Nat.cast_ofNat, zpow_add₀ (by norm_num), zpow_natCast]
    have cast : |(m : ℚ)| < 2 ^ precision := by exact_mod_cast small
    exact mul_lt_mul_of_pos_right cast (two_zpow_pos e)
  have log := (Int.lt_zpow_iff_log_lt (R := ℚ) (by norm_num) positive).mp below
  omega

/-- Numbers of the format are rounded to themselves. -/
theorem IsFloat.roundNearest_eq (float : IsFloat precision least q) : roundNearest precision least q = q := by
  obtain ⟨m, e, small, bound, rfl⟩ := float
  by_cases zero : m = 0
  · rw [zero, Int.cast_zero, zero_mul, roundNearest_zero]
  · obtain ⟨k, same⟩ := @mul_zpow_eq m e _ (placeExponent_le zero small bound)
    exact roundNearest_of_places same

/-- One place more is a place less of twice the size. -/
theorem isFloat_of_le {m e : ℤ} (positive : 0 < precision) (small : |m| ≤ 2 ^ precision) (bound : least ≤ e) :
    IsFloat precision least ((m : ℚ) * (2 : ℚ) ^ e) := by
  rcases small.lt_or_eq with small | full
  · exact ⟨m, e, small, bound, rfl⟩
  · obtain ⟨half, rfl⟩ : ∃ half, precision = half + 1 := ⟨precision - 1, by omega⟩
    rw [pow_succ] at full
    obtain ⟨k, rfl⟩ : ∃ k, m = 2 * k := by
      rcases abs_choice m with same | same
      · exact ⟨2 ^ half, by omega⟩
      · exact ⟨-2 ^ half, by omega⟩
    refine ⟨k, e + 1, ?_, by omega, ?_⟩
    · rw [abs_mul, Nat.abs_ofNat] at full
      have power : (0 : ℤ) < 2 ^ half := by positivity
      rw [pow_succ]
      omega
    · rw [zpow_add₀ (by norm_num), zpow_one]
      push_cast
      ring

theorem roundEven_places (q : ℚ) :
    |roundEven (q / 2 ^ placeExponent precision least q)| ≤ 2 ^ precision := by
  have bound := @abs_lt_places precision least q
  generalize placeExponent precision least q = e at bound
  rw [zpow_add₀ (by norm_num), mul_comm, ← div_lt_iff₀ (two_zpow_pos e), zpow_natCast,
    ← abs_of_pos (two_zpow_pos e), ← abs_div, abs_lt] at bound
  have upper := roundEven_mono bound.2.le
  have lower := roundEven_mono bound.1.le
  have power : ((2 : ℚ) ^ precision) = ((2 ^ precision : ℤ) : ℚ) := by push_cast; rfl
  rw [power, roundEven_intCast] at upper
  rw [power, ← Int.cast_neg, roundEven_intCast] at lower
  exact abs_le.mpr ⟨lower, upper⟩

/-- What is rounded to is a number of the format. -/
theorem roundNearest_isFloat (positive : 0 < precision) (q : ℚ) :
    IsFloat precision least (roundNearest precision least q) :=
  isFloat_of_le positive (roundEven_places q) (le_max_right _ _)

theorem roundNearest_idem (positive : 0 < precision) (q : ℚ) :
    roundNearest precision least (roundNearest precision least q) = roundNearest precision least q :=
  (roundNearest_isFloat positive q).roundNearest_eq

theorem roundNearest_nonneg (nonneg : 0 ≤ q) : 0 ≤ roundNearest precision least q := by
  have quotient : 0 ≤ q / 2 ^ placeExponent precision least q := div_nonneg nonneg (two_zpow_pos _).le
  exact mul_nonneg (by exact_mod_cast roundEven_nonneg quotient) (two_zpow_pos _).le

/-- A number with a place that is not the least has all its places. -/
theorem roundNearest_lower (positive : 0 < precision) (above : 0 < q)
    (normal : least < placeExponent precision least q) :
    (2 : ℚ) ^ (placeExponent precision least q + precision - 1) ≤ roundNearest precision least q := by
  have place : placeExponent precision least q = Int.log 2 |q| + 1 - precision := by
    unfold placeExponent at normal ⊢
    omega
  have bound : ((2 : ℕ) : ℚ) ^ Int.log 2 |q| ≤ |q| := Int.zpow_log_le_self (by norm_num) (abs_pos.mpr above.ne')
  rw [abs_of_pos above, Nat.cast_ofNat] at bound
  rw [abs_of_pos above] at place
  obtain ⟨half, rfl⟩ : ∃ half, precision = half + 1 := ⟨precision - 1, by omega⟩
  unfold roundNearest
  generalize placeExponent (half + 1) least q = e at place ⊢
  have exponent : Int.log 2 q = half + e := by push_cast at place; omega
  rw [exponent, zpow_add₀ (by norm_num), zpow_natCast, ← le_div_iff₀ (two_zpow_pos e)] at bound
  have rounded := roundEven_mono bound
  have power : ((2 : ℚ) ^ half) = ((2 ^ half : ℤ) : ℚ) := by push_cast; rfl
  rw [power, roundEven_intCast] at rounded
  have cast : (2 : ℚ) ^ half ≤ roundEven (q / 2 ^ e) := by exact_mod_cast rounded
  have target : e + ((half + 1 : ℕ) : ℤ) - 1 = half + e := by push_cast; omega
  rw [target, zpow_add₀ (by norm_num), zpow_natCast]
  exact mul_le_mul_of_nonneg_right cast (two_zpow_pos e).le

theorem roundNearest_upper (q : ℚ) :
    roundNearest precision least q ≤ (2 : ℚ) ^ (placeExponent precision least q + precision) := by
  have places := (abs_le.mp (@roundEven_places precision least q)).2
  have cast : (roundEven (q / 2 ^ placeExponent precision least q) : ℚ) ≤ 2 ^ precision := by exact_mod_cast places
  rw [zpow_add₀ (by norm_num), zpow_natCast, mul_comm]
  exact mul_le_mul_of_nonneg_right cast (two_zpow_pos _).le

theorem placeExponent_mono (above : 0 < q) (le : q ≤ r) :
    placeExponent precision least q ≤ placeExponent precision least r := by
  have logs := Int.log_mono_right (b := 2) above le
  unfold placeExponent
  rw [abs_of_pos above, abs_of_pos (above.trans_le le)]
  omega

theorem roundNearest_mono_pos (positive : 0 < precision) (above : 0 < q) (le : q ≤ r) :
    roundNearest precision least q ≤ roundNearest precision least r := by
  rcases (@placeExponent_mono precision least q r above le).eq_or_lt with same | smaller
  · unfold roundNearest
    rw [← same]
    have quotients : q / 2 ^ placeExponent precision least q ≤ r / 2 ^ placeExponent precision least q :=
      div_le_div_of_nonneg_right le (two_zpow_pos _).le
    exact mul_le_mul_of_nonneg_right (by exact_mod_cast roundEven_mono quotients) (two_zpow_pos _).le
  · have normal : least < placeExponent precision least r := (le_max_right _ _).trans_lt smaller
    calc roundNearest precision least q ≤ 2 ^ (placeExponent precision least q + precision) := roundNearest_upper q
      _ ≤ 2 ^ (placeExponent precision least r + precision - 1) := zpow_le_zpow_right₀ (by norm_num) (by omega)
      _ ≤ roundNearest precision least r := roundNearest_lower positive (above.trans_le le) normal

/-- Rounding keeps the order. -/
theorem roundNearest_mono (positive : 0 < precision) (le : q ≤ r) :
    roundNearest precision least q ≤ roundNearest precision least r := by
  rcases lt_or_ge 0 q with above | below
  · exact roundNearest_mono_pos positive above le
  · rcases lt_or_ge r 0 with under | past
    · have mirrored : roundNearest precision least (-r) ≤ roundNearest precision least (-q) :=
        roundNearest_mono_pos positive (by linarith) (by linarith)
      rw [roundNearest_neg, roundNearest_neg] at mirrored
      linarith
    · have first : 0 ≤ roundNearest precision least (-q) := roundNearest_nonneg (by linarith)
      rw [roundNearest_neg] at first
      have second : 0 ≤ roundNearest precision least r := roundNearest_nonneg past
      linarith

/-- Whole numbers are rounded to whole numbers. -/
theorem roundNearest_int (k : ℤ) : ∃ j : ℤ, roundNearest precision least (k : ℚ) = j := by
  rcases le_or_gt (placeExponent precision least (k : ℚ)) 0 with low | high
  · obtain ⟨j, same⟩ := @mul_zpow_eq k 0 _ low
    rw [zpow_zero, mul_one] at same
    exact ⟨k, roundNearest_of_places same⟩
  · obtain ⟨shift, same⟩ := Int.eq_ofNat_of_zero_le high.le
    refine ⟨roundEven (k / 2 ^ placeExponent precision least k) * 2 ^ shift, ?_⟩
    unfold roundNearest
    rw [same, zpow_natCast]
    push_cast
    rfl

end FloatRounding
