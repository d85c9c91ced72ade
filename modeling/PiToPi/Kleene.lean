import Mathlib.Data.List.Basic
import Mathlib.Data.Fintype.Option
import Mathlib.Data.List.Forall2
import Mathlib.Data.Rat.Defs
import Mathlib.Algebra.Order.Ring.Rat

/-!
Kleene's three-valued logic over `Option Bool`: `none` is what is not known. A connective
never takes a known result back when more of its arguments become known.
-/
namespace Kleene

variable {α : Type}

/-- What is known stays known. -/
def Below (a b : Option Bool) : Prop := ∀ result, a = some result → b = some result

theorem below_refl (a : Option Bool) : Below a a := fun _ known => known

/-- A conjunction. -/
def all (results : List (Option Bool)) : Option Bool :=
  if some false ∈ results then some false
  else if ∀ result ∈ results, result = some true then some true
  else none

/-- A disjunction. -/
def any (results : List (Option Bool)) : Option Bool :=
  if some true ∈ results then some true
  else if ∀ result ∈ results, result = some false then some false
  else none

/-- How many are known to be true. -/
def trues (results : List (Option Bool)) : Nat := results.countP (· = some true)

/-- How many are not known to be false. -/
def possible (results : List (Option Bool)) : Nat := results.countP (· ≠ some false)

/-- What is asked of the number of true results, once all are known. -/
def count (accepts : Nat → Bool) (results : List (Option Bool)) : Option Bool :=
  if results.all Option.isSome then some (accepts (trues results)) else none

/-- At least so many are true. -/
def atLeast (minimum : ℚ) (results : List (Option Bool)) : Option Bool :=
  if minimum ≤ trues results then some true
  else if possible results < minimum then some false
  else none

theorem all_true_iff {results : List (Option Bool)} :
    all results = some true ↔ ∀ result ∈ results, result = some true := by
  unfold all
  constructor
  · intro known
    split at known
    · cases known
    · split at known
      · assumption
      · cases known
  · intro each
    rw [if_neg fun refuted => absurd (each _ refuted) (by decide), if_pos each]

theorem all_false_iff {results : List (Option Bool)} : all results = some false ↔ some false ∈ results := by
  unfold all
  constructor
  · intro known
    split at known
    · assumption
    · split at known
      · cases known
      · cases known
  · intro refuted
    rw [if_pos refuted]

theorem any_true_iff {results : List (Option Bool)} : any results = some true ↔ some true ∈ results := by
  unfold any
  constructor
  · intro known
    split at known
    · assumption
    · split at known
      · cases known
      · cases known
  · intro confirmed
    rw [if_pos confirmed]

theorem any_false_iff {results : List (Option Bool)} :
    any results = some false ↔ ∀ result ∈ results, result = some false := by
  unfold any
  constructor
  · intro known
    split at known
    · cases known
    · split at known
      · assumption
      · cases known
  · intro each
    rw [if_neg fun confirmed => absurd (each _ confirmed) (by decide), if_pos each]

theorem all_below {first second : List (Option Bool)} (each : List.Forall₂ Below first second) :
    Below (all first) (all second) := by
  intro result known
  cases result with
  | true =>
    rw [all_true_iff] at known ⊢
    induction each with
    | nil => nofun
    | cons head _ ih =>
      rw [List.forall_mem_cons] at known ⊢
      exact ⟨head true known.1, ih known.2⟩
  | false =>
    rw [all_false_iff] at known ⊢
    induction each with
    | nil => cases known
    | cons head _ ih =>
      rcases List.mem_cons.mp known with here | later
      · rw [head false here.symm]
        exact List.mem_cons_self
      · exact List.mem_cons_of_mem _ (ih later)

theorem any_below {first second : List (Option Bool)} (each : List.Forall₂ Below first second) :
    Below (any first) (any second) := by
  intro result known
  cases result with
  | true =>
    rw [any_true_iff] at known ⊢
    induction each with
    | nil => cases known
    | cons head _ ih =>
      rcases List.mem_cons.mp known with here | later
      · rw [head true here.symm]
        exact List.mem_cons_self
      · exact List.mem_cons_of_mem _ (ih later)
  | false =>
    rw [any_false_iff] at known ⊢
    induction each with
    | nil => nofun
    | cons head _ ih =>
      rw [List.forall_mem_cons] at known ⊢
      exact ⟨head false known.1, ih known.2⟩

theorem all_append_true {first second : List (Option Bool)} :
    all (first ++ second) = some true ↔ all first = some true ∧ all second = some true := by
  rw [all_true_iff, all_true_iff, all_true_iff, List.forall_mem_append]

theorem all_append_false {first second : List (Option Bool)} :
    all (first ++ second) = some false ↔ all first = some false ∨ all second = some false := by
  rw [all_false_iff, all_false_iff, all_false_iff, List.mem_append]

theorem all_cons_true {result : Option Bool} {rest : List (Option Bool)} :
    all (result :: rest) = some true ↔ result = some true ∧ all rest = some true := by
  rw [all_true_iff, all_true_iff, List.forall_mem_cons]

theorem all_cons_false {result : Option Bool} {rest : List (Option Bool)} :
    all (result :: rest) = some false ↔ result = some false ∨ all rest = some false := by
  rw [all_false_iff, all_false_iff, List.mem_cons, eq_comm]

theorem ext {a b : Option Bool} (confirmed : a = some true ↔ b = some true)
    (refuted : a = some false ↔ b = some false) : a = b := by
  rcases a with _ | _ | _
  · rcases b with _ | _ | _
    · rfl
    · exact absurd (refuted.mpr rfl) (by decide)
    · exact absurd (confirmed.mpr rfl) (by decide)
  · exact (refuted.mp rfl).symm
  · exact (confirmed.mp rfl).symm

@[simp] theorem all_singleton (result : Option Bool) : all [result] = result := by
  rcases result with _ | _ | _ <;> decide

theorem all_map_some (items : List α) (held : α → Bool) :
    all (items.map fun item => some (held item)) = some (items.all held) := by
  cases every : items.all held with
  | true =>
    rw [all_true_iff]
    intro result member
    obtain ⟨item, inside, rfl⟩ := List.mem_map.mp member
    rw [List.all_eq_true.mp every item inside]
  | false =>
    rw [all_false_iff]
    obtain ⟨item, inside, refuted⟩ := List.all_eq_false.mp every
    exact List.mem_map.mpr ⟨item, inside, by simpa using refuted⟩

/-- Results that are all known do not change. -/
theorem eq_of_known {first second : List (Option Bool)} (each : List.Forall₂ Below first second)
    (known : first.all Option.isSome = true) : first = second := by
  induction each with
  | nil => rfl
  | @cons a b as bs head _ ih =>
    rw [List.all_cons, Bool.and_eq_true] at known
    obtain ⟨result, here⟩ := Option.isSome_iff_exists.mp known.1
    rw [ih known.2, here, head result here]

theorem count_below {accepts : Nat → Bool} {first second : List (Option Bool)}
    (each : List.Forall₂ Below first second) : Below (count accepts first) (count accepts second) := by
  intro result known
  unfold count at known
  split at known
  · rename_i complete
    rw [← eq_of_known each complete, count, if_pos complete, known]
  · cases known

theorem trues_cons (result : Option Bool) (rest : List (Option Bool)) :
    trues (result :: rest) = trues rest + if result = some true then 1 else 0 := by
  unfold trues
  simp only [List.countP_cons, decide_eq_true_eq]

theorem possible_cons (result : Option Bool) (rest : List (Option Bool)) :
    possible (result :: rest) = possible rest + if result = some false then 0 else 1 := by
  unfold possible
  by_cases refuted : result = some false
  · simp [refuted]
  · simp [refuted]

/-- Where all results are known, those that are not false are true. -/
theorem possible_of_known {results : List (Option Bool)} (known : results.all Option.isSome = true) :
    possible results = trues results := by
  induction results with
  | nil => rfl
  | cons result rest ih =>
    rw [List.all_cons, Bool.and_eq_true] at known
    rw [possible_cons, trues_cons, ih known.2]
    rcases result with _ | _ | _
    · cases known.1
    · rfl
    · rfl

theorem trues_le {first second : List (Option Bool)} (each : List.Forall₂ Below first second) :
    trues first ≤ trues second := by
  induction each with
  | nil => exact le_rfl
  | @cons a b as bs head _ ih =>
    rw [trues_cons, trues_cons]
    by_cases here : a = some true
    · rw [if_pos here, if_pos (head true here)]
      omega
    · rw [if_neg here]
      omega

theorem possible_le {first second : List (Option Bool)} (each : List.Forall₂ Below first second) :
    possible second ≤ possible first := by
  induction each with
  | nil => exact le_rfl
  | @cons a b as bs head _ ih =>
    rw [possible_cons, possible_cons]
    by_cases here : a = some false
    · rw [if_pos here, if_pos (head false here)]
      omega
    · rw [if_neg here]
      split
      · omega
      · omega

theorem atLeast_below {minimum : ℚ} {first second : List (Option Bool)}
    (each : List.Forall₂ Below first second) : Below (atLeast minimum first) (atLeast minimum second) := by
  have more : (trues first : ℚ) ≤ trues second := by exact_mod_cast trues_le each
  have less : (possible second : ℚ) ≤ possible first := by exact_mod_cast possible_le each
  have bound : ∀ results : List (Option Bool), (trues results : ℚ) ≤ possible results := by
    intro results
    unfold trues possible
    have counted : results.countP (· = some true) ≤ results.countP (· ≠ some false) :=
      List.countP_mono_left fun result _ held => by
        simp only [decide_eq_true_eq] at held
        simp [held]
    exact_mod_cast counted
  intro result known
  unfold atLeast at known ⊢
  split at known
  · rename_i enough
    rw [if_pos (enough.trans more), known]
  · split at known
    · rename_i few
      rw [if_neg (not_le.mpr ((bound second).trans_lt (less.trans_lt few))), if_pos (less.trans_lt few), known]
    · cases known

theorem map_below {items : List α} {f g : α → Option Bool} (each : ∀ item ∈ items, Below (f item) (g item)) :
    List.Forall₂ Below (items.map f) (items.map g) := by
  induction items with
  | nil => exact .nil
  | cons item rest ih =>
    exact .cons (each item List.mem_cons_self) (ih fun other member => each other (List.mem_cons_of_mem _ member))

end Kleene
