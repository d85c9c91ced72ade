import PiToPi.JsonTextProofs
import PiToPi.SchemaProofs
import PiToPi.RegExpSyntax

/-!
The scan of regular expressions (`validateRegexPattern`) keeps in step with their syntax: what
it lets through has no construct that makes a match go back, at most one quantifier without a
bound and few variants. The scan takes a bound that is no safe integer for no bound.
-/
namespace PiToPi.Validation
open RegExp

section Steps

/-- The scan passes, with counts so far. -/
def Passes (input : List UInt16) (canQuantify : Bool) (unbounded variants : Nat) : Prop :=
  ∃ fuel, input.length ≤ fuel ∧ isSafePattern fuel input canQuantify unbounded variants = true

/-- A unit the scan passes by. -/
def IsOrdinary (u : UInt16) : Prop :=
  u ∉ [0x5c, 0x5b, 0x28, 0x29, 0x7c, 0x3f, 0x2a, 0x2b, 0x7b]

instance (u : UInt16) : Decidable (IsOrdinary u) := inferInstanceAs (Decidable (_ ∉ _))

variable {u : UInt16} {rest : List UInt16} {canQuantify : Bool} {unbounded variants : Nat}

/-- The scan of a text that is not empty takes a step. -/
theorem Passes.step (passes : Passes (u :: rest) canQuantify unbounded variants) :
    ∃ fuel, rest.length ≤ fuel ∧
      isSafePattern (fuel + 1) (u :: rest) canQuantify unbounded variants = true := by
  obtain ⟨fuel, enough, passes⟩ := passes
  cases fuel with
  | zero => cases enough
  | succ fuel => exact ⟨fuel, Nat.le_of_succ_le_succ enough, passes⟩

theorem Passes.ordinary (passes : Passes (u :: rest) canQuantify unbounded variants)
    (plain : IsOrdinary u) : Passes rest true unbounded variants := by
  obtain ⟨fuel, enough, passes⟩ := passes.step
  simp only [IsOrdinary, List.mem_cons, List.not_mem_nil, or_false, not_or] at plain
  refine ⟨fuel, enough, ?_⟩
  simpa [isSafePattern, plain] using passes

/-- A run of ordinary units that is not empty allows a quantifier after it. -/
theorem Passes.run {units : List UInt16} (plain : ∀ u ∈ units, IsOrdinary u)
    (passes : Passes (units ++ rest) true unbounded variants) :
    Passes rest true unbounded variants := by
  induction units with
  | nil => exact passes
  | cons u units ih =>
    exact ih (fun v member => plain v (List.mem_cons_of_mem u member))
      (passes.ordinary (plain u List.mem_cons_self))

theorem not_passes_of_rejected (rejected : u ∈ [0x28, 0x29, 0x7c, 0x3f]) :
    ¬Passes (u :: rest) canQuantify unbounded variants := by
  intro passes
  obtain ⟨fuel, enough, passes⟩ := passes.step
  simp only [List.mem_cons, List.not_mem_nil, or_false] at rejected
  rcases rejected with rfl | rfl | rfl | rfl <;> simp [isSafePattern] at passes

theorem Passes.repeated (passes : Passes (u :: rest) canQuantify unbounded variants)
    (repeats : u = 0x2a ∨ u = 0x2b) :
    unbounded = 0 ∧ Passes rest false (unbounded + 1) variants := by
  obtain ⟨fuel, enough, passes⟩ := passes.step
  rcases repeats with rfl | rfl <;>
  · simp [isSafePattern] at passes
    exact ⟨passes.1.2, fuel, enough, passes.2⟩

/-- An escape the scan takes by its first unit. -/
theorem Passes.escape {escaped : UInt16} {after : List UInt16}
    (passes : Passes (0x5c :: escaped :: after) canQuantify unbounded variants)
    (property : escaped ≠ 0x70 ∧ escaped ≠ 0x50)
    (code : escaped = 0x75 → after.head? ≠ some 0x7b) :
    Passes after true unbounded variants := by
  obtain ⟨fuel, enough, passes⟩ := passes.step
  refine ⟨fuel, Nat.le_of_succ_le enough, ?_⟩
  simp only [isSafePattern, beq_self_eq_true, ↓reduceIte] at passes
  split at passes
  · cases passes
  · rw [if_neg (by simpa [property] using code)] at passes
    exact passes

/-- An escape the scan takes up to a closing brace. -/
theorem Passes.braced {escaped : UInt16} {name rest : List UInt16}
    (passes : Passes (0x5c :: escaped :: 0x7b :: name ++ 0x7d :: rest) canQuantify unbounded
      variants)
    (opens : escaped = 0x70 ∨ escaped = 0x50 ∨ escaped = 0x75)
    (open' : ∀ u ∈ name, u ≠ 0x7d) : Passes rest true unbounded variants := by
  obtain ⟨fuel, enough, passes⟩ := passes.step
  have closed : afterBrace (0x7b :: (name ++ 0x7d :: rest)) = some rest := by
    have passed : ∀ u ∈ 0x7b :: name, (u != 0x7d) = true := by
      intro u member
      rcases List.mem_cons.mp member with rfl | member
      · decide
      · simpa using open' u member
    unfold afterBrace
    rw [← List.cons_append, List.dropWhile_append_of_pos passed]
    simp
  refine ⟨fuel, Nat.le_trans ?_ enough, ?_⟩
  · simp
    omega
  · rcases opens with rfl | rfl | rfl <;>
      simpa [isSafePattern, closed] using passes

theorem not_passes_of_backreference {escaped : UInt16} {after : List UInt16}
    (refers : (0x31 ≤ escaped ∧ escaped ≤ 0x39) ∨ escaped = 0x6b) :
    ¬Passes (0x5c :: escaped :: after) canQuantify unbounded variants := by
  intro passes
  obtain ⟨fuel, enough, passes⟩ := passes.step
  simp only [isSafePattern, beq_self_eq_true, ↓reduceIte] at passes
  rw [if_pos (by simpa using refers)] at passes
  cases passes

/-- A class the scan takes up to its bracket. -/
theorem Passes.bracketed {after : List UInt16}
    (passes : Passes (0x5b :: rest) canQuantify unbounded variants)
    (closed : afterClass rest = some after) (shorter : after.length ≤ rest.length) :
    Passes after true unbounded variants := by
  obtain ⟨fuel, enough, passes⟩ := passes.step
  refine ⟨fuel, Nat.le_trans shorter enough, ?_⟩
  simpa [isSafePattern, closed] using passes

/-- A quantifier in braces. -/
theorem Passes.counted {minimum : Nat} {maximumText : Option (List UInt16)} {after : List UInt16}
    (passes : Passes (0x7b :: rest) true unbounded variants)
    (read : quantifier rest = some (minimum, maximumText, after))
    (shorter : after.length ≤ rest.length) :
    ∃ unbounded' variants', countQuantifier minimum maximumText unbounded variants =
      some (unbounded', variants') ∧ Passes after false unbounded' variants' := by
  obtain ⟨fuel, enough, passes⟩ := passes.step
  cases counted : countQuantifier minimum maximumText unbounded variants with
  | none => simp [isSafePattern, read, counted] at passes
  | some counts =>
    obtain ⟨unbounded', variants'⟩ := counts
    refine ⟨unbounded', variants', rfl, fuel, Nat.le_trans shorter enough, ?_⟩
    simpa [isSafePattern, read, counted] using passes

end Steps

section Units

theorem not_isOrdinary {u : UInt16} (special : ¬IsOrdinary u) :
    isSyntaxCharacter u = true ∧ isHexDigit u = false ∧ isAsciiLetter u = false := by
  simp only [IsOrdinary, Decidable.not_not, List.mem_cons, List.not_mem_nil, or_false] at special
  rcases special with rfl | rfl | rfl | rfl | rfl | rfl | rfl | rfl | rfl <;> decide

theorem isOrdinary_of_hex {u : UInt16} (digit : isHexDigit u = true) : IsOrdinary u := by
  by_contra special
  simp [(not_isOrdinary special).2.1] at digit

theorem isOrdinary_of_letter {u : UInt16} (letter : isAsciiLetter u = true) : IsOrdinary u := by
  by_contra special
  simp [(not_isOrdinary special).2.2] at letter

theorem isOrdinary_of_literal {u : UInt16} (literal : isSyntaxCharacter u = false) :
    IsOrdinary u := by
  by_contra special
  simp [(not_isOrdinary special).1] at literal

theorem isHexDigit_ne_brace {u : UInt16} (digit : isHexDigit u = true) : u ≠ 0x7d ∧ u ≠ 0x7b := by
  constructor <;>
  · rintro rfl
    exact absurd digit (by decide)

theorem isPropertyCharacter_ne_brace {u : UInt16} (inside : isPropertyCharacter u = true) :
    u ≠ 0x7d := by
  rintro rfl
  exact absurd inside (by decide)

end Units

section Atoms

variable {rest : List UInt16} {canQuantify : Bool} {unbounded variants : Nat}

/-- The scan takes an escape of a character whole. -/
theorem Passes.characterEscape {e : CharacterEscape}
    (passes : Passes (0x5c :: e.units ++ rest) canQuantify unbounded variants) :
    Passes rest true unbounded variants := by
  have hex (digit : HexDigit) : IsOrdinary digit.val := isOrdinary_of_hex digit.property
  have noBrace (digit : HexDigit) : digit.val ≠ 0x7b := (isHexDigit_ne_brace digit.property).2
  cases e with
  | control letter isControl =>
    apply passes.escape
    · simp only [List.mem_cons, List.not_mem_nil, or_false] at isControl
      rcases isControl with rfl | rfl | rfl | rfl | rfl <;> decide
    · rintro rfl
      exact absurd isControl (by decide)
  | controlLetter letter isLetter =>
    have escaped := passes.escape (by decide) (fun same => absurd same (by decide))
    exact escaped.ordinary (isOrdinary_of_letter isLetter)
  | zero => exact passes.escape (by decide) (fun same => absurd same (by decide))
  | hex a b =>
    have escaped := passes.escape (by decide) (fun same => absurd same (by decide))
    exact (escaped.ordinary (hex a)).ordinary (hex b)
  | unicode a b c d =>
    have escaped := passes.escape (by decide) (fun _ => by simpa using noBrace a)
    exact (((escaped.ordinary (hex a)).ordinary (hex b)).ordinary (hex c)).ordinary (hex d)
  | surrogates a b c d e f g h =>
    have first := passes.escape (by decide) (fun _ => by simpa using noBrace a)
    have second := (((first.ordinary (hex a)).ordinary (hex b)).ordinary (hex c)).ordinary (hex d)
    have second := second.escape (by decide) (fun _ => by simpa using noBrace e)
    exact (((second.ordinary (hex e)).ordinary (hex f)).ordinary (hex g)).ordinary (hex h)
  | codePoint digits =>
    have opened : Passes (0x5c :: 0x75 :: 0x7b :: digits.map Subtype.val ++ 0x7d :: rest)
        canQuantify unbounded variants := by
      simpa [CharacterEscape.units] using passes
    apply opened.braced (.inr (.inr rfl))
    intro u member
    obtain ⟨digit, -, rfl⟩ := List.mem_map.mp member
    exact (isHexDigit_ne_brace digit.property).1
  | identity u isSyntax =>
    apply passes.escape
    · constructor <;>
      · rintro rfl
        exact absurd isSyntax (by decide)
    · rintro rfl
      exact absurd isSyntax (by decide)

/-- The scan takes an escape of a set of characters whole. -/
theorem Passes.characterClassEscape {e : CharacterClassEscape}
    (passes : Passes (0x5c :: e.units ++ rest) canQuantify unbounded variants) :
    Passes rest true unbounded variants := by
  cases e with
  | letter u isClass =>
    apply passes.escape
    · simp only [List.mem_cons, List.not_mem_nil, or_false] at isClass
      rcases isClass with rfl | rfl | rfl | rfl | rfl | rfl <;> decide
    · rintro rfl
      exact absurd isClass (by decide)
  | property negated name isName =>
    have opened : Passes (0x5c :: (if negated then 0x50 else 0x70) :: 0x7b :: name ++ 0x7d :: rest)
        canQuantify unbounded variants := by
      simpa [CharacterClassEscape.units] using passes
    apply opened.braced
    · cases negated with
      | true => exact .inr (.inl rfl)
      | false => exact .inl rfl
    · intro u member
      exact isPropertyCharacter_ne_brace (isName u member)

end Atoms

section Classes

/-- The scan of a class goes on after these units. -/
def Skipped (units : List UInt16) : Prop :=
  ∀ rest, rest ≠ [] → afterClass (units ++ rest) = afterClass rest

theorem skipped_nil : Skipped [] := fun _ _ => rfl

theorem Skipped.append {first second : List UInt16} (skipped : Skipped first)
    (more : Skipped second) : Skipped (first ++ second) := by
  intro rest left
  rw [List.append_assoc, skipped _ (by simp [left]), more rest left]

theorem skipped_unit {u : UInt16} (inside : u ≠ 0x5c ∧ u ≠ 0x5d) : Skipped [u] := by
  intro rest left
  cases rest with
  | nil => exact absurd rfl left
  | cons v rest => simp [afterClass, inside]

theorem skipped_units {units : List UInt16} (inside : ∀ u ∈ units, u ≠ 0x5c ∧ u ≠ 0x5d) :
    Skipped units := by
  induction units with
  | nil => exact skipped_nil
  | cons u units ih =>
    exact (skipped_unit (inside u List.mem_cons_self)).append
      (ih fun v member => inside v (List.mem_cons_of_mem u member))

/-- An escape takes the unit after the backslash with it. -/
theorem skipped_escape {escaped : UInt16} {units : List UInt16}
    (inside : ∀ u ∈ units, u ≠ 0x5c ∧ u ≠ 0x5d) : Skipped (0x5c :: escaped :: units) := by
  intro rest left
  rw [← skipped_units inside rest left]
  simp [afterClass]

theorem inside_of_hex {u : UInt16} (digit : isHexDigit u = true) : u ≠ 0x5c ∧ u ≠ 0x5d := by
  constructor <;>
  · rintro rfl
    exact absurd digit (by decide)

theorem skipped_characterEscape (e : CharacterEscape) : Skipped (0x5c :: e.units) := by
  have hex (digit : HexDigit) : digit.val ≠ 0x5c ∧ digit.val ≠ 0x5d := inside_of_hex digit.property
  cases e with
  | control letter _ => exact skipped_escape (by simp)
  | controlLetter letter isLetter =>
    apply skipped_escape
    intro u member
    cases List.mem_singleton.mp member
    constructor <;>
    · rintro rfl
      exact absurd isLetter (by decide)
  | zero => exact skipped_escape (by simp)
  | hex a b => exact skipped_escape (by simp [hex])
  | unicode a b c d => exact skipped_escape (by simp [hex])
  | surrogates a b c d e f g h =>
    have first : Skipped [0x5c, 0x75, a.val, b.val, c.val, d.val] := skipped_escape (by simp [hex])
    exact first.append (skipped_escape (by simp [hex]))
  | codePoint digits =>
    show Skipped (0x5c :: 0x75 :: (0x7b :: digits.map Subtype.val ++ [0x7d]))
    apply skipped_escape
    intro u member
    simp only [List.mem_cons, List.mem_append, List.mem_map, List.not_mem_nil, or_false] at member
    rcases member with (rfl | ⟨digit, -, rfl⟩) | rfl
    · decide
    · exact hex digit
    · decide
  | identity u _ => exact skipped_escape (by simp)

theorem skipped_characterClassEscape (e : CharacterClassEscape) : Skipped (0x5c :: e.units) := by
  cases e with
  | letter u _ => exact skipped_escape (by simp)
  | property negated name isName =>
    show Skipped (0x5c :: (if negated then 0x50 else 0x70) :: (0x7b :: name ++ [0x7d]))
    apply skipped_escape
    intro u member
    simp only [List.mem_cons, List.mem_append, List.not_mem_nil, or_false] at member
    rcases member with (rfl | member) | rfl
    · decide
    · have inside := isName u member
      constructor <;>
      · rintro rfl
        exact absurd inside (by decide)
    · decide

theorem skipped_classAtom (atom : ClassAtom) : Skipped atom.units := by
  cases atom with
  | character c inside => exact skipped_units inside
  | backspace => exact skipped_escape (by simp)
  | dash => exact skipped_escape (by simp)
  | escape e => exact skipped_characterEscape e
  | classEscape e => exact skipped_characterClassEscape e

theorem skipped_classRange (range : ClassRange) : Skipped range.units := by
  cases range with
  | single atom => exact skipped_classAtom atom
  | range low high =>
    exact (skipped_classAtom low).append
      ((skipped_unit (by decide)).append (skipped_classAtom high))

theorem skipped_ranges (ranges : List ClassRange) : Skipped (ranges.flatMap ClassRange.units) := by
  induction ranges with
  | nil => exact skipped_nil
  | cons range ranges ih =>
    rw [List.flatMap_cons]
    exact (skipped_classRange range).append ih

/-- The scan finds the bracket that closes a class. -/
theorem afterClass_units (c : CharacterClass) (rest : List UInt16) :
    afterClass (c.units ++ rest) = some rest := by
  have negation : Skipped (if c.negated then [0x5e] else []) := by
    split
    · exact skipped_unit (by decide)
    · exact skipped_nil
  have contents := (negation.append (skipped_ranges c.ranges)) ([0x5d] ++ rest) (by simp)
  unfold CharacterClass.units
  rw [List.append_assoc, contents]
  cases rest with
  | nil => rfl
  | cons u rest => simp [afterClass]

end Classes

section Quantifiers

variable {rest : List UInt16} {unbounded variants : Nat}

/-- The counts the scan accepts. -/
def Within (unbounded variants : Nat) : Prop := unbounded ≤ 1 ∧ variants ≤ maxSafeRegexVariants

/-- The scan goes on after these quantifiers and has counted them. -/
def Continues (quantifiers : List QuantifierPrefix) (rest : List UInt16)
    (unbounded variants : Nat) : Prop :=
  ∃ canQuantify unbounded' variants',
    unbounded' = unbounded + exceeding JsNumber.maxSafeInteger quantifiers ∧
    variants' = variants * boundedVariants JsNumber.maxSafeInteger quantifiers ∧
    (Within unbounded variants → Within unbounded' variants') ∧
    Passes rest canQuantify unbounded' variants'

theorem continues_nil {canQuantify : Bool} (passes : Passes rest canQuantify unbounded variants) :
    Continues [] rest unbounded variants :=
  ⟨canQuantify, unbounded, variants, rfl, (Nat.mul_one _).symm, id, passes⟩

theorem Continues.append {first second : List QuantifierPrefix} {middle : List UInt16}
    (continues : Continues first middle unbounded variants)
    (more : ∀ canQuantify unbounded variants, Passes middle canQuantify unbounded variants →
      Continues second rest unbounded variants) :
    Continues (first ++ second) rest unbounded variants := by
  obtain ⟨can, unbounded₁, variants₁, count₁, product₁, within₁, passes⟩ := continues
  obtain ⟨can, unbounded₂, variants₂, count₂, product₂, within₂, passes⟩ := more _ _ _ passes
  refine ⟨can, unbounded₂, variants₂, ?_, ?_, within₂ ∘ within₁, passes⟩
  · rw [exceeding_append, count₂, count₁, Nat.add_assoc]
  · rw [boundedVariants_append, product₂, product₁, Nat.mul_assoc]

theorem exceeding_singleton {limit : Nat} (q : QuantifierPrefix) :
    exceeding limit [q] = if q.Exceeds limit then 1 else 0 := by
  simp [exceeding, List.countP_cons]

theorem boundedVariants_singleton {limit : Nat} (q : QuantifierPrefix) :
    boundedVariants limit [q] = if q.Exceeds limit then 1 else q.variants := by
  unfold boundedVariants
  by_cases exceeds : q.Exceeds limit <;> simp [exceeds]

/-- The text the scan reads after a quantifier's comma says what its bound is. -/
def Reads (q : QuantifierPrefix) (maximumText : Option (List UInt16)) : Prop :=
  (maximumText = some [] ∧ q.most? = none) ∨
    (maximumText ≠ some [] ∧ q.most? = some ((maximumText.map Json.digitsValue).getD q.least))

theorem Reads.exceeds_iff {q : QuantifierPrefix} {maximumText : Option (List UInt16)} {limit : Nat}
    (reads : Reads q maximumText) : q.Exceeds limit ↔ maximumText = some [] ∨ limit < q.least ∨
      limit < (maximumText.map Json.digitsValue).getD q.least := by
  unfold QuantifierPrefix.Exceeds
  rcases reads with ⟨text, bound⟩ | ⟨text, bound⟩
  · simp [bound, text]
  · simp [bound, text]

/-- What a quantifier in braces adds to the counts. -/
theorem countQuantifier_some {q : QuantifierPrefix} {maximumText : Option (List UInt16)}
    {unbounded' variants' : Nat} (reads : Reads q maximumText)
    (counted : countQuantifier q.least maximumText unbounded variants = some (unbounded', variants')) :
    (q.Exceeds JsNumber.maxSafeInteger ∧ unbounded' = unbounded + 1 ∧ variants' = variants ∧
      unbounded' ≤ 1) ∨
    (¬q.Exceeds JsNumber.maxSafeInteger ∧ unbounded' = unbounded ∧
      variants' = variants * q.variants ∧ variants' ≤ maxSafeRegexVariants) := by
  rw [reads.exceeds_iff]
  dsimp only [countQuantifier] at counted
  split at counted
  next exceeds =>
    split at counted
    · cases counted
    · cases counted
      exact .inl ⟨exceeds, rfl, rfl, by omega⟩
  next bounded =>
    split at counted
    · cases counted
    split at counted
    · cases counted
    next few =>
      cases counted
      have bound : q.most? = some ((maximumText.map Json.digitsValue).getD q.least) := by
        rcases reads with ⟨text, -⟩ | ⟨-, bound⟩
        · exact absurd (.inl text) bounded
        · exact bound
      have product : q.variants = (maximumText.map Json.digitsValue).getD q.least - q.least + 1 := by
        simp [QuantifierPrefix.variants, bound]
      rw [product]
      exact .inr ⟨bounded, rfl, rfl, by omega⟩

theorem continues_counted {q : QuantifierPrefix} {maximumText : Option (List UInt16)}
    {after : List UInt16} (reads : Reads q maximumText)
    (read : quantifier after = some (q.least, maximumText, rest))
    (shorter : rest.length ≤ after.length)
    (passes : Passes (0x7b :: after) true unbounded variants) :
    Continues [q] rest unbounded variants := by
  obtain ⟨unbounded', variants', counted, passes⟩ := passes.counted read shorter
  refine ⟨false, unbounded', variants', ?_⟩
  rw [exceeding_singleton, boundedVariants_singleton]
  rcases countQuantifier_some reads counted with
    ⟨exceeds, count, product, most⟩ | ⟨bounded, count, product, few⟩
  · simp only [exceeds, if_true]
    exact ⟨count, by omega, fun within => ⟨most, product ▸ within.2⟩, passes⟩
  · simp only [bounded, if_false]
    exact ⟨count, product, fun within => ⟨count ▸ within.1, few⟩, passes⟩

/-- A run of digits before a unit that is none. -/
theorem quantifier_digits (number : DecimalDigits) (u : UInt16) (after : List UInt16)
    (stops : Json.isDigit u = false) :
    (number.digits ++ u :: after).takeWhile Json.isDigit = number.digits ∧
      (number.digits ++ u :: after).dropWhile Json.isDigit = u :: after := by
  have noDigit : Json.NoDigit (u :: after) := by
    intro v first
    cases first
    exact stops
  exact ⟨Json.takeWhile_digits number.decimal noDigit, Json.dropWhile_digits number.decimal noDigit⟩

theorem Passes.quantity {q : QuantifierPrefix}
    (passes : Passes (q.units ++ rest) true unbounded variants) :
    Continues [q] rest unbounded variants := by
  have endless (unlimited : q.most? = none)
      (repeated : unbounded = 0 ∧ Passes rest false (unbounded + 1) variants) :
      Continues [q] rest unbounded variants := by
    obtain ⟨none, passes⟩ := repeated
    have exceeds : q.Exceeds JsNumber.maxSafeInteger := .inr (by simp [unlimited])
    refine ⟨false, unbounded + 1, variants, ?_, ?_, ?_, passes⟩
    · rw [exceeding_singleton, if_pos exceeds]
    · rw [boundedVariants_singleton, if_pos exceeds, Nat.mul_one]
    · exact fun within => ⟨by omega, within.2⟩
  cases q with
  | star => exact endless rfl (passes.repeated (.inl rfl))
  | plus => exact endless rfl (passes.repeated (.inr rfl))
  | optional => exact absurd passes (not_passes_of_rejected (by decide))
  | exactly count =>
    obtain ⟨taken, left⟩ := quantifier_digits count 0x7d rest rfl
    have read : quantifier (count.digits ++ 0x7d :: rest) = some (count.value, none, rest) := by
      simp [quantifier, taken, left, count.nonempty]
      rfl
    apply continues_counted (.inr ⟨by simp, rfl⟩) read
    · simp
      omega
    · simpa [QuantifierPrefix.units] using passes
  | atLeast minimum =>
    obtain ⟨taken, left⟩ := quantifier_digits minimum 0x2c (0x7d :: rest) rfl
    have read : quantifier (minimum.digits ++ 0x2c :: 0x7d :: rest) =
        some (minimum.value, some [], rest) := by
      simp [quantifier, taken, left, minimum.nonempty]
      rfl
    apply continues_counted (.inl ⟨rfl, rfl⟩) read
    · simp
      omega
    · simpa [QuantifierPrefix.units] using passes
  | between minimum maximum =>
    obtain ⟨taken, left⟩ := quantifier_digits minimum 0x2c
      (maximum.digits ++ 0x7d :: rest) rfl
    obtain ⟨taken', left'⟩ := quantifier_digits maximum 0x7d rest rfl
    have read : quantifier (minimum.digits ++ 0x2c :: (maximum.digits ++ 0x7d :: rest)) =
        some (minimum.value, some maximum.digits, rest) := by
      simp [quantifier, taken, left, taken', left', minimum.nonempty]
      rfl
    apply continues_counted (.inr ⟨by simp [maximum.nonempty], rfl⟩) read
    · simp
      omega
    · simpa [QuantifierPrefix.units] using passes

/-- No quantifier the scan takes is lazy. -/
theorem Passes.quantified {q : Quantifier}
    (passes : Passes (q.units ++ rest) true unbounded variants) :
    q.isLazy = false ∧ Continues [q.quantity] rest unbounded variants := by
  obtain ⟨quantity, isLazy⟩ := q
  cases isLazy with
  | false => exact ⟨rfl, Passes.quantity (by simpa [Quantifier.units] using passes)⟩
  | true =>
    have started : Passes (quantity.units ++ 0x3f :: rest) true unbounded variants := by
      simpa [Quantifier.units] using passes
    obtain ⟨_, _, _, -, -, -, passes⟩ := started.quantity
    exact absurd passes (not_passes_of_rejected (by decide))

end Quantifiers

section Trees

variable {rest : List UInt16} {canQuantify : Bool} {unbounded variants : Nat}

/-- The scan takes an atom whole, and a quantifier may follow. -/
theorem Passes.atom {a : Atom} (passes : Passes (a.units ++ rest) canQuantify unbounded variants) :
    a.constructs = [] ∧ a.quantifiers = [] ∧ Passes rest true unbounded variants := by
  cases a with
  | character c literal =>
    have plain (u : UInt16) (member : u ∈ c.units) : IsOrdinary u :=
      isOrdinary_of_literal (literal u member)
    refine ⟨rfl, rfl, ?_⟩
    cases c with
    | unit u => exact passes.ordinary (plain u (by simp [SourceCharacter.units]))
    | surrogates lead trail _ _ =>
      exact (passes.ordinary (plain lead (by simp [SourceCharacter.units]))).ordinary
        (plain trail (by simp [SourceCharacter.units]))
  | any => exact ⟨rfl, rfl, passes.ordinary (by decide)⟩
  | escape e => exact ⟨rfl, rfl, passes.characterEscape⟩
  | classEscape e => exact ⟨rfl, rfl, passes.characterClassEscape⟩
  | characterClass c =>
    refine ⟨rfl, rfl, passes.bracketed (afterClass_units c rest) ?_⟩
    simp
  | backreference first more nonzero =>
    exact absurd passes (not_passes_of_backreference (.inl nonzero))
  | namedReference name => exact absurd passes (not_passes_of_backreference (.inr rfl))
  | group start body => exact absurd passes (not_passes_of_rejected (by decide))

theorem Passes.term {t : Term} (passes : Passes (t.units ++ rest) canQuantify unbounded variants) :
    t.constructs = [] ∧ Continues t.quantifiers rest unbounded variants := by
  cases t with
  | edge atEnd =>
    refine ⟨rfl, continues_nil (passes.ordinary ?_)⟩
    cases atEnd <;> decide
  | boundary negated =>
    refine ⟨rfl, continues_nil (passes.escape ?_ ?_)⟩
    · cases negated <;> decide
    · cases negated <;> exact fun same => absurd same (by decide)
  | lookaround look body => exact absurd passes (not_passes_of_rejected (by decide))
  | atom atom =>
    obtain ⟨none, unrepeated, passes⟩ := passes.atom
    exact ⟨none, by rw [Term.quantifiers, unrepeated]; exact continues_nil passes⟩
  | quantified atom quantifier =>
    rw [Term.units, List.append_assoc] at passes
    obtain ⟨none, unrepeated, passes⟩ := passes.atom
    obtain ⟨greedy, continues⟩ := passes.quantified
    constructor
    · simp [Term.constructs, none, greedy]
    · simpa [Term.quantifiers, unrepeated] using continues

theorem Passes.alternative : ∀ {a : Alternative} {canQuantify : Bool} {unbounded variants : Nat},
    Passes (a.units ++ rest) canQuantify unbounded variants →
      a.constructs = [] ∧ Continues a.quantifiers rest unbounded variants
  | .empty, _, _, _, passes => ⟨rfl, continues_nil passes⟩
  | .cons term others, _, _, _, passes => by
    rw [Alternative.units, List.append_assoc] at passes
    obtain ⟨first, continues⟩ := passes.term
    have later := continues.append fun _ _ _ passes => (Passes.alternative passes).2
    obtain ⟨_, _, _, -, -, -, passes⟩ := continues
    exact ⟨by rw [Alternative.constructs, first, (Passes.alternative passes).1]; rfl, later⟩

/-- A text the scan passes is one alternative, and the counts are those of its tree. -/
theorem Passes.disjunction {d : Disjunction} (passes : Passes d.units false 0 1) :
    d.constructs = [] ∧ Within (exceeding JsNumber.maxSafeInteger d.quantifiers)
      (boundedVariants JsNumber.maxSafeInteger d.quantifiers) := by
  cases d with
  | single a =>
    rw [Disjunction.units, ← List.append_nil a.units] at passes
    obtain ⟨none, _, unbounded, variants, count, product, within, -⟩ := passes.alternative
    refine ⟨none, ?_⟩
    rw [Nat.zero_add] at count
    rw [Nat.one_mul] at product
    rw [Disjunction.quantifiers, ← count, ← product]
    exact within ⟨by decide, by decide⟩
  | either first others =>
    obtain ⟨-, _, _, _, -, -, -, passes⟩ := Passes.alternative passes
    exact absurd passes (not_passes_of_rejected (by decide))

/-- A valid pattern the gate accepts has no construct that makes a match go back, at most one
quantifier without a safe bound, and few variants of its other repetitions. -/
theorem validateRegexPattern_sound (H : SchemaHost) (pattern path keyword : JsString)
    (tree : Disjunction) (valid : tree.units = pattern.units)
    (accepted : validateRegexPattern H pattern path keyword = .ok ()) :
    tree.constructs = [] ∧ exceeding JsNumber.maxSafeInteger tree.quantifiers ≤ 1 ∧
      boundedVariants JsNumber.maxSafeInteger tree.quantifiers ≤ 256 := by
  obtain ⟨_, _, accepted⟩ := bind_ok accepted
  obtain ⟨_, _, safe⟩ := bind_ok accepted
  have passes : Passes tree.units false 0 1 := by
    rw [valid]
    exact ⟨pattern.length, Nat.le_refl _, requireField_ok safe⟩
  exact passes.disjunction

/-- `[\]a-c]{1,3}\u{61}+`. -/
def boundedTree : Disjunction :=
  .single <| .cons (.quantified
      (.characterClass ⟨false, [.single (.escape (.identity 0x5d (.inl (by decide)))),
        .range (.character (.unit 0x61) (List.forall_mem_singleton.mpr (by decide)))
          (.character (.unit 0x63) (List.forall_mem_singleton.mpr (by decide)))]⟩)
      ⟨.between ⟨[0x31], List.forall_mem_singleton.mpr rfl, by decide⟩
        ⟨[0x33], List.forall_mem_singleton.mpr rfl, by decide⟩, false⟩) <|
    .cons (.quantified (.escape (.codePoint [⟨0x36, by decide⟩, ⟨0x31, by decide⟩])) ⟨.plus, false⟩)
      .empty

theorem boundedTree_sound :
    validateRegexPattern anyHost "[\\]a-c]\x7b1,3\x7d\\u\x7b61\x7d+" "$" "pattern" = .ok () ∧
      boundedTree.constructs = [] ∧
      exceeding JsNumber.maxSafeInteger boundedTree.quantifiers ≤ 1 ∧
      boundedVariants JsNumber.maxSafeInteger boundedTree.quantifiers ≤ 256 :=
  ⟨by decide +kernel, validateRegexPattern_sound anyHost "[\\]a-c]\x7b1,3\x7d\\u\x7b61\x7d+" "$"
    "pattern" boundedTree (by decide +kernel) (by decide +kernel)⟩

/-- `a{0,9007199254740992}`. -/
def largeBoundTree : Disjunction :=
  .single <| .cons (.quantified (.character (.unit 0x61) (List.forall_mem_singleton.mpr rfl))
      ⟨.between ⟨[0x30], List.forall_mem_singleton.mpr rfl, by decide⟩
        ⟨[0x39, 0x30, 0x30, 0x37, 0x31, 0x39, 0x39, 0x32, 0x35, 0x34, 0x37, 0x34, 0x30, 0x39, 0x39,
          0x32], List.all_eq_true.mp rfl, by decide⟩, false⟩)
    .empty

/-- A bound that is no safe integer counts as none, and many variants pass. -/
theorem largeBound_accepted :
    largeBoundTree.units = JsString.units "a\x7b0,9007199254740992\x7d" ∧
      validateRegexPattern anyHost "a\x7b0,9007199254740992\x7d" "$" "pattern" = .ok () ∧
      ¬((largeBoundTree.quantifiers.filter (·.most?.isSome)).map QuantifierPrefix.variants).prod ≤
        256 :=
  ⟨by decide +kernel, by decide +kernel, by decide +kernel⟩

end Trees

end PiToPi.Validation
