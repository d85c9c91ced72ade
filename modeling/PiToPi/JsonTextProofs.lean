import PiToPi.JsonText

/-!
`JSON.parse` reads back what `JSON.stringify` writes, and UTF-8 keeps the text.
-/
namespace PiToPi

namespace JsString

theorem toWellFormed_of_isWellFormed {units : List UInt16} (wellFormed : isWellFormed units = true) :
    toWellFormed units = units := by
  induction units using isWellFormed.induct with
  | case1 => rfl
  | case2 u v rest pair ih =>
    rw [isWellFormed, if_pos pair] at wellFormed
    rw [toWellFormed, if_pos pair, ih wellFormed]
  | case3 u v rest pair ih =>
    rw [isWellFormed, if_neg pair, Bool.and_eq_true, Bool.not_eq_true'] at wellFormed
    rw [toWellFormed, if_neg pair, wellFormed.1, ih wellFormed.2]
    rfl
  | case4 u =>
    rw [isWellFormed, Bool.not_eq_true'] at wellFormed
    rw [toWellFormed, wellFormed]
    rfl

/-- A unit that is no surrogate may precede anything. -/
theorem isWellFormed_cons {u : UInt16} {units : List UInt16} (plain : isSurrogate u = false) :
    isWellFormed (u :: units) = isWellFormed units := by
  have low : isHighSurrogate u = false := (Bool.or_eq_false_iff.mp plain).1
  cases units with
  | nil => simp [isWellFormed, plain]
  | cons v rest => simp [isWellFormed, plain, low]

theorem isWellFormed_append {a b : List UInt16} (first : isWellFormed a = true)
    (second : isWellFormed b = true) : isWellFormed (a ++ b) = true := by
  induction a using isWellFormed.induct with
  | case1 => exact second
  | case2 u v rest pair ih =>
    rw [isWellFormed, if_pos pair] at first
    rw [List.cons_append, List.cons_append, isWellFormed, if_pos pair]
    exact ih first
  | case3 u v rest pair ih =>
    rw [isWellFormed, if_neg pair, Bool.and_eq_true, Bool.not_eq_true'] at first
    rw [List.cons_append, isWellFormed_cons first.1]
    exact ih first.2
  | case4 u =>
    rw [isWellFormed, Bool.not_eq_true'] at first
    rw [List.singleton_append, isWellFormed_cons first]
    exact second

theorem isWellFormed_ofChar (c : Char) : isWellFormed (ofChar c) = true := by
  unfold ofChar
  have valid : c.toNat < 0xd800 ∨ 0xdfff < c.toNat ∧ c.toNat < 0x110000 := c.valid
  by_cases short : c.toNat < 0x10000
  · rw [if_pos short, isWellFormed, Bool.not_eq_true', isSurrogate, Bool.or_eq_false_iff]
    have same : c.toNat.toUInt16.toNat = c.toNat := by
      rw [Nat.toUInt16, UInt16.toNat_ofNat']
      omega
    constructor
    · simp only [isHighSurrogate, Bool.and_eq_false_iff, decide_eq_false_iff_not, UInt16.le_iff_toNat_le,
        same, UInt16.reduceToNat]
      omega
    · simp only [isLowSurrogate, Bool.and_eq_false_iff, decide_eq_false_iff_not, UInt16.le_iff_toNat_le,
        same, UInt16.reduceToNat]
      omega
  · rw [if_neg short]
    have high : isHighSurrogate ((c.toNat - 0x10000) / 0x400 + 0xd800).toUInt16 = true := by
      simp only [isHighSurrogate, Bool.and_eq_true, decide_eq_true_eq, UInt16.le_iff_toNat_le,
        Nat.toUInt16, UInt16.toNat_ofNat', UInt16.reduceToNat]
      omega
    have low : isLowSurrogate ((c.toNat - 0x10000) % 0x400 + 0xdc00).toUInt16 = true := by
      simp only [isLowSurrogate, Bool.and_eq_true, decide_eq_true_eq, UInt16.le_iff_toNat_le,
        Nat.toUInt16, UInt16.toNat_ofNat', UInt16.reduceToNat]
      omega
    rw [isWellFormed, high, low]
    rfl

theorem isWellFormed_ofString (s : String) : isWellFormed (ofString s).units = true := by
  unfold ofString
  dsimp only
  induction s.toList with
  | nil => rfl
  | cons c rest ih =>
    rw [List.flatMap_cons]
    exact isWellFormed_append (isWellFormed_ofChar c) ih

end JsString

namespace Json
open JsString

theorem isWellFormed_unicodeEscape (u : UInt16) : isWellFormed (unicodeEscape u) = true := by
  have digit : ∀ n < 16, isSurrogate
      (if n < 10 then (n + 0x30).toUInt16 else (n + 0x57).toUInt16) = false := by decide
  have bound := UInt16.toNat_lt u
  unfold unicodeEscape
  dsimp only
  rw [isWellFormed_cons rfl, isWellFormed_cons rfl, isWellFormed_cons (digit _ (by omega)),
    isWellFormed_cons (digit _ (by omega)), isWellFormed_cons (digit _ (by omega)),
    isWellFormed_cons (digit _ (by omega))]
  rfl

theorem isWellFormed_escapeUnit (u : UInt16) : isWellFormed (escapeUnit u) = true := by
  unfold escapeUnit
  split
  · rename_i quoted
    rw [Bool.or_eq_true, beq_iff_eq, beq_iff_eq] at quoted
    rcases quoted with rfl | rfl <;> rfl
  · split
    · rfl
    · split
      · rfl
      · split
        · rfl
        · split
          · rfl
          · split
            · rfl
            · split
              · exact isWellFormed_unicodeEscape u
              · rename_i plain
                rw [isWellFormed, Bool.not_eq_true', isSurrogate]
                simp only [Bool.or_eq_true, not_or, Bool.not_eq_true] at plain
                rw [plain.1.2, plain.2]
                rfl

theorem isWellFormed_quoteUnits (units : List UInt16) : isWellFormed (quoteUnits units) = true := by
  induction units using quoteUnits.induct with
  | case1 => rfl
  | case2 u v rest pair ih =>
    rw [quoteUnits, if_pos pair, isWellFormed, if_pos pair]
    exact ih
  | case3 u v rest pair ih =>
    rw [quoteUnits, if_neg pair]
    exact isWellFormed_append (isWellFormed_escapeUnit u) ih
  | case4 u => exact isWellFormed_escapeUnit u

theorem isWellFormed_quote (s : JsString) : isWellFormed (quote s).units = true := by
  show isWellFormed ((0x22 :: quoteUnits s.units) ++ [0x22]) = true
  apply isWellFormed_append
  · rw [isWellFormed_cons rfl]
    exact isWellFormed_quoteUnits _
  · rfl

/-- Well-formed texts in a row. -/
theorem isWellFormed_joined {a b : JsString} (first : isWellFormed a.units = true)
    (second : isWellFormed b.units = true) : isWellFormed (a ++ b).units = true :=
  isWellFormed_append first second

mutual
theorem isWellFormed_stringify : (value : Json) → isWellFormed value.stringify.units = true
  | .null => isWellFormed_ofString _
  | .bool flag => by cases flag <;> exact isWellFormed_ofString _
  | .number n => by
    show isWellFormed n.text.units = true
    unfold JsNumber.text
    dsimp only
    split
    · exact isWellFormed_ofString _
    · exact isWellFormed_ofString _
  | .string text => isWellFormed_quote text
  | .array elements => isWellFormed_joined
      (isWellFormed_joined (isWellFormed_ofString _) (isWellFormed_stringifyElements elements))
      (isWellFormed_ofString _)
  | .object _ members => isWellFormed_joined
      (isWellFormed_joined (isWellFormed_ofString _) (isWellFormed_stringifyMembers members))
      (isWellFormed_ofString _)

theorem isWellFormed_stringifyElements : (elements : List Json) →
    isWellFormed (stringifyElements elements).units = true
  | [] => isWellFormed_ofString _
  | [x] => isWellFormed_stringify x
  | x :: y :: rest => isWellFormed_joined
      (isWellFormed_joined (isWellFormed_stringify x) (isWellFormed_ofString _))
      (isWellFormed_stringifyElements (y :: rest))

theorem isWellFormed_stringifyMembers : (members : List (JsString × Json)) →
    isWellFormed (stringifyMembers members).units = true
  | [] => isWellFormed_ofString _
  | [(k, x)] => isWellFormed_joined (isWellFormed_joined (isWellFormed_quote k)
      (isWellFormed_ofString _)) (isWellFormed_stringify x)
  | (k, x) :: y :: rest => isWellFormed_joined (isWellFormed_joined (isWellFormed_joined
      (isWellFormed_joined (isWellFormed_quote k) (isWellFormed_ofString _))
      (isWellFormed_stringify x)) (isWellFormed_ofString _)) (isWellFormed_stringifyMembers (y :: rest))
end

section Digits

/-- The unit of an ASCII character. -/
def asciiUnit (c : Char) : UInt16 := c.toNat.toUInt16

theorem digit_bounds {c : Char} (digit : c.isDigit = true) : 48 ≤ c.toNat ∧ c.toNat ≤ 57 := by
  simp only [Char.isDigit, Bool.and_eq_true, decide_eq_true_eq, UInt32.le_iff_toNat_le] at digit
  exact digit

theorem asciiUnit_toNat {c : Char} (ascii : c.toNat < 128) : (asciiUnit c).toNat = c.toNat := by
  unfold asciiUnit
  rw [Nat.toUInt16, UInt16.toNat_ofNat']
  omega

theorem isDigit_asciiUnit {c : Char} (digit : c.isDigit = true) : isDigit (asciiUnit c) = true := by
  have bounds := digit_bounds digit
  simp only [isDigit, Bool.and_eq_true, decide_eq_true_eq, UInt16.le_iff_toNat_le,
    asciiUnit_toNat (show c.toNat < 128 by omega), UInt16.reduceToNat]
  omega

theorem ofList_ascii {cs : List Char} (ascii : ∀ c ∈ cs, c.toNat < 128) :
    (JsString.ofString (String.ofList cs)).units = cs.map asciiUnit := by
  unfold JsString.ofString
  rw [String.toList_ofList]
  dsimp only
  induction cs with
  | nil => rfl
  | cons c rest ih =>
    have short := ascii c List.mem_cons_self
    rw [List.flatMap_cons, List.map_cons, ih fun d member => ascii d (List.mem_cons_of_mem _ member)]
    unfold ofChar
    rw [if_pos (by omega)]
    rfl

theorem digitsValue_ascii {cs : List Char} (digits : ∀ c ∈ cs, c.isDigit = true) :
    digitsValue (cs.map asciiUnit) = Nat.ofDigitChars 10 cs 0 := by
  unfold digitsValue
  rw [Nat.ofDigitChars_eq_foldl]
  generalize 0 = start
  induction cs generalizing start with
  | nil => rfl
  | cons c rest ih =>
    have bounds := digit_bounds (digits c List.mem_cons_self)
    rw [List.map_cons, List.foldl_cons, List.foldl_cons,
      ih (fun d member => digits d (List.mem_cons_of_mem _ member)), asciiUnit_toNat (by omega)]
    rfl

/-- The digits of a number. -/
def digitUnits (n : Nat) : List UInt16 := (Nat.toDigits 10 n).map asciiUnit

theorem isDigit_toDigits {n : Nat} {c : Char} (member : c ∈ Nat.toDigits 10 n) : c.isDigit = true :=
  Nat.isDigit_of_mem_toDigits (by decide) (by decide) member

theorem digitUnits_digits (n : Nat) : ∀ u ∈ digitUnits n, isDigit u = true := by
  intro u member
  obtain ⟨c, listed, rfl⟩ := List.mem_map.mp member
  exact isDigit_asciiUnit (isDigit_toDigits listed)

theorem digitsValue_digitUnits (n : Nat) : digitsValue (digitUnits n) = n := by
  unfold digitUnits
  rw [digitsValue_ascii fun c => isDigit_toDigits, Nat.ofDigitChars_ten_toDigits]

theorem digitUnits_ne_nil (n : Nat) : digitUnits n ≠ [] := by
  unfold digitUnits
  rw [ne_eq, List.map_eq_nil_iff]
  exact Nat.toDigits_ne_nil

theorem toDigits_head {n : Nat} (positive : 0 < n) : (Nat.toDigits 10 n).head? ≠ some '0' := by
  induction n using Nat.strong_induction_on with
  | _ n ih =>
    by_cases small : n < 10
    · have single : ∀ m < 10, 0 < m → [m.digitChar].head? ≠ some '0' := by decide
      rw [Nat.toDigits_of_lt_base small]
      exact single n small positive
    · rw [Nat.toDigits_of_base_le (by decide) (by omega), List.head?_append]
      have front := ih (n / 10) (by omega) (by omega)
      have nonempty : Nat.toDigits 10 (n / 10) ≠ [] := Nat.toDigits_ne_nil
      cases digits : Nat.toDigits 10 (n / 10) with
      | nil => exact absurd digits nonempty
      | cons c rest =>
        rw [digits] at front
        exact front

theorem asciiUnit_eq_zero {c : Char} (digit : c.isDigit = true) (same : asciiUnit c = 0x30) : c = '0' := by
  have bounds := digit_bounds digit
  have units := congrArg UInt16.toNat same
  rw [asciiUnit_toNat (by omega)] at units
  apply Char.ext
  apply UInt32.toNat_inj.mp
  exact units

/-- A number is written with no zero in front of it. -/
theorem digitUnits_head {n : Nat} (positive : 0 < n) : (digitUnits n).head? ≠ some 0x30 := by
  intro zero
  unfold digitUnits at zero
  have front := toDigits_head positive
  cases digits : Nat.toDigits 10 n with
  | nil => rw [digits] at zero; cases zero
  | cons c rest =>
    rw [digits, List.map_cons, List.head?_cons, Option.some.injEq] at zero
    have digit : c.isDigit = true := isDigit_toDigits (by rw [digits]; exact List.mem_cons_self)
    rw [digits, List.head?_cons, asciiUnit_eq_zero digit zero] at front
    exact front rfl

theorem digitsValue_zeros (count : Nat) (rest : List UInt16) :
    digitsValue (List.replicate count 0x30 ++ rest) = digitsValue rest := by
  induction count with
  | zero => rfl
  | succ count ih => exact ih

theorem digitsValue_append_zeros (digits : List UInt16) (count : Nat) :
    digitsValue (digits ++ List.replicate count 0x30) = digitsValue digits * 10 ^ count := by
  induction count with
  | zero => simp
  | succ count ih =>
    rw [List.replicate_succ', ← List.append_assoc]
    unfold digitsValue at ih ⊢
    rw [List.foldl_append, ih, List.foldl_cons, List.foldl_nil, pow_succ]
    show 10 * (_ * _) + 0 = _
    ring

end Digits

section Numbers

/-- What may follow a value inside another. -/
def Ends (rest : List UInt16) : Prop := ∀ u ∈ rest.head?, u = 0x2c ∨ u = 0x5d ∨ u = 0x7d

/-- The input does not go on with a digit. -/
def NoDigit (rest : List UInt16) : Prop := ∀ u ∈ rest.head?, isDigit u = false

theorem Ends.noDigit {rest : List UInt16} (ends : Ends rest) : NoDigit rest := by
  intro u first
  rcases ends u first with rfl | rfl | rfl <;> rfl

theorem takeWhile_digits {digits rest : List UInt16} (all : ∀ u ∈ digits, isDigit u = true)
    (stops : NoDigit rest) : (digits ++ rest).takeWhile isDigit = digits := by
  rw [List.takeWhile_append_of_pos all]
  cases rest with
  | nil => simp
  | cons u rest => rw [List.takeWhile_cons_of_neg (by simp [stops u rfl]), List.append_nil]

theorem dropWhile_digits {digits rest : List UInt16} (all : ∀ u ∈ digits, isDigit u = true)
    (stops : NoDigit rest) : (digits ++ rest).dropWhile isDigit = rest := by
  rw [List.dropWhile_append_of_pos all]
  cases rest with
  | nil => rfl
  | cons u rest => rw [List.dropWhile_cons_of_neg (by simp [stops u rfl])]

theorem readDigits_append {digits rest : List UInt16} (all : ∀ u ∈ digits, isDigit u = true)
    (nonempty : digits ≠ []) (stops : NoDigit rest) : readDigits (digits ++ rest) = some (digits, rest) := by
  unfold readDigits
  rw [takeWhile_digits all stops, dropWhile_digits all stops]
  cases digits with
  | nil => exact absurd rfl nonempty
  | cons u digits => rfl

/-- The fraction a number is written with. -/
def fractionUnits : List UInt16 → List UInt16
  | [] => []
  | u :: digits => 0x2e :: u :: digits

/-- The exponent a number is written with. -/
def exponentUnits : Option (Bool × List UInt16) → List UInt16
  | none => []
  | some (negative, digits) => 0x65 :: (if negative then 0x2d else 0x2b) :: digits

def exponentValue : Option (Bool × List UInt16) → Int
  | none => 0
  | some (negative, digits) => if negative then -(digitsValue digits : Int) else digitsValue digits

/-- The digits of an exponent. -/
def ExponentDigits (exponent : Option (Bool × List UInt16)) : Prop :=
  ∀ e ∈ exponent, e.2 ≠ [] ∧ ∀ u ∈ e.2, isDigit u = true

theorem readExponent_append {exponent : Option (Bool × List UInt16)} {rest : List UInt16}
    (digits : ExponentDigits exponent) (ends : Ends rest) :
    readExponent (exponentUnits exponent ++ rest) = some (exponentValue exponent, rest) := by
  cases exponent with
  | none =>
    cases rest with
    | nil => rfl
    | cons u rest =>
      have other : ¬(u = 0x65 ∨ u = 0x45) := by
        rcases ends u rfl with rfl | rfl | rfl <;> decide
      show readExponent (u :: rest) = _
      unfold readExponent
      dsimp only
      rw [if_neg other]
      rfl
  | some e =>
    obtain ⟨negative, run⟩ := e
    obtain ⟨(nonempty : run ≠ []), (all : ∀ u ∈ run, isDigit u = true)⟩ := digits _ rfl
    have read := readDigits_append all nonempty ends.noDigit
    cases negative with
    | true =>
      show readExponent (0x65 :: 0x2d :: (run ++ rest)) = _
      unfold readExponent
      dsimp only
      rw [if_pos (Or.inl rfl)]
      show (readDigits (run ++ rest)).map _ = _
      rw [read]
      rfl
    | false =>
      show readExponent (0x65 :: 0x2b :: (run ++ rest)) = _
      unfold readExponent
      dsimp only
      rw [if_pos (Or.inl rfl)]
      show (readDigits (run ++ rest)).map _ = _
      rw [read]
      rfl

theorem exponent_noDigit (exponent : Option (Bool × List UInt16)) {rest : List UInt16}
    (ends : Ends rest) : NoDigit (exponentUnits exponent ++ rest) := by
  cases exponent with
  | none => exact ends.noDigit
  | some e =>
    intro u first
    cases first
    rfl

theorem exponent_noDot (exponent : Option (Bool × List UInt16)) {rest : List UInt16}
    (ends : Ends rest) : ∀ u ∈ (exponentUnits exponent ++ rest).head?, u ≠ 0x2e := by
  cases exponent with
  | none =>
    intro u first
    rcases ends u first with rfl | rfl | rfl <;> decide
  | some e =>
    intro u first
    cases first
    decide

theorem readFraction_append {fraction rest : List UInt16} (all : ∀ u ∈ fraction, isDigit u = true)
    (stops : NoDigit rest) (noDot : ∀ u ∈ rest.head?, u ≠ 0x2e) :
    readFraction (fractionUnits fraction ++ rest) = some (fraction, rest) := by
  cases fraction with
  | nil =>
    show readFraction rest = _
    cases rest with
    | nil => rfl
    | cons u rest =>
      unfold readFraction
      split
      · rename_i same
        exact absurd (List.cons.inj same).1 (noDot u rfl)
      · rfl
  | cons u digits => exact readDigits_append all (List.cons_ne_nil _ _) stops

/-- A decimal is read as the number its digits and its exponent give. -/
theorem readMagnitude_append {negative : Bool} {whole fraction rest : List UInt16}
    {exponent : Option (Bool × List UInt16)} (digits : ∀ u ∈ whole, isDigit u = true)
    (nonempty : whole ≠ []) (canonical : whole.head? = some 0x30 → whole.length = 1)
    (fractionDigits : ∀ u ∈ fraction, isDigit u = true) (exponentDigits : ExponentDigits exponent)
    (ends : Ends rest) :
    readMagnitude negative (whole ++ (fractionUnits fraction ++ (exponentUnits exponent ++ rest))) =
      some (.ofDecimal negative (digitsValue (whole ++ fraction))
        (exponentValue exponent - fraction.length), rest) := by
  have stops : NoDigit (fractionUnits fraction ++ (exponentUnits exponent ++ rest)) := by
    cases fraction with
    | nil => exact exponent_noDigit exponent ends
    | cons u rest =>
      intro v first
      cases first
      rfl
  unfold readMagnitude
  rw [readDigits_append digits nonempty stops]
  have leading : ¬(whole.head? = some 0x30 ∧ whole.length ≠ 1) := fun h => h.2 (canonical h.1)
  show (if whole.head? = some 0x30 ∧ whole.length ≠ 1 then none else _) = _
  rw [if_neg leading]
  show (readFraction _).bind _ = _
  rw [readFraction_append fractionDigits (exponent_noDigit exponent ends) (exponent_noDot exponent ends)]
  show (readExponent _).bind _ = _
  rw [readExponent_append exponentDigits ends]
  rfl

theorem ofString_append (a b : String) : (JsString.ofString (a ++ b)).units =
    (JsString.ofString a).units ++ (JsString.ofString b).units := by
  unfold JsString.ofString
  rw [String.toList_append, List.flatMap_append]

/-- The units of a decimal, with the number it denotes. -/
structure Written (units : List UInt16) (significand : Nat) (exponent : Int) where
  whole : List UInt16
  fraction : List UInt16
  power : Option (Bool × List UInt16)
  shift : Nat
  units_eq : units = whole ++ (fractionUnits fraction ++ exponentUnits power)
  digits : ∀ u ∈ whole, isDigit u = true
  nonempty : whole ≠ []
  canonical : whole.head? = some 0x30 → whole.length = 1
  fractionDigits : ∀ u ∈ fraction, isDigit u = true
  powerDigits : ExponentDigits power
  value_eq : digitsValue (whole ++ fraction) = significand * 10 ^ shift
  exponent_eq : exponentValue power - fraction.length = exponent - shift

theorem digits_ascii {cs : List Char} (digits : ∀ c ∈ cs, c.isDigit = true) :
    ∀ c ∈ cs, c.toNat < 128 := by
  intro c member
  have bounds := digit_bounds (digits c member)
  omega

theorem ofList_digits {cs : List Char} (digits : ∀ c ∈ cs, c.isDigit = true) :
    (JsString.ofString (String.ofList cs)).units = cs.map asciiUnit := ofList_ascii (digits_ascii digits)

theorem toString_units (n : Nat) : (JsString.ofString (toString n)).units = digitUnits n := by
  rw [Nat.toString_eq_ofList_toDigits, ofList_digits fun c => isDigit_toDigits]
  rfl

theorem zeros_units (n : Nat) : (JsString.ofString (JsNumber.zeros n)).units = List.replicate n 0x30 := by
  unfold JsNumber.zeros
  have digits : ∀ c ∈ List.replicate n '0', c.isDigit = true := by
    intro c member
    rw [List.eq_of_mem_replicate member]
    rfl
  rw [ofList_digits digits, List.map_replicate]
  rfl

theorem zero_digits {n : Nat} : ∀ u ∈ List.replicate n (0x30 : UInt16), isDigit u = true := by
  intro u member
  rw [List.eq_of_mem_replicate member]
  rfl

/-- The first digits of a number, and the others. -/
theorem take_units (n count : Nat) : (JsString.ofString
    (String.ofList ((toString n).toList.take count))).units = (digitUnits n).take count := by
  rw [Nat.toString_eq_ofList_toDigits, String.toList_ofList,
    ofList_digits fun c member => isDigit_toDigits (List.mem_of_mem_take member), List.map_take]
  rfl

theorem drop_units (n count : Nat) : (JsString.ofString
    (String.ofList ((toString n).toList.drop count))).units = (digitUnits n).drop count := by
  rw [Nat.toString_eq_ofList_toDigits, String.toList_ofList,
    ofList_digits fun c member => isDigit_toDigits (List.mem_of_mem_drop member), List.map_drop]
  rfl

theorem toString_length (n : Nat) : (toString n).length = (digitUnits n).length := by
  rw [Nat.toString_eq_ofList_toDigits, String.length_ofList]
  unfold digitUnits
  rw [List.length_map]

theorem fractionUnits_eq {fraction : List UInt16} (nonempty : fraction ≠ []) :
    fractionUnits fraction = 0x2e :: fraction := by
  cases fraction with
  | nil => exact absurd rfl nonempty
  | cons u rest => rfl

theorem no_power : ExponentDigits none := nofun

theorem digitUnits_canonical {n : Nat} (positive : 0 < n) {taken : List UInt16}
    (front : taken.head? = some 0x30 → (digitUnits n).head? = some 0x30) :
    taken.head? = some 0x30 → taken.length = 1 := fun zero => absurd (front zero) (digitUnits_head positive)

/-- Every number is written as a decimal that denotes it. -/
theorem magnitude_written {significand : Nat} {exponent : Int}
    (shortest : if significand = 0 then exponent = 0 else significand % 10 ≠ 0) :
    Nonempty (Written (JsString.ofString (JsNumber.magnitudeText significand exponent)).units
      significand exponent) := by
  unfold JsNumber.magnitudeText
  dsimp only
  rw [toString_length]
  by_cases zero : significand = 0
  · subst zero
    rw [if_pos rfl] at shortest ⊢
    subst shortest
    exact ⟨{
      whole := [0x30]
      fraction := []
      power := none
      shift := 0
      units_eq := rfl
      digits := List.forall_mem_singleton.mpr rfl
      nonempty := List.cons_ne_nil _ _
      canonical := fun _ => rfl
      fractionDigits := nofun
      powerDigits := no_power
      value_eq := rfl
      exponent_eq := rfl }⟩
  rw [if_neg zero]
  have positive : 0 < significand := Nat.pos_of_ne_zero zero
  have all := digitUnits_digits significand
  have value := digitsValue_digitUnits significand
  have some_digit : 0 < (digitUnits significand).length := List.length_pos_iff.mpr (digitUnits_ne_nil _)
  generalize count : (digitUnits significand).length = k at *
  split
  · -- all digits come before the point, and zeros after them
    rename_i large
    refine ⟨{
      whole := digitUnits significand ++ List.replicate (k + exponent - k).toNat 0x30
      fraction := []
      power := none
      shift := (k + exponent - k).toNat
      units_eq := ?_
      digits := ?_
      nonempty := by simp [digitUnits_ne_nil]
      canonical := ?_
      fractionDigits := nofun
      powerDigits := no_power
      value_eq := by rw [List.append_nil, digitsValue_append_zeros, value]
      exponent_eq := by simp [exponentValue]; omega }⟩
    · rw [ofString_append, toString_units, zeros_units]
      simp [fractionUnits, exponentUnits]
    · intro u member
      rcases List.mem_append.mp member with own | padding
      · exact all u own
      · exact zero_digits u padding
    · apply digitUnits_canonical positive
      rw [List.head?_append]
      cases digits : digitUnits significand with
      | nil => exact absurd digits (digitUnits_ne_nil _)
      | cons u rest => exact id
  split
  · -- the point is among the digits
    rename_i large inside
    have split_at : (k + exponent).toNat < k := by omega
    have before : (digitUnits significand).take (k + exponent).toNat ≠ [] := by
      rw [← List.length_pos_iff, List.length_take]
      omega
    have after : (digitUnits significand).drop (k + exponent).toNat ≠ [] := by
      rw [← List.length_pos_iff, List.length_drop]
      omega
    refine ⟨{
      whole := (digitUnits significand).take (k + exponent).toNat
      fraction := (digitUnits significand).drop (k + exponent).toNat
      power := none
      shift := 0
      units_eq := ?_
      digits := fun u member => all u (List.mem_of_mem_take member)
      nonempty := before
      canonical := ?_
      fractionDigits := fun u member => all u (List.mem_of_mem_drop member)
      powerDigits := no_power
      value_eq := by rw [List.take_append_drop, value, pow_zero, mul_one]
      exponent_eq := by simp [exponentValue, List.length_drop, count]; omega }⟩
    · rw [ofString_append, ofString_append, take_units, drop_units, fractionUnits_eq after]
      simp [exponentUnits]
      rfl
    · apply digitUnits_canonical positive
      intro front
      rw [List.head?_take] at front
      split at front
      · cases front
      · exact front
  split
  · -- zeros come between the point and the digits
    rename_i large inside small
    have digits_after : List.replicate (-(k + exponent)).toNat 0x30 ++ digitUnits significand ≠ [] := by
      simp [digitUnits_ne_nil]
    refine ⟨{
      whole := [0x30]
      fraction := List.replicate (-(k + exponent)).toNat 0x30 ++ digitUnits significand
      power := none
      shift := 0
      units_eq := ?_
      digits := List.forall_mem_singleton.mpr rfl
      nonempty := List.cons_ne_nil _ _
      canonical := fun _ => rfl
      fractionDigits := ?_
      powerDigits := no_power
      value_eq := ?_
      exponent_eq := by simp [exponentValue, count]; omega }⟩
    · rw [ofString_append, ofString_append, zeros_units, toString_units, fractionUnits_eq digits_after]
      simp [exponentUnits]
      rfl
    · intro u member
      rcases List.mem_append.mp member with padding | own
      · exact zero_digits u padding
      · exact all u own
    · rw [pow_zero, mul_one]
      exact (digitsValue_zeros _ _).trans value
  · -- one digit before the point, and an exponent
    rename_i large inside small
    have first : (digitUnits significand).take 1 ≠ [] := by
      rw [← List.length_pos_iff, List.length_take]
      omega
    have power : ExponentDigits (some (!decide (0 ≤ (k : Int) + exponent - 1),
        digitUnits ((k : Int) + exponent - 1).natAbs)) := by
      rintro e ⟨⟩
      exact ⟨digitUnits_ne_nil _, digitUnits_digits _⟩
    have sign : exponentValue (some (!decide (0 ≤ (k : Int) + exponent - 1),
        digitUnits ((k : Int) + exponent - 1).natAbs)) = k + exponent - 1 := by
      unfold exponentValue
      dsimp only
      rw [digitsValue_digitUnits]
      by_cases nonnegative : 0 ≤ (k : Int) + exponent - 1
      · rw [decide_eq_true nonnegative]
        show ((((k : Int) + exponent - 1).natAbs : Nat) : Int) = _
        omega
      · rw [decide_eq_false nonnegative]
        show -((((k : Int) + exponent - 1).natAbs : Nat) : Int) = _
        omega
    refine ⟨{
      whole := (digitUnits significand).take 1
      fraction := (digitUnits significand).drop 1
      power := some (!decide (0 ≤ (k : Int) + exponent - 1),
        digitUnits ((k : Int) + exponent - 1).natAbs)
      shift := 0
      units_eq := ?_
      digits := fun u member => all u (List.mem_of_mem_take member)
      nonempty := first
      canonical := ?_
      fractionDigits := fun u member => all u (List.mem_of_mem_drop member)
      powerDigits := power
      value_eq := by rw [List.take_append_drop, value, pow_zero, mul_one]
      exponent_eq := by rw [sign, List.length_drop, count]; omega }⟩
    · have mantissa : (JsString.ofString (if (k : Int) = 1 then toString significand
          else String.ofList ((toString significand).toList.take 1) ++ "." ++
            String.ofList ((toString significand).toList.drop 1))).units =
          (digitUnits significand).take 1 ++ fractionUnits ((digitUnits significand).drop 1) := by
        by_cases single : k = 1
        · subst single
          have rest : (digitUnits significand).drop 1 = [] := by
            rw [List.drop_eq_nil_iff, count]
          have whole : (digitUnits significand).take 1 = digitUnits significand := by
            rw [List.take_eq_self_iff, count]
          rw [if_pos Nat.cast_one, toString_units, rest, whole]
          simp [fractionUnits]
        · have rest : (digitUnits significand).drop 1 ≠ [] := by
            rw [ne_eq, List.drop_eq_nil_iff, count]
            omega
          rw [if_neg (by omega), ofString_append, ofString_append, take_units, drop_units,
            fractionUnits_eq rest]
          simp
          rfl
      rw [ofString_append, ofString_append, ofString_append, mantissa, toString_units]
      by_cases nonnegative : 0 ≤ (k : Int) + exponent - 1
      · rw [if_pos nonnegative, decide_eq_true nonnegative, List.append_assoc, List.append_assoc,
          List.append_assoc]
        rfl
      · rw [if_neg nonnegative, decide_eq_false nonnegative, List.append_assoc, List.append_assoc,
          List.append_assoc]
        rfl
    · apply digitUnits_canonical positive
      intro front
      rw [List.head?_take] at front
      exact front

theorem stripZeros_shift {fuel significand shift : Nat} (exponent : Int) (last : significand % 10 ≠ 0)
    (enough : shift ≤ fuel) :
    JsNumber.stripZeros fuel (significand * 10 ^ shift) (exponent - shift) = (significand, exponent) := by
  induction shift generalizing fuel with
  | zero =>
    have same : exponent - (0 : Nat) = exponent := by omega
    rw [pow_zero, mul_one, same]
    cases fuel with
    | zero => rfl
    | succ fuel => rw [JsNumber.stripZeros, if_neg fun h => last h.1]
  | succ shift ih =>
    cases fuel with
    | zero => omega
    | succ fuel =>
      have nonzero : significand * 10 ^ (shift + 1) ≠ 0 := by
        have positive : 0 < significand * 10 ^ (shift + 1) :=
          Nat.mul_pos (by omega) (Nat.pow_pos (by omega))
        omega
      have moved : exponent - (shift + 1 : Nat) + 1 = exponent - shift := by omega
      have tenth : significand * 10 ^ (shift + 1) / 10 = significand * 10 ^ shift := by
        rw [pow_succ, ← mul_assoc, Nat.mul_div_cancel _ (by omega)]
      have trailing : significand * 10 ^ (shift + 1) % 10 = 0 := by
        rw [pow_succ, ← mul_assoc, Nat.mul_mod_left]
      rw [JsNumber.stripZeros, if_pos ⟨trailing, nonzero⟩, tenth, moved]
      exact ih (by omega)

theorem number_ext {m n : JsNumber} (negative : m.negative = n.negative)
    (significand : m.significand = n.significand) (exponent : m.exponent = n.exponent) : m = n := by
  cases m
  cases n
  simp_all

/-- A decimal that denotes a number is read as it. -/
theorem ofDecimal_eq (n : JsNumber) (shift : Nat) (nonzero : n.significand ≠ 0) :
    JsNumber.ofDecimal n.negative (n.significand * 10 ^ shift) (n.exponent - shift) = n := by
  have last := n.shortest
  rw [if_neg nonzero] at last
  have positive : n.significand * 10 ^ shift ≠ 0 := by
    have : 0 < n.significand * 10 ^ shift := Nat.mul_pos (by omega) (Nat.pow_pos (by omega))
    omega
  have enough : shift ≤ n.significand * 10 ^ shift := by
    have grows : shift < 10 ^ shift := Nat.lt_pow_self (by omega)
    calc shift ≤ 1 * 10 ^ shift := by omega
      _ ≤ n.significand * 10 ^ shift := Nat.mul_le_mul_right _ (by omega)
  have stripped := stripZeros_shift n.exponent last enough
  unfold JsNumber.ofDecimal
  rw [dif_neg positive]
  apply number_ext
  · rfl
  · exact congrArg Prod.fst stripped
  · exact congrArg Prod.snd stripped

theorem ofDecimal_zero {significand : Nat} {exponent : Int} (negative : Bool) (zero : significand = 0) :
    JsNumber.ofDecimal negative significand exponent = ⟨negative, 0, 0, by simp⟩ := by
  subst zero
  rfl

theorem unsigned_zero {n : JsNumber} (zero : n.significand = 0) : n.unsigned = ⟨false, 0, 0, by simp⟩ := by
  have small := n.shortest
  rw [if_pos zero] at small
  unfold JsNumber.unsigned JsNumber.isNegativeZero
  cases sign : n.negative with
  | true =>
    rw [zero]
    rfl
  | false => exact number_ext sign zero small

theorem unsigned_nonzero {n : JsNumber} (nonzero : n.significand ≠ 0) : n.unsigned = n := by
  unfold JsNumber.unsigned JsNumber.isNegativeZero
  have distinct : (n.significand == 0) = false := beq_eq_false_iff_ne.mpr nonzero
  rw [distinct, Bool.and_false]
  rfl

/-- The digits of a magnitude are read back. -/
theorem readMagnitude_text {significand : Nat} {exponent : Int}
    (shortest : if significand = 0 then exponent = 0 else significand % 10 ≠ 0) (negative : Bool)
    {rest : List UInt16} (ends : Ends rest) :
    ∃ shift : Nat, readMagnitude negative
        ((JsString.ofString (JsNumber.magnitudeText significand exponent)).units ++ rest) =
      some (.ofDecimal negative (significand * 10 ^ shift) (exponent - shift), rest) := by
  obtain ⟨⟨whole, fraction, power, shift, units_eq, digits, nonempty, canonical, fractionDigits,
    powerDigits, value_eq, exponent_eq⟩⟩ := magnitude_written shortest
  refine ⟨shift, ?_⟩
  rw [units_eq, List.append_assoc, List.append_assoc, readMagnitude_append digits nonempty canonical
    fractionDigits powerDigits ends, value_eq, exponent_eq]

/-- A magnitude begins with a digit. -/
theorem magnitude_head {significand : Nat} {exponent : Int}
    (shortest : if significand = 0 then exponent = 0 else significand % 10 ≠ 0) :
    ∃ u rest, (JsString.ofString (JsNumber.magnitudeText significand exponent)).units = u :: rest ∧
      isDigit u = true := by
  obtain ⟨⟨whole, fraction, power, _, units_eq, digits, nonempty, _⟩⟩ := magnitude_written shortest
  cases whole with
  | nil => exact absurd rfl nonempty
  | cons u rest => exact ⟨u, _, units_eq, digits u List.mem_cons_self⟩

variable {N : NumberHost}

/-- A number is read back, but for the sign of zero. -/
theorem readNumber_text (n : JsNumber) {rest : List UInt16} (ends : Ends rest) :
    readNumber N (n.text.units ++ rest) =
      (N.nearest n.unsigned).map fun nearest => (.number nearest, rest) := by
  unfold JsNumber.text
  dsimp only
  by_cases signed : (n.negative && n.significand != 0) = true
  · obtain ⟨negative, nonzero⟩ := Bool.and_eq_true_iff.mp signed
    rw [bne_iff_ne] at nonzero
    obtain ⟨shift, read⟩ := readMagnitude_text n.shortest true ends
    have minus : (JsString.ofString "-").units = [0x2d] := by decide
    rw [if_pos signed, ofString_append, minus, List.append_assoc, List.singleton_append]
    show (readMagnitude true _).bind _ = _
    rw [read, ← negative, ofDecimal_eq n shift nonzero, unsigned_nonzero nonzero]
    show (N.nearest n).bind _ = _
    cases N.nearest n <;> rfl
  · rw [if_neg signed]
    obtain ⟨shift, read⟩ := readMagnitude_text n.shortest false ends
    obtain ⟨u, digits, written, digit⟩ := magnitude_head n.shortest
    have sign : u ≠ 0x2d := by
      rintro rfl
      cases digit
    have direct : readNumber N ((JsString.ofString (JsNumber.magnitudeText n.significand
        n.exponent)).units ++ rest) = (readMagnitude false ((JsString.ofString
          (JsNumber.magnitudeText n.significand n.exponent)).units ++ rest)).bind fun pair =>
            (N.nearest pair.1).bind fun nearest => some (.number nearest, pair.2) := by
      rw [written, List.cons_append]
      unfold readNumber
      split
      · rename_i same
        exact absurd (List.cons.inj same).1 sign
      · rfl
    rw [direct, read]
    have same : JsNumber.ofDecimal false (n.significand * 10 ^ shift) (n.exponent - shift) = n.unsigned := by
      by_cases zero : n.significand = 0
      · rw [ofDecimal_zero _ (by rw [zero, Nat.zero_mul]), unsigned_zero zero]
      · have positive : n.negative = false := by
          rw [Bool.and_eq_true, bne_iff_ne, not_and] at signed
          cases sign : n.negative with
          | false => rfl
          | true => exact absurd zero (signed sign)
        rw [← positive, ofDecimal_eq n shift zero, unsigned_nonzero zero]
    rw [same]
    show (N.nearest n.unsigned).bind _ = _
    cases N.nearest n.unsigned <;> rfl

theorem text_head (n : JsNumber) : ∃ u rest, n.text.units = u :: rest ∧ (u = 0x2d ∨ isDigit u = true) := by
  unfold JsNumber.text
  dsimp only
  obtain ⟨u, rest, written, digit⟩ := magnitude_head n.shortest
  split
  · rw [ofString_append]
    exact ⟨0x2d, _, rfl, .inl rfl⟩
  · exact ⟨u, rest, written, .inr digit⟩

end Numbers

section Strings

theorem hexDigit?_escape {n : Nat} (small : n < 16) :
    hexDigit? (if n < 10 then (n + 0x30).toUInt16 else (n + 0x57).toUInt16) = some n := by
  have every : ∀ n < 16,
      hexDigit? (if n < 10 then (n + 0x30).toUInt16 else (n + 0x57).toUInt16) = some n := by decide
  exact every n small

theorem readString_quote (rest : List UInt16) : readString (0x22 :: rest) = some ([], rest) := by
  rw [readString.eq_def]
  rfl

theorem readString_plain {u : UInt16} (quote : u ≠ 0x22) (backslash : u ≠ 0x5c) (printable : ¬u < 0x20)
    (rest : List UInt16) : readString (u :: rest) = (readString rest).map (consUnit u) := by
  rw [readString.eq_def]
  dsimp only
  rw [if_neg quote, if_neg backslash, if_neg printable]

theorem readString_escape {e unit : UInt16} (known : escaped? e = some unit) (other : e ≠ 0x75)
    (rest : List UInt16) : readString (0x5c :: e :: rest) = (readString rest).map (consUnit unit) := by
  rw [readString.eq_def]
  dsimp only
  rw [if_neg (by decide), if_pos rfl, if_neg other, known]
  rfl

theorem readString_unicode {a b c d unit : UInt16} (hex : hexUnit? a b c d = some unit)
    (rest : List UInt16) :
    readString (0x5c :: 0x75 :: a :: b :: c :: d :: rest) = (readString rest).map (consUnit unit) := by
  rw [readString.eq_def]
  dsimp only
  rw [if_neg (by decide), if_pos rfl, if_pos rfl, hex]
  rfl

theorem readString_unicodeEscape (u : UInt16) (rest : List UInt16) :
    readString (unicodeEscape u ++ rest) = (readString rest).map (consUnit u) := by
  have bound := UInt16.toNat_lt u
  have unit : ((u.toNat / 0x1000 * 16 + u.toNat / 0x100 % 16) * 16 + u.toNat / 0x10 % 16) * 16 +
      u.toNat % 16 = u.toNat := by omega
  have back : u.toNat.toUInt16 = u := UInt16.ofNat_toNat
  apply readString_unicode
  unfold hexUnit?
  rw [hexDigit?_escape (by omega), hexDigit?_escape (by omega), hexDigit?_escape (by omega),
    hexDigit?_escape (by omega)]
  show some (Nat.toUInt16 _) = _
  rw [unit, back]

theorem readString_escapeUnit (u : UInt16) (rest : List UInt16) :
    readString (escapeUnit u ++ rest) = (readString rest).map (consUnit u) := by
  unfold escapeUnit
  split
  · rename_i quoted
    rw [Bool.or_eq_true, beq_iff_eq, beq_iff_eq] at quoted
    rcases quoted with rfl | rfl
    · exact readString_escape rfl (by decide) rest
    · exact readString_escape rfl (by decide) rest
  split
  · rename_i same
    rw [beq_iff_eq.mp same]
    exact readString_escape rfl (by decide) rest
  split
  · rename_i same
    rw [beq_iff_eq.mp same]
    exact readString_escape rfl (by decide) rest
  split
  · rename_i same
    rw [beq_iff_eq.mp same]
    exact readString_escape rfl (by decide) rest
  split
  · rename_i same
    rw [beq_iff_eq.mp same]
    exact readString_escape rfl (by decide) rest
  split
  · rename_i same
    rw [beq_iff_eq.mp same]
    exact readString_escape rfl (by decide) rest
  split
  · exact readString_unicodeEscape u rest
  · rename_i quoted _ _ _ _ _ plain
    simp only [Bool.or_eq_true, beq_iff_eq, not_or, decide_eq_true_eq] at quoted plain
    exact readString_plain quoted.1 quoted.2 plain.1.1 rest

theorem readString_surrogate {u : UInt16} (large : 0xd800 ≤ u.toNat) (rest : List UInt16) :
    readString (u :: rest) = (readString rest).map (consUnit u) := by
  apply readString_plain
  · rintro rfl
    exact absurd large (by decide)
  · rintro rfl
    exact absurd large (by decide)
  · simp only [UInt16.lt_iff_toNat_lt, UInt16.reduceToNat]
    omega

/-- A literal is read as the string it quotes. -/
theorem readString_quoteUnits (units rest : List UInt16) :
    readString (quoteUnits units ++ 0x22 :: rest) = some (units, rest) := by
  induction units using quoteUnits.induct with
  | case1 =>
    rw [quoteUnits, List.nil_append]
    exact readString_quote rest
  | case2 u v tail pair ih =>
    -- a pair of surrogates is written as it is
    obtain ⟨high, low⟩ := Bool.and_eq_true_iff.mp pair
    unfold isHighSurrogate at high
    unfold isLowSurrogate at low
    simp only [Bool.and_eq_true, decide_eq_true_eq, UInt16.le_iff_toNat_le, UInt16.reduceToNat]
      at high low
    rw [quoteUnits, if_pos pair, List.cons_append, List.cons_append,
      readString_surrogate (by omega), readString_surrogate (by omega), ih]
    rfl
  | case3 u v tail pair ih =>
    rw [quoteUnits, if_neg pair, List.append_assoc, readString_escapeUnit, ih]
    rfl
  | case4 u =>
    rw [quoteUnits, readString_escapeUnit, readString_quote]
    rfl

end Strings

section Objects

theorem entries_foldl_set {ν : Type} (members : List (JsString × ν)) (m : JsMap JsString ν)
    (nodup : (members.map Prod.fst).Nodup) (fresh : ∀ key ∈ members.map Prod.fst, key ∉ m.keys) :
    (members.foldl (fun m (key, value) => m.set key value) m).entries = m.entries ++ members := by
  induction members generalizing m with
  | nil => simp
  | cons member rest ih =>
    obtain ⟨key, value⟩ := member
    rw [List.map_cons, List.nodup_cons] at nodup
    have absent : m.get? key = none := JsMap.get?_eq_none_iff.mpr (fresh key List.mem_cons_self)
    have placed : (m.set key value).entries = m.entries ++ [(key, value)] := by
      unfold JsMap.set
      rw [dif_pos absent]
    rw [List.foldl_cons, ih _ nodup.2, placed, List.append_assoc, List.singleton_append]
    intro other member known
    unfold JsMap.keys at known
    rw [placed, List.map_append, List.mem_append] at known
    rcases known with known | known
    · exact fresh other (List.mem_cons_of_mem _ member) known
    · rw [List.map_singleton, List.mem_singleton] at known
      subst known
      exact nodup.1 member

theorem filter_of_front {α : Type} {p : α → Bool} {l : List α} (front : (l.dropWhile p).any p = false) :
    l.filter p = l.takeWhile p ∧ l.filter (fun x => !p x) = l.dropWhile p := by
  induction l with
  | nil => exact ⟨rfl, rfl⟩
  | cons x rest ih =>
    by_cases held : p x = true
    · rw [List.dropWhile_cons_of_pos held] at front
      obtain ⟨kept, dropped⟩ := ih front
      rw [List.filter_cons_of_pos held, List.takeWhile_cons_of_pos held, kept,
        List.filter_cons_of_neg (by simp [held]), List.dropWhile_cons_of_pos held, dropped]
      exact ⟨rfl, rfl⟩
    · rw [List.dropWhile_cons_of_neg held] at front
      rw [List.takeWhile_cons_of_neg held, List.dropWhile_cons_of_neg held, List.filter_eq_nil_iff,
        List.filter_eq_self]
      rw [List.any_eq_false] at front
      exact ⟨front, fun y member => by simpa using front y member⟩

/-- Members that are enumerated in their order make an object of them. -/
theorem objectOf_enumerated {members : List (JsString × Json)}
    (inOrder : enumerated (members.map Prod.fst) = true) : objectOf members = .record members := by
  unfold enumerated at inOrder
  rw [Bool.and_eq_true, Bool.and_eq_true, decide_eq_true_eq, decide_eq_true_eq, Bool.not_eq_true',
    List.takeWhile_map, List.pairwise_map, List.dropWhile_map, List.any_map] at inOrder
  obtain ⟨⟨nodup, ascending⟩, others⟩ := inOrder
  have stored := entries_foldl_set members .empty nodup fun _ _ found => by cases found
  obtain ⟨indices, names⟩ := filter_of_front others
  have parts : members.filter (fun member => member.1.isArrayIndex) =
      members.takeWhile (JsString.isArrayIndex ∘ Prod.fst) := indices
  have rest : members.filter (fun member => !member.1.isArrayIndex) =
      members.dropWhile (JsString.isArrayIndex ∘ Prod.fst) := names
  unfold objectOf
  rw [stored, show JsMap.empty.entries ++ members = members from rfl]
  dsimp only
  rw [parts, rest, List.mergeSort_of_pairwise ascending, List.takeWhile_append_dropWhile]

theorem keys_readBackMembers (members : List (JsString × Json)) :
    (readBackMembers members).map Prod.fst = members.map Prod.fst := by
  induction members with
  | nil => rfl
  | cons member rest ih => rw [readBackMembers, List.map_cons, List.map_cons, ih]

end Objects

section Values

/-- A value does not begin with a space. -/
theorem stringify_head (value : Json) : ∃ u rest, value.stringify.units = u :: rest ∧
    (u = 0x22 ∨ u = 0x5b ∨ u = 0x7b ∨ u = 0x6e ∨ u = 0x74 ∨ u = 0x66 ∨ u = 0x2d ∨ isDigit u = true) := by
  cases value with
  | null => exact ⟨_, _, rfl, by decide⟩
  | bool flag =>
    cases flag
    · exact ⟨_, _, rfl, by decide⟩
    · exact ⟨_, _, rfl, by decide⟩
  | number n =>
    obtain ⟨u, rest, written, first⟩ := text_head n
    refine ⟨u, rest, written, ?_⟩
    rcases first with rfl | digit
    · decide
    · simp [digit]
  | string text => exact ⟨0x22, _, rfl, by decide⟩
  | array elements => exact ⟨0x5b, _, rfl, by decide⟩
  | object readOnly members => exact ⟨0x7b, _, rfl, by decide⟩

theorem digit_toNat {u : UInt16} (digit : isDigit u = true) : 0x30 ≤ u.toNat ∧ u.toNat ≤ 0x39 := by
  simpa [isDigit, UInt16.le_iff_toNat_le] using digit

theorem skipSpace_stringify (value : Json) (rest : List UInt16) :
    skipSpace (value.stringify.units ++ rest) = value.stringify.units ++ rest := by
  obtain ⟨u, tail, written, first⟩ := stringify_head value
  rw [written, List.cons_append]
  unfold skipSpace
  apply List.dropWhile_cons_of_neg
  rcases first with rfl | rfl | rfl | rfl | rfl | rfl | rfl | digit
  iterate 7 decide
  have bounds := digit_toNat digit
  intro space
  simp only [Bool.or_eq_true, beq_iff_eq] at space
  rcases space with ((rfl | rfl) | rfl) | rfl <;> simp at bounds

mutual
/-- How deep the reading of a value goes. -/
def depth : Json → Nat
  | .null | .bool _ | .number _ | .string _ => 1
  | .array elements => 1 + elementsDepth elements
  | .object _ members => 1 + membersDepth members

def elementsDepth : List Json → Nat
  | [] => 0
  | x :: rest => 1 + max (depth x) (elementsDepth rest)

def membersDepth : List (JsString × Json) → Nat
  | [] => 0
  | (_, x) :: rest => 1 + max (depth x) (membersDepth rest)
end

variable {N : NumberHost}

theorem readWord_append (word : String) {value : Json} (rest : List UInt16)
    (ascii : (JsString.ofString word).units.length = word.length) :
    readWord word value ((JsString.ofString word).units ++ rest) = some (value, rest) := by
  unfold readWord
  rw [if_pos (List.isPrefixOf_iff_prefix.mpr (List.prefix_append _ _)), ← ascii, List.drop_left]

/-- The text of an array that is not empty. -/
theorem elements_units (x : Json) (xs : List Json) (rest : List UInt16) :
    (Json.array (x :: xs)).stringify.units ++ rest =
      0x5b :: ((stringifyElements (x :: xs)).units ++ 0x5d :: rest) := by
  show (("[" : JsString) ++ stringifyElements (x :: xs) ++ ("]" : JsString)).units ++ rest = _
  have opening : ("[" : JsString).units = [0x5b] := by decide
  have closing : ("]" : JsString).units = [0x5d] := by decide
  show (("[" : JsString).units ++ (stringifyElements (x :: xs)).units ++ ("]" : JsString).units) ++ rest = _
  rw [opening, closing, List.append_assoc, List.append_assoc]
  rfl

theorem members_units (readOnly : Option (List JsString)) (x : JsString × Json)
    (xs : List (JsString × Json)) (rest : List UInt16) :
    (Json.object readOnly (x :: xs)).stringify.units ++ rest =
      0x7b :: ((stringifyMembers (x :: xs)).units ++ 0x7d :: rest) := by
  have opening : ("\x7b" : JsString).units = [0x7b] := by decide
  have closing : ("\x7d" : JsString).units = [0x7d] := by decide
  show (("\x7b" : JsString).units ++ (stringifyMembers (x :: xs)).units ++
    ("\x7d" : JsString).units) ++ rest = _
  rw [opening, closing, List.append_assoc, List.append_assoc]
  rfl

/-- The elements of an array, with a comma before each but the first. -/
theorem stringifyElements_cons (x y : Json) (xs : List Json) (rest : List UInt16) :
    (stringifyElements (x :: y :: xs)).units ++ rest =
      x.stringify.units ++ 0x2c :: ((stringifyElements (y :: xs)).units ++ rest) := by
  have comma : ("," : JsString).units = [0x2c] := by decide
  show (x.stringify.units ++ ("," : JsString).units ++ (stringifyElements (y :: xs)).units) ++ rest = _
  rw [comma, List.append_assoc, List.append_assoc]
  rfl

theorem stringifyMembers_single (k : JsString) (x : Json) (rest : List UInt16) :
    (stringifyMembers [(k, x)]).units ++ rest =
      0x22 :: (quoteUnits k.units ++ 0x22 :: 0x3a :: (x.stringify.units ++ rest)) := by
  have colon : (":" : JsString).units = [0x3a] := by decide
  show ((0x22 :: quoteUnits k.units ++ [0x22]) ++ (":" : JsString).units ++ x.stringify.units) ++ rest = _
  rw [colon]
  simp

theorem stringifyMembers_cons (k : JsString) (x : Json) (y : JsString × Json)
    (xs : List (JsString × Json)) (rest : List UInt16) :
    (stringifyMembers ((k, x) :: y :: xs)).units ++ rest =
      0x22 :: (quoteUnits k.units ++ 0x22 :: 0x3a :: (x.stringify.units ++
        0x2c :: ((stringifyMembers (y :: xs)).units ++ rest))) := by
  have colon : (":" : JsString).units = [0x3a] := by decide
  have comma : ("," : JsString).units = [0x2c] := by decide
  show ((0x22 :: quoteUnits k.units ++ [0x22]) ++ (":" : JsString).units ++ x.stringify.units ++
    ("," : JsString).units ++ (stringifyMembers (y :: xs)).units) ++ rest = _
  rw [colon, comma]
  simp

theorem elements_head (x : Json) (xs : List Json) (rest : List UInt16) :
    ∃ u tail, (stringifyElements (x :: xs)).units ++ rest = u :: tail ∧ u ≠ 0x5d ∧
      skipSpace (u :: tail) = u :: tail := by
  have start : ∃ tail, (stringifyElements (x :: xs)).units ++ rest = x.stringify.units ++ tail := by
    cases xs with
    | nil => exact ⟨_, rfl⟩
    | cons y xs => exact ⟨_, stringifyElements_cons x y xs rest⟩
  obtain ⟨tail, same⟩ := start
  obtain ⟨u, units, written, first⟩ := stringify_head x
  have space := skipSpace_stringify x tail
  rw [same, written] at *
  refine ⟨u, _, rfl, ?_, space⟩
  rintro rfl
  revert first
  decide

theorem ends_comma (rest : List UInt16) : Ends (0x2c :: rest) := by
  rintro u ⟨⟩
  exact .inl rfl

theorem ends_bracket (rest : List UInt16) : Ends (0x5d :: rest) := by
  rintro u ⟨⟩
  exact .inr (.inl rfl)

theorem ends_brace (rest : List UInt16) : Ends (0x7d :: rest) := by
  rintro u ⟨⟩
  exact .inr (.inr rfl)

/-- The input that begins with a number. -/
theorem readValue_number (n : JsNumber) (fuel : Nat) {rest : List UInt16} (ends : Ends rest)
    (nearest : N.nearest n.unsigned = some n.unsigned) :
    readValue N (fuel + 1) (n.text.units ++ rest) = some (.number n.unsigned, rest) := by
  have space := skipSpace_stringify (.number n) rest
  change skipSpace (n.text.units ++ rest) = n.text.units ++ rest at space
  have read := @readNumber_text N n _ ends
  rw [nearest] at read
  obtain ⟨u, tail, written, first⟩ := text_head n
  rw [written, List.cons_append] at space read ⊢
  have apart : ∀ v : UInt16, v ≠ 0x2d → isDigit v = false → u ≠ v := by
    rintro v sign noDigit rfl
    rcases first with same | digit
    · exact sign same
    · rw [digit] at noDigit
      cases noDigit
  rw [readValue, space]
  dsimp only
  rw [if_neg (apart _ (by decide) rfl), if_neg (apart _ (by decide) rfl),
    if_neg (apart _ (by decide) rfl), if_neg (apart _ (by decide) rfl),
    if_neg (apart _ (by decide) rfl), if_neg (apart _ (by decide) rfl)]
  exact read

theorem readValue_array {fuel : Nat} {u : UInt16} {tail rest : List UInt16} {elements : List Json}
    (open_array : u ≠ 0x5d) (space : skipSpace (u :: tail) = u :: tail)
    (read : readElements N fuel (u :: tail) = some (elements, rest)) :
    readValue N (fuel + 1) (0x5b :: u :: tail) = some (.array elements, rest) := by
  have here : skipSpace (0x5b :: u :: tail) = 0x5b :: u :: tail := rfl
  rw [readValue, here]
  dsimp only
  rw [if_neg (by decide), if_pos rfl, space]
  split
  · rename_i same
    exact absurd (List.cons.inj same).1 open_array
  · rw [read]
    rfl

theorem readValue_object {fuel : Nat} {tail rest : List UInt16} {members : List (JsString × Json)}
    (read : readMembers N fuel (0x22 :: tail) = some (members, rest)) :
    readValue N (fuel + 1) (0x7b :: 0x22 :: tail) = some (objectOf members, rest) := by
  have here : skipSpace (0x7b :: 0x22 :: tail) = 0x7b :: 0x22 :: tail := rfl
  have inside : skipSpace (0x22 :: tail) = 0x22 :: tail := rfl
  rw [readValue, here]
  dsimp only
  rw [if_neg (by decide), if_neg (by decide), if_pos rfl, inside]
  simp only [read]
  rfl

/-- What `readMembers` does once it has read a member. -/
def afterMember (N : NumberHost) (fuel : Nat) (member : JsString × Json) (rest : List UInt16) :
    Option (List (JsString × Json) × List UInt16) :=
  match skipSpace rest with
  | 0x2c :: rest => (readMembers N fuel rest).map fun (members, rest) => (member :: members, rest)
  | 0x7d :: rest => some ([member], rest)
  | _ => none

theorem readMembers_key {fuel : Nat} (k : JsString) {value : Json} {tail rest : List UInt16}
    (read : readValue N fuel tail = some (value, rest)) :
    readMembers N (fuel + 1) (0x22 :: (quoteUnits k.units ++ 0x22 :: 0x3a :: tail)) =
      afterMember N fuel (k, value) rest := by
  have here : ∀ tail, skipSpace (0x22 :: tail) = 0x22 :: tail := fun _ => rfl
  have colon : skipSpace (0x3a :: tail) = 0x3a :: tail := rfl
  rw [readMembers, here]
  simp only [readString_quoteUnits, colon, read]
  rfl

mutual
/-- What `JSON.parse` makes of the text of any value: the members of its objects are
enumerated anew. -/
def rebuilt : Json → Json
  | .null => .null
  | .bool flag => .bool flag
  | .number n => .number n.unsigned
  | .string text => .string text
  | .array elements => .array (rebuiltElements elements)
  | .object _ members => objectOf (rebuiltMembers members)

def rebuiltElements : List Json → List Json
  | [] => []
  | x :: rest => rebuilt x :: rebuiltElements rest

def rebuiltMembers : List (JsString × Json) → List (JsString × Json)
  | [] => []
  | (k, x) :: rest => (k, rebuilt x) :: rebuiltMembers rest
end

variable (N) in
mutual
/-- A value whose numbers are the nearest to themselves. -/
def numbersNearest : Json → Bool
  | .number n => N.nearest n.unsigned == some n.unsigned
  | .array elements => elementsNearest elements
  | .object _ members => membersNearest members
  | .null | .bool _ | .string _ => true

def elementsNearest : List Json → Bool
  | [] => true
  | x :: rest => numbersNearest x && elementsNearest rest

def membersNearest : List (JsString × Json) → Bool
  | [] => true
  | (_, x) :: rest => numbersNearest x && membersNearest rest
end

mutual
/-- The text of a value is read as the value, its members enumerated anew. -/
theorem readValue_rebuilt : (value : Json) → numbersNearest N value = true → ∀ (fuel : Nat)
    (rest : List UInt16), depth value ≤ fuel → Ends rest →
      readValue N fuel (value.stringify.units ++ rest) = some (value.rebuilt, rest)
  | value, _, 0, _, enough, _ => by cases value <;> simp [depth] at enough
  | .null, _, fuel + 1, rest, _, _ => by
    have here : skipSpace ((JsString.ofString "null").units ++ rest) =
        (JsString.ofString "null").units ++ rest := rfl
    show readValue N (fuel + 1) ((JsString.ofString "null").units ++ rest) = _
    rw [readValue, here]
    exact readWord_append "null" rest (by decide)
  | .bool true, _, fuel + 1, rest, _, _ => by
    have here : skipSpace ((JsString.ofString "true").units ++ rest) =
        (JsString.ofString "true").units ++ rest := rfl
    show readValue N (fuel + 1) ((JsString.ofString "true").units ++ rest) = _
    rw [readValue, here]
    exact readWord_append "true" rest (by decide)
  | .bool false, _, fuel + 1, rest, _, _ => by
    have here : skipSpace ((JsString.ofString "false").units ++ rest) =
        (JsString.ofString "false").units ++ rest := rfl
    show readValue N (fuel + 1) ((JsString.ofString "false").units ++ rest) = _
    rw [readValue, here]
    exact readWord_append "false" rest (by decide)
  | .number n, near, fuel + 1, rest, _, ends => readValue_number n fuel ends (beq_iff_eq.mp near)
  | .string text, _, fuel + 1, rest, _, _ => by
    have here : ∀ tail, skipSpace (0x22 :: tail) = 0x22 :: tail := fun _ => rfl
    show readValue N (fuel + 1) ((0x22 :: quoteUnits text.units ++ [0x22]) ++ rest) = _
    rw [List.append_assoc, List.cons_append, readValue, here]
    dsimp only
    rw [if_pos rfl, List.singleton_append, readString_quoteUnits]
    rfl
  | .array [], _, fuel + 1, rest, _, _ => by
    show readValue N (fuel + 1) (0x5b :: 0x5d :: rest) = _
    rw [readValue]
    rfl
  | .array (x :: xs), near, fuel + 1, rest, enough, _ => by
    obtain ⟨u, tail, same, other, space⟩ := elements_head x xs (0x5d :: rest)
    have read := readElements_rebuilt x xs near fuel rest (by simp only [depth] at enough; omega)
    rw [elements_units, same]
    rw [same] at read
    exact readValue_array other space read
  | .object readOnly [], _, fuel + 1, rest, _, _ => by
    have empty : (Json.object readOnly []).rebuilt = .record [] := objectOf_enumerated rfl
    show readValue N (fuel + 1) (0x7b :: 0x7d :: rest) = _
    rw [readValue, empty]
    rfl
  | .object readOnly (x :: xs), near, fuel + 1, rest, enough, _ => by
    have read := readMembers_rebuilt x xs near fuel rest (by simp only [depth] at enough; omega)
    have start : ∃ tail, (stringifyMembers (x :: xs)).units ++ 0x7d :: rest = 0x22 :: tail := by
      cases xs with
      | nil => exact ⟨_, stringifyMembers_single x.1 x.2 _⟩
      | cons y xs => exact ⟨_, stringifyMembers_cons x.1 x.2 y xs _⟩
    obtain ⟨tail, same⟩ := start
    rw [members_units, same]
    rw [same] at read
    exact readValue_object read

theorem readElements_rebuilt : (x : Json) → (xs : List Json) → elementsNearest N (x :: xs) = true →
    ∀ (fuel : Nat) (rest : List UInt16), elementsDepth (x :: xs) ≤ fuel →
      readElements N fuel ((stringifyElements (x :: xs)).units ++ 0x5d :: rest) =
        some (rebuiltElements (x :: xs), rest)
  | x, xs, _, 0, _, enough => by simp [elementsDepth] at enough
  | x, [], near, fuel + 1, rest, enough => by
    rw [elementsNearest, Bool.and_eq_true] at near
    simp only [elementsDepth] at enough
    have read := readValue_rebuilt x near.1 fuel (0x5d :: rest) (by omega) (ends_bracket rest)
    show readElements N (fuel + 1) (x.stringify.units ++ 0x5d :: rest) = _
    rw [readElements, read]
    rfl
  | x, y :: ys, near, fuel + 1, rest, enough => by
    rw [elementsNearest, Bool.and_eq_true] at near
    rw [elementsDepth] at enough
    have read := readValue_rebuilt x near.1 fuel
      (0x2c :: ((stringifyElements (y :: ys)).units ++ 0x5d :: rest)) (by omega) (ends_comma _)
    have others := readElements_rebuilt y ys near.2 fuel rest (by omega)
    have comma : ∀ tail, skipSpace (0x2c :: tail) = 0x2c :: tail := fun _ => rfl
    rw [stringifyElements_cons, readElements, read]
    simp only [comma, others]
    rfl

theorem readMembers_rebuilt : (x : JsString × Json) → (xs : List (JsString × Json)) →
    membersNearest N (x :: xs) = true → ∀ (fuel : Nat) (rest : List UInt16),
      membersDepth (x :: xs) ≤ fuel →
        readMembers N fuel ((stringifyMembers (x :: xs)).units ++ 0x7d :: rest) =
          some (rebuiltMembers (x :: xs), rest)
  | x, xs, _, 0, _, enough => by simp [membersDepth] at enough
  | (k, x), [], near, fuel + 1, rest, enough => by
    rw [membersNearest, Bool.and_eq_true] at near
    simp only [membersDepth] at enough
    have read := readValue_rebuilt x near.1 fuel (0x7d :: rest) (by omega) (ends_brace rest)
    rw [stringifyMembers_single, readMembers_key k read]
    rfl
  | (k, x), y :: ys, near, fuel + 1, rest, enough => by
    rw [membersNearest, Bool.and_eq_true] at near
    rw [membersDepth] at enough
    have read := readValue_rebuilt x near.1 fuel
      (0x2c :: ((stringifyMembers (y :: ys)).units ++ 0x7d :: rest)) (by omega) (ends_comma _)
    have others := readMembers_rebuilt y ys near.2 fuel rest (by omega)
    have comma : ∀ tail, skipSpace (0x2c :: tail) = 0x2c :: tail := fun _ => rfl
    rw [stringifyMembers_cons, readMembers_key k read]
    simp only [afterMember, comma, others]
    rfl
end

mutual
/-- The members of a value of the host are enumerated already. -/
theorem rebuilt_of_isPlain : (value : Json) → isPlain N value = true →
    numbersNearest N value = true ∧ value.rebuilt = value.readBack
  | .null, _ | .bool _, _ | .string _, _ => ⟨rfl, rfl⟩
  | .number n, plain => ⟨plain, rfl⟩
  | .array elements, plain => by
    obtain ⟨near, same⟩ := rebuiltElements_of_plain elements plain
    exact ⟨near, congrArg Json.array same⟩
  | .object readOnly members, plain => by
    rw [isPlain, Bool.and_eq_true, Bool.and_eq_true, Option.isNone_iff_eq_none] at plain
    obtain ⟨⟨rfl, inOrder⟩, plain⟩ := plain
    obtain ⟨near, same⟩ := rebuiltMembers_of_plain members plain
    refine ⟨near, ?_⟩
    rw [rebuilt, same, objectOf_enumerated (by rw [keys_readBackMembers]; exact inOrder)]
    rfl

theorem rebuiltElements_of_plain : (elements : List Json) → plainElements N elements = true →
    elementsNearest N elements = true ∧ rebuiltElements elements = readBackElements elements
  | [], _ => ⟨rfl, rfl⟩
  | x :: rest, plain => by
    rw [plainElements, Bool.and_eq_true] at plain
    obtain ⟨near, same⟩ := rebuilt_of_isPlain x plain.1
    obtain ⟨others, sameRest⟩ := rebuiltElements_of_plain rest plain.2
    rw [elementsNearest, rebuiltElements, readBackElements, near, others, same, sameRest]
    exact ⟨rfl, rfl⟩

theorem rebuiltMembers_of_plain : (members : List (JsString × Json)) → plainMembers N members = true →
    membersNearest N members = true ∧ rebuiltMembers members = readBackMembers members
  | [], _ => ⟨rfl, rfl⟩
  | (k, x) :: rest, plain => by
    rw [plainMembers, Bool.and_eq_true] at plain
    obtain ⟨near, same⟩ := rebuilt_of_isPlain x plain.1
    obtain ⟨others, sameRest⟩ := rebuiltMembers_of_plain rest plain.2
    rw [membersNearest, rebuiltMembers, readBackMembers, near, others, same, sameRest]
    exact ⟨rfl, rfl⟩
end

theorem length_pos (value : Json) : 0 < value.stringify.length := by
  obtain ⟨u, rest, written, _⟩ := stringify_head value
  unfold JsString.length
  rw [written, List.length_cons]
  omega

theorem length_elements (elements : List Json) :
    (Json.array elements).stringify.length = (stringifyElements elements).length + 2 := by
  have opening : ("[" : JsString).units.length = 1 := by decide
  have closing : ("]" : JsString).units.length = 1 := by decide
  show (("[" : JsString).units ++ (stringifyElements elements).units ++ ("]" : JsString).units).length = _
  rw [List.length_append, List.length_append, opening, closing]
  unfold JsString.length
  omega

theorem length_members (readOnly : Option (List JsString)) (members : List (JsString × Json)) :
    (Json.object readOnly members).stringify.length = (stringifyMembers members).length + 2 := by
  have opening : ("\x7b" : JsString).units.length = 1 := by decide
  have closing : ("\x7d" : JsString).units.length = 1 := by decide
  show (("\x7b" : JsString).units ++ (stringifyMembers members).units ++
    ("\x7d" : JsString).units).length = _
  rw [List.length_append, List.length_append, opening, closing]
  unfold JsString.length
  omega

mutual
/-- A text is long enough for the depth of its value. -/
theorem depth_le : (value : Json) → depth value ≤ 2 * value.stringify.length
  | .null => by
    have positive := length_pos .null
    rw [depth]
    omega
  | .bool flag => by
    have positive := length_pos (.bool flag)
    rw [depth]
    omega
  | .number n => by
    have positive := length_pos (.number n)
    rw [depth]
    omega
  | .string text => by
    have positive := length_pos (.string text)
    rw [depth]
    omega
  | .array elements => by
    have inner := elementsDepth_le elements
    rw [depth, length_elements]
    omega
  | .object readOnly members => by
    have inner := membersDepth_le members
    rw [depth, length_members]
    omega

theorem elementsDepth_le : (elements : List Json) →
    elementsDepth elements ≤ 2 * (stringifyElements elements).length + 1
  | [] => by rw [elementsDepth]; omega
  | [x] => by
    have first := depth_le x
    rw [elementsDepth, elementsDepth]
    show 1 + max x.depth 0 ≤ 2 * x.stringify.length + 1
    omega
  | x :: y :: ys => by
    have first := depth_le x
    have others := elementsDepth_le (y :: ys)
    have units := congrArg List.length (stringifyElements_cons x y ys [])
    rw [List.append_nil, List.append_nil, List.length_append, List.length_cons] at units
    rw [elementsDepth]
    unfold JsString.length at *
    omega

theorem membersDepth_le : (members : List (JsString × Json)) →
    membersDepth members ≤ 2 * (stringifyMembers members).length + 1
  | [] => by rw [membersDepth]; omega
  | [(k, x)] => by
    have first := depth_le x
    have units := congrArg List.length (stringifyMembers_single k x [])
    rw [List.append_nil, List.append_nil] at units
    simp only [List.length_cons, List.length_append] at units
    rw [membersDepth, membersDepth]
    unfold JsString.length at *
    omega
  | (k, x) :: y :: ys => by
    have first := depth_le x
    have others := membersDepth_le (y :: ys)
    have units := congrArg List.length (stringifyMembers_cons k x y ys [])
    rw [List.append_nil, List.append_nil] at units
    simp only [List.length_cons, List.length_append] at units
    rw [membersDepth]
    unfold JsString.length at *
    omega
end

theorem parse_rebuilt {value : Json} (near : numbersNearest N value = true) :
    parse N value.stringify = some value.rebuilt := by
  have read := readValue_rebuilt value near (2 * value.stringify.length) [] (depth_le value) nofun
  rw [List.append_nil] at read
  unfold parse
  rw [read]
  rfl

/-- `JSON.parse(JSON.stringify(value))`. -/
theorem parse_stringify {value : Json} (plain : isPlain N value = true) :
    parse N value.stringify = some value.readBack := by
  obtain ⟨near, same⟩ := rebuilt_of_isPlain value plain
  rw [parse_rebuilt near, same]

end Values
end Json
end PiToPi
