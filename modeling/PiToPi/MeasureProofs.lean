import PiToPi.JsonTextProofs
import PiToPi.Validation

/-!
`measureJsonBytes` against the encoder: a value is measured at `n` just when its text
takes `n` bytes of UTF-8, as long as it has room in the limits of depth, nodes and bytes.
-/
namespace PiToPi

namespace JsString
open Validation (plainByteLength)

/-- A unit that is no surrogate takes the bytes of its own. -/
theorem utf8Length_cons {u : UInt16} {units : List UInt16} (plain : isSurrogate u = false) :
    utf8Length (u :: units) = plainByteLength u + utf8Length units := by
  have high : isHighSurrogate u = false := (Bool.or_eq_false_iff.mp plain).1
  have bytes : (if u < 0x80 then 1 else if u < 0x800 then 2 else 3) = plainByteLength u := by
    unfold plainByteLength
    simp only [UInt16.lt_iff_toNat_lt, UInt16.le_iff_toNat_le, UInt16.reduceToNat]
    split_ifs <;> omega
  cases units with
  | nil => simp only [utf8Length, bytes, Nat.add_zero]
  | cons v rest => simp [utf8Length, high, bytes]

theorem utf8Length_append {a : List UInt16} (wellFormed : isWellFormed a = true) (b : List UInt16) :
    utf8Length (a ++ b) = utf8Length a + utf8Length b := by
  induction a using isWellFormed.induct with
  | case1 => simp [utf8Length]
  | case2 u v rest pair ih =>
    rw [isWellFormed, if_pos pair] at wellFormed
    rw [List.cons_append, List.cons_append, utf8Length, if_pos pair, ih wellFormed, utf8Length,
      if_pos pair, Nat.add_assoc]
  | case3 u v rest pair ih =>
    rw [isWellFormed, if_neg pair, Bool.and_eq_true, Bool.not_eq_true'] at wellFormed
    rw [List.cons_append, utf8Length_cons wellFormed.1, ih wellFormed.2,
      utf8Length_cons wellFormed.1, Nat.add_assoc]
  | case4 u =>
    rw [isWellFormed, Bool.not_eq_true'] at wellFormed
    rw [List.singleton_append, utf8Length_cons wellFormed, utf8Length_cons wellFormed]
    rfl

/-- The bytes of texts in a row. -/
theorem byteLength_append {a b : JsString} (wellFormed : isWellFormed a.units = true) :
    (a ++ b).byteLength = a.byteLength + b.byteLength :=
  utf8Length_append wellFormed b.units

/-- Units of ASCII take a byte each. -/
theorem utf8Length_ascii {units : List UInt16} (ascii : ∀ u ∈ units, u.toNat < 0x80) :
    utf8Length units = units.length := by
  induction units with
  | nil => rfl
  | cons u rest ih =>
    have small := ascii u List.mem_cons_self
    have plain : isSurrogate u = false := by
      simp only [isSurrogate, isHighSurrogate, isLowSurrogate, Bool.or_eq_false_iff,
        Bool.and_eq_false_iff, decide_eq_false_iff_not, UInt16.le_iff_toNat_le, UInt16.reduceToNat]
      omega
    have one : plainByteLength u = 1 := by
      unfold plainByteLength
      exact if_pos (UInt16.le_iff_toNat_le.mpr (Nat.le_of_lt_succ small))
    rw [utf8Length_cons plain, one, ih fun v member => ascii v (List.mem_cons_of_mem _ member),
      List.length_cons, Nat.add_comm]

end JsString

namespace Json
open JsString
open Validation (unitByteLength unitsByteLength plainByteLength jsonStringByteLength)

theorem utf8Length_unicodeEscape (u : UInt16) : utf8Length (unicodeEscape u) = 6 := by
  have digit : ∀ n < 16,
      (if n < 10 then (n + 0x30).toUInt16 else (n + 0x57).toUInt16).toNat < 0x80 := by decide
  have bound := UInt16.toNat_lt u
  apply utf8Length_ascii
  intro v member
  unfold unicodeEscape at member
  simp only [List.mem_cons, List.not_mem_nil, or_false] at member
  rcases member with rfl | rfl | rfl | rfl | rfl | rfl
  · decide
  · decide
  · exact digit _ (by omega)
  · exact digit _ (by omega)
  · exact digit _ (by omega)
  · exact digit _ (by omega)

/-- A unit is counted as it is escaped. -/
theorem utf8Length_escapeUnit (u : UInt16) : utf8Length (escapeUnit u) = unitByteLength u := by
  have two : ∀ e : UInt16, e.toNat < 0x80 → utf8Length [0x5c, e] = 2 := fun e small =>
    utf8Length_ascii fun v member => by
      rcases List.mem_cons.mp member with rfl | member
      · decide
      · rw [List.mem_singleton.mp member]
        exact small
  unfold escapeUnit unitByteLength
  by_cases short : (u == 0x22 || u == 0x5c) = true
  · rw [if_pos short]
    rw [Bool.or_eq_true, beq_iff_eq, beq_iff_eq] at short
    rcases short with rfl | rfl <;> rfl
  · rw [if_neg short]
    rw [Bool.or_eq_true, not_or, Bool.not_eq_true, Bool.not_eq_true] at short
    by_cases named : u = 0x08 ∨ u = 0x09 ∨ u = 0x0a ∨ u = 0x0c ∨ u = 0x0d
    · rcases named with rfl | rfl | rfl | rfl | rfl <;> rfl
    · simp only [not_or] at named
      obtain ⟨backspace, tab, newline, feed, ret⟩ := named
      simp only [short.1, short.2, beq_false_of_ne backspace, beq_false_of_ne tab,
        beq_false_of_ne newline, beq_false_of_ne feed, beq_false_of_ne ret, Bool.or_self,
        Bool.false_eq_true, if_false]
      have control : (u < 0x20) = (u ≤ 0x1f) := by
        rw [UInt16.lt_iff_toNat_lt, UInt16.le_iff_toNat_le]
        exact propext Nat.lt_succ_iff
      by_cases low : u ≤ 0x1f
      · rw [if_pos low, if_pos (by simp [control, low])]
        exact utf8Length_unicodeEscape u
      · rw [if_neg low]
        by_cases lone : (isHighSurrogate u || isLowSurrogate u) = true
        · have escaped : (decide (u < 0x20) || isHighSurrogate u || isLowSurrogate u) = true := by
            rw [Bool.or_assoc, lone, Bool.or_true]
          rw [if_pos lone, if_pos escaped]
          exact utf8Length_unicodeEscape u
        · have plain : ¬(decide (u < 0x20) || isHighSurrogate u || isLowSurrogate u) = true := by
            rw [Bool.or_assoc, Bool.eq_false_iff.mpr lone, Bool.or_false, decide_eq_true_eq, control]
            exact low
          rw [if_neg lone, if_neg plain]
          exact utf8Length_cons (Bool.not_eq_true _ ▸ lone)

/-- A text is counted as it is quoted. -/
theorem utf8Length_quoteUnits (units : List UInt16) :
    utf8Length (quoteUnits units) = unitsByteLength units := by
  induction units using quoteUnits.induct with
  | case1 => rfl
  | case2 u v rest pair ih =>
    rw [quoteUnits, if_pos pair, utf8Length, if_pos pair, unitsByteLength, if_pos pair, ih]
  | case3 u v rest pair ih =>
    rw [quoteUnits, if_neg pair, utf8Length_append (isWellFormed_escapeUnit u), utf8Length_escapeUnit,
      unitsByteLength, if_neg pair, ih]
  | case4 u => exact utf8Length_escapeUnit u

theorem byteLength_quote (text : JsString) : (quote text).byteLength = jsonStringByteLength text := by
  change utf8Length (0x22 :: (quoteUnits text.units ++ [0x22])) = 2 + unitsByteLength text.units
  rw [utf8Length_cons (by decide), utf8Length_append (isWellFormed_quoteUnits _),
    utf8Length_quoteUnits]
  have quote : utf8Length [0x22] = 1 := by decide
  have mark : plainByteLength 0x22 = 1 := by decide
  omega

mutual
/-- The values in a value, itself included. -/
def nodeCount : Json → Nat
  | .array elements => 1 + elementsCount elements
  | .object _ members => 1 + membersCount members
  | .null | .bool _ | .number _ | .string _ => 1

def elementsCount : List Json → Nat
  | [] => 0
  | x :: rest => nodeCount x + elementsCount rest

def membersCount : List (JsString × Json) → Nat
  | [] => 0
  | (_, x) :: rest => nodeCount x + membersCount rest
end

mutual
/-- How deep the deepest value in a value is. -/
def height : Json → Nat
  | .array elements => elementsHeight elements
  | .object _ members => membersHeight members
  | .null | .bool _ | .number _ | .string _ => 0

def elementsHeight : List Json → Nat
  | [] => 0
  | x :: rest => max (1 + height x) (elementsHeight rest)

def membersHeight : List (JsString × Json) → Nat
  | [] => 0
  | (_, x) :: rest => max (1 + height x) (membersHeight rest)
end

mutual
/-- A value all of whose objects are plain. -/
def plainObjects : Json → Bool
  | .array elements => elementsPlain elements
  | .object readOnly members => readOnly.isNone && membersPlain members
  | .null | .bool _ | .number _ | .string _ => true

def elementsPlain : List Json → Bool
  | [] => true
  | x :: rest => plainObjects x && elementsPlain rest

def membersPlain : List (JsString × Json) → Bool
  | [] => true
  | (_, x) :: rest => plainObjects x && membersPlain rest
end

theorem byteLength_array (elements : List Json) : (stringify (.array elements)).byteLength =
    2 + (stringifyElements elements).byteLength := by
  rw [stringify, byteLength_append (isWellFormed_joined (isWellFormed_ofString _)
    (isWellFormed_stringifyElements _)), byteLength_append (isWellFormed_ofString _)]
  have opening : (JsString.ofString "[").byteLength = 1 := by decide
  have closing : (JsString.ofString "]").byteLength = 1 := by decide
  omega

theorem byteLength_object (readOnly : Option (List JsString)) (members : List (JsString × Json)) :
    (stringify (.object readOnly members)).byteLength = 2 + (stringifyMembers members).byteLength := by
  rw [stringify, byteLength_append (isWellFormed_joined (isWellFormed_ofString _)
    (isWellFormed_stringifyMembers _)), byteLength_append (isWellFormed_ofString _)]
  have opening : (JsString.ofString "\x7b").byteLength = 1 := by decide
  have closing : (JsString.ofString "\x7d").byteLength = 1 := by decide
  omega

theorem byteLength_elements (x y : Json) (rest : List Json) :
    (stringifyElements (x :: y :: rest)).byteLength =
      x.stringify.byteLength + 1 + (stringifyElements (y :: rest)).byteLength := by
  rw [stringifyElements, byteLength_append (isWellFormed_joined (isWellFormed_stringify _)
    (isWellFormed_ofString _)), byteLength_append (isWellFormed_stringify _)]
  rfl

/-- The first member, and a comma if others follow. -/
theorem byteLength_members (k : JsString) (x : Json) (rest : List (JsString × Json)) :
    (stringifyMembers ((k, x) :: rest)).byteLength = jsonStringByteLength k + 1 + x.stringify.byteLength +
      (if rest.isEmpty then 0 else 1 + (stringifyMembers rest).byteLength) := by
  have key : isWellFormed (quote k ++ ":" : JsString).units = true :=
    isWellFormed_joined (isWellFormed_quote k) (isWellFormed_ofString _)
  have colon : (quote k ++ ":" : JsString).byteLength = jsonStringByteLength k + 1 := by
    rw [byteLength_append (isWellFormed_quote k), byteLength_quote]
    rfl
  cases rest with
  | nil =>
    change (quote k ++ ":" ++ x.stringify : JsString).byteLength = _
    rw [byteLength_append key, colon]
    rfl
  | cons y rest =>
    have comma : (JsString.ofString ",").byteLength = 1 := by decide
    have value := isWellFormed_joined key (isWellFormed_stringify x)
    rw [stringifyMembers, byteLength_append (isWellFormed_joined value (isWellFormed_ofString _)),
      byteLength_append value, byteLength_append key, colon, List.isEmpty_cons, if_neg nofun]
    omega

theorem byteLength_pos {text : JsString} {u : UInt16} {rest : List UInt16}
    (head : text.units = u :: rest) : 1 ≤ text.byteLength := by
  unfold byteLength
  rw [head]
  cases rest with
  | nil => simp only [utf8Length]; split_ifs <;> omega
  | cons v rest => simp only [utf8Length]; split_ifs <;> omega

mutual
/-- Every value in a value takes a byte of its text. -/
theorem nodeCount_le : (value : Json) → value.nodeCount ≤ value.stringify.byteLength
  | .null => by decide
  | .bool flag => by cases flag <;> decide
  | .number n => by
    obtain ⟨u, rest, head, -⟩ := text_head n
    rw [stringify]
    exact byteLength_pos head
  | .string text => by
    rw [stringify]
    exact @byteLength_pos (quote text) _ _ rfl
  | .array [] => by decide
  | .array (x :: rest) => by
    have elements := elementsCount_le x rest
    rw [byteLength_array, nodeCount, elementsCount]
    omega
  | .object readOnly [] => by
    rw [byteLength_object, nodeCount, membersCount]
    omega
  | .object readOnly ((k, x) :: rest) => by
    have members := membersCount_le k x rest
    rw [byteLength_object, nodeCount, membersCount]
    omega
termination_by value => sizeOf value

theorem elementsCount_le : (x : Json) → (rest : List Json) →
    x.nodeCount + elementsCount rest ≤ (stringifyElements (x :: rest)).byteLength
  | x, [] => nodeCount_le x
  | x, y :: rest => by
    have first := nodeCount_le x
    have others := elementsCount_le y rest
    rw [byteLength_elements, elementsCount]
    omega
termination_by x rest => sizeOf (x :: rest)

theorem membersCount_le : (k : JsString) → (x : Json) → (rest : List (JsString × Json)) →
    x.nodeCount + membersCount rest ≤ (stringifyMembers ((k, x) :: rest)).byteLength
  | k, x, [] => by
    have first := nodeCount_le x
    rw [byteLength_members, membersCount]
    omega
  | k, x, (l, y) :: rest => by
    have first := nodeCount_le x
    have others := membersCount_le l y rest
    rw [byteLength_members, membersCount, List.isEmpty_cons, if_neg nofun]
    omega
termination_by k x rest => sizeOf ((k, x) :: rest)
end

end Json

namespace Validation
open Json

variable {maxBytes : ℚ}

/-- A count of bytes that `addMeasuredBytes` lets pass. -/
def Fits (maxBytes : ℚ) (bytes : Nat) : Prop := bytes ≤ JsNumber.maxSafeInteger ∧ (bytes : ℚ) ≤ maxBytes

theorem Fits.mono {less more : Nat} (fits : Fits maxBytes more) (le : less ≤ more) :
    Fits maxBytes less :=
  ⟨le_trans le fits.1, le_trans (by exact_mod_cast le) fits.2⟩

theorem addMeasuredBytes_ok_iff {current additional total : Nat} :
    addMeasuredBytes maxBytes current additional = .ok total ↔
      total = current + additional ∧ Fits maxBytes total := by
  unfold addMeasuredBytes
  dsimp only
  split
  · rename_i past
    constructor
    · exact nofun
    · rintro ⟨rfl, safe, within⟩
      rcases past with past | past
      · exact absurd past (not_lt.mpr (by exact_mod_cast safe))
      · exact absurd past (not_lt.mpr (by exact_mod_cast within))
  · rename_i within
    rw [not_or, not_lt, not_lt] at within
    constructor
    · intro added
      cases added
      exact ⟨rfl, by exact_mod_cast within.1, by exact_mod_cast within.2⟩
    · rintro ⟨rfl, -⟩
      rfl

/-- A step that goes on only with a measured value. -/
def onMeasured (outcome : MeasureResult × Nat) (next : Nat → Nat → MeasureResult × Nat) :
    MeasureResult × Nat :=
  match outcome with
  | (.ok child, count) => next child count
  | refused => refused

/-- A step that goes on only when bytes can be added. -/
def onAdded (maxBytes : ℚ) (current additional count : Nat) (next : Nat → MeasureResult × Nat) :
    MeasureResult × Nat :=
  match addMeasuredBytes maxBytes current additional with
  | .ok total => next total
  | refused => (refused, count)

theorem onMeasured_iff {outcome : MeasureResult × Nat} {next : Nat → Nat → MeasureResult × Nat}
    {bytes nodes : Nat} : onMeasured outcome next = (.ok bytes, nodes) ↔
      ∃ child count, outcome = (.ok child, count) ∧ next child count = (.ok bytes, nodes) := by
  obtain ⟨result, count⟩ := outcome
  cases result with
  | ok child => simp [onMeasured]
  | tooLarge _ => simp [onMeasured]
  | invalid _ _ => simp [onMeasured]

theorem onAdded_iff {current additional count bytes nodes : Nat} {next : Nat → MeasureResult × Nat} :
    onAdded maxBytes current additional count next = (.ok bytes, nodes) ↔
      Fits maxBytes (current + additional) ∧ next (current + additional) = (.ok bytes, nodes) := by
  unfold onAdded
  cases added : addMeasuredBytes maxBytes current additional with
  | ok total =>
    obtain ⟨rfl, fits⟩ := addMeasuredBytes_ok_iff.mp added
    exact ⟨fun same => ⟨fits, same⟩, And.right⟩
  | tooLarge _ | invalid _ _ =>
    constructor
    · exact nofun
    · rintro ⟨fits, -⟩
      rw [addMeasuredBytes_ok_iff.mpr ⟨rfl, fits⟩] at added
      cases added

/-- The guard at the head of `measure`. -/
def guarded (maxBytes : ℚ) (path : JsString) (depth count : Nat) (next : MeasureResult × Nat) :
    MeasureResult × Nat :=
  if defaultValidationMaxNodes < count then (.tooLarge (maxBytes + 1), count)
  else if defaultValidationMaxDepth < depth then
    (.invalid path "maximum JSON nesting depth exceeded", count)
  else next

theorem guarded_iff {path : JsString} {depth count bytes nodes : Nat} {next : MeasureResult × Nat} :
    guarded maxBytes path depth count next = (.ok bytes, nodes) ↔
      count ≤ defaultValidationMaxNodes ∧ depth ≤ defaultValidationMaxDepth ∧
        next = (.ok bytes, nodes) := by
  unfold guarded
  split
  · rename_i past
    exact ⟨nofun, fun within => absurd past (not_lt.mpr within.1)⟩
  · rename_i room
    split
    · rename_i past
      exact ⟨nofun, fun within => absurd past (not_lt.mpr within.2.1)⟩
    · rename_i shallow
      exact ⟨fun same => ⟨not_lt.mp room, not_lt.mp shallow, same⟩, fun within => within.2.2⟩

theorem measure_array (elements : List Json) (path : JsString) (depth nodes : Nat) :
    measure maxBytes (.array elements) path depth nodes = guarded maxBytes path depth (nodes + 1)
      (onMeasured (measureElements maxBytes elements path 0 depth 2 (nodes + 1))
        fun bytes count => (addMeasuredBytes maxBytes 0 bytes, count)) := by
  rw [measure]
  rfl

theorem measure_record (members : List (JsString × Json)) (path : JsString) (depth nodes : Nat) :
    measure maxBytes (.record members) path depth nodes = guarded maxBytes path depth (nodes + 1)
      (onMeasured (measureMembers maxBytes members path depth 2 (nodes + 1))
        fun bytes count => (addMeasuredBytes maxBytes 0 bytes, count)) := by
  rw [measure]
  rfl

theorem measureElements_cons (x : Json) (rest : List Json) (path : JsString)
    (index depth bytes nodes : Nat) :
    measureElements maxBytes (x :: rest) path index depth bytes nodes =
      onMeasured (measure maxBytes x (path ++ "[" ++ JsString.ofNat index ++ "]") (depth + 1) nodes)
        fun child count => onAdded maxBytes bytes child count fun total =>
          if rest.isEmpty then (.ok total, count)
          else onAdded maxBytes total 1 count fun total =>
            measureElements maxBytes rest path (index + 1) depth total count := by
  rw [measureElements]
  rfl

theorem measureMembers_cons (k : JsString) (x : Json) (rest : List (JsString × Json)) (path : JsString)
    (depth bytes nodes : Nat) :
    measureMembers maxBytes ((k, x) :: rest) path depth bytes nodes =
      onMeasured (measure maxBytes x (path ++ "." ++ k) (depth + 1) nodes) fun child count =>
        onAdded maxBytes bytes (jsonStringByteLength k) count fun total =>
          onAdded maxBytes total 1 count fun total => onAdded maxBytes total child count fun total =>
            if rest.isEmpty then (.ok total, count)
            else onAdded maxBytes total 1 count fun total =>
              measureMembers maxBytes rest path depth total count := by
  rw [measureMembers]
  rfl

theorem added_ok_iff {additional count bytes nodes : Nat} :
    (addMeasuredBytes maxBytes 0 additional, count) = ((.ok bytes, nodes) : MeasureResult × Nat) ↔
      bytes = additional ∧ Fits maxBytes bytes ∧ nodes = count := by
  rw [Prod.mk.injEq, addMeasuredBytes_ok_iff, Nat.zero_add, and_assoc, @eq_comm _ count]

/-- What there has to be room for. -/
def Measured (maxBytes : ℚ) (value : Json) (depth nodes bytes count : Nat) : Prop :=
  value.plainObjects = true ∧ depth + value.height ≤ defaultValidationMaxDepth ∧
    count = nodes + value.nodeCount ∧ count ≤ defaultValidationMaxNodes ∧
    bytes = value.stringify.byteLength ∧ Fits maxBytes bytes

/-- A value without values in it. -/
theorem measure_leaf {value : Json} {path : JsString} {depth nodes bytes count : Nat} {length : Nat}
    (measured : measure maxBytes value path depth nodes = guarded maxBytes path depth (nodes + 1)
      (addMeasuredBytes maxBytes 0 length, nodes + 1))
    (plain : value.plainObjects = true) (flat : value.height = 0) (one : value.nodeCount = 1)
    (text : value.stringify.byteLength = length) :
    measure maxBytes value path depth nodes = (.ok bytes, count) ↔
      Measured maxBytes value depth nodes bytes count := by
  rw [measured, guarded_iff, added_ok_iff]
  unfold Measured
  rw [plain, flat, one, text]
  constructor
  · rintro ⟨room, shallow, same, fits, rfl⟩
    exact ⟨rfl, shallow, rfl, room, same, fits⟩
  · rintro ⟨-, shallow, rfl, room, same, fits⟩
    exact ⟨room, shallow, same, fits, rfl⟩

mutual
/-- A value is measured at the length of its text, or not at all. -/
theorem measure_ok_iff : (value : Json) → ∀ (path : JsString) (depth nodes bytes count : Nat),
    measure maxBytes value path depth nodes = (.ok bytes, count) ↔
      Measured maxBytes value depth nodes bytes count
  | .null, path, depth, nodes, bytes, count =>
    measure_leaf (by rw [measure]; rfl) rfl rfl rfl (by decide)
  | .bool flag, path, depth, nodes, bytes, count =>
    measure_leaf (by rw [measure]; rfl) rfl rfl rfl (by cases flag <;> decide)
  | .number n, path, depth, nodes, bytes, count =>
    measure_leaf (by rw [measure]; rfl) rfl rfl rfl (by rw [stringify])
  | .string text, path, depth, nodes, bytes, count =>
    measure_leaf (by rw [measure]; rfl) rfl rfl rfl (byteLength_quote text)
  | .array [], path, depth, nodes, bytes, count =>
    measure_leaf (by rw [measure_array, measureElements]; rfl) rfl rfl rfl (by decide)
  | .array (x :: rest), path, depth, nodes, bytes, count => by
    rw [measure_array, guarded_iff, onMeasured_iff]
    simp only [added_ok_iff, measureElements_ok_iff x rest]
    unfold Measured
    rw [byteLength_array, plainObjects, height, nodeCount, elementsPlain, elementsHeight,
      elementsCount, Bool.and_eq_true]
    constructor
    · rintro ⟨-, -, _, _, ⟨plain, shallow, rfl, room, rfl, -⟩, rfl, fits, rfl⟩
      exact ⟨plain, shallow, by omega, room, rfl, fits⟩
    · rintro ⟨plain, shallow, rfl, room, rfl, fits⟩
      exact ⟨by omega, by omega, _, _, ⟨plain, shallow, by omega, room, rfl, fits⟩, rfl, fits, rfl⟩
  | .object (some readOnly) members, path, depth, nodes, bytes, count => by
    have refused : measure maxBytes (.object (some readOnly) members) path depth nodes =
        guarded maxBytes path depth (nodes + 1)
          (.invalid path "objects must be plain JSON objects", nodes + 1) := by
      rw [measure]
      rfl
    rw [refused, guarded_iff]
    constructor
    · rintro ⟨-, -, same⟩
      cases same
    · rintro ⟨plain, -⟩
      cases plain
  | .object none [], path, depth, nodes, bytes, count =>
    measure_leaf (by rw [measure_record, measureMembers]; rfl) rfl rfl rfl (by decide)
  | .object none ((k, x) :: rest), path, depth, nodes, bytes, count => by
    rw [measure_record, guarded_iff, onMeasured_iff]
    simp only [added_ok_iff, measureMembers_ok_iff k x rest]
    unfold Measured
    rw [byteLength_object, plainObjects, height, nodeCount, membersPlain, membersHeight, membersCount,
      Bool.and_eq_true, Bool.and_eq_true]
    constructor
    · rintro ⟨-, -, _, _, ⟨plain, shallow, rfl, room, rfl, -⟩, rfl, fits, rfl⟩
      exact ⟨⟨rfl, plain⟩, shallow, by omega, room, rfl, fits⟩
    · rintro ⟨⟨-, plain⟩, shallow, rfl, room, rfl, fits⟩
      exact ⟨by omega, by omega, _, _, ⟨plain, shallow, by omega, room, rfl, fits⟩, rfl, fits, rfl⟩
termination_by value => sizeOf value

theorem measureElements_ok_iff : (x : Json) → (rest : List Json) →
    ∀ (path : JsString) (index depth before nodes bytes count : Nat),
      measureElements maxBytes (x :: rest) path index depth before nodes = (.ok bytes, count) ↔
        (x.plainObjects = true ∧ elementsPlain rest = true) ∧
          depth + max (1 + x.height) (elementsHeight rest) ≤ defaultValidationMaxDepth ∧
          count = nodes + (x.nodeCount + elementsCount rest) ∧ count ≤ defaultValidationMaxNodes ∧
          bytes = before + (stringifyElements (x :: rest)).byteLength ∧ Fits maxBytes bytes
  | x, [], path, index, depth, before, nodes, bytes, count => by
    rw [measureElements_cons, onMeasured_iff]
    simp only [onAdded_iff, measure_ok_iff x, List.isEmpty_nil, if_true]
    unfold Measured
    rw [elementsPlain, elementsHeight, elementsCount, stringifyElements]
    constructor
    · rintro ⟨_, _, ⟨plain, shallow, rfl, room, rfl, -⟩, fits, ⟨⟩⟩
      exact ⟨⟨plain, rfl⟩, by omega, by omega, by omega, rfl, fits⟩
    · rintro ⟨⟨plain, -⟩, shallow, rfl, room, rfl, fits⟩
      exact ⟨_, _, ⟨plain, by omega, rfl, by omega, rfl, fits.mono (Nat.le_add_left _ _)⟩, fits, rfl⟩
  | x, y :: rest, path, index, depth, before, nodes, bytes, count => by
    rw [measureElements_cons, onMeasured_iff]
    simp only [onAdded_iff, measure_ok_iff x, measureElements_ok_iff y rest, List.isEmpty_cons,
      Bool.false_eq_true, if_false]
    unfold Measured
    rw [elementsPlain, elementsHeight, elementsCount, byteLength_elements, Bool.and_eq_true]
    constructor
    · rintro ⟨_, _, ⟨plain, shallow, rfl, -, rfl, -⟩, -, -, others, deep, rfl, room, rfl, fits⟩
      exact ⟨⟨plain, others⟩, by omega, by omega, room, by omega, fits⟩
    · rintro ⟨⟨plain, others⟩, shallow, rfl, room, rfl, fits⟩
      exact ⟨_, _, ⟨plain, by omega, rfl, by omega, rfl, fits.mono (by omega)⟩, fits.mono (by omega),
        fits.mono (by omega), others, by omega, by omega, room, by omega, fits⟩
termination_by x rest => sizeOf (x :: rest)

theorem measureMembers_ok_iff : (k : JsString) → (x : Json) → (rest : List (JsString × Json)) →
    ∀ (path : JsString) (depth before nodes bytes count : Nat),
      measureMembers maxBytes ((k, x) :: rest) path depth before nodes = (.ok bytes, count) ↔
        (x.plainObjects = true ∧ membersPlain rest = true) ∧
          depth + max (1 + x.height) (membersHeight rest) ≤ defaultValidationMaxDepth ∧
          count = nodes + (x.nodeCount + membersCount rest) ∧ count ≤ defaultValidationMaxNodes ∧
          bytes = before + (stringifyMembers ((k, x) :: rest)).byteLength ∧ Fits maxBytes bytes
  | k, x, [], path, depth, before, nodes, bytes, count => by
    rw [measureMembers_cons, onMeasured_iff]
    simp only [onAdded_iff, measure_ok_iff x, List.isEmpty_nil, if_true]
    unfold Measured
    rw [membersPlain, membersHeight, membersCount, byteLength_members, List.isEmpty_nil, if_pos rfl]
    constructor
    · rintro ⟨_, _, ⟨plain, shallow, rfl, room, rfl, -⟩, -, -, fits, ⟨⟩⟩
      exact ⟨⟨plain, rfl⟩, by omega, by omega, by omega, by omega, fits⟩
    · rintro ⟨⟨plain, -⟩, shallow, rfl, room, rfl, fits⟩
      refine ⟨_, _, ⟨plain, by omega, rfl, by omega, rfl, fits.mono (by omega)⟩, fits.mono (by omega),
        fits.mono (by omega), fits.mono (by omega), ?_⟩
      simp only [Prod.mk.injEq, MeasureResult.ok.injEq]
      omega
  | k, x, (l, y) :: rest, path, depth, before, nodes, bytes, count => by
    rw [measureMembers_cons, onMeasured_iff]
    simp only [onAdded_iff, measure_ok_iff x, measureMembers_ok_iff l y rest, List.isEmpty_cons,
      Bool.false_eq_true, if_false]
    unfold Measured
    rw [membersPlain, membersHeight, membersCount, byteLength_members k x, List.isEmpty_cons,
      if_neg nofun, Bool.and_eq_true]
    constructor
    · rintro ⟨_, _, ⟨plain, shallow, rfl, -, rfl, -⟩, -, -, -, -, others, deep, rfl, room, rfl, fits⟩
      exact ⟨⟨plain, others⟩, by omega, by omega, room, by omega, fits⟩
    · rintro ⟨⟨plain, others⟩, shallow, rfl, room, rfl, fits⟩
      exact ⟨_, _, ⟨plain, by omega, rfl, by omega, rfl, fits.mono (by omega)⟩, fits.mono (by omega),
        fits.mono (by omega), fits.mono (by omega), fits.mono (by omega), others, by omega, by omega,
        room, by omega, fits⟩
termination_by k x rest => sizeOf ((k, x) :: rest)
end

/-- `measureJsonBytes` of a value within the bounds of depth and nodes. -/
theorem measureJsonBytes_ok_iff {value : Json} {bytes : Nat} :
    measureJsonBytes maxBytes value = .ok bytes ↔
      value.plainObjects = true ∧ value.height ≤ defaultValidationMaxDepth ∧
        value.nodeCount ≤ defaultValidationMaxNodes ∧ bytes = value.stringify.byteLength ∧
        Fits maxBytes bytes := by
  have whole : measureJsonBytes maxBytes value = .ok bytes ↔
      ∃ count, measure maxBytes value "$" 0 0 = (.ok bytes, count) := by
    unfold measureJsonBytes
    constructor
    · intro measured
      exact ⟨_, Prod.ext measured rfl⟩
    · rintro ⟨count, measured⟩
      rw [measured]
  simp only [whole, measure_ok_iff, Measured, Nat.zero_add]
  constructor
  · rintro ⟨_, plain, shallow, rfl, room, same, fits⟩
    exact ⟨plain, shallow, room, same, fits⟩
  · rintro ⟨plain, shallow, room, same, fits⟩
    exact ⟨_, plain, shallow, rfl, room, same, fits⟩

end Validation
end PiToPi
