import Mathlib.Data.List.Basic
import Mathlib.Algebra.BigOperators.Group.List.Basic

/-!
The syntax of ECMAScript regular expressions with the `u` flag, as parse trees over UTF-16
units: what a tree is written as, and which constructs and quantifiers stand in it. The early
errors, the lookahead after an escaped zero and the names of properties and groups are left
out, so that every pattern the language accepts has a tree here.
-/
namespace RegExp

section Units

def isDecimalDigit (u : UInt16) : Bool := 0x30 ≤ u && u ≤ 0x39

def isHexDigit (u : UInt16) : Bool :=
  isDecimalDigit u || (0x41 ≤ u && u ≤ 0x46) || (0x61 ≤ u && u ≤ 0x66)

def isAsciiLetter (u : UInt16) : Bool := (0x41 ≤ u && u ≤ 0x5a) || (0x61 ≤ u && u ≤ 0x7a)

def isLeadSurrogate (u : UInt16) : Bool := 0xd800 ≤ u && u ≤ 0xdbff

def isTrailSurrogate (u : UInt16) : Bool := 0xdc00 ≤ u && u ≤ 0xdfff

/-- `^ $ \ . * + ? ( ) [ ] { } |`. -/
def isSyntaxCharacter (u : UInt16) : Bool :=
  u ∈ [0x5e, 0x24, 0x5c, 0x2e, 0x2a, 0x2b, 0x3f, 0x28, 0x29, 0x5b, 0x5d, 0x7b, 0x7d, 0x7c]

/-- A unit of a property's name or value, or the sign between them. -/
def isPropertyCharacter (u : UInt16) : Bool :=
  isAsciiLetter u || isDecimalDigit u || u == 0x5f || u == 0x3d

/-- A digit of a code. -/
abbrev HexDigit := { u : UInt16 // isHexDigit u = true }

/-- A number, as it is written. -/
structure DecimalDigits where
  digits : List UInt16
  decimal : ∀ u ∈ digits, isDecimalDigit u = true
  nonempty : digits ≠ []

/-- The number written. -/
def DecimalDigits.value (number : DecimalDigits) : Nat :=
  number.digits.foldl (fun n u => 10 * n + (u.toNat - 0x30)) 0

/-- A code point of the pattern. -/
inductive SourceCharacter where
  | unit (u : UInt16)
  | surrogates (lead trail : UInt16) (isLead : isLeadSurrogate lead = true)
    (isTrail : isTrailSurrogate trail = true)

def SourceCharacter.units : SourceCharacter → List UInt16
  | unit u => [u]
  | surrogates lead trail _ _ => [lead, trail]

end Units

section Escapes

/-- What stands for one character, after the backslash. -/
inductive CharacterEscape where
  /-- `f`, `n`, `r`, `t` or `v`. -/
  | control (letter : UInt16) (isControl : letter ∈ [0x66, 0x6e, 0x72, 0x74, 0x76])
  /-- `c` and a letter. -/
  | controlLetter (letter : UInt16) (isLetter : isAsciiLetter letter = true)
  | zero
  /-- `x` and two digits. -/
  | hex (a b : HexDigit)
  /-- `u` and four digits. -/
  | unicode (a b c d : HexDigit)
  /-- Two codes that make one character. -/
  | surrogates (a b c d e f g h : HexDigit)
  /-- `u` and digits in braces. -/
  | codePoint (digits : List HexDigit)
  /-- A syntax character or a slash. -/
  | identity (u : UInt16) (isSyntax : isSyntaxCharacter u = true ∨ u = 0x2f)

def CharacterEscape.units : CharacterEscape → List UInt16
  | control letter _ => [letter]
  | controlLetter letter _ => [0x63, letter]
  | zero => [0x30]
  | hex a b => [0x78, a.val, b.val]
  | unicode a b c d => [0x75, a.val, b.val, c.val, d.val]
  | surrogates a b c d e f g h =>
    [0x75, a.val, b.val, c.val, d.val, 0x5c, 0x75, e.val, f.val, g.val, h.val]
  | codePoint digits => 0x75 :: 0x7b :: digits.map Subtype.val ++ [0x7d]
  | identity u _ => [u]

/-- What stands for a set of characters, after the backslash. -/
inductive CharacterClassEscape where
  /-- `d`, `D`, `s`, `S`, `w` or `W`. -/
  | letter (u : UInt16) (isClass : u ∈ [0x64, 0x44, 0x73, 0x53, 0x77, 0x57])
  /-- `p` or `P` and a property in braces. -/
  | property (negated : Bool) (name : List UInt16)
    (isName : ∀ u ∈ name, isPropertyCharacter u = true)

def CharacterClassEscape.units : CharacterClassEscape → List UInt16
  | letter u _ => [u]
  | property negated name _ => (if negated then 0x50 else 0x70) :: 0x7b :: name ++ [0x7d]

end Escapes

section Classes

/-- A member of a class, or an end of a range. -/
inductive ClassAtom where
  | character (c : SourceCharacter) (inside : ∀ u ∈ c.units, u ≠ 0x5c ∧ u ≠ 0x5d)
  | backspace
  | dash
  | escape (e : CharacterEscape)
  | classEscape (e : CharacterClassEscape)

def ClassAtom.units : ClassAtom → List UInt16
  | character c _ => c.units
  | backspace => [0x5c, 0x62]
  | dash => [0x5c, 0x2d]
  | escape e => 0x5c :: e.units
  | classEscape e => 0x5c :: e.units

inductive ClassRange where
  | single (atom : ClassAtom)
  | range (low high : ClassAtom)

def ClassRange.units : ClassRange → List UInt16
  | single atom => atom.units
  | range low high => low.units ++ 0x2d :: high.units

structure CharacterClass where
  negated : Bool
  ranges : List ClassRange

/-- What a class is written as, after its bracket and with the closing one. -/
def CharacterClass.units (c : CharacterClass) : List UInt16 :=
  (if c.negated then [0x5e] else []) ++ c.ranges.flatMap ClassRange.units ++ [0x5d]

end Classes

section Quantifiers

inductive QuantifierPrefix where
  | star
  | plus
  | optional
  | exactly (count : DecimalDigits)
  | atLeast (minimum : DecimalDigits)
  | between (minimum maximum : DecimalDigits)

namespace QuantifierPrefix

def units : QuantifierPrefix → List UInt16
  | star => [0x2a]
  | plus => [0x2b]
  | optional => [0x3f]
  | exactly count => 0x7b :: count.digits ++ [0x7d]
  | atLeast minimum => 0x7b :: minimum.digits ++ [0x2c, 0x7d]
  | between minimum maximum => 0x7b :: minimum.digits ++ 0x2c :: maximum.digits ++ [0x7d]

/-- Fewest repetitions. -/
def least : QuantifierPrefix → Nat
  | star => 0
  | plus => 1
  | optional => 0
  | exactly count => count.value
  | atLeast minimum => minimum.value
  | between minimum _ => minimum.value

/-- Most repetitions, of a bounded quantifier. -/
def most? : QuantifierPrefix → Option Nat
  | star => none
  | plus => none
  | optional => some 1
  | exactly count => some count.value
  | atLeast _ => none
  | between _ maximum => some maximum.value

/-- How many numbers of repetitions a bounded quantifier allows. -/
def variants (q : QuantifierPrefix) : Nat := q.most?.elim 1 fun most => most - q.least + 1

/-- The quantifier has no upper bound, or a bound above a limit. -/
def Exceeds (limit : Nat) (q : QuantifierPrefix) : Prop :=
  limit < q.least ∨ ∀ most, q.most? = some most → limit < most

instance (limit : Nat) (q : QuantifierPrefix) : Decidable (q.Exceeds limit) :=
  match same : q.most? with
  | none => .isTrue (.inr fun _ bounded => by rw [same] at bounded; cases bounded)
  | some most => decidable_of_iff (limit < q.least ∨ limit < most) <| by
      simp only [Exceeds, same, Option.some.injEq, forall_eq']

end QuantifierPrefix

structure Quantifier where
  quantity : QuantifierPrefix
  isLazy : Bool

def Quantifier.units (q : Quantifier) : List UInt16 :=
  q.quantity.units ++ if q.isLazy then [0x3f] else []

end Quantifiers

section Trees

/-- A lookaround, by its direction and whether it is denied. -/
structure Look where
  behind : Bool
  negated : Bool

def Look.units (look : Look) : List UInt16 :=
  (if look.behind then [0x3c] else []) ++ [if look.negated then 0x21 else 0x3d]

/-- What a group starts with, after its parenthesis and question mark. -/
inductive GroupStart where
  | capturing
  | named (name : List UInt16)
  /-- `:`, with the flags set and cleared before it. -/
  | modified (modifiers : List UInt16)

def GroupStart.units : GroupStart → List UInt16
  | capturing => []
  | named name => 0x3f :: 0x3c :: name ++ [0x3e]
  | modified modifiers => 0x3f :: modifiers ++ [0x3a]

mutual

inductive Disjunction where
  | single (alternative : Alternative)
  | either (first : Alternative) (others : Disjunction)

inductive Alternative where
  | empty
  | cons (term : Term) (rest : Alternative)

inductive Term where
  /-- `^` or `$`. -/
  | edge (atEnd : Bool)
  /-- `\b` or `\B`. -/
  | boundary (negated : Bool)
  | lookaround (look : Look) (body : Disjunction)
  | atom (atom : Atom)
  | quantified (atom : Atom) (quantifier : Quantifier)

inductive Atom where
  | character (c : SourceCharacter) (literal : ∀ u ∈ c.units, isSyntaxCharacter u = false)
  | any
  | escape (e : CharacterEscape)
  | classEscape (e : CharacterClassEscape)
  | characterClass (c : CharacterClass)
  | backreference (first : UInt16) (more : List UInt16) (nonzero : 0x31 ≤ first ∧ first ≤ 0x39)
  | namedReference (name : List UInt16)
  | group (start : GroupStart) (body : Disjunction)

end

mutual

/-- What a disjunction is written as. -/
def Disjunction.units : Disjunction → List UInt16
  | .single alternative => alternative.units
  | .either first others => first.units ++ 0x7c :: others.units

def Alternative.units : Alternative → List UInt16
  | .empty => []
  | .cons term rest => term.units ++ rest.units

def Term.units : Term → List UInt16
  | .edge atEnd => [if atEnd then 0x24 else 0x5e]
  | .boundary negated => [0x5c, if negated then 0x42 else 0x62]
  | .lookaround look body => 0x28 :: 0x3f :: look.units ++ body.units ++ [0x29]
  | .atom atom => atom.units
  | .quantified atom quantifier => atom.units ++ quantifier.units

def Atom.units : Atom → List UInt16
  | .character c _ => c.units
  | .any => [0x2e]
  | .escape e => 0x5c :: e.units
  | .classEscape e => 0x5c :: e.units
  | .characterClass c => 0x5b :: c.units
  | .backreference first more _ => 0x5c :: first :: more
  | .namedReference name => 0x5c :: 0x6b :: 0x3c :: name ++ [0x3e]
  | .group start body => 0x28 :: start.units ++ body.units ++ [0x29]

end

/-- What makes a match go back. -/
inductive Construct where
  | group
  | alternation
  | lookaround
  | backreference
  | lazyQuantifier
  deriving DecidableEq, Repr

mutual

/-- The constructs of a disjunction, in order. -/
def Disjunction.constructs : Disjunction → List Construct
  | .single alternative => alternative.constructs
  | .either first others => first.constructs ++ .alternation :: others.constructs

def Alternative.constructs : Alternative → List Construct
  | .empty => []
  | .cons term rest => term.constructs ++ rest.constructs

def Term.constructs : Term → List Construct
  | .edge _ => []
  | .boundary _ => []
  | .lookaround _ body => .lookaround :: body.constructs
  | .atom atom => atom.constructs
  | .quantified atom quantifier =>
    atom.constructs ++ if quantifier.isLazy then [.lazyQuantifier] else []

def Atom.constructs : Atom → List Construct
  | .character _ _ => []
  | .any => []
  | .escape _ => []
  | .classEscape _ => []
  | .characterClass _ => []
  | .backreference _ _ _ => [.backreference]
  | .namedReference _ => [.backreference]
  | .group _ body => .group :: body.constructs

end

mutual

/-- The quantifiers of a disjunction, in order. -/
def Disjunction.quantifiers : Disjunction → List QuantifierPrefix
  | .single alternative => alternative.quantifiers
  | .either first others => first.quantifiers ++ others.quantifiers

def Alternative.quantifiers : Alternative → List QuantifierPrefix
  | .empty => []
  | .cons term rest => term.quantifiers ++ rest.quantifiers

def Term.quantifiers : Term → List QuantifierPrefix
  | .edge _ => []
  | .boundary _ => []
  | .lookaround _ body => body.quantifiers
  | .atom atom => atom.quantifiers
  | .quantified atom quantifier => atom.quantifiers ++ [quantifier.quantity]

def Atom.quantifiers : Atom → List QuantifierPrefix
  | .character _ _ => []
  | .any => []
  | .escape _ => []
  | .classEscape _ => []
  | .characterClass _ => []
  | .backreference _ _ _ => []
  | .namedReference _ => []
  | .group _ body => body.quantifiers

end

/-- How many of the quantifiers have no bound, or one above a limit. -/
def exceeding (limit : Nat) (quantifiers : List QuantifierPrefix) : Nat :=
  quantifiers.countP (·.Exceeds limit)

/-- The product of the variants of the other quantifiers. -/
def boundedVariants (limit : Nat) (quantifiers : List QuantifierPrefix) : Nat :=
  ((quantifiers.filter (¬·.Exceeds limit)).map QuantifierPrefix.variants).prod

theorem exceeding_append {limit : Nat} (first second : List QuantifierPrefix) :
    exceeding limit (first ++ second) = exceeding limit first + exceeding limit second := by
  simp [exceeding]

theorem boundedVariants_append {limit : Nat} (first second : List QuantifierPrefix) :
    boundedVariants limit (first ++ second) =
      boundedVariants limit first * boundedVariants limit second := by
  simp [boundedVariants]

end Trees

end RegExp
