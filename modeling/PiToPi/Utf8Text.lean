import PiToPi.MeasureProofs

/-!
Texts in UTF-8, as `TextEncoder` writes them and a fatal `TextDecoder` reads them.

A text of UTF-16 code units is the text of its scalar values as long as its surrogates stand in
pairs. The bytes are those of the scalar values: as many as `byteLength` counts, and a text is read
from its own bytes and no others, a byte order mark apart.
-/
namespace PiToPi
namespace JsString

/-- The scalar value of a unit by itself; a lone surrogate has none, and is replaced. -/
def scalarOf (u : UInt16) : Char := if isSurrogate u then Char.ofNat 0xfffd else Char.ofNat u.toNat

/-- The scalar value of a surrogate pair. -/
def scalarOfPair (high low : UInt16) : Char :=
  Char.ofNat (0x10000 + (high.toNat - 0xd800) * 0x400 + (low.toNat - 0xdc00))

/-- The scalar values of a text. -/
def scalars : List UInt16 → List Char
  | [] => []
  | u :: v :: rest =>
    if isHighSurrogate u && isLowSurrogate v then scalarOfPair u v :: scalars rest
    else scalarOf u :: scalars (v :: rest)
  | [u] => [scalarOf u]

/-- `new TextEncoder().encode(text)`. -/
def utf8 (text : JsString) : List UInt8 := (scalars text.units).flatMap String.utf8EncodeChar

def byteOrderMark : Char := Char.ofNat 0xfeff

/-- `new TextDecoder('utf-8', { fatal: true }).decode(bytes)`, `none` when it throws; a byte order
mark at the front is no part of the text. -/
def ofUtf8? (bytes : List UInt8) : Option JsString :=
  bytes.toByteArray.utf8Decode?.map fun read =>
    let chars := read.toList
    ⟨(if chars.head? = some byteOrderMark then chars.tail else chars).flatMap ofChar⟩

section Scalars

theorem toNat_ofNat {n : Nat} (valid : n.isValidChar) : (Char.ofNat n).toNat = n := by
  rw [Char.ofNat, dif_pos valid]
  show (Char.ofNatAux n valid).val.toNat = n
  rfl

/-- A unit that is no surrogate is a scalar value. -/
theorem toNat_scalarOf {u : UInt16} (plain : isSurrogate u = false) : (scalarOf u).toNat = u.toNat := by
  rw [scalarOf, if_neg (by simp [plain])]
  have bound := u.toNat_lt
  refine toNat_ofNat ?_
  simp only [isSurrogate, isHighSurrogate, isLowSurrogate, Bool.or_eq_false_iff, Bool.and_eq_false_iff,
    decide_eq_false_iff_not, UInt16.le_iff_toNat_le, UInt16.reduceToNat] at plain
  unfold Nat.isValidChar
  omega

theorem surrogates_bounds {u v : UInt16} (pair : (isHighSurrogate u && isLowSurrogate v) = true) :
    (0xd800 ≤ u.toNat ∧ u.toNat ≤ 0xdbff) ∧ 0xdc00 ≤ v.toNat ∧ v.toNat ≤ 0xdfff := by
  simpa only [isHighSurrogate, isLowSurrogate, Bool.and_eq_true, decide_eq_true_eq, UInt16.le_iff_toNat_le,
    UInt16.reduceToNat] using pair

theorem toNat_scalarOfPair {u v : UInt16} (pair : (isHighSurrogate u && isLowSurrogate v) = true) :
    (scalarOfPair u v).toNat = 0x10000 + (u.toNat - 0xd800) * 0x400 + (v.toNat - 0xdc00) := by
  obtain ⟨high, low⟩ := surrogates_bounds pair
  refine toNat_ofNat ?_
  unfold Nat.isValidChar
  omega

theorem ofChar_scalarOf {u : UInt16} (plain : isSurrogate u = false) : ofChar (scalarOf u) = [u] := by
  have small := u.toNat_lt
  rw [ofChar, toNat_scalarOf plain, if_pos (by omega)]
  exact congrArg (fun u => [u]) (UInt16.ofNat_toNat)

theorem ofChar_scalarOfPair {u v : UInt16} (pair : (isHighSurrogate u && isLowSurrogate v) = true) :
    ofChar (scalarOfPair u v) = [u, v] := by
  obtain ⟨high, low⟩ := surrogates_bounds pair
  have first : (0x10000 + (u.toNat - 0xd800) * 0x400 + (v.toNat - 0xdc00) - 0x10000) / 0x400 + 0xd800 = u.toNat := by
    omega
  have second : (0x10000 + (u.toNat - 0xd800) * 0x400 + (v.toNat - 0xdc00) - 0x10000) % 0x400 + 0xdc00 = v.toNat := by
    omega
  rw [ofChar, toNat_scalarOfPair pair, if_neg (by omega), first, second]
  simp

/-- The scalar values of a well-formed text spell it. -/
theorem flatMap_ofChar_scalars {units : List UInt16} (wellFormed : isWellFormed units = true) :
    (scalars units).flatMap ofChar = units := by
  induction units using isWellFormed.induct with
  | case1 => rfl
  | case2 u v rest pair ih =>
    rw [isWellFormed, if_pos pair] at wellFormed
    rw [scalars, if_pos pair, List.flatMap_cons, ofChar_scalarOfPair pair, ih wellFormed]
    rfl
  | case3 u v rest pair ih =>
    rw [isWellFormed, if_neg pair, Bool.and_eq_true, Bool.not_eq_true'] at wellFormed
    rw [scalars, if_neg pair, List.flatMap_cons, ofChar_scalarOf wellFormed.1, ih wellFormed.2]
    rfl
  | case4 u =>
    rw [isWellFormed, Bool.not_eq_true'] at wellFormed
    rw [scalars, List.flatMap_singleton, ofChar_scalarOf wellFormed]

theorem scalars_cons {u : UInt16} (plain : isSurrogate u = false) (rest : List UInt16) :
    scalars (u :: rest) = scalarOf u :: scalars rest := by
  have high : isHighSurrogate u = false := (Bool.or_eq_false_iff.mp plain).1
  cases rest with
  | nil => rfl
  | cons v rest => rw [scalars, if_neg (by simp [high])]

/-- A scalar value is read back from its units. -/
theorem scalars_ofChar_append (c : Char) (rest : List UInt16) : scalars (ofChar c ++ rest) = c :: scalars rest := by
  have valid : c.toNat.isValidChar := c.valid
  unfold Nat.isValidChar at valid
  unfold ofChar
  split
  · rename_i small
    have same : c.toNat.toUInt16.toNat = c.toNat := UInt16.toNat_ofNat_of_lt' small
    have plain : isSurrogate c.toNat.toUInt16 = false := by
      simp only [isSurrogate, isHighSurrogate, isLowSurrogate, Bool.or_eq_false_iff, Bool.and_eq_false_iff,
        decide_eq_false_iff_not, UInt16.le_iff_toNat_le, UInt16.reduceToNat, same]
      omega
    rw [List.singleton_append, scalars_cons plain]
    refine congrArg (· :: _) ?_
    rw [scalarOf, if_neg (by simp [plain]), same, Char.ofNat_toNat]
  · rename_i large
    have first : ((c.toNat - 0x10000) / 0x400 + 0xd800).toUInt16.toNat = (c.toNat - 0x10000) / 0x400 + 0xd800 :=
      UInt16.toNat_ofNat_of_lt' (show _ < 65536 by omega)
    have second : ((c.toNat - 0x10000) % 0x400 + 0xdc00).toUInt16.toNat = (c.toNat - 0x10000) % 0x400 + 0xdc00 :=
      UInt16.toNat_ofNat_of_lt' (show _ < 65536 by omega)
    have pair : (isHighSurrogate ((c.toNat - 0x10000) / 0x400 + 0xd800).toUInt16 &&
        isLowSurrogate ((c.toNat - 0x10000) % 0x400 + 0xdc00).toUInt16) = true := by
      simp only [isHighSurrogate, isLowSurrogate, Bool.and_eq_true, decide_eq_true_eq, UInt16.le_iff_toNat_le,
        UInt16.reduceToNat, first, second]
      omega
    have same : scalarOfPair ((c.toNat - 0x10000) / 0x400 + 0xd800).toUInt16
        ((c.toNat - 0x10000) % 0x400 + 0xdc00).toUInt16 = c := by
      have whole : 0x10000 + ((c.toNat - 0x10000) / 0x400 + 0xd800 - 0xd800) * 0x400 +
          ((c.toNat - 0x10000) % 0x400 + 0xdc00 - 0xdc00) = c.toNat := by omega
      rw [scalarOfPair, first, second, whole, Char.ofNat_toNat]
    rw [List.cons_append, List.singleton_append, scalars, if_pos pair, same]

theorem scalars_flatMap_ofChar (chars : List Char) : scalars (chars.flatMap ofChar) = chars := by
  induction chars with
  | nil => rfl
  | cons c rest ih => rw [List.flatMap_cons, scalars_ofChar_append, ih]

end Scalars

section Bytes

theorem utf8Size_eq (c : Char) : c.utf8Size =
    if c.toNat < 0x80 then 1 else if c.toNat < 0x800 then 2 else if c.toNat < 0x10000 then 3 else 4 := by
  have same : c.toNat = c.val.toNat := rfl
  unfold Char.utf8Size
  simp only [UInt32.le_iff_toNat_le, same, UInt32.toNat_ofNatLT]
  split_ifs <;> omega

/-- The encoder writes as many bytes as are counted. -/
theorem length_utf8 (text : JsString) : text.utf8.length = text.byteLength := by
  obtain ⟨units⟩ := text
  show ((scalars units).flatMap String.utf8EncodeChar).length = utf8Length units
  have single : ∀ u : UInt16, (String.utf8EncodeChar (scalarOf u)).length =
      if u < 0x80 then 1 else if u < 0x800 then 2 else 3 := by
    intro u
    have bound := u.toNat_lt
    rw [String.length_utf8EncodeChar, utf8Size_eq]
    simp only [UInt16.lt_iff_toNat_lt, UInt16.reduceToNat]
    by_cases surrogate : isSurrogate u = true
    · have large : 0xd800 ≤ u.toNat := by
        simp only [isSurrogate, isHighSurrogate, isLowSurrogate, Bool.or_eq_true, Bool.and_eq_true,
          decide_eq_true_eq, UInt16.le_iff_toNat_le, UInt16.reduceToNat] at surrogate
        omega
      have replaced : (scalarOf u).toNat = 0xfffd := by
        rw [scalarOf, if_pos surrogate]
        rfl
      rw [replaced]
      split_ifs <;> omega
    · rw [toNat_scalarOf (Bool.eq_false_iff.mpr surrogate)]
      split_ifs <;> omega
  induction units using scalars.induct with
  | case1 => rfl
  | case2 u v rest pair ih =>
    obtain ⟨high, low⟩ := surrogates_bounds pair
    have four : (String.utf8EncodeChar (scalarOfPair u v)).length = 4 := by
      rw [String.length_utf8EncodeChar, utf8Size_eq, toNat_scalarOfPair pair]
      split_ifs <;> omega
    rw [scalars, if_pos pair, List.flatMap_cons, List.length_append, four, ih, utf8Length, if_pos pair]
  | case3 u v rest pair ih =>
    rw [scalars, if_neg pair, List.flatMap_cons, List.length_append, single, ih, utf8Length, if_neg pair]
  | case4 u =>
    rw [scalars, List.flatMap_singleton, single, utf8Length]

/-- **A text is read from its own bytes**, unless a byte order mark stands at its front. -/
theorem ofUtf8?_utf8 {text : JsString} (wellFormed : isWellFormed text.units = true)
    (unmarked : (scalars text.units).head? ≠ some byteOrderMark) : ofUtf8? text.utf8 = some text := by
  have decoded : text.utf8.toByteArray.utf8Decode? = some (scalars text.units).toArray :=
    List.utf8Decode?_utf8Encode
  rw [ofUtf8?, decoded, Option.map_some]
  dsimp only
  rw [if_neg unmarked, flatMap_ofChar_scalars wellFormed]

/-- The bytes of a byte order mark. -/
def markBytes : List UInt8 := String.utf8EncodeChar byteOrderMark

/-- **Nothing but the bytes of a text is read as it**, but for a byte order mark. -/
theorem utf8_of_ofUtf8? {bytes : List UInt8} {text : JsString} (read : ofUtf8? bytes = some text) :
    bytes = text.utf8 ∨ bytes = markBytes ++ text.utf8 := by
  obtain ⟨chars, decoded, rfl⟩ := Option.map_eq_some_iff.mp read
  have given : bytes.toByteArray.utf8Decode?.isSome = true := by rw [decoded]; rfl
  have encoded : chars.toList.utf8Encode = bytes.toByteArray := by
    have same := ByteArray.utf8Encode_get_utf8Decode? (b := bytes.toByteArray) (h := given)
    rwa [Option.get_of_eq_some given decoded] at same
  have spelt : bytes = chars.toList.flatMap String.utf8EncodeChar := List.toByteArray_inj.mp encoded.symm
  unfold utf8
  dsimp only
  rw [scalars_flatMap_ofChar]
  split
  · rename_i marked
    right
    obtain ⟨rest, same⟩ := List.head?_eq_some_iff.mp marked
    rw [spelt, same, List.flatMap_cons]
    rfl
  · exact .inl spelt

end Bytes
end JsString
end PiToPi
