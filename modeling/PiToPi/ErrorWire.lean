import PiToPi.MeasureProofs
import PiToPi.ValidationProofs
import PiToPi.CanonicalProofs
import Mathlib.Data.List.DropRight
import Mathlib.Data.List.TakeWhile

/-!
The errors `createProtocolError` makes, as the wire carries them: the message it bounds,
the details it sanitises, and what the validator says of the two.
-/
namespace PiToPi

/-- The object `createProtocolError` returns. -/
def ProtocolError.toJson (error : ProtocolError) : Json :=
  let common : List (JsString × Json) := [("code", .string error.code.name),
    ("message", .string error.message), ("retryable", .bool error.retryable)]
  .record (common ++
    (error.retryAfterMs.map fun delay => (("retryAfterMs" : JsString), Json.number delay)).toList ++
    (error.details.map fun details => (("details" : JsString), details)).toList)

namespace Json

mutual
/-- No key at any depth looks secret. -/
def secretFree : Json → Bool
  | .array elements => elementsSecretFree elements
  | .object _ members => membersSecretFree members
  | .null | .bool _ | .number _ | .string _ => true

def elementsSecretFree : List Json → Bool
  | [] => true
  | x :: rest => secretFree x && elementsSecretFree rest

def membersSecretFree : List (JsString × Json) → Bool
  | [] => true
  | (k, x) :: rest => !isSecretDetailKey k && secretFree x && membersSecretFree rest
end

/-- An array or an object. -/
def isStructured : Json → Bool
  | .array _ | .object .. => true
  | _ => false

mutual
/-- A member `__proto__` that holds an array or an object is reached when the value is
sanitised, so that its copy replaces a prototype. -/
def replacesPrototype (depth : Nat) : Json → Bool
  | .array elements => depth ≤ 8 && elementsReplace (depth + 1) 64 elements
  | .object _ members => depth ≤ 8 && membersReplace (depth + 1) 64 members
  | .null | .bool _ | .number _ | .string _ => false

def elementsReplace (depth room : Nat) : List Json → Bool
  | [] => false
  | x :: rest => room ≠ 0 && (replacesPrototype depth x || elementsReplace depth (room - 1) rest)

def membersReplace (depth room : Nat) : List (JsString × Json) → Bool
  | [] => false
  | (k, x) :: rest =>
    room ≠ 0 && (membersReplace depth (room - 1) rest || (!isSecretDetailKey k &&
      if k = "__proto__" then depth ≤ 8 && x.isStructured else replacesPrototype depth x))
end

end Json

open Json

section Sanitised

/-- What is deeper than eight levels is dropped, and nothing else is. -/
theorem sanitizeJsonValue_isSome {depth : Nat} {value : Json} :
    (sanitizeJsonValue depth value).isSome = true ↔ depth ≤ 8 := by
  cases value <;> simp only [sanitizeJsonValue] <;> split <;> simp <;> omega

/-- A copy is an array or an object just when its original is one. -/
theorem sanitizeJsonValue_structured {depth : Nat} {value safe : Json}
    (made : sanitizeJsonValue depth value = some safe) : safe.isStructured = value.isStructured := by
  cases value <;> simp only [sanitizeJsonValue] at made <;> split at made <;> cases made <;> rfl

/-- One member of an object that is sanitised. -/
theorem sanitizeMembers_cons (depth room : Nat) (k : JsString) (x : Json) (rest : List (JsString × Json)) :
    sanitizeMembers depth (room + 1) ((k, x) :: rest) =
      if isSecretDetailKey k ∨ 8 < depth then sanitizeMembers depth room rest
      else if k = "__proto__" then
        (if x.isStructured then some [] else (sanitizeMembers depth room rest).1,
          (sanitizeMembers depth room rest).2)
      else ((sanitizeMembers depth room rest).1,
        ((sanitizeJsonValue depth x).map (k, ·)).toList ++ (sanitizeMembers depth room rest).2) := by
  rw [sanitizeMembers, if_neg (Nat.succ_ne_zero room), Nat.add_sub_cancel]
  generalize sanitizeMembers depth room rest = others
  obtain ⟨readOnly, members⟩ := others
  dsimp only
  by_cases secret : isSecretDetailKey k = true
  · rw [if_pos secret, if_pos (.inl secret)]
  · rw [if_neg secret]
    cases made : sanitizeJsonValue depth x with
    | none =>
      have deep : ¬depth ≤ 8 := fun shallow => by
        have kept := (@sanitizeJsonValue_isSome depth x).mpr shallow
        rw [made] at kept
        cases kept
      rw [if_pos (.inr (not_le.mp deep))]
    | some safe =>
      have shallow : depth ≤ 8 := sanitizeJsonValue_isSome.mp (Option.isSome_of_mem made)
      rw [if_neg (by simp [secret, shallow])]
      dsimp only
      split
      · rw [← sanitizeJsonValue_structured made]
        cases safe <;> rfl
      · rfl

mutual
/-- A copy has plain objects just when no prototype in it was replaced. -/
theorem sanitizeJsonValue_plain : (value : Json) → ∀ (depth : Nat) (safe : Json),
    sanitizeJsonValue depth value = some safe → safe.plainObjects = !value.replacesPrototype depth
  | .null, depth, safe, made | .bool _, depth, safe, made | .number _, depth, safe, made
  | .string _, depth, safe, made => by
    rw [sanitizeJsonValue] at made
    split at made
    · cases made
    · cases made
      rfl
  | .array elements, depth, safe, made => by
    rw [sanitizeJsonValue] at made
    split at made
    · cases made
    · rename_i shallow
      cases made
      rw [plainObjects, replacesPrototype, sanitizeElements_plain elements]
      simp [not_lt.mp shallow]
  | .object _ members, depth, safe, made => by
    rw [sanitizeJsonValue] at made
    split at made
    · cases made
    · rename_i shallow
      cases made
      rw [plainObjects, replacesPrototype, sanitizeMembers_plain members]
      simp [not_lt.mp shallow]

theorem sanitizeElements_plain : (elements : List Json) → ∀ (depth room : Nat),
    elementsPlain (sanitizeElements depth room elements) = !elementsReplace depth room elements
  | [], depth, room => rfl
  | x :: rest, depth, 0 => by
    rw [sanitizeElements, if_pos rfl]
    rfl
  | x :: rest, depth, room + 1 => by
    rw [sanitizeElements, if_neg (Nat.succ_ne_zero room), Nat.add_sub_cancel, elementsReplace,
      Nat.add_sub_cancel]
    cases made : sanitizeJsonValue depth x with
    | none =>
      have deep : ¬depth ≤ 8 := fun shallow => by
        have kept := (@sanitizeJsonValue_isSome depth x).mpr shallow
        rw [made] at kept
        cases kept
      have none : x.replacesPrototype depth = false := by cases x <;> simp [replacesPrototype, deep]
      rw [none, sanitizeElements_plain rest]
      simp
    | some safe =>
      rw [elementsPlain, sanitizeJsonValue_plain x depth safe made, sanitizeElements_plain rest]
      simp

theorem sanitizeMembers_plain : (members : List (JsString × Json)) → ∀ (depth room : Nat),
    ((sanitizeMembers depth room members).1.isNone && membersPlain (sanitizeMembers depth room members).2) =
      !membersReplace depth room members
  | [], depth, room => rfl
  | (k, x) :: rest, depth, 0 => by
    rw [sanitizeMembers, if_pos rfl]
    rfl
  | (k, x) :: rest, depth, room + 1 => by
    have others := sanitizeMembers_plain rest depth room
    rw [sanitizeMembers_cons, membersReplace, Nat.add_sub_cancel]
    by_cases secret : isSecretDetailKey k = true
    · rw [if_pos (.inl secret), others, secret]
      simp
    · rw [Bool.not_eq_true] at secret
      by_cases shallow : depth ≤ 8
      · rw [if_neg (by simp [secret, shallow]), secret]
        by_cases proto : k = "__proto__"
        · rw [if_pos proto, if_pos proto]
          cases x.isStructured with
          | true => simp [shallow]
          | false => simpa using others
        · rw [if_neg proto, if_neg proto]
          obtain ⟨safe, made⟩ := Option.isSome_iff_exists.mp (sanitizeJsonValue_isSome.mpr shallow)
          have plain := sanitizeJsonValue_plain x depth safe made
          rw [made]
          simp only [Option.map_some, Option.toList_some, List.singleton_append, membersPlain, plain]
          rw [Bool.and_left_comm, others]
          simp [Bool.and_comm]
      · have none : x.replacesPrototype depth = false := by cases x <;> simp [replacesPrototype, shallow]
        rw [if_pos (.inr (not_le.mp shallow)), others]
        simp [shallow, none]
end

mutual
/-- No key that looks secret is left. -/
theorem sanitizeJsonValue_secretFree : (value : Json) → ∀ (depth : Nat) (safe : Json),
    sanitizeJsonValue depth value = some safe → safe.secretFree = true
  | .null, depth, safe, made | .bool _, depth, safe, made | .number _, depth, safe, made
  | .string _, depth, safe, made => by
    rw [sanitizeJsonValue] at made
    split at made
    · cases made
    · cases made
      rfl
  | .array elements, depth, safe, made => by
    rw [sanitizeJsonValue] at made
    split at made
    · cases made
    · cases made
      exact sanitizeElements_secretFree elements _ _
  | .object _ members, depth, safe, made => by
    rw [sanitizeJsonValue] at made
    split at made
    · cases made
    · cases made
      exact sanitizeMembers_secretFree members _ _

theorem sanitizeElements_secretFree : (elements : List Json) → ∀ (depth room : Nat),
    elementsSecretFree (sanitizeElements depth room elements) = true
  | [], depth, room => rfl
  | x :: rest, depth, 0 => by
    rw [sanitizeElements, if_pos rfl]
    rfl
  | x :: rest, depth, room + 1 => by
    rw [sanitizeElements, if_neg (Nat.succ_ne_zero room), Nat.add_sub_cancel]
    cases made : sanitizeJsonValue depth x with
    | none => exact sanitizeElements_secretFree rest depth room
    | some safe =>
      rw [elementsSecretFree, sanitizeJsonValue_secretFree x depth safe made,
        sanitizeElements_secretFree rest depth room]
      rfl

theorem sanitizeMembers_secretFree : (members : List (JsString × Json)) → ∀ (depth room : Nat),
    membersSecretFree (sanitizeMembers depth room members).2 = true
  | [], depth, room => rfl
  | (k, x) :: rest, depth, 0 => by
    rw [sanitizeMembers, if_pos rfl]
    rfl
  | (k, x) :: rest, depth, room + 1 => by
    have others := sanitizeMembers_secretFree rest depth room
    rw [sanitizeMembers_cons]
    split
    · exact others
    · rename_i kept
      rw [not_or, Bool.not_eq_true] at kept
      split
      · exact others
      · cases made : sanitizeJsonValue depth x with
        | none => exact others
        | some safe =>
          change membersSecretFree ((k, safe) :: (sanitizeMembers depth room rest).2) = true
          rw [membersSecretFree, kept.1, sanitizeJsonValue_secretFree x depth safe made, others]
          rfl
end

mutual
/-- A copy ends at the eighth level. -/
theorem sanitizeJsonValue_height : (value : Json) → ∀ (depth : Nat) (safe : Json),
    sanitizeJsonValue depth value = some safe → depth + safe.height ≤ 8
  | .null, depth, safe, made | .bool _, depth, safe, made | .number _, depth, safe, made
  | .string _, depth, safe, made => by
    rw [sanitizeJsonValue] at made
    split at made
    · cases made
    · rename_i shallow
      cases made
      exact not_lt.mp shallow
  | .array elements, depth, safe, made => by
    rw [sanitizeJsonValue] at made
    split at made
    · cases made
    · cases made
      have below := sanitizeElements_height elements (depth + 1) 64
      rw [height]
      omega
  | .object _ members, depth, safe, made => by
    rw [sanitizeJsonValue] at made
    split at made
    · cases made
    · cases made
      have below := sanitizeMembers_height members (depth + 1) 64
      rw [height]
      omega

theorem sanitizeElements_height : (elements : List Json) → ∀ (depth room : Nat),
    depth + elementsHeight (sanitizeElements depth room elements) ≤ max 9 depth
  | [], depth, room => le_max_right _ _
  | x :: rest, depth, 0 => by
    rw [sanitizeElements, if_pos rfl]
    exact le_max_right _ _
  | x :: rest, depth, room + 1 => by
    have below := sanitizeElements_height rest depth room
    rw [sanitizeElements, if_neg (Nat.succ_ne_zero room), Nat.add_sub_cancel]
    cases made : sanitizeJsonValue depth x with
    | none => exact below
    | some safe =>
      have first := sanitizeJsonValue_height x depth safe made
      rw [elementsHeight]
      omega

theorem sanitizeMembers_height : (members : List (JsString × Json)) → ∀ (depth room : Nat),
    depth + membersHeight (sanitizeMembers depth room members).2 ≤ max 9 depth
  | [], depth, room => le_max_right _ _
  | (k, x) :: rest, depth, 0 => by
    rw [sanitizeMembers, if_pos rfl]
    exact le_max_right _ _
  | (k, x) :: rest, depth, room + 1 => by
    have below := sanitizeMembers_height rest depth room
    rw [sanitizeMembers_cons]
    split
    · exact below
    · split
      · exact below
      · cases made : sanitizeJsonValue depth x with
        | none => exact below
        | some safe =>
          have first := sanitizeJsonValue_height x depth safe made
          change depth + membersHeight ((k, safe) :: (sanitizeMembers depth room rest).2) ≤ _
          rw [membersHeight]
          omega
end

/-- Members that are kept stay in their order. -/
theorem sanitizeMembers_keys (depth room : Nat) (members : List (JsString × Json)) :
    ((sanitizeMembers depth room members).2.map Prod.fst).Sublist (members.map Prod.fst) := by
  induction members generalizing room with
  | nil => exact List.Sublist.slnil
  | cons member rest ih =>
    obtain ⟨k, x⟩ := member
    cases room with
    | zero =>
      rw [sanitizeMembers, if_pos rfl]
      exact List.nil_sublist _
    | succ room =>
      rw [sanitizeMembers_cons]
      split
      · exact (ih room).cons k
      · split
        · exact (ih room).cons k
        · cases sanitizeJsonValue depth x with
          | none => exact (ih room).cons k
          | some safe => exact (ih room).cons_cons k

/-- Some of the keys of an object are enumerated in their order. -/
theorem enumerated_sublist {keys all : List JsString} (sublist : keys.Sublist all)
    (inOrder : enumerated all = true) : enumerated keys = true := by
  unfold enumerated at inOrder ⊢
  rw [Bool.and_eq_true, Bool.and_eq_true, decide_eq_true_eq, decide_eq_true_eq,
    Bool.not_eq_true'] at inOrder ⊢
  obtain ⟨⟨nodup, ascending⟩, others⟩ := inOrder
  obtain ⟨indices, names, rfl, first, second⟩ :
      ∃ indices names, keys = indices ++ names ∧ indices.Sublist (all.takeWhile JsString.isArrayIndex) ∧
        names.Sublist (all.dropWhile JsString.isArrayIndex) := by
    rw [← List.takeWhile_append_dropWhile (p := JsString.isArrayIndex) (l := all)] at sublist
    exact List.sublist_append_iff.mp sublist
  have index : ∀ key ∈ indices, key.isArrayIndex = true := fun key member =>
    List.mem_takeWhile_imp (first.subset member)
  rw [List.any_eq_false] at others
  have name : ∀ key ∈ names, key.isArrayIndex = false := fun key member => by
    simpa using others key (second.subset member)
  have taken : (indices ++ names).takeWhile JsString.isArrayIndex = indices := by
    rw [List.takeWhile_append_of_pos index]
    cases names with
    | nil => simp
    | cons key rest => simp [name key List.mem_cons_self]
  have dropped : (indices ++ names).dropWhile JsString.isArrayIndex = names := by
    rw [List.dropWhile_append_of_pos index]
    cases names with
    | nil => rfl
    | cons key rest => simp [name key List.mem_cons_self]
  rw [taken, dropped]
  refine ⟨⟨nodup.sublist sublist, ascending.sublist first⟩, ?_⟩
  rw [List.any_eq_false]
  intro key member
  simp [name key member]

variable {N : NumberHost}

mutual
/-- A copy of a value of the host is one, if its objects are plain. -/
theorem sanitizeJsonValue_isPlain : (value : Json) → ∀ (depth : Nat) (safe : Json),
    sanitizeJsonValue depth value = some safe → isPlain N value = true → safe.plainObjects = true →
      isPlain N safe = true
  | .null, depth, safe, made, given, plain | .bool _, depth, safe, made, given, plain
  | .number _, depth, safe, made, given, plain | .string _, depth, safe, made, given, plain => by
    rw [sanitizeJsonValue] at made
    split at made
    · cases made
    · cases made
      exact given
  | .array elements, depth, safe, made, given, plain => by
    rw [sanitizeJsonValue] at made
    split at made
    · cases made
    · cases made
      exact sanitizeElements_isPlain elements _ _ given plain
  | .object readOnly members, depth, safe, made, given, plain => by
    rw [sanitizeJsonValue] at made
    split at made
    · cases made
    · cases made
      rw [isPlain, Bool.and_eq_true, Bool.and_eq_true] at given
      rw [plainObjects, Bool.and_eq_true] at plain
      rw [isPlain, plain.1, enumerated_sublist (sanitizeMembers_keys _ _ members) given.1.2,
        sanitizeMembers_isPlain members _ _ given.2 plain.2]
      rfl

theorem sanitizeElements_isPlain : (elements : List Json) → ∀ (depth room : Nat),
    plainElements N elements = true → elementsPlain (sanitizeElements depth room elements) = true →
      plainElements N (sanitizeElements depth room elements) = true
  | [], depth, room, given, plain => rfl
  | x :: rest, depth, 0, given, plain => by
    rw [sanitizeElements, if_pos rfl]
    rfl
  | x :: rest, depth, room + 1, given, plain => by
    rw [plainElements, Bool.and_eq_true] at given
    rw [sanitizeElements, if_neg (Nat.succ_ne_zero room), Nat.add_sub_cancel] at plain ⊢
    cases made : sanitizeJsonValue depth x with
    | none =>
      rw [made] at plain
      exact sanitizeElements_isPlain rest depth room given.2 plain
    | some safe =>
      rw [made, elementsPlain, Bool.and_eq_true] at plain
      rw [plainElements, sanitizeJsonValue_isPlain x depth safe made given.1 plain.1,
        sanitizeElements_isPlain rest depth room given.2 plain.2]
      rfl

theorem sanitizeMembers_isPlain : (members : List (JsString × Json)) → ∀ (depth room : Nat),
    plainMembers N members = true → membersPlain (sanitizeMembers depth room members).2 = true →
      plainMembers N (sanitizeMembers depth room members).2 = true
  | [], depth, room, given, plain => rfl
  | (k, x) :: rest, depth, 0, given, plain => by
    rw [sanitizeMembers, if_pos rfl]
    rfl
  | (k, x) :: rest, depth, room + 1, given, plain => by
    rw [plainMembers, Bool.and_eq_true] at given
    have others := sanitizeMembers_isPlain rest depth room given.2
    rw [sanitizeMembers_cons] at plain ⊢
    split
    · rename_i skipped
      rw [if_pos skipped] at plain
      exact others plain
    · rename_i kept
      rw [if_neg kept] at plain
      split
      · rename_i proto
        rw [if_pos proto] at plain
        exact others plain
      · rename_i ordinary
        rw [if_neg ordinary] at plain
        cases made : sanitizeJsonValue depth x with
        | none =>
          rw [made] at plain
          exact others plain
        | some safe =>
          rw [made] at plain
          change membersPlain ((k, safe) :: (sanitizeMembers depth room rest).2) = true at plain
          change plainMembers N ((k, safe) :: (sanitizeMembers depth room rest).2) = true
          rw [membersPlain, Bool.and_eq_true] at plain
          rw [plainMembers, sanitizeJsonValue_isPlain x depth safe made given.1 plain.1, others plain.2]
          rfl
end

end Sanitised

section Message

open JsString

/-- A text that begins and ends with something that `trim` keeps. -/
def Trimmed (units : List UInt16) : Prop :=
  (∀ u ∈ units.head?, isTrimmed u = false) ∧ ∀ u ∈ units.getLast?, isTrimmed u = false

theorem trim_units (text : JsString) :
    text.trim.units = (text.units.dropWhile isTrimmed).rdropWhile isTrimmed := rfl

theorem trim_trimmed (text : JsString) : Trimmed text.trim.units := by
  rw [trim_units]
  constructor
  · intro u first
    obtain ⟨rest, whole⟩ := List.rdropWhile_prefix isTrimmed (text.units.dropWhile isTrimmed)
    have front : u ∈ (text.units.dropWhile isTrimmed).head? := by
      rw [← whole, List.head?_append, Option.mem_def.mp first]
      rfl
    have kept := List.head?_dropWhile_not isTrimmed text.units
    rw [Option.mem_def.mp front] at kept
    simpa using kept
  · intro u last
    obtain ⟨nonempty, same⟩ := List.mem_getLast?_eq_getLast last
    rw [same]
    simpa using List.rdropWhile_last_not isTrimmed _ nonempty

theorem trim_of_trimmed {text : JsString} (trimmed : Trimmed text.units) : text.trim = text := by
  have front : text.units.dropWhile isTrimmed = text.units := by
    cases units : text.units with
    | nil => rfl
    | cons u rest =>
      have kept := trimmed.1 u (by rw [units]; rfl)
      exact List.dropWhile_cons_of_neg (by simp [kept])
  have back : text.units.rdropWhile isTrimmed = text.units := by
    rw [List.rdropWhile_eq_self_iff]
    intro nonempty
    simpa using trimmed.2 _ (List.getLast_mem_getLast? nonempty)
  have same : text.trim.units = text.units := by rw [trim_units, front, back]
  cases text
  exact congrArg JsString.mk same

/-- The message of an error passes for one. -/
theorem boundedMessage_safe (value : JsString) :
    Validation.isSafeHumanReadableMessage (boundedMessage value) = true := by
  have passes : ∀ text : JsString, text.length ≤ maxProtocolErrorMessageLength → text.units ≠ [] →
      Trimmed text.units → (∀ u ∈ text.units, isControl u = false) →
        Validation.isSafeHumanReadableMessage text = true := by
    intro text short nonempty trimmed printable
    unfold Validation.isSafeHumanReadableMessage
    rw [trim_of_trimmed trimmed]
    have some : 0 < text.length := List.length_pos_of_ne_nil nonempty
    simp only [short, decide_true, beq_self_eq_true, some, Bool.and_true, Bool.true_and,
      Bool.not_eq_true', List.any_eq_false, Bool.not_eq_true]
    exact printable
  have printable : ∀ u ∈ (trim ⟨value.units.map fun u => if isControl u then 0x20 else u⟩).units,
      isControl u = false := by
    intro u member
    rw [trim_units] at member
    have inside := (List.dropWhile_sublist _).subset ((List.rdropWhile_prefix _ _).subset member)
    obtain ⟨v, -, rfl⟩ := List.mem_map.mp inside
    split
    · decide
    · rename_i printable
      exact Bool.not_eq_true _ ▸ printable
  have trimmed := trim_trimmed ⟨value.units.map fun u => if isControl u then 0x20 else u⟩
  unfold boundedMessage
  dsimp only
  generalize trim ⟨value.units.map fun u => if isControl u then 0x20 else u⟩ = normalized at *
  by_cases empty : normalized.length = 0
  · rw [if_pos empty]
    decide
  · rw [if_neg empty]
    have nonempty : normalized.units ≠ [] := fun nothing => empty (congrArg List.length nothing)
    split
    · rename_i short
      exact passes normalized short nonempty trimmed printable
    · rename_i long
      obtain ⟨first, rest, units⟩ := List.exists_cons_of_ne_nil nonempty
      apply passes
      · have taken := List.length_take_le (maxProtocolErrorMessageLength - 1) normalized.units
        unfold JsString.length
        rw [List.length_append, List.length_singleton]
        unfold maxProtocolErrorMessageLength at taken ⊢
        omega
      · exact List.append_ne_nil_of_right_ne_nil _ (List.cons_ne_nil _ _)
      · refine ⟨fun u front => ?_, fun u back => ?_⟩
        · dsimp only at front
          rw [units] at front
          cases front
          exact trimmed.1 first (by rw [units]; rfl)
        · rw [List.getLast?_append] at back
          cases back
          decide
      · intro u member
        rcases List.mem_append.mp member with kept | ellipsis
        · exact printable u (List.mem_of_mem_take kept)
        · rw [List.mem_singleton.mp ellipsis]
          decide

end Message

section Wire

open Validation

variable {N : NumberHost}

mutual
theorem isJsonData_of_isPlain : (value : Json) → isPlain N value = true → isJsonData value = true
  | .null, _ | .bool _, _ | .number _, _ | .string _, _ => rfl
  | .array elements, plain => areJsonData_of_plain elements plain
  | .object readOnly members, plain => by
    rw [isPlain, Bool.and_eq_true, Bool.and_eq_true, enumerated, Bool.and_eq_true,
      Bool.and_eq_true] at plain
    rw [isJsonData, plain.1.1, plain.1.2.1.1, membersAreJsonData_of_plain members plain.2]
    rfl

theorem areJsonData_of_plain : (elements : List Json) → plainElements N elements = true →
    areJsonData elements = true
  | [], _ => rfl
  | x :: rest, plain => by
    rw [plainElements, Bool.and_eq_true] at plain
    rw [areJsonData, isJsonData_of_isPlain x plain.1, areJsonData_of_plain rest plain.2]
    rfl

theorem membersAreJsonData_of_plain : (members : List (JsString × Json)) →
    plainMembers N members = true → membersAreJsonData members = true
  | [], _ => rfl
  | (k, x) :: rest, plain => by
    rw [plainMembers, Bool.and_eq_true] at plain
    rw [membersAreJsonData, isJsonData_of_isPlain x plain.1, membersAreJsonData_of_plain rest plain.2]
    rfl
end

/-- A value that is written and read again is the same. -/
theorem parse_same {value : Json} (plain : isPlain N value = true) :
    ∃ decoded, Json.parse N value.stringify = some decoded ∧ Same value decoded :=
  ⟨_, parse_rebuilt (rebuilt_of_isPlain value plain).1,
    rebuilt_same value (isJsonData_of_isPlain value plain)⟩

/-- The options of an error: a number, and a JSON object. -/
structure ErrorOptions (N : NumberHost) where
  retryAfterMs : Option JsNumber
  details : Option Json
  number : ∀ delay ∈ retryAfterMs, isPlain N (.number delay) = true
  object : ∀ given ∈ details, given.isRecord = true ∧ isPlain N given = true

/-- What the wire asks of an error. -/
structure WireError (N : NumberHost) (error : ProtocolError) : Prop where
  message : isSafeHumanReadableMessage error.message = true
  bounded : ∀ details ∈ error.details, details.stringify.byteLength ≤ maxProtocolErrorDetailsBytes
  secretFree : ∀ details ∈ error.details, details.secretFree = true
  accepted : ∀ path, validateProtocolErrorValue error.toJson path = .ok ()
  decoded : ∃ decoded, Json.parse N error.toJson.stringify = some decoded ∧ Same error.toJson decoded

/-- What is kept of the details has no room, so that they are left out. -/
def Crowded (details : Json) : Prop :=
  ∃ safe, sanitizeJsonValue 0 details = some safe ∧
    maxProtocolErrorDetailsBytes < safe.stringify.byteLength

/-- What stands for details that have no room. -/
def truncatedMarker : Json := .record [("truncated", .bool true)]

/-- An object is sanitised to an object. -/
theorem boundedDetails_eq {details : Json} (record : details.isRecord = true) :
    ∃ safe, sanitizeJsonValue 0 details = some safe ∧ safe.isRecord = true ∧
      boundedDetails details =
        if safe.stringify.byteLength ≤ maxProtocolErrorDetailsBytes then safe else truncatedMarker := by
  cases details with
  | object readOnly members =>
    unfold boundedDetails
    rw [sanitizeJsonValue]
    exact ⟨_, rfl, rfl, rfl⟩
  | null | bool _ | number _ | string _ | array _ => cases record

/-- Details pass just when their objects are plain, as long as they are not deep or large. -/
theorem validateDetails_ok_iff {details : Json} (record : details.isRecord = true)
    (shallow : details.height ≤ 8)
    (small : details.stringify.byteLength ≤ maxProtocolErrorDetailsBytes) (path : JsString) :
    validateDetails details path = .ok () ↔ details.plainObjects = true := by
  have few := nodeCount_le details
  have measured : ∀ bytes, measureJsonBytes JsNumber.maxSafeInteger details = .ok bytes ↔
      details.plainObjects = true ∧ bytes = details.stringify.byteLength := by
    intro bytes
    rw [measureJsonBytes_ok_iff]
    unfold maxProtocolErrorDetailsBytes at small
    unfold Fits defaultValidationMaxDepth defaultValidationMaxNodes JsNumber.maxSafeInteger
    constructor
    · rintro ⟨plain, -, -, same, -⟩
      exact ⟨plain, same⟩
    · rintro ⟨plain, rfl⟩
      exact ⟨plain, by omega, by omega, rfl, by omega, by exact_mod_cast (by omega)⟩
  unfold validateDetails validateJsonValueInternal
  cases plain : details.plainObjects with
  | true =>
    rw [(measured _).mpr ⟨plain, rfl⟩]
    have object : details.isPlainObject = true := by
      cases details with
      | object readOnly members =>
        rw [plainObjects, Bool.and_eq_true, Option.isNone_iff_eq_none] at plain
        rw [plain.1]
        rfl
      | null | bool _ | number _ | string _ | array _ => cases record
    change requireField details.isPlainObject _ _ _ _ = _ ↔ _
    rw [object]
    exact ⟨fun _ => rfl, fun _ => rfl⟩
  | false =>
    refine ⟨fun passed => ?_, fun wrong => absurd wrong Bool.false_ne_true⟩
    cases outcome : measureJsonBytes JsNumber.maxSafeInteger details with
    | ok bytes =>
      rw [((measured bytes).mp outcome).1] at plain
      cases plain
    | tooLarge bytes =>
      rw [outcome] at passed
      cases passed
    | invalid path reason =>
      rw [outcome] at passed
      cases passed

theorem isPositive_value {n : JsNumber} (positive : n.isPositive = true) : 0 < n.value := by
  unfold JsNumber.isPositive at positive
  rw [Bool.and_eq_true, Bool.not_eq_true', bne_iff_ne] at positive
  unfold JsNumber.value
  rw [positive.1]
  have significand : 0 < (n.significand : ℚ) := by exact_mod_cast Nat.pos_of_ne_zero positive.2
  simp only [Bool.false_eq_true, if_false]
  positivity

theorem ErrorCode.ofName?_name (code : ErrorCode) : ErrorCode.ofName? code.name = some code := by
  cases code <;> decide +kernel

/-- The members of an error that it may not have. -/
def optionalMembers (retryAfterMs : Option JsNumber) (details : Option Json) : List (JsString × Json) :=
  (retryAfterMs.map fun delay => (("retryAfterMs" : JsString), Json.number delay)).toList ++
    (details.map fun details => (("details" : JsString), details)).toList

theorem get?_optional (retryAfterMs : Option JsNumber) (details : Option Json) :
    (Json.record (optionalMembers retryAfterMs details)).get? "retryAfterMs" =
        retryAfterMs.map Json.number ∧
      (Json.record (optionalMembers retryAfterMs details)).get? "details" = details := by
  have apart : ("retryAfterMs" : JsString) ≠ "details" := by decide
  unfold optionalMembers
  cases retryAfterMs with
  | none =>
    cases details with
    | none => exact ⟨rfl, rfl⟩
    | some details => exact ⟨(get?_cons ..).trans (if_neg apart.symm), (get?_cons ..).trans (if_pos rfl)⟩
  | some delay =>
    cases details with
    | none => exact ⟨(get?_cons ..).trans (if_pos rfl), (get?_cons ..).trans (if_neg apart)⟩
    | some details => exact ⟨(get?_cons ..).trans (if_pos rfl),
        (get?_cons ..).trans ((if_neg apart).trans ((get?_cons ..).trans (if_pos rfl)))⟩

/-- An error of a known code with a safe message passes with a delay and details that do. -/
theorem validateProtocolErrorValue_members {code : ErrorCode} {text : JsString}
    (message : isSafeHumanReadableMessage text = true) (rest : List (JsString × Json)) (path : JsString) :
    validateProtocolErrorValue (.record (("code", .string code.name) :: ("message", .string text) ::
        ("retryable", .bool (isRetryableErrorCode code)) :: rest)) path = .ok () ↔
      ((Json.record rest).get? "retryAfterMs" = none ∨
        isRetryDelay ((Json.record rest).get? "retryAfterMs") (isRetryableErrorCode code) = true) ∧
      ∀ details ∈ (Json.record rest).get? "details",
        validateDetails details (path ++ ".details") = .ok () := by
  have known := ErrorCode.ofName?_name code
  have skip : ∀ key : JsString, ("code" : JsString) ≠ key → ("message" : JsString) ≠ key →
      ("retryable" : JsString) ≠ key → (Json.record (("code", .string code.name) ::
        ("message", .string text) :: ("retryable", .bool (isRetryableErrorCode code)) :: rest)).get? key =
        (Json.record rest).get? key := by
    intro key first second third
    rw [get?_cons, if_neg first, get?_cons, if_neg second, get?_cons, if_neg third]
  have codeField : (Json.record (("code", .string code.name) :: ("message", .string text) ::
      ("retryable", .bool (isRetryableErrorCode code)) :: rest)).get? "code" =
        some (.string code.name) := by rw [get?_cons, if_pos rfl]
  have messageField : (Json.record (("code", .string code.name) :: ("message", .string text) ::
      ("retryable", .bool (isRetryableErrorCode code)) :: rest)).get? "message" =
        some (.string text) := by
    rw [get?_cons, if_neg (by decide), get?_cons, if_pos rfl]
  have retryField : (Json.record (("code", .string code.name) :: ("message", .string text) ::
      ("retryable", .bool (isRetryableErrorCode code)) :: rest)).get? "retryable" =
        some (.bool (isRetryableErrorCode code)) := by
    rw [get?_cons, if_neg (by decide), get?_cons, if_neg (by decide), get?_cons, if_pos rfl]
  unfold validateProtocolErrorValue hasOwn
  dsimp only
  rw [codeField, messageField, retryField,
    skip "retryAfterMs" (by decide) (by decide) (by decide),
    skip "details" (by decide) (by decide) (by decide)]
  have flag : (some (isRetryableErrorCode code) == some true) = isRetryableErrorCode code := by
    cases isRetryableErrorCode code <;> rfl
  simp only [Option.bind_some, asString?, asBool?, known, Option.isSome_some, hasText, Option.any_some,
    message, Option.map_some, beq_self_eq_true, requireField, if_true, isPlainObject, require, flag]
  cases waits : (Json.record rest).get? "retryAfterMs" with
  | none =>
    cases (Json.record rest).get? "details" with
    | none => exact ⟨fun _ => ⟨.inl rfl, nofun⟩, fun _ => rfl⟩
    | some details =>
      constructor
      · intro passed
        refine ⟨.inl rfl, fun given same => ?_⟩
        cases same
        exact passed
      · rintro ⟨-, passed⟩
        exact passed details rfl
  | some wait =>
    cases suits : isRetryDelay (some wait) (isRetryableErrorCode code) with
    | false =>
      constructor
      · exact nofun
      · rintro ⟨none | suits, -⟩
        · cases none
        · cases suits
    | true =>
      cases (Json.record rest).get? "details" with
      | none => exact ⟨fun _ => ⟨.inr rfl, nofun⟩, fun _ => rfl⟩
      | some details =>
        constructor
        · intro passed
          refine ⟨.inr rfl, fun given same => ?_⟩
          cases same
          exact passed
        · rintro ⟨-, passed⟩
          exact passed details rfl

theorem toJson_eq (error : ProtocolError) : error.toJson =
    .record (("code", .string error.code.name) :: ("message", .string error.message) ::
      ("retryable", .bool error.retryable) :: optionalMembers error.retryAfterMs error.details) := rfl

/-- An object with these members is one of the host. -/
theorem isPlain_record {members : List (JsString × Json)} {keys : List JsString}
    (same : members.map Prod.fst = keys) (inOrder : enumerated keys = true)
    (plain : plainMembers N members = true) : isPlain N (.record members) = true := by
  rw [isPlain, same, inOrder, plain]
  rfl

/-- The object of an error is one of the host if its delay and details are. -/
theorem isPlain_toJson {error : ProtocolError}
    (number : ∀ delay ∈ error.retryAfterMs, isPlain N (.number delay) = true)
    (object : ∀ details ∈ error.details, isPlain N details = true) : isPlain N error.toJson = true := by
  obtain ⟨code, message, retryable, retryAfterMs, details⟩ := error
  rw [toJson_eq]
  unfold optionalMembers
  dsimp only at number object ⊢
  cases retryAfterMs with
  | none =>
    cases details with
    | none => exact @isPlain_record N _ ["code", "message", "retryable"] rfl (by decide) rfl
    | some details =>
      apply @isPlain_record N _ ["code", "message", "retryable", "details"] rfl (by decide)
      change plainMembers N [("details", details)] = true
      rw [plainMembers, object details rfl]
      rfl
  | some delay =>
    cases details with
    | none =>
      apply @isPlain_record N _ ["code", "message", "retryable", "retryAfterMs"] rfl (by decide)
      change plainMembers N [("retryAfterMs", .number delay)] = true
      rw [plainMembers, number delay rfl]
      rfl
    | some details =>
      apply @isPlain_record N _ ["code", "message", "retryable", "retryAfterMs", "details"] rfl
        (by decide)
      change plainMembers N [("retryAfterMs", .number delay), ("details", details)] = true
      rw [plainMembers, plainMembers, number delay rfl, object details rfl]
      rfl

/-- The details of an error: they have room, keep no secret and are not deep. -/
theorem boundedDetails_bounds {given : Json} (record : given.isRecord = true) :
    (boundedDetails given).isRecord = true ∧ (boundedDetails given).height ≤ 8 ∧
      (boundedDetails given).stringify.byteLength ≤ maxProtocolErrorDetailsBytes ∧
      (boundedDetails given).secretFree = true := by
  obtain ⟨safe, made, object, same⟩ := boundedDetails_eq record
  rw [same]
  split
  · rename_i room
    have shallow := sanitizeJsonValue_height given 0 safe made
    exact ⟨object, by omega, room, sanitizeJsonValue_secretFree given 0 safe made⟩
  · exact ⟨rfl, by decide, by decide, by decide⟩

/-- The details that are sent are plain objects unless a prototype was replaced. -/
theorem boundedDetails_plain_iff {given : Json} (record : given.isRecord = true) :
    (boundedDetails given).plainObjects = true ↔
      given.replacesPrototype 0 = false ∨ Crowded given := by
  obtain ⟨safe, made, -, same⟩ := boundedDetails_eq record
  have plain := sanitizeJsonValue_plain given 0 safe made
  rw [same]
  unfold Crowded
  split
  · rename_i room
    rw [plain, Bool.not_eq_true']
    constructor
    · exact .inl
    · rintro (kept | ⟨other, again, large⟩)
      · exact kept
      · rw [made] at again
        cases again
        exact absurd large (not_lt.mpr room)
  · rename_i large
    exact ⟨fun _ => .inr ⟨safe, made, not_le.mp large⟩, fun _ => rfl⟩

theorem boundedDetails_isPlain {given : Json} (object : given.isRecord = true ∧ isPlain N given = true)
    (plain : (boundedDetails given).plainObjects = true) : isPlain N (boundedDetails given) = true := by
  obtain ⟨safe, made, -, same⟩ := boundedDetails_eq object.1
  rw [same] at plain ⊢
  split
  · rename_i room
    rw [if_pos room] at plain
    exact sanitizeJsonValue_isPlain given 0 safe made object.2 plain
  · exact isPlain_record rfl (by decide) rfl

/-- An error is one of the wire just when no prototype of its details was replaced by what
they say, or they were left out. -/
theorem createProtocolErrorWith_wire_iff {code : ErrorCode} {message : JsString}
    {options : ErrorOptions N} {error : ProtocolError}
    (created : createProtocolErrorWith code message options.retryAfterMs options.details = some error) :
    WireError N error ↔
      ∀ given ∈ options.details, given.replacesPrototype 0 = false ∨ Crowded given := by
  unfold createProtocolErrorWith at created
  split at created
  · rename_i suits
    cases created
    rw [Option.all_eq_true] at suits
    have delays : ∀ delay ∈ options.retryAfterMs,
        delay.isPositive = true ∧ isRetryableErrorCode code = true := fun delay given =>
      (Bool.and_eq_true _ _).mp (suits delay given)
    have details : ∀ details ∈ options.details.map boundedDetails,
        ∃ given ∈ options.details, details = boundedDetails given := by
      intro details made
      obtain ⟨given, from_, same⟩ := Option.map_eq_some_iff.mp made
      exact ⟨given, from_, same.symm⟩
    have checked : ∀ path, validateProtocolErrorValue (ProtocolError.toJson
        ⟨code, boundedMessage message, isRetryableErrorCode code, options.retryAfterMs,
          options.details.map boundedDetails⟩) path = .ok () ↔
        ∀ given ∈ options.details, given.replacesPrototype 0 = false ∨ Crowded given := by
      intro path
      rw [toJson_eq, validateProtocolErrorValue_members (boundedMessage_safe message)]
      obtain ⟨waits, holds⟩ := get?_optional options.retryAfterMs (options.details.map boundedDetails)
      rw [waits, holds]
      constructor
      · rintro ⟨-, passed⟩ given from_
        obtain ⟨record, shallow, room, -⟩ := boundedDetails_bounds (options.object given from_).1
        rw [← boundedDetails_plain_iff (options.object given from_).1,
          ← validateDetails_ok_iff record shallow room]
        exact passed _ (Option.mem_map_of_mem _ from_)
      · intro kept
        constructor
        · cases wait : options.retryAfterMs with
          | none => exact .inl rfl
          | some delay =>
            obtain ⟨positive, retryable⟩ := delays delay wait
            right
            simp [isRetryDelay, asNumber?, isPositive_value positive, retryable]
        · intro sent made
          obtain ⟨given, from_, rfl⟩ := details sent made
          obtain ⟨record, shallow, room, -⟩ := boundedDetails_bounds (options.object given from_).1
          rw [validateDetails_ok_iff record shallow room,
            boundedDetails_plain_iff (options.object given from_).1]
          exact kept given from_
    constructor
    · intro wire
      exact (checked "").mp (wire.accepted "")
    · intro kept
      refine ⟨boundedMessage_safe message, ?_, ?_, fun path => (checked path).mpr kept, ?_⟩
      · intro sent made
        obtain ⟨given, from_, rfl⟩ := details sent made
        exact (boundedDetails_bounds (options.object given from_).1).2.2.1
      · intro sent made
        obtain ⟨given, from_, rfl⟩ := details sent made
        exact (boundedDetails_bounds (options.object given from_).1).2.2.2
      · apply parse_same
        apply isPlain_toJson options.number
        intro sent made
        obtain ⟨given, from_, rfl⟩ := details sent made
        exact boundedDetails_isPlain (options.object given from_)
          ((boundedDetails_plain_iff (options.object given from_).1).mpr (kept given from_))
  · cases created

/-- Details whose `__proto__` is an object. -/
def prototypeDetails : Json := .record [("__proto__", .record [])]

/-- The options with them. -/
def prototypeOptions : ErrorOptions exactNumbers where
  retryAfterMs := none
  details := some prototypeDetails
  number := nofun
  object := by
    intro given same
    cases same
    decide

/-- Options with a delay and with details that are redacted. -/
def redactedOptions : ErrorOptions exactNumbers where
  retryAfterMs := some (.ofNat 250)
  details := some (.record [("authToken", .string "x"), ("attempt", .number (.ofNat 2))])
  number := by
    intro delay same
    cases same
    decide
  object := by
    intro given same
    cases same
    decide

theorem redacted_wire : ∃ error, createProtocolErrorWith .busy " try\tlater "
    redactedOptions.retryAfterMs redactedOptions.details = some error ∧ WireError exactNumbers error := by
  refine ⟨_, rfl, (@createProtocolErrorWith_wire_iff _ .busy " try\tlater " redactedOptions _ rfl).mpr ?_⟩
  intro given same
  cases same
  exact .inl (by decide)

/-- The error with a replaced prototype is refused. -/
theorem prototype_refused : ∃ error, createProtocolErrorWith .internal "failed"
    prototypeOptions.retryAfterMs prototypeOptions.details = some error ∧ ¬WireError exactNumbers error := by
  refine ⟨_, rfl, fun wire => ?_⟩
  have refused : validateProtocolErrorValue (ProtocolError.toJson ⟨.internal, boundedMessage "failed", false,
      none, some (boundedDetails prototypeDetails)⟩) "" ≠ .ok () := by
    decide +kernel
  exact refused (wire.accepted "")

end Wire
end PiToPi
