import PiToPi.Canonical
import PiToPi.SchemaProofs
import PiToPi.JsonTextProofs
import Mathlib.Algebra.Order.Field.Power
import Mathlib.Data.Rat.Cast.Order

/-!
Canonical texts, the comparison of values and equality up to the order of keys agree
(`canonicalizeJson_eq_iff`, `equalJson_iff`). Texts are told apart by reading them again.
-/
namespace PiToPi.Validation

section Numbers

theorem value_nonzero {n : JsNumber} (nonzero : n.significand ≠ 0) : n.value ≠ 0 := by
  unfold JsNumber.value
  have power : (10 : ℚ) ^ n.exponent ≠ 0 := zpow_ne_zero _ (by norm_num)
  cases n.negative with
  | true => simpa using ⟨nonzero, power⟩
  | false => simpa using ⟨nonzero, power⟩

theorem value_zero {n : JsNumber} (zero : n.significand = 0) : n.value = 0 := by
  unfold JsNumber.value
  rw [zero]
  simp

/-- The decimals of a number with no trailing zero are its only ones. -/
theorem shortest_unique {s t : Nat} {e f : ℤ} (trailing : s % 10 ≠ 0) (order : e ≤ f)
    (same : (s : ℚ) * 10 ^ e = t * 10 ^ f) : s = t ∧ e = f := by
  obtain ⟨shift, rfl⟩ := Int.le.dest order
  have power : (10 : ℚ) ^ e ≠ 0 := zpow_ne_zero _ (by norm_num)
  have natural : (s : ℚ) = t * 10 ^ shift := by
    rw [zpow_add₀ (by norm_num), zpow_natCast, ← mul_assoc, mul_right_comm] at same
    exact mul_right_cancel₀ power same
  have digits : s = t * 10 ^ shift := by exact_mod_cast natural
  cases shift with
  | zero => exact ⟨by simpa using digits, by simp⟩
  | succ shift =>
    rw [pow_succ, ← mul_assoc] at digits
    omega

theorem value_magnitude (n : JsNumber) : |n.value| = (n.significand : ℚ) * 10 ^ n.exponent := by
  unfold JsNumber.value
  have power : (0 : ℚ) < 10 ^ n.exponent := zpow_pos (by norm_num) _
  cases n.negative with
  | true => simp [abs_mul, abs_of_pos power]
  | false => simp [abs_mul, abs_of_pos power]

theorem value_negative {n : JsNumber} (nonzero : n.significand ≠ 0) : n.value < 0 ↔ n.negative = true := by
  have power : (0 : ℚ) < 10 ^ n.exponent := zpow_pos (by norm_num) _
  have positive : (0 : ℚ) < n.significand := by
    have := Nat.pos_of_ne_zero nonzero
    exact_mod_cast this
  have product := mul_pos positive power
  unfold JsNumber.value
  cases n.negative with
  | true => simpa using product
  | false => simpa using product.le

/-- Numbers are the same if they are written the same, the sign of zero aside. -/
theorem value_eq_iff {a b : JsNumber} : a.value = b.value ↔ a.unsigned = b.unsigned := by
  by_cases zeroA : a.significand = 0
  · by_cases zeroB : b.significand = 0
    · rw [value_zero zeroA, value_zero zeroB, Json.unsigned_zero zeroA, Json.unsigned_zero zeroB]
      simp
    · rw [value_zero zeroA, Json.unsigned_zero zeroA, Json.unsigned_nonzero zeroB]
      constructor
      · intro same
        exact absurd same.symm (value_nonzero zeroB)
      · intro same
        exact absurd (congrArg JsNumber.significand same).symm zeroB
  by_cases zeroB : b.significand = 0
  · rw [value_zero zeroB, Json.unsigned_zero zeroB, Json.unsigned_nonzero zeroA]
    constructor
    · intro same
      exact absurd same (value_nonzero zeroA)
    · intro same
      exact absurd (congrArg JsNumber.significand same) zeroA
  rw [Json.unsigned_nonzero zeroA, Json.unsigned_nonzero zeroB]
  refine ⟨fun same => ?_, fun same => by rw [same]⟩
  have trailingA := a.shortest
  have trailingB := b.shortest
  rw [if_neg zeroA] at trailingA
  rw [if_neg zeroB] at trailingB
  have magnitudes := congrArg abs same
  rw [value_magnitude, value_magnitude] at magnitudes
  have signs : a.negative = b.negative := by
    rw [Bool.eq_iff_iff, ← value_negative zeroA, ← value_negative zeroB, same]
  rcases le_total a.exponent b.exponent with order | order
  · obtain ⟨digits, power⟩ := shortest_unique trailingA order magnitudes
    exact Json.number_ext signs digits power
  · obtain ⟨digits, power⟩ := shortest_unique trailingB order magnitudes.symm
    exact Json.number_ext signs digits.symm power.symm

/-- The sign of zero is not written. -/
theorem text_unsigned (n : JsNumber) : n.unsigned.text = n.text := by
  by_cases zero : n.significand = 0
  · rw [Json.unsigned_zero zero]
    unfold JsNumber.text
    simp [zero, JsNumber.magnitudeText]
  · rw [Json.unsigned_nonzero zero]

end Numbers

section Keys

variable {α β : Type}

/-- The order of keys. -/
def keyLe (a b : JsString) : Bool := a.units.map UInt16.toNat ≤ b.units.map UInt16.toNat

theorem keys_sortByKey (members : List (JsString × α)) :
    (sortByKey members).map Prod.fst = (members.map Prod.fst).mergeSort keyLe :=
  List.map_mergeSort fun _ _ _ _ => rfl

theorem keyLe_antisymm {a b : JsString} (first : keyLe a b = true) (second : keyLe b a = true) : a = b := by
  unfold keyLe at first second
  have same := le_antisymm (of_decide_eq_true first) (of_decide_eq_true second)
  obtain ⟨as⟩ := a
  obtain ⟨bs⟩ := b
  exact congrArg JsString.mk (List.map_injective_iff.mpr (fun _ _ => UInt16.toNat_inj.mp) same)

/-- Sorted keys depend on the keys alone. -/
theorem keys_sorted_eq {xs : List (JsString × α)} {ys : List (JsString × β)}
    (same : (xs.map Prod.fst).Perm (ys.map Prod.fst)) :
    (sortByKey xs).map Prod.fst = (sortByKey ys).map Prod.fst := by
  have sorted : ∀ keys : List JsString, (keys.mergeSort keyLe).Pairwise fun a b => keyLe a b = true := by
    intro keys
    refine List.pairwise_mergeSort (fun a b c first second => ?_) (fun a b => ?_) keys
    · exact decide_eq_true (le_trans (of_decide_eq_true first) (of_decide_eq_true second))
    · rw [Bool.or_eq_true]
      exact (le_total _ _).imp decide_eq_true decide_eq_true
  rw [keys_sortByKey, keys_sortByKey]
  refine List.Perm.eq_of_pairwise (fun a b _ _ => keyLe_antisymm) (sorted _) (sorted _) ?_
  exact (List.mergeSort_perm _ _).trans (same.trans (List.mergeSort_perm _ _).symm)

theorem sortByKey_perm (members : List (JsString × α)) : (sortByKey members).Perm members :=
  List.mergeSort_perm _ _

theorem sortByKey_map (f : JsString × α → β) (members : List (JsString × α)) :
    sortByKey (members.map fun member => (member.1, f member)) =
      (sortByKey members).map fun member => (member.1, f member) :=
  (List.map_mergeSort (r := fun a b : JsString × α => keyLe a.1 b.1)
    (s := fun a b : JsString × β => keyLe a.1 b.1) fun _ _ _ _ => rfl).symm

/-- Members under distinct keys, found by their keys. -/
theorem get?_iff_mem {members : List (JsString × Json)} {key : JsString} {value : Json}
    (nodup : (members.map Prod.fst).Nodup) :
    (Json.record members).get? key = some value ↔ (key, value) ∈ members := by
  induction members with
  | nil => simp [Json.get?, Json.members]
  | cons member rest ih =>
    obtain ⟨other, first⟩ := member
    rw [List.map_cons, List.nodup_cons] at nodup
    rw [Json.get?_cons]
    by_cases same : other = key
    · subst same
      rw [if_pos rfl]
      constructor
      · rintro ⟨⟩
        exact List.mem_cons_self
      · intro member
        rcases List.mem_cons.mp member with here | later
        · rw [(Prod.mk.inj here).2]
        · exact absurd (List.mem_map_of_mem later) nodup.1
    · rw [if_neg same, ih nodup.2, List.mem_cons, Prod.mk.injEq]
      constructor
      · exact .inr
      · rintro (⟨here, -⟩ | later)
        · exact absurd here.symm same
        · exact later

theorem hasOwn_iff_mem {members : List (JsString × Json)} {key : JsString} :
    (Json.record members).hasOwn key = true ↔ key ∈ members.map Prod.fst := by
  unfold Json.hasOwn Json.get? Json.members
  rw [Option.isSome_map, List.find?_isSome, List.mem_map]
  simp

/-- Two lists under the same keys, walked together, are matched by their keys. -/
theorem mem_zip_iff {xs : List (JsString × α)} {ys : List (JsString × β)}
    (keys : xs.map Prod.fst = ys.map Prod.fst) (nodup : (xs.map Prod.fst).Nodup)
    {x : JsString × α} {y : JsString × β} :
    (x, y) ∈ xs.zip ys ↔ x ∈ xs ∧ y ∈ ys ∧ x.1 = y.1 := by
  induction xs generalizing ys with
  | nil => simp
  | cons first xs ih =>
    cases ys with
    | nil => cases keys
    | cons other ys =>
      rw [List.map_cons, List.map_cons, List.cons.injEq] at keys
      rw [List.map_cons, List.nodup_cons] at nodup
      rw [List.zip_cons_cons, List.mem_cons, ih keys.2 nodup.2, Prod.mk.injEq, List.mem_cons, List.mem_cons]
      constructor
      · rintro (⟨rfl, rfl⟩ | ⟨inX, inY, same⟩)
        · exact ⟨.inl rfl, .inl rfl, keys.1⟩
        · exact ⟨.inr inX, .inr inY, same⟩
      · rintro ⟨rfl | inX, rfl | inY, same⟩
        · exact .inl ⟨rfl, rfl⟩
        · exact absurd (keys.2 ▸ same ▸ List.mem_map_of_mem inY) nodup.1
        · exact absurd (keys.1 ▸ same ▸ List.mem_map_of_mem inX) nodup.1
        · exact .inr ⟨inX, inY, same⟩

theorem map_eq_of_zip {γ : Type} {xs : List (JsString × α)} {ys : List (JsString × β)}
    {f : JsString × α → γ} {g : JsString × β → γ} (keys : xs.map Prod.fst = ys.map Prod.fst)
    (each : ∀ x y, (x, y) ∈ xs.zip ys → f x = g y) : xs.map f = ys.map g := by
  induction xs generalizing ys with
  | nil =>
    cases ys with
    | nil => rfl
    | cons other ys => cases keys
  | cons first xs ih =>
    cases ys with
    | nil => cases keys
    | cons other ys =>
      rw [List.map_cons, List.map_cons, List.cons.injEq] at keys
      rw [List.map_cons, List.map_cons, each first other List.mem_cons_self]
      rw [ih keys.2 fun x y member => each x y (List.mem_cons_of_mem _ member)]

end Keys

section Equality

theorem Same.symm {v w : Json} (same : Same v w) : Same w v := by
  induction same with
  | null => exact .null
  | bool => exact .bool
  | number equal => exact .number equal.symm
  | string => exact .string
  | array length _ ih => exact .array length.symm fun index y x here there => ih index x y there here
  | object keys _ ih => exact .object (fun key => (keys key).symm) fun key y x here there => ih key x y there here

theorem Same.trans {u v w : Json} (first : Same u v) (second : Same v w) : Same u w := by
  induction first generalizing w with
  | null => exact second
  | bool => exact second
  | string => exact second
  | number equal =>
    cases second with
    | number other => exact .number (equal.trans other)
  | @array xs ys length _ ih =>
    cases second with
    | @array _ zs length' each' =>
      refine .array (length.trans length') fun index x z here there => ?_
      have bound : index < ys.length := length ▸ (List.getElem?_eq_some_iff.mp here).1
      have middle : ys[index]? = some ys[index] := List.getElem?_eq_getElem bound
      exact ih index x ys[index] here middle (each' index ys[index] z middle there)
  | @object xs ys keys _ ih =>
    cases second with
    | @object _ zs keys' each' =>
      refine .object (fun key => (keys key).trans (keys' key)) fun key x z here there => ?_
      have present : (Json.record ys).hasOwn key = true := by
        rw [← keys key]
        exact Json.hasOwn_iff.mpr ⟨x, here⟩
      obtain ⟨y, middle⟩ := Json.hasOwn_iff.mp present
      exact ih key x y here middle (each' key y z middle there)

/-- Members in another order, each replaced by the same. -/
theorem same_of_perm {xs ys : List (JsString × Json)} {f : Json → Json} (nodup : (xs.map Prod.fst).Nodup)
    (perm : ys.Perm (xs.map fun member => (member.1, f member.2)))
    (each : ∀ member ∈ xs, Same member.2 (f member.2)) : Same (.record xs) (.record ys) := by
  have keys : (ys.map Prod.fst).Perm (xs.map Prod.fst) := by
    have mapped := perm.map Prod.fst
    rwa [List.map_map] at mapped
  refine .object (fun key => ?_) fun key x y here there => ?_
  · rw [Bool.eq_iff_iff, hasOwn_iff_mem, hasOwn_iff_mem, keys.mem_iff]
  · rw [get?_iff_mem nodup] at here
    rw [get?_iff_mem (keys.nodup_iff.mpr nodup), perm.mem_iff, List.mem_map] at there
    obtain ⟨⟨other, value⟩, inside, same⟩ := there
    obtain ⟨rfl, rfl⟩ := Prod.mk.inj same
    have equal : value = x := Option.some.inj
      (((get?_iff_mem nodup).mpr inside).symm.trans ((get?_iff_mem nodup).mpr here))
    exact equal ▸ each _ inside

theorem isJsonData_object {readOnly : Option (List JsString)} {members : List (JsString × Json)} :
    isJsonData (.object readOnly members) = true ↔
      readOnly = none ∧ (members.map Prod.fst).Nodup ∧ ∀ member ∈ members, isJsonData member.2 = true := by
  have each : ∀ members : List (JsString × Json), membersAreJsonData members = true ↔
      ∀ member ∈ members, isJsonData member.2 = true := by
    intro members
    induction members with
    | nil => simp [membersAreJsonData]
    | cons member rest ih => simp [membersAreJsonData, ih]
  rw [isJsonData, Bool.and_eq_true, Bool.and_eq_true, Option.isNone_iff_eq_none, decide_eq_true_eq, each,
    and_assoc]

theorem isJsonData_array {elements : List Json} :
    isJsonData (.array elements) = true ↔ ∀ x ∈ elements, isJsonData x = true := by
  rw [isJsonData]
  induction elements with
  | nil => simp [areJsonData]
  | cons x rest ih => simp [areJsonData, ih]

theorem sameKeys_iff {xs ys : List (JsString × Json)} (nodup : (xs.map Prod.fst).Nodup)
    (nodup' : (ys.map Prod.fst).Nodup) :
    sameKeys xs ys = true ↔ ∀ key, (Json.record xs).hasOwn key = (Json.record ys).hasOwn key := by
  unfold sameKeys
  rw [beq_iff_eq]
  have members : (∀ key, (Json.record xs).hasOwn key = (Json.record ys).hasOwn key) ↔
      (xs.map Prod.fst).Perm (ys.map Prod.fst) := by
    rw [List.perm_ext_iff_of_nodup nodup nodup']
    refine forall_congr' fun key => ?_
    rw [Bool.eq_iff_iff, hasOwn_iff_mem, hasOwn_iff_mem]
  rw [members]
  refine ⟨fun same => ?_, keys_sorted_eq⟩
  have first := (sortByKey_perm xs).map Prod.fst
  rw [same] at first
  exact first.symm.trans ((sortByKey_perm ys).map Prod.fst)

/-- The members of two objects with the same keys, sorted, are matched by their keys. -/
theorem mem_zip_sortByKey {xs ys : List (JsString × Json)} (nodup : (xs.map Prod.fst).Nodup)
    (same : (sortByKey xs).map Prod.fst = (sortByKey ys).map Prod.fst) {x y : JsString × Json} :
    (x, y) ∈ (sortByKey xs).zip (sortByKey ys) ↔ x ∈ xs ∧ y ∈ ys ∧ x.1 = y.1 := by
  rw [mem_zip_iff same, mem_sortByKey, mem_sortByKey]
  exact ((sortByKey_perm xs).map Prod.fst).nodup_iff.mpr nodup

theorem equalMembers_eq (members : List (JsString × Json)) :
    equalMembers members = members.map fun member => (member.1, equalJson member.2) := by
  induction members with
  | nil => rfl
  | cons member rest ih => rw [equalMembers, ih, List.map_cons]

mutual
/-- `deepEqualJson` decides equality up to the order of keys. -/
theorem equalJson_iff : ∀ v w : Json, isJsonData v = true → isJsonData w = true →
    (equalJson v w = true ↔ Same v w)
  | .null, w, _, _ => by
    constructor
    · intro equal
      obtain rfl : Json.null = w := by simpa [equalJson] using equal
      exact .null
    · rintro ⟨⟩
      rfl
  | .bool flag, w, _, _ => by
    constructor
    · intro equal
      obtain rfl : Json.bool flag = w := by simpa [equalJson] using equal
      exact .bool
    · rintro ⟨⟩
      simp [equalJson]
  | .string text, w, _, _ => by
    constructor
    · intro equal
      obtain rfl : Json.string text = w := by simpa [equalJson] using equal
      exact .string
    · rintro ⟨⟩
      simp [equalJson]
  | .number a, w, _, _ => by
    cases w with
    | number b =>
      rw [equalJson, beq_iff_eq]
      refine ⟨.number, ?_⟩
      rintro ⟨⟩
      assumption
    | null | bool _ | string _ | array _ | object _ _ => exact ⟨nofun, nofun⟩
  | .array xs, w, data, data' => by
    cases w with
    | array ys =>
      rw [equalJson, equalElements_iff xs ys (isJsonData_array.mp data) (isJsonData_array.mp data')]
      constructor
      · rintro ⟨length, each⟩
        exact .array length each
      · rintro ⟨⟩
        exact ⟨by assumption, by assumption⟩
    | null | bool _ | string _ | number _ | object _ _ => exact ⟨nofun, nofun⟩
  | .object readOnly xs, w, data, data' => by
    obtain ⟨rfl, nodup, each⟩ := isJsonData_object.mp data
    cases w with
    | object readOnly' ys =>
      obtain ⟨rfl, nodup', each'⟩ := isJsonData_object.mp data'
      rw [equalJson, Bool.and_eq_true, sameKeys_iff nodup nodup', equalMembers_eq,
        sortByKey_map (fun member => equalJson member.2)]
      have compared : (∀ key, (Json.record xs).hasOwn key = (Json.record ys).hasOwn key) →
          ((((sortByKey xs).map fun member => (member.1, equalJson member.2)).zip (sortByKey ys)).all
              (fun (compare, y) => compare.2 y.2) = true ↔
            ∀ key x y, (Json.record xs).get? key = some x → (Json.record ys).get? key = some y → Same x y) := by
        intro keys
        have sorted := beq_iff_eq.mp ((sameKeys_iff nodup nodup').mpr keys)
        rw [List.zip_map_left, List.all_map, List.all_eq_true]
        constructor
        · intro all key x y here there
          rw [get?_iff_mem nodup] at here
          rw [get?_iff_mem nodup'] at there
          have pair := (mem_zip_sortByKey nodup sorted).mpr ⟨here, there, rfl⟩
          exact (equalMembers_iff xs _ here y (each _ here) (each' _ there)).mp (all _ pair)
        · rintro all ⟨⟨key, x⟩, ⟨other, y⟩⟩ pair
          obtain ⟨here, there, rfl⟩ := (mem_zip_sortByKey nodup sorted).mp pair
          refine (equalMembers_iff xs _ here y (each _ here) (each' _ there)).mpr ?_
          exact all key x y ((get?_iff_mem nodup).mpr here) ((get?_iff_mem nodup').mpr there)
      constructor
      · rintro ⟨keys, all⟩
        exact .object keys ((compared keys).mp all)
      · rintro ⟨⟩
        rename_i keys all
        exact ⟨keys, (compared keys).mpr all⟩
    | null | bool _ | string _ | number _ | array _ => exact ⟨nofun, nofun⟩

theorem equalElements_iff : ∀ xs ys : List Json, (∀ x ∈ xs, isJsonData x = true) →
    (∀ y ∈ ys, isJsonData y = true) →
      (equalElements xs ys = true ↔ xs.length = ys.length ∧
        ∀ (index : Nat) (x y : Json), xs[index]? = some x → ys[index]? = some y → Same x y)
  | [], [], _, _ => by simp [equalElements]
  | [], _ :: _, _, _ => by simp [equalElements]
  | _ :: _, [], _, _ => by simp [equalElements]
  | x :: xs, y :: ys, data, data' => by
    have first := equalJson_iff x y (data x List.mem_cons_self) (data' y List.mem_cons_self)
    have rest := equalElements_iff xs ys (fun z member => data z (List.mem_cons_of_mem _ member))
      fun z member => data' z (List.mem_cons_of_mem _ member)
    rw [equalElements, Bool.and_eq_true, first, rest, List.length_cons, List.length_cons]
    constructor
    · rintro ⟨same, length, each⟩
      refine ⟨by omega, fun index u v here there => ?_⟩
      cases index with
      | zero =>
        obtain rfl := Option.some.inj here
        obtain rfl := Option.some.inj there
        exact same
      | succ index => exact each index u v here there
    · rintro ⟨length, each⟩
      exact ⟨each 0 x y rfl rfl, by omega, fun index u v here there => each (index + 1) u v here there⟩

theorem equalMembers_iff : ∀ members : List (JsString × Json), ∀ member ∈ members, ∀ w : Json,
    isJsonData member.2 = true → isJsonData w = true → (equalJson member.2 w = true ↔ Same member.2 w)
  | [], _, inside, _, _, _ => by cases inside
  | (key, x) :: rest, member, inside, w, data, data' => by
    rcases List.mem_cons.mp inside with rfl | inside
    · exact equalJson_iff x w data data'
    · exact equalMembers_iff rest member inside w data data'
end

end Equality

section Texts

mutual
/-- The value with the members of its objects in the order of their keys. -/
def sortKeys : Json → Json
  | .array elements => .array (sortKeysElements elements)
  | .object _ members => .record (sortByKey (sortKeysMembers members))
  | value => value

def sortKeysElements : List Json → List Json
  | [] => []
  | x :: rest => sortKeys x :: sortKeysElements rest

def sortKeysMembers : List (JsString × Json) → List (JsString × Json)
  | [] => []
  | (key, x) :: rest => (key, sortKeys x) :: sortKeysMembers rest
end

theorem sortKeysElements_eq (elements : List Json) : sortKeysElements elements = elements.map sortKeys := by
  induction elements with
  | nil => rfl
  | cons x rest ih => rw [sortKeysElements, ih, List.map_cons]

theorem sortKeysMembers_eq (members : List (JsString × Json)) :
    sortKeysMembers members = members.map fun member => (member.1, sortKeys member.2) := by
  induction members with
  | nil => rfl
  | cons member rest ih => rw [sortKeysMembers, ih, List.map_cons]

theorem rebuiltElements_eq (elements : List Json) : Json.rebuiltElements elements = elements.map Json.rebuilt := by
  induction elements with
  | nil => rfl
  | cons x rest ih => rw [Json.rebuiltElements, ih, List.map_cons]

theorem rebuiltMembers_eq (members : List (JsString × Json)) :
    Json.rebuiltMembers members = members.map fun member => (member.1, member.2.rebuilt) := by
  induction members with
  | nil => rfl
  | cons member rest ih => rw [Json.rebuiltMembers, ih, List.map_cons]

/-- The elements of an array are written with commas between them. -/
theorem stringifyElements_eq (elements : List Json) :
    Json.stringifyElements elements = joinWith "," (elements.map Json.stringify) := by
  induction elements with
  | nil => rfl
  | cons x rest ih =>
    cases rest with
    | nil => rfl
    | cons y rest =>
      rw [Json.stringifyElements, ih]
      rfl

/-- A member as it is written. -/
def memberText (member : JsString × Json) : JsString := Json.quote member.1 ++ ":" ++ member.2.stringify

theorem stringifyMembers_eq (members : List (JsString × Json)) :
    Json.stringifyMembers members = joinWith "," (members.map memberText) := by
  induction members with
  | nil => rfl
  | cons member rest ih =>
    cases rest with
    | nil => rfl
    | cons other rest =>
      rw [Json.stringifyMembers, ih]
      rfl

theorem canonicalizeElements_mapM (elements : List Json) :
    canonicalizeElements elements = (elements.map canonicalizeJson).mapM id := by
  induction elements with
  | nil => rfl
  | cons x rest ih =>
    rw [canonicalizeElements, ih, List.map_cons, List.mapM_cons]
    rfl

theorem canonicalizeElements_eq {elements : List Json}
    (each : ∀ x ∈ elements, canonicalizeJson x = some (sortKeys x).stringify) :
    canonicalizeElements elements = some (elements.map fun x => (sortKeys x).stringify) := by
  induction elements with
  | nil => rfl
  | cons x rest ih =>
    rw [canonicalizeElements, each x List.mem_cons_self, ih fun y member => each y (List.mem_cons_of_mem _ member)]
    rfl

/-- The text of a member under its key, if its value has one. -/
def canonicalMemberText (member : JsString × Json) : Option JsString :=
  (canonicalizeJson member.2).map fun text => Json.quote member.1 ++ ":" ++ text

theorem canonicalizeMembers_eq (members : List (JsString × Json)) :
    canonicalizeMembers members = members.map fun member => (member.1, canonicalMemberText member) := by
  induction members with
  | nil => rfl
  | cons member rest ih => rw [canonicalizeMembers, ih, List.map_cons]; rfl

/-- The texts of the members of an object, in the order of their keys. -/
theorem sortedTexts_eq (members : List (JsString × Json)) :
    (sortByKey (canonicalizeMembers members)).map Prod.snd = (sortByKey members).map canonicalMemberText := by
  rw [canonicalizeMembers_eq, sortByKey_map canonicalMemberText, List.map_map]
  rfl

theorem mapM_some {α β : Type} {f : α → Option β} {g : α → β} {items : List α}
    (each : ∀ item ∈ items, f item = some (g item)) : (items.map f).mapM id = some (items.map g) := by
  induction items with
  | nil => rfl
  | cons item rest ih =>
    rw [List.map_cons, List.mapM_cons, ih fun other member => each other (List.mem_cons_of_mem _ member)]
    rw [id, each item List.mem_cons_self]
    rfl

mutual
/-- The canonical text is the text of the sorted value. -/
theorem canonicalizeJson_eq : ∀ value : Json, isJsonData value = true →
    canonicalizeJson value = some (sortKeys value).stringify
  | .null, _ | .bool _, _ | .number _, _ | .string _, _ => rfl
  | .array elements, data => by
    rw [canonicalizeJson, canonicalizeElements_eq fun x member =>
      canonicalizeEach elements (isJsonData_array.mp data) x member]
    rw [sortKeys, Json.stringify, stringifyElements_eq, sortKeysElements_eq, List.map_map]
    rfl
  | .object readOnly members, data => by
    obtain ⟨rfl, nodup, each⟩ := isJsonData_object.mp data
    have texts : ∀ member ∈ sortByKey members, canonicalMemberText member =
        some (memberText (member.1, sortKeys member.2)) := by
      intro member inside
      unfold canonicalMemberText
      rw [canonicalizeEachMember members each member (mem_sortByKey.mp inside)]
      rfl
    rw [canonicalizeJson, if_neg (by simp), sortedTexts_eq, mapM_some texts, sortKeys, Json.stringify,
      stringifyMembers_eq, sortKeysMembers_eq, sortByKey_map (fun member => sortKeys member.2), List.map_map]
    rfl

theorem canonicalizeEach : ∀ elements : List Json, (∀ x ∈ elements, isJsonData x = true) →
    ∀ x ∈ elements, canonicalizeJson x = some (sortKeys x).stringify
  | [], _, _, inside => by cases inside
  | y :: rest, data, x, inside => by
    rcases List.mem_cons.mp inside with same | inside
    · rw [same]
      exact canonicalizeJson_eq y (data y List.mem_cons_self)
    · exact canonicalizeEach rest (fun z member => data z (List.mem_cons_of_mem _ member)) x inside

theorem canonicalizeEachMember : ∀ members : List (JsString × Json),
    (∀ member ∈ members, isJsonData member.2 = true) →
      ∀ member ∈ members, canonicalizeJson member.2 = some (sortKeys member.2).stringify
  | [], _, _, inside => by cases inside
  | (key, y) :: rest, data, member, inside => by
    rcases List.mem_cons.mp inside with same | inside
    · rw [same]
      exact canonicalizeJson_eq y (data _ List.mem_cons_self)
    · exact canonicalizeEachMember rest (fun z member => data z (List.mem_cons_of_mem _ member)) member inside
end

/-- Equal values have one canonical text. -/
theorem canonicalizeJson_of_same {v w : Json} (same : Same v w) (data : isJsonData v = true)
    (data' : isJsonData w = true) : canonicalizeJson v = canonicalizeJson w := by
  induction same with
  | null | bool | string => rfl
  | @number a b equal =>
    have texts : a.text = b.text := by rw [← text_unsigned a, value_eq_iff.mp equal, text_unsigned]
    exact congrArg some texts
  | @array xs ys length _ ih =>
    have each : xs.map canonicalizeJson = ys.map canonicalizeJson := by
      refine List.ext_getElem (by simpa using length) fun index here there => ?_
      rw [List.length_map] at here there
      rw [List.getElem_map, List.getElem_map]
      exact ih index xs[index] ys[index] (List.getElem?_eq_getElem here) (List.getElem?_eq_getElem there)
        (isJsonData_array.mp data _ (List.getElem_mem here)) (isJsonData_array.mp data' _ (List.getElem_mem there))
    rw [canonicalizeJson, canonicalizeJson, canonicalizeElements_mapM, canonicalizeElements_mapM, each]
  | @object xs ys keys _ ih =>
    obtain ⟨-, nodup, each⟩ := isJsonData_object.mp data
    obtain ⟨-, nodup', each'⟩ := isJsonData_object.mp data'
    have sorted := beq_iff_eq.mp ((sameKeys_iff nodup nodup').mpr keys)
    have texts : (sortByKey xs).map canonicalMemberText = (sortByKey ys).map canonicalMemberText := by
      refine map_eq_of_zip sorted fun x y pair => ?_
      obtain ⟨here, there, key⟩ := (mem_zip_sortByKey nodup sorted).mp pair
      have equal := ih x.1 x.2 y.2 ((get?_iff_mem nodup).mpr here)
        ((get?_iff_mem nodup').mpr (key ▸ there)) (each x here) (each' y there)
      unfold canonicalMemberText
      rw [key, equal]
    rw [canonicalizeJson, canonicalizeJson, sortedTexts_eq, sortedTexts_eq, texts]

mutual
theorem sortKeys_same : ∀ value : Json, isJsonData value = true →
    Same value (sortKeys value) ∧ isJsonData (sortKeys value) = true
  | .null, _ => ⟨.null, rfl⟩
  | .bool _, _ => ⟨.bool, rfl⟩
  | .number _, _ => ⟨.number rfl, rfl⟩
  | .string _, _ => ⟨.string, rfl⟩
  | .array elements, data => by
    have each := sortKeysEach elements (isJsonData_array.mp data)
    rw [sortKeys, sortKeysElements_eq]
    refine ⟨.array (List.length_map _).symm fun index x y here there => ?_, isJsonData_array.mpr fun y member => ?_⟩
    · rw [List.getElem?_map, here] at there
      obtain rfl := Option.some.inj there
      exact (each x (List.mem_of_getElem? here)).1
    · obtain ⟨x, inside, rfl⟩ := List.mem_map.mp member
      exact (each x inside).2
  | .object readOnly members, data => by
    obtain ⟨rfl, nodup, inner⟩ := isJsonData_object.mp data
    have each := sortKeysEachMember members inner
    have perm := sortByKey_perm (sortKeysMembers members)
    rw [sortKeys]
    rw [sortKeysMembers_eq] at perm ⊢
    refine ⟨same_of_perm nodup perm fun member inside => (each member inside).1, ?_⟩
    refine isJsonData_object.mpr ⟨rfl, ?_, fun member inside => ?_⟩
    · rw [(perm.map Prod.fst).nodup_iff, List.map_map]
      exact nodup
    · obtain ⟨original, found, rfl⟩ := List.mem_map.mp (mem_sortByKey.mp inside)
      exact (each original found).2

theorem sortKeysEach : ∀ elements : List Json, (∀ x ∈ elements, isJsonData x = true) →
    ∀ x ∈ elements, Same x (sortKeys x) ∧ isJsonData (sortKeys x) = true
  | [], _, _, inside => by cases inside
  | y :: rest, data, x, inside => by
    rcases List.mem_cons.mp inside with same | inside
    · rw [same]
      exact sortKeys_same y (data y List.mem_cons_self)
    · exact sortKeysEach rest (fun z member => data z (List.mem_cons_of_mem _ member)) x inside

theorem sortKeysEachMember : ∀ members : List (JsString × Json),
    (∀ member ∈ members, isJsonData member.2 = true) →
      ∀ member ∈ members, Same member.2 (sortKeys member.2) ∧ isJsonData (sortKeys member.2) = true
  | [], _, _, inside => by cases inside
  | (key, y) :: rest, data, member, inside => by
    rcases List.mem_cons.mp inside with same | inside
    · rw [same]
      exact sortKeys_same y (data _ List.mem_cons_self)
    · exact sortKeysEachMember rest (fun z member => data z (List.mem_cons_of_mem _ member)) member inside
end

theorem objectOf_perm {members : List (JsString × Json)} (nodup : (members.map Prod.fst).Nodup) :
    ∃ ordered, Json.objectOf members = .record ordered ∧ ordered.Perm members := by
  have stored := Json.entries_foldl_set members .empty nodup fun _ _ found => by cases found
  refine ⟨_, rfl, ?_⟩
  rw [stored, show JsMap.empty.entries ++ members = members from rfl]
  exact ((List.mergeSort_perm _ _).append_right _).trans (List.filter_append_perm _ _)

mutual
theorem rebuilt_same : ∀ value : Json, isJsonData value = true → Same value value.rebuilt
  | .null, _ => .null
  | .bool _, _ => .bool
  | .number n, _ => by
    refine .number (value_eq_iff.mpr ?_)
    by_cases zero : n.significand = 0
    · rw [Json.unsigned_zero zero]
      rfl
    · rw [Json.unsigned_nonzero zero]
      rw [Json.unsigned_nonzero zero]
  | .string _, _ => .string
  | .array elements, data => by
    rw [Json.rebuilt, rebuiltElements_eq]
    refine .array (List.length_map _).symm fun index x y here there => ?_
    rw [List.getElem?_map, here] at there
    obtain rfl := Option.some.inj there
    exact rebuiltEach elements (isJsonData_array.mp data) x (List.mem_of_getElem? here)
  | .object readOnly members, data => by
    obtain ⟨rfl, nodup, inner⟩ := isJsonData_object.mp data
    rw [Json.rebuilt, rebuiltMembers_eq]
    obtain ⟨ordered, same, perm⟩ :=
      @objectOf_perm (members.map fun member => (member.1, member.2.rebuilt)) (by rwa [List.map_map])
    rw [same]
    exact same_of_perm nodup perm (rebuiltEachMember members inner)

theorem rebuiltEach : ∀ elements : List Json, (∀ x ∈ elements, isJsonData x = true) →
    ∀ x ∈ elements, Same x x.rebuilt
  | [], _, _, inside => by cases inside
  | y :: rest, data, x, inside => by
    rcases List.mem_cons.mp inside with same | inside
    · rw [same]
      exact rebuilt_same y (data y List.mem_cons_self)
    · exact rebuiltEach rest (fun z member => data z (List.mem_cons_of_mem _ member)) x inside

theorem rebuiltEachMember : ∀ members : List (JsString × Json),
    (∀ member ∈ members, isJsonData member.2 = true) → ∀ member ∈ members, Same member.2 member.2.rebuilt
  | [], _, _, inside => by cases inside
  | (key, y) :: rest, data, member, inside => by
    rcases List.mem_cons.mp inside with same | inside
    · rw [same]
      exact rebuilt_same y (data _ List.mem_cons_self)
    · exact rebuiltEachMember rest (fun z member => data z (List.mem_cons_of_mem _ member)) member inside
end

/-- A host that takes every decimal for itself. -/
def exactNumbers : NumberHost where
  nearest := some
  nearest_safe := some_safe

mutual
theorem numbersNearest_exact : ∀ value : Json, Json.numbersNearest exactNumbers value = true
  | .null | .bool _ | .string _ => rfl
  | .number _ => beq_self_eq_true _
  | .array elements => elementsNearest_exact elements
  | .object _ members => membersNearest_exact members

theorem elementsNearest_exact : ∀ elements : List Json, Json.elementsNearest exactNumbers elements = true
  | [] => rfl
  | x :: rest => by rw [Json.elementsNearest, numbersNearest_exact x, elementsNearest_exact rest]; rfl

theorem membersNearest_exact : ∀ members : List (JsString × Json),
    Json.membersNearest exactNumbers members = true
  | [] => rfl
  | (_, x) :: rest => by rw [Json.membersNearest, numbersNearest_exact x, membersNearest_exact rest]; rfl
end

/-- Canonical texts are equal if the values are: read again, they give the values back. -/
theorem canonicalizeJson_eq_iff {v w : Json} (data : isJsonData v = true) (data' : isJsonData w = true) :
    canonicalizeJson v = canonicalizeJson w ↔ Same v w := by
  refine ⟨fun equal => ?_, fun same => canonicalizeJson_of_same same data data'⟩
  rw [canonicalizeJson_eq v data, canonicalizeJson_eq w data'] at equal
  have read := congrArg (Json.parse exactNumbers) (Option.some.inj equal)
  rw [Json.parse_rebuilt (numbersNearest_exact _), Json.parse_rebuilt (numbersNearest_exact _)] at read
  obtain ⟨sortedV, dataV⟩ := sortKeys_same v data
  obtain ⟨sortedW, dataW⟩ := sortKeys_same w data'
  have first := sortedV.trans (rebuilt_same _ dataV)
  rw [Option.some.inj read] at first
  exact first.trans (sortedW.trans (rebuilt_same _ dataW)).symm

end Texts

end PiToPi.Validation
