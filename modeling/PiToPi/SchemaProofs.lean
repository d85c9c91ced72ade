import PiToPi.SchemaMeaning
import PiToPi.StateInvariant
import PiToPi.ValidationProofs

/-!
What is evaluated of a schema, and what has been checked of it. Evaluation stays among the
schemas it is closed under (`Closed`), whatever the value and the budget; the shape check
accepts every schema it walks to; the two meet where no reference leads out of the walk.
-/
namespace PiToPi.Validation
open StateInvariant

section Values

variable {context : SchemaContext}

theorem deepEqualElements_eq (elements : List Json) :
    deepEqualElements context elements = elements.map (deepEqualJson context) := by
  induction elements with
  | nil => rfl
  | cons x rest ih => rw [deepEqualElements, ih, List.map_cons]

theorem deepEqualMembers_eq (members : List (JsString × Json)) :
    deepEqualMembers context members = members.map fun member => (member.1, deepEqualJson context member.2) := by
  induction members with
  | nil => rfl
  | cons member rest ih => rw [deepEqualMembers, ih, List.map_cons]

theorem canonicalElements_eq (elements : List Json) :
    canonicalElements context elements = elements.map (canonicalizeValue context) := by
  induction elements with
  | nil => rfl
  | cons x rest ih => rw [canonicalElements, ih, List.map_cons]

/-- The text of a member, whose key takes from the budget as well. -/
def memberWithinBudget (context : SchemaContext) (member : JsString × Json) : Evaluate (Option JsString) := do
  if !(← consumeEvaluationBudget context 1) then return none
  return (← canonicalizeValue context member.2).map fun text => Json.quote member.1 ++ ":" ++ text

theorem canonicalMembers_eq (members : List (JsString × Json)) :
    canonicalMembers context members = members.map fun member => (member.1, memberWithinBudget context member) := by
  induction members with
  | nil => rfl
  | cons member rest ih =>
    rw [canonicalMembers, ih, List.map_cons]
    rfl

end Values

section Records

variable {I : Evaluation → Prop} {Run : JsString → Prop} {context : SchemaContext} {α : Type}

/-- A property of evaluations that spending and running expressions do not bear on. -/
structure Untouched (I : Evaluation → Prop) (Run : JsString → Prop) : Prop where
  spend : ∀ s operations exhausted, I s → I { s with operations, exhausted }
  run : ∀ s pattern, Run pattern → I s → I { s with ran := pattern :: s.ran }

theorem keeps_isExhausted : Keeps I isExhausted := keeps_get.bind fun _ => keeps_pure _

theorem keeps_validIf (held : Bool) (path reason : JsString) : Keeps I (validIf held path reason) := keeps_pure _

/-- A loop keeps what each of its checks keeps. -/
theorem keeps_forAllValid {items : List α} {check : α → Evaluate SchemaValidationResult}
    (each : ∀ item ∈ items, Keeps I (check item)) : Keeps I (forAllValid items check) := by
  induction items with
  | nil => exact keeps_pure _
  | cons item rest ih =>
    refine (each item List.mem_cons_self).bind fun result => ?_
    cases result with
    | valid => exact ih fun other member => each other (List.mem_cons_of_mem _ member)
    | invalid path reason => exact keeps_pure _

theorem keeps_allTrue {checks : List (Evaluate Bool)}
    (each : ∀ check ∈ checks, Keeps I check) : Keeps I (allTrue checks) := by
  induction checks with
  | nil => exact keeps_pure _
  | cons check rest ih =>
    refine (each check List.mem_cons_self).bind fun result => ?_
    exact (ih fun other member => each other (List.mem_cons_of_mem _ member)).ite (keeps_pure _)

theorem keeps_allTexts {texts : List (Evaluate (Option JsString))}
    (each : ∀ text ∈ texts, Keeps I text) : Keeps I (allTexts texts) := by
  induction texts with
  | nil => exact keeps_pure _
  | cons text rest ih =>
    refine (each text List.mem_cons_self).bind fun result => ?_
    cases result with
    | none => exact keeps_pure _
    | some first =>
      exact (ih fun other member => each other (List.mem_cons_of_mem _ member)).bind fun _ => keeps_pure _

theorem mem_sortByKey {members : List (JsString × α)} {member : JsString × α} :
    member ∈ sortByKey members ↔ member ∈ members := List.mem_mergeSort

variable (untouched : Untouched I Run)
include untouched

theorem keeps_consumeEvaluationBudget (cost : Nat) : Keeps I (consumeEvaluationBudget context cost) := by
  unfold consumeEvaluationBudget
  refine keeps_get_bind fun budget held => ?_
  split
  · exact held
  · exact untouched.spend _ _ _ held

/-- Code that takes from the budget first. -/
theorem keeps_spend {cost : Nat} {exhausted next : Evaluate α} (first : Keeps I exhausted)
    (second : Keeps I next) : Keeps I (do
      if !(← consumeEvaluationBudget context cost) then exhausted else next) := by
  refine (keeps_consumeEvaluationBudget untouched cost).bind fun room => ?_
  cases room with
  | true => exact second
  | false => exact first

/-- Comparing evaluates no schema. -/
theorem keeps_deepEqualJson (left right : Json) : Keeps I (deepEqualJson context left right) := by
  induction left using Json.induct generalizing right with
  | array xs ih =>
    unfold deepEqualJson
    refine keeps_spend untouched (keeps_pure _) ?_
    cases right with
    | array ys =>
      refine Keeps.ite (keeps_allTrue fun check member => ?_) (keeps_pure _)
      rw [deepEqualElements_eq] at member
      obtain ⟨⟨compare, y⟩, inside, rfl⟩ := List.mem_map.mp member
      obtain ⟨x, listed, rfl⟩ := List.mem_map.mp (List.of_mem_zip inside).1
      exact ih x listed y
    | null | bool _ | number _ | string _ | object _ _ => exact keeps_pure _
  | object readOnly xs ih =>
    unfold deepEqualJson
    refine keeps_spend untouched (keeps_pure _) ?_
    split
    · refine Keeps.ite (keeps_allTrue fun check member => ?_) (keeps_pure _)
      rw [deepEqualMembers_eq] at member
      obtain ⟨⟨compare, y⟩, inside, rfl⟩ := List.mem_map.mp member
      obtain ⟨x, listed, rfl⟩ := List.mem_map.mp (mem_sortByKey.mp (List.of_mem_zip inside).1)
      exact ih x listed y.2
    · exact keeps_pure _
  | null | bool flag | number n | string text =>
    unfold deepEqualJson
    exact keeps_spend untouched (keeps_pure _) (keeps_pure _)

/-- Canonical texts evaluate no schema. -/
theorem keeps_canonicalizeValue (value : Json) : Keeps I (canonicalizeValue context value) := by
  induction value using Json.induct with
  | array elements ih =>
    unfold canonicalizeValue
    rw [canonicalElements_eq]
    refine keeps_spend untouched (keeps_pure _) ((keeps_allTexts fun text member => ?_).bind fun _ => keeps_pure _)
    obtain ⟨x, listed, rfl⟩ := List.mem_map.mp member
    exact ih x listed
  | object readOnly members ih =>
    unfold canonicalizeValue
    rw [canonicalMembers_eq]
    refine keeps_spend untouched (keeps_pure _) (Keeps.ite (keeps_pure _) ?_)
    refine (keeps_allTexts fun text member => ?_).bind fun _ => keeps_pure _
    obtain ⟨entry, inside, rfl⟩ := List.mem_map.mp member
    obtain ⟨x, listed, rfl⟩ := List.mem_map.mp (mem_sortByKey.mp inside)
    exact keeps_spend untouched (keeps_pure _) ((ih x listed).bind fun _ => keeps_pure _)
  | null | bool flag | number n | string text =>
    unfold canonicalizeValue
    exact keeps_spend untouched (keeps_pure _) (keeps_pure _)

end Records

section Applications

variable {R : Reading} {value schema : Json}

/-- The subschemas `matchesSchema` evaluates of a schema, its reference aside. -/
def evaluatedChildren (schema : Json) : List Json :=
  schemaKeywords.filterMap (schema.get? ·) ++
    (["dependentSchemas", "patternProperties", "properties"] : List JsString).flatMap
      (fun key => (mapKeyword schema key).map Prod.snd) ++
    arrayKeyword schema "prefixItems" ++ combiningKeywords.flatMap (arrayKeyword schema ·)

theorem mem_evaluatedChildren_keyword {schema child : Json} {key : JsString} (listed : key ∈ schemaKeywords)
    (found : schema.get? key = some child) : child ∈ evaluatedChildren schema := by
  unfold evaluatedChildren
  simp only [List.mem_append, List.mem_filterMap]
  exact .inl (.inl (.inl ⟨key, listed, found⟩))

theorem mem_evaluatedChildren_map {schema child : Json} {key name : JsString}
    (listed : key ∈ (["dependentSchemas", "patternProperties", "properties"] : List JsString))
    (found : (name, child) ∈ mapKeyword schema key) : child ∈ evaluatedChildren schema := by
  unfold evaluatedChildren
  simp only [List.mem_append, List.mem_flatMap, List.mem_map]
  exact .inl (.inl (.inr ⟨key, listed, _, found, rfl⟩))

theorem mem_evaluatedChildren_prefixItems {schema child : Json} (found : child ∈ arrayKeyword schema "prefixItems") :
    child ∈ evaluatedChildren schema := by
  unfold evaluatedChildren
  simp only [List.mem_append]
  exact .inl (.inr found)

theorem mem_evaluatedChildren_combined {schema child : Json} {key : JsString}
    (listed : key ∈ combiningKeywords) (found : child ∈ arrayKeyword schema key) :
    child ∈ evaluatedChildren schema := by
  unfold evaluatedChildren
  simp only [List.mem_append, List.mem_flatMap]
  exact .inr ⟨key, listed, found⟩

/-- The elements `prefixItems` is about, with their indices, are those without. -/
theorem zipIdx_zip (elements schemas : List Json) :
    (elements.zipIdx.zip schemas).map (fun item => (item.1.1, item.2)) = elements.zip schemas := by
  have first : elements.zipIdx.map Prod.fst = elements := List.zipIdx_map_fst 0 elements
  conv_rhs => rw [← first, List.zip_map_left]
  rfl

theorem zipIdx_drop (elements : List Json) (count : Nat) :
    (elements.zipIdx.drop count).map Prod.fst = elements.drop count := by
  rw [List.map_drop, List.zipIdx_map_fst]

theorem mem_itemApplications {elements : List Json} {element child : Json} :
    (element, child) ∈ itemApplications elements schema ↔
      (element, child) ∈ elements.zip (arrayKeyword schema "prefixItems") ∨
        schema.get? "items" = some child ∧
          element ∈ elements.drop (arrayKeyword schema "prefixItems").length := by
  unfold itemApplications
  simp only [List.mem_append, List.mem_flatMap, List.mem_map, Option.mem_toList, Prod.mk.injEq]
  constructor
  · rintro (first | ⟨other, found, inner, inside, rfl, rfl⟩)
    · exact .inl first
    · exact .inr ⟨found, inside⟩
  · rintro (first | ⟨found, inside⟩)
    · exact .inl first
    · exact .inr ⟨child, found, element, inside, rfl, rfl⟩

theorem mem_containsApplications {elements : List Json} {element child : Json} :
    (element, child) ∈ containsApplications elements schema ↔
      schema.get? "contains" = some child ∧ element ∈ elements := by
  unfold containsApplications
  simp only [List.mem_flatMap, List.mem_map, Option.mem_toList, Prod.mk.injEq]
  constructor
  · rintro ⟨other, found, inner, inside, rfl, rfl⟩
    exact ⟨found, inside⟩
  · rintro ⟨found, inside⟩
    exact ⟨child, found, element, inside, rfl, rfl⟩

/-- The ways in which a property keyword is about a value. -/
theorem mem_memberApplications {members : List (JsString × Json)} {member child : Json} :
    (member, child) ∈ memberApplications R members schema ↔
      (∃ property, (property, child) ∈ mapKeyword schema "properties" ∧
        (Json.record members).get? property = some member) ∨
      (∃ pattern property, (pattern, child) ∈ mapKeyword schema "patternProperties" ∧
        (property, member) ∈ members ∧ R.matchesPattern pattern property = true) ∨
      (schema.get? "additionalProperties" = some child ∧ child ≠ .bool false ∧
        ∃ property, (property, member) ∈ members ∧ isAdditional R schema property = true) ∨
      (∃ property, (property, child) ∈ mapKeyword schema "dependentSchemas" ∧
        (Json.record members).hasOwn property = true ∧ member = .record members) ∨
      (schema.get? "propertyNames" = some child ∧
        ∃ property other, (property, other) ∈ members ∧ member = .string property) := by
  unfold memberApplications
  simp only [List.mem_append, List.mem_flatMap, List.mem_map, List.mem_filter, Option.mem_toList, Prod.mk.injEq,
    Prod.exists, Option.filter_eq_some_iff, bne_iff_ne]
  constructor
  · rintro ((((⟨property, other, inside, inner, found, rfl, rfl⟩ |
      ⟨pattern, other, inside, property, inner, ⟨listed, matched⟩, rfl, rfl⟩) |
      ⟨other, ⟨found, refused⟩, property, inner, ⟨listed, extra⟩, rfl, rfl⟩) |
      ⟨property, other, ⟨inside, present⟩, rfl, rfl⟩) |
      ⟨other, found, property, inner, listed, rfl, rfl⟩)
    · exact .inl ⟨property, inside, found⟩
    · exact .inr (.inl ⟨pattern, property, inside, listed, matched⟩)
    · exact .inr (.inr (.inl ⟨found, refused, property, listed, extra⟩))
    · exact .inr (.inr (.inr (.inl ⟨property, inside, present, rfl⟩)))
    · exact .inr (.inr (.inr (.inr ⟨found, property, inner, listed, rfl⟩)))
  · rintro (⟨property, inside, found⟩ | ⟨pattern, property, inside, listed, matched⟩ |
      ⟨found, refused, property, listed, extra⟩ | ⟨property, inside, present, rfl⟩ |
      ⟨found, property, inner, listed, rfl⟩)
    · exact .inl (.inl (.inl (.inl ⟨property, child, inside, member, found, rfl, rfl⟩)))
    · exact .inl (.inl (.inl (.inr ⟨pattern, child, inside, property, member, ⟨listed, matched⟩, rfl, rfl⟩)))
    · exact .inl (.inl (.inr ⟨child, ⟨found, refused⟩, property, member, ⟨listed, extra⟩, rfl, rfl⟩))
    · exact .inl (.inr ⟨property, child, ⟨inside, present⟩, rfl, rfl⟩)
    · exact .inr ⟨child, found, property, inner, listed, rfl, rfl⟩

/-- Subschemas are asked about values as they are evaluated. -/
theorem conditionApplications_evaluated {application : Json × Json}
    (asked : application ∈ conditionApplications value schema) : application.2 ∈ evaluatedChildren schema := by
  obtain ⟨item, child⟩ := application
  rcases List.mem_append.mp asked with asked | asked
  · split at asked
    · split at asked
      · obtain ⟨found, -⟩ := mem_containsApplications.mp asked
        exact mem_evaluatedChildren_keyword (by decide +kernel) found
      · cases asked
    · cases asked
  · obtain ⟨other, inside, same⟩ := List.mem_map.mp asked
    cases same
    simp only [List.mem_append, Option.mem_toList] at inside
    rcases inside with (inside | found) | found
    · exact mem_evaluatedChildren_combined (by decide +kernel) inside
    · exact mem_evaluatedChildren_keyword (by decide +kernel) found
    · exact mem_evaluatedChildren_keyword (by decide +kernel) found

theorem directApplications_evaluated {application : Json × Json}
    (asked : application ∈ directApplications R value schema) : application.2 ∈ evaluatedChildren schema := by
  obtain ⟨item, child⟩ := application
  rcases List.mem_append.mp asked with asked | asked
  · split at asked
    · rcases List.mem_append.mp asked with asked | asked
      · rcases mem_itemApplications.mp asked with first | ⟨found, -⟩
        · exact mem_evaluatedChildren_prefixItems (List.of_mem_zip first).2
        · exact mem_evaluatedChildren_keyword (by decide +kernel) found
      · split at asked
        · cases asked
        · obtain ⟨found, -⟩ := mem_containsApplications.mp asked
          exact mem_evaluatedChildren_keyword (by decide +kernel) found
    · rcases mem_memberApplications.mp asked with ⟨property, inside, -⟩ | ⟨pattern, property, inside, -⟩ |
        ⟨found, -⟩ | ⟨property, inside, -⟩ | ⟨found, -⟩
      · exact mem_evaluatedChildren_map (by decide +kernel) inside
      · exact mem_evaluatedChildren_map (by decide +kernel) inside
      · exact mem_evaluatedChildren_keyword (by decide +kernel) found
      · exact mem_evaluatedChildren_map (by decide +kernel) inside
      · exact mem_evaluatedChildren_keyword (by decide +kernel) found
    · cases asked
  · obtain ⟨other, inside, same⟩ := List.mem_map.mp asked
    cases same
    simp only [List.mem_append] at inside
    rcases inside with (inside | inside) | inside
    · exact mem_evaluatedChildren_combined (by decide +kernel) inside
    · exact mem_evaluatedChildren_combined (by decide +kernel) inside
    · split at inside
      · obtain ⟨key, listed, found⟩ := List.mem_filterMap.mp inside
        have all : ∀ key ∈ (["then", "else"] : List JsString), key ∈ schemaKeywords := by decide +kernel
        exact mem_evaluatedChildren_keyword (all key listed) found
      · cases inside

end Applications

section Stages

variable {H : SchemaHost} {context : SchemaContext} {I : Evaluation → Prop} {Run : JsString → Prop}

/-- The values subschemas are asked about are evaluated with a property kept. -/
structure KeepsApplications (I : Evaluation → Prop) (R : Reading) (value schema : Json) (evaluate : Evaluator) :
    Prop where
  direct : ∀ application ∈ directApplications R value schema, ∀ path,
    Keeps I (evaluate application.1 application.2 path)
  condition : ∀ application ∈ conditionApplications value schema, ∀ path,
    Keeps I (asCondition (evaluate application.1 application.2 path))

theorem keeps_matchReference {activeRefs : JsMap JsString Nat} {schema : Json} {path : JsString}
    {follow : JsMap JsString Nat → Json → Evaluate SchemaValidationResult}
    (limit : ∀ reference, schemaReference schema = some reference →
      context.maxDepth ≤ (activeRefs.get? reference).getD 0 → Keeps I hitLimit)
    (targets : ∀ reference target, schemaReference schema = some reference →
      resolveSchemaReference context.index reference = some target →
        (activeRefs.get? reference).getD 0 < context.maxDepth →
          Keeps I (follow (activeRefs.set reference ((activeRefs.get? reference).getD 0 + 1)) target)) :
    Keeps I (matchReference context activeRefs schema path follow) := by
  unfold matchReference
  cases named : schemaReference schema with
  | none => exact keeps_pure _
  | some reference =>
    dsimp only
    split
    · rename_i deep
      exact (limit reference named deep).bind fun _ => keeps_pure _
    · rename_i shallow
      cases found : resolveSchemaReference context.index reference with
      | none => exact keeps_pure _
      | some target => exact targets reference target named found (Nat.lt_of_not_le shallow)

theorem keeps_matchType (value schema : Json) (path : JsString) : Keeps I (matchType value schema path) := by
  unfold matchType
  split
  · exact keeps_pure _
  · exact keeps_validIf _ _ _
  · exact keeps_validIf _ _ _
  · exact keeps_throw _

theorem keeps_matchNumber (value schema : Json) (path : JsString) : Keeps I (matchNumber H value schema path) := by
  unfold matchNumber
  split
  · exact keeps_forAllValid fun _ _ => keeps_validIf _ _ _
  · exact keeps_pure _

theorem keeps_countMatching {α : Type} {items : List α} {check : α → Evaluate SchemaValidationResult}
    {matching : Nat} (each : ∀ item ∈ items, Keeps I (check item)) :
    Keeps I (countMatching check items matching) := by
  induction items generalizing matching with
  | nil => exact keeps_pure _
  | cons item rest ih =>
    unfold countMatching
    refine (each item List.mem_cons_self).bind fun result => keeps_isExhausted.bind fun exhausted => ?_
    exact Keeps.ite (keeps_pure _) (ih fun other member => each other (List.mem_cons_of_mem _ member))

theorem keeps_matchAny {value : Json} {path : JsString} {evaluate : Evaluator} {schemas : List Json}
    (each : ∀ child ∈ schemas, Keeps I (evaluate value child path)) :
    Keeps I (matchAny value path evaluate schemas) := by
  induction schemas with
  | nil => exact keeps_pure _
  | cons child rest ih =>
    refine (each child List.mem_cons_self).bind fun result => Keeps.ite (keeps_pure _) ?_
    refine keeps_isExhausted.bind fun exhausted => Keeps.ite (keeps_pure _) ?_
    exact ih fun other member => each other (List.mem_cons_of_mem _ member)

theorem mem_arrayKeyword {schema : Json} {key : JsString} {child : Json} {schemas : List Json}
    (found : (schema.get? key).bind Json.asArray? = some schemas) (inside : child ∈ schemas) :
    child ∈ arrayKeyword schema key := by
  unfold arrayKeyword
  rw [found]
  exact inside

section Children

variable {R : Reading} {value schema : Json} {path : JsString} {evaluate : Evaluator}

theorem keeps_matchCombining (children : KeepsApplications I R value schema evaluate) :
    Keeps I (matchCombining value schema path evaluate) := by
  have direct : ∀ child, child ∈ arrayKeyword schema "allOf" ∨ child ∈ arrayKeyword schema "anyOf" →
      Keeps I (evaluate value child path) := by
    intro child inside
    refine children.direct (value, child) (List.mem_append_right _ (List.mem_map.mpr ⟨child, ?_, rfl⟩)) path
    exact List.mem_append_left _ (List.mem_append.mpr inside)
  unfold matchCombining
  refine keeps_forAllValid fun check member => ?_
  simp only [List.mem_cons, List.not_mem_nil, or_false] at member
  rcases member with rfl | rfl | rfl
  · exact keeps_forAllValid fun child inside => direct child (.inl inside)
  · dsimp only [id]
    cases found : (schema.get? "anyOf").bind Json.asArray? with
    | none => exact keeps_pure _
    | some schemas => exact keeps_matchAny fun child inside => direct child (.inr (mem_arrayKeyword found inside))
  · dsimp only [id]
    cases found : (schema.get? "oneOf").bind Json.asArray? with
    | none => exact keeps_pure _
    | some schemas =>
      refine Keeps.bind (keeps_countMatching fun child inside => ?_) fun result => ?_
      · refine children.condition (value, child)
          (List.mem_append_right _ (List.mem_map.mpr ⟨child, ?_, rfl⟩)) path
        exact List.mem_append_left _ (List.mem_append_left _ (mem_arrayKeyword found inside))
      · cases result with
        | none => exact keeps_pure _
        | some matching => exact keeps_validIf _ _ _

theorem keeps_matchNot (children : KeepsApplications I R value schema evaluate) :
    Keeps I (matchNot value schema path evaluate) := by
  unfold matchNot
  cases found : schema.get? "not" with
  | none => exact keeps_pure _
  | some child =>
    have asked : (value, child) ∈ conditionApplications value schema := by
      refine List.mem_append_right _ (List.mem_map.mpr ⟨child, ?_, rfl⟩)
      exact List.mem_append_left _ (List.mem_append_right _ (Option.mem_toList.mpr found))
    refine (children.condition _ asked path).bind fun result => ?_
    exact keeps_isExhausted.bind fun exhausted => Keeps.ite (keeps_pure _) (keeps_validIf _ _ _)

theorem keeps_matchConditional (children : KeepsApplications I R value schema evaluate) :
    Keeps I (matchConditional value schema path evaluate) := by
  unfold matchConditional
  cases found : schema.get? "if" with
  | none => exact keeps_pure _
  | some child =>
    have asked : (value, child) ∈ conditionApplications value schema := by
      refine List.mem_append_right _ (List.mem_map.mpr ⟨child, ?_, rfl⟩)
      exact List.mem_append_right _ (Option.mem_toList.mpr found)
    refine (children.condition _ asked path).bind fun result => ?_
    refine keeps_isExhausted.bind fun exhausted => Keeps.ite (keeps_pure _) ?_
    cases chosen : schema.get? (if result.isValid then "then" else "else") with
    | none => exact keeps_pure _
    | some conditional =>
      refine children.direct (value, conditional)
        (List.mem_append_right _ (List.mem_map.mpr ⟨conditional, List.mem_append_right _ ?_, rfl⟩)) path
      rw [if_pos (Option.isSome_iff_exists.mpr ⟨child, found⟩)]
      refine List.mem_filterMap.mpr ⟨_, ?_, chosen⟩
      cases result.isValid <;> decide +kernel

end Children

variable (untouched : Untouched I Run)
include untouched

/-- Running an expression is recorded; what follows its test is told the result. -/
theorem keeps_testSchemaRegex_bind {α : Type} {pattern value : JsString} {next : RegexTest → Evaluate α}
    (safe : Run pattern) (exhausted : Keeps I (next .exhausted))
    (tested : Keeps I (next (.tested ((H.regExp pattern).any (· value))))) :
    Keeps I (testSchemaRegex H context pattern value >>= next) := by
  unfold testSchemaRegex
  rw [bind_assoc]
  refine (keeps_consumeEvaluationBudget untouched _).bind fun room => ?_
  cases room with
  | false => exact exhausted
  | true =>
    simp only [Bool.not_true, Bool.false_eq_true, ↓reduceIte]
    cases compiled : H.regExp pattern with
    | none =>
      rw [compiled] at tested
      rw [bind_assoc]
      refine keeps_isExhausted.bind fun spent => ?_
      rw [pure_bind]
      split
      · exact exhausted
      · exact tested
    | some test =>
      rw [compiled] at tested
      exact (keeps_modify fun s held => untouched.run s pattern safe held).bind fun _ => tested

theorem keeps_matchConst (value schema : Json) (path : JsString) :
    Keeps I (matchConst context value schema path) := by
  unfold matchConst
  split
  · exact keeps_pure _
  · refine (keeps_deepEqualJson untouched _ _).bind fun equal => Keeps.ite (keeps_pure _) ?_
    exact keeps_isExhausted.bind fun _ => keeps_pure _

theorem keeps_matchEnum (value schema : Json) (path : JsString) :
    Keeps I (matchEnum context value schema path) := by
  unfold matchEnum
  split
  · exact keeps_pure _
  · rename_i entries found
    clear found
    induction entries with
    | nil => exact keeps_pure _
    | cons entry rest ih =>
      unfold matchEntries
      refine (keeps_deepEqualJson untouched _ _).bind fun equal => Keeps.ite (keeps_pure _) ?_
      exact keeps_isExhausted.bind fun exhausted => Keeps.ite (keeps_pure _) ih

theorem keeps_matchString {value schema : Json} {path : JsString}
    (safe : ∀ pattern, (schema.get? "pattern").bind Json.asString? = some pattern → Run pattern) :
    Keeps I (matchString H context value schema path) := by
  unfold matchString
  split
  · rename_i text
    refine keeps_forAllValid fun check member => ?_
    simp only [List.mem_cons, List.not_mem_nil, or_false] at member
    rcases member with rfl | rfl | rfl
    · exact keeps_validIf _ _ _
    · exact keeps_validIf _ _ _
    · dsimp only [id, matchPattern]
      cases named : (schema.get? "pattern").bind Json.asString? with
      | none => exact keeps_pure _
      | some pattern => exact keeps_testSchemaRegex_bind untouched (safe pattern named) (keeps_pure _) (keeps_validIf _ _ _)
  · exact keeps_pure _

theorem keeps_matchUnique (path : JsString) (items : List Json) (signatures : List JsString) :
    Keeps I (matchUnique context path items signatures) := by
  induction items generalizing signatures with
  | nil => exact keeps_pure _
  | cons item rest ih =>
    unfold matchUnique
    refine keeps_spend untouched (keeps_pure _) ((keeps_canonicalizeValue untouched item).bind fun signature => ?_)
    cases signature with
    | none => exact keeps_isExhausted.bind fun _ => keeps_pure _
    | some signature => exact Keeps.ite (keeps_pure _) (ih _)

/-- The test of a property against expressions; what follows is told the result. -/
theorem keeps_matchesSomePattern_bind {α : Type} {property : JsString} {patterns : List JsString}
    {next : Option Bool → Evaluate α} (safe : ∀ pattern ∈ patterns, Run pattern) (exhausted : Keeps I (next none))
    (tested : Keeps I (next (some (patterns.any fun pattern => (H.regExp pattern).any (· property))))) :
    Keeps I (matchesSomePattern H context property patterns >>= next) := by
  induction patterns with
  | nil => exact tested
  | cons pattern rest ih =>
    unfold matchesSomePattern
    rw [bind_assoc]
    refine keeps_testSchemaRegex_bind untouched (safe pattern List.mem_cons_self) exhausted ?_
    rw [List.any_cons] at tested
    cases matched : (H.regExp pattern).any (· property) with
    | true =>
      rw [matched, Bool.true_or] at tested
      exact tested
    | false =>
      rw [matched, Bool.false_or] at tested
      exact ih (fun other member => safe other (List.mem_cons_of_mem _ member)) tested

variable {value schema : Json} {path : JsString} {evaluate : Evaluator}

theorem keeps_matchArray {R : Reading} (children : KeepsApplications I R value schema evaluate) :
    Keeps I (matchArray context value schema path evaluate) := by
  unfold matchArray
  split
  · rename_i elements
    have item : ∀ element child, (element, child) ∈ itemApplications elements schema → ∀ path,
        Keeps I (evaluate element child path) := fun element child asked =>
      children.direct (element, child) (List.mem_append_left _ (List.mem_append_left _ asked))
    refine keeps_forAllValid fun check member => ?_
    simp only [List.mem_cons, List.not_mem_nil, or_false] at member
    rcases member with rfl | rfl | rfl | rfl | rfl | rfl
    · exact keeps_validIf _ _ _
    · exact keeps_validIf _ _ _
    · exact (keeps_matchUnique untouched _ _ _).ite (keeps_pure _)
    · refine keeps_forAllValid fun entry inside => item _ _ (mem_itemApplications.mpr (.inl ?_)) _
      have mapped := List.mem_map_of_mem (f := fun entry : (Json × Nat) × Json => (entry.1.1, entry.2)) inside
      rwa [zipIdx_zip] at mapped
    · refine keeps_forAllValid fun child found => keeps_forAllValid fun entry inside => ?_
      refine item _ _ (mem_itemApplications.mpr (.inr ⟨Option.mem_toList.mp found, ?_⟩)) _
      rw [← zipIdx_drop]
      exact List.mem_map_of_mem inside
    · dsimp only [id, matchContains]
      cases found : schema.get? "contains" with
      | none => exact keeps_pure _
      | some child =>
        have asked : ∀ entry ∈ elements.zipIdx, (entry.1, child) ∈ containsApplications elements schema := by
          intro entry inside
          refine mem_containsApplications.mpr ⟨found, ?_⟩
          have mapped := List.mem_map_of_mem (f := Prod.fst) inside
          rwa [List.zipIdx_map_fst] at mapped
        refine Keeps.bind (keeps_countMatching fun entry inside => ?_) fun result => ?_
        · split
          · rename_i bounded
            refine children.condition (entry.1, child) (List.mem_append_left _ ?_) _
            dsimp only
            rw [if_pos bounded]
            exact asked entry inside
          · rename_i unbounded
            refine children.direct (entry.1, child) (List.mem_append_left _ (List.mem_append_right _ ?_)) _
            rw [if_neg unbounded]
            exact asked entry inside
        · cases result with
          | none => exact keeps_pure _
          | some matching => exact keeps_validIf _ _ _
  · exact keeps_pure _

theorem keeps_matchObject
    (safe : ∀ pattern child, (pattern, child) ∈ mapKeyword schema "patternProperties" → Run pattern)
    (children : KeepsApplications I (codeReading H context.index) value schema evaluate) :
    Keeps I (matchObject H context value schema path evaluate) := by
  unfold matchObject
  split
  · rename_i members
    have member : ∀ item child, (item, child) ∈ memberApplications (codeReading H context.index) members schema →
        ∀ path, Keeps I (evaluate item child path) := fun item child asked =>
      children.direct (item, child) (List.mem_append_left _ asked)
    refine keeps_forAllValid fun check inside => ?_
    simp only [List.mem_cons, List.not_mem_nil, or_false] at inside
    rcases inside with rfl | rfl | rfl | rfl | rfl | rfl | rfl | rfl | rfl
    · exact keeps_validIf _ _ _
    · exact keeps_validIf _ _ _
    · exact keeps_forAllValid fun _ _ => keeps_validIf _ _ _
    · refine keeps_forAllValid fun entry inside => keeps_forAllValid fun item found => ?_
      exact member _ _ (mem_memberApplications.mpr (.inl ⟨entry.1, inside, Option.mem_toList.mp found⟩)) _
    · refine keeps_forAllValid fun entry inside => keeps_forAllValid fun item listed => ?_
      refine keeps_testSchemaRegex_bind untouched (safe _ _ inside) (keeps_pure _) ?_
      cases matched : (H.regExp entry.1).any (· item.1) with
      | true => exact member _ _ (mem_memberApplications.mpr (.inr (.inl ⟨entry.1, item.1, inside, listed, matched⟩))) _
      | false => exact keeps_pure _
    · dsimp only [id, matchAdditional]
      cases found : schema.get? "additionalProperties" with
      | none => exact keeps_pure _
      | some child =>
        refine keeps_forAllValid fun item listed => ?_
        obtain ⟨listed, unknown⟩ := List.mem_filter.mp listed
        refine keeps_matchesSomePattern_bind untouched ?_ (keeps_pure _) ?_
        · intro pattern inside
          obtain ⟨⟨name, other⟩, listed, rfl⟩ := List.mem_map.mp inside
          exact safe name other listed
        · cases matched : ((mapKeyword schema "patternProperties").map Prod.fst).any
              fun pattern => (H.regExp pattern).any (· item.1) with
          | true => exact keeps_pure _
          | false =>
            dsimp only
            split
            · exact keeps_pure _
            · rename_i schemaGiven
              have additional : isAdditional (codeReading H context.index) schema item.1 = true := by
                unfold isAdditional
                rw [Bool.and_eq_true]
                refine ⟨unknown, ?_⟩
                show (!((mapKeyword schema "patternProperties").map Prod.fst).any
                  fun pattern => (H.regExp pattern).any (· item.1)) = true
                rw [matched]
                rfl
              exact member _ _ (mem_memberApplications.mpr
                (.inr (.inr (.inl ⟨found, schemaGiven, item.1, listed, additional⟩)))) _
    · refine keeps_forAllValid fun item _ => Keeps.ite ?_ (keeps_pure _)
      exact keeps_forAllValid fun _ _ => keeps_validIf _ _ _
    · refine keeps_forAllValid fun entry inside => ?_
      split
      · rename_i present
        exact member _ _ (mem_memberApplications.mpr (.inr (.inr (.inr (.inl ⟨entry.1, inside, present, rfl⟩))))) _
      · exact keeps_pure _
    · refine keeps_forAllValid fun child found => keeps_forAllValid fun item listed => ?_
      exact member _ _ (mem_memberApplications.mpr (.inr (.inr (.inr (.inr
        ⟨Option.mem_toList.mp found, item.1, item.2, listed, rfl⟩))))) _
  · exact keeps_pure _

variable {levels : Nat} {activeRefs : JsMap JsString Nat}

/-- One step of `matchesSchema` keeps what its stages keep. -/
theorem keeps_matchesSchema_succ
    (visit : ∀ s, I s → I { s with evaluated := schema :: s.evaluated })
    (pattern : ∀ pattern, (schema.get? "pattern").bind Json.asString? = some pattern → Run pattern)
    (patternProperty : ∀ pattern child, (pattern, child) ∈ mapKeyword schema "patternProperties" → Run pattern)
    (limit : ∀ reference, schemaReference schema = some reference →
      context.maxDepth ≤ (activeRefs.get? reference).getD 0 → Keeps I hitLimit)
    (target : ∀ reference target, schemaReference schema = some reference →
      resolveSchemaReference context.index reference = some target →
        (activeRefs.get? reference).getD 0 < context.maxDepth →
          Keeps I (matchesSchema H context levels value target path
            (activeRefs.set reference ((activeRefs.get? reference).getD 0 + 1))))
    (children : KeepsApplications I (codeReading H context.index) value schema fun value schema path =>
      matchesSchema H context levels value schema path activeRefs) :
    Keeps I (matchesSchema H context (levels + 1) value schema path activeRefs) := by
  unfold matchesSchema
  refine Keeps.bind (keeps_modify visit) fun _ => keeps_spend untouched (keeps_pure _) ?_
  split
  · contradiction
  · exact keeps_validIf _ _ _
  · exact keeps_throw _
  · rename_i schema _ _ next same _ _
    cases same
    refine keeps_forAllValid fun check member => ?_
    simp only [List.mem_cons, List.not_mem_nil, or_false] at member
    rcases member with rfl | rfl | rfl | rfl | rfl | rfl | rfl | rfl | rfl | rfl | rfl
    · exact keeps_matchReference limit target
    · exact keeps_matchType value schema path
    · exact keeps_matchConst untouched value schema path
    · exact keeps_matchEnum untouched value schema path
    · exact keeps_matchNumber value schema path
    · exact keeps_matchString untouched pattern
    · exact keeps_matchArray untouched children
    · exact keeps_matchObject untouched patternProperty children
    · exact keeps_matchCombining children
    · exact keeps_matchNot children
    · exact keeps_matchConditional children

end Stages

section Evaluated

variable {H : SchemaHost} {context : SchemaContext} {Good : Json → Prop} {Run : JsString → Prop}

/-- The schemas evaluated are good, and so are the expressions run. -/
def Recorded (Good : Json → Prop) (Run : JsString → Prop) (s : Evaluation) : Prop :=
  (∀ schema ∈ s.evaluated, Good schema) ∧ ∀ pattern ∈ s.ran, Run pattern

theorem recorded_untouched : Untouched (Recorded Good Run) Run where
  spend _ _ _ held := held
  run s pattern safe held := by
    refine ⟨held.1, fun other member => ?_⟩
    rcases List.mem_cons.mp member with rfl | member
    · exact safe
    · exact held.2 other member

theorem recorded_visit {schema : Json} (good : Good schema) (s : Evaluation) (held : Recorded Good Run s) :
    Recorded Good Run { s with evaluated := schema :: s.evaluated } := by
  refine ⟨fun other member => ?_, held.2⟩
  rcases List.mem_cons.mp member with rfl | member
  · exact good
  · exact held.1 other member

theorem keeps_asCondition {code : Evaluate α} (kept : Keeps (Recorded Good Run) code) :
    Keeps (Recorded Good Run) (asCondition code) := by
  unfold asCondition
  refine keeps_get_bind fun before held => (kept.bind fun result => ?_) before held
  exact Keeps.bind (keeps_modify fun _ held => held) fun _ => keeps_pure _

/-- Schemas that are closed under what is evaluated of them, and whose expressions can be run. -/
structure Closed (index : SchemaIndex) (Good : Json → Prop) (Run : JsString → Prop) : Prop where
  child : ∀ schema child, Good schema → child ∈ evaluatedChildren schema → Good child
  target : ∀ schema reference target, Good schema → schemaReference schema = some reference →
    resolveSchemaReference index reference = some target → Good target
  pattern : ∀ schema pattern, Good schema → (schema.get? "pattern").bind Json.asString? = some pattern →
    Run pattern
  patternProperty : ∀ schema pattern child, Good schema →
    (pattern, child) ∈ mapKeyword schema "patternProperties" → Run pattern

/-- Evaluation stays among the schemas it is closed under. -/
theorem keeps_matchesSchema (closed : Closed context.index Good Run) (levels : Nat) (value schema : Json)
    (path : JsString) (activeRefs : JsMap JsString Nat) (good : Good schema) :
    Keeps (Recorded Good Run) (matchesSchema H context levels value schema path activeRefs) := by
  have limit : Keeps (Recorded Good Run) hitLimit := keeps_modify fun _ held => held
  induction levels generalizing value schema path activeRefs with
  | zero =>
    unfold matchesSchema
    refine Keeps.bind (keeps_modify (recorded_visit good)) fun _ => ?_
    exact keeps_spend recorded_untouched (keeps_pure _) (limit.bind fun _ => keeps_pure _)
  | succ levels ih =>
    refine keeps_matchesSchema_succ recorded_untouched (recorded_visit good)
      (fun pattern named => closed.pattern schema pattern good named)
      (fun pattern child inside => closed.patternProperty schema pattern child good inside)
      (fun _ _ _ => limit)
      (fun reference target named found _ => ih value target path _ (closed.target schema reference target good named found))
      ⟨fun application asked path => ?_, fun application asked path => keeps_asCondition ?_⟩
    · exact ih _ _ path activeRefs (closed.child schema _ good (directApplications_evaluated asked))
    · exact ih _ _ path activeRefs (closed.child schema _ good (conditionApplications_evaluated asked))

end Evaluated


section Shape

variable {H : SchemaHost}

theorem forM_ok {ε α : Type} {items : List α} {check : α → Except ε PUnit}
    (passed : items.forM check = .ok ()) : ∀ item ∈ items, check item = .ok () := by
  induction items with
  | nil => nofun
  | cons first rest ih =>
    obtain ⟨_, here, rest⟩ := bind_ok passed
    intro item member
    rcases List.mem_cons.mp member with rfl | member
    · exact here
    · exact ih rest item member

theorem mapM_ok {ε α β : Type} {items : List α} {check : α → Except ε β} {results : List β}
    (passed : items.mapM check = .ok results) : ∀ item ∈ items, ∃ result ∈ results, check item = .ok result := by
  induction items generalizing results with
  | nil => nofun
  | cons first rest ih =>
    rw [List.mapM_cons] at passed
    obtain ⟨here, found, more⟩ := bind_ok passed
    obtain ⟨others, remaining, same⟩ := bind_ok more
    obtain rfl := Except.ok.inj same
    intro item member
    rcases List.mem_cons.mp member with rfl | member
    · exact ⟨here, List.mem_cons_self, found⟩
    · obtain ⟨result, inside, checked⟩ := ih remaining item member
      exact ⟨result, List.mem_cons_of_mem _ inside, checked⟩

theorem keyword_ok {schema value : Json} {key path reason : JsString} {expected : Json → Bool}
    (passed : validateSchemaKeywordType schema key path expected reason = .ok ())
    (found : schema.get? key = some value) : expected value = true := by
  have held := requireField_ok passed
  rw [found] at held
  exact held

/-- An expression that passes the check of patterns. -/
def IsSafeRegex (H : SchemaHost) (pattern : JsString) : Prop :=
  ∀ path keyword, validateRegexPattern H pattern path keyword = .ok ()

theorem isSafeRegex_of_ok {pattern path keyword : JsString}
    (passed : validateRegexPattern H pattern path keyword = .ok ()) : IsSafeRegex H pattern := by
  intro other word
  obtain ⟨_, short, passed⟩ := bind_ok passed
  obtain ⟨_, valid, safe⟩ := bind_ok passed
  unfold validateRegexPattern
  rw [requireField_ok short, requireField_ok valid, requireField_ok safe]
  rfl

/-- The types and values the shape check requires of the keywords that are evaluated. -/
structure Shaped (H : SchemaHost) (schema : Json) : Prop where
  isSchema : isSchemaValue schema = true
  reference : ∀ value, schema.get? "$ref" = some value →
    ∃ reference, value = .string reference ∧ isLocalReference reference = true
  type : ∀ value, schema.get? "type" = some value → isSchemaType value = true
  natural : ∀ key ∈ (["minLength", "maxLength", "minItems", "maxItems", "minProperties",
    "maxProperties", "minContains", "maxContains"] : List JsString), ∀ value,
    schema.get? key = some value → isNonNegativeInteger value = true
  number : ∀ key ∈ (["minimum", "maximum", "exclusiveMinimum", "exclusiveMaximum",
    "multipleOf"] : List JsString), ∀ value, schema.get? key = some value → isFiniteNumber value = true
  multipleOf : ∀ value, schema.get? "multipleOf" = some value → value.asNumber?.any (0 < ·.value) = true
  required : ∀ value, schema.get? "required" = some value → isUniqueStrings value = true
  dependentRequired : ∀ value, schema.get? "dependentRequired" = some value →
    value.isPlainObject = true ∧ ∀ member ∈ value.members, isUniqueStrings member.2 = true
  enum : ∀ value, schema.get? "enum" = some value → value.asArray?.any (!·.isEmpty) = true
  combining : ∀ key ∈ combiningKeywords, ∀ value, schema.get? key = some value →
    value.asArray?.any (·.all isSchemaValue) = true
  pattern : ∀ value, schema.get? "pattern" = some value →
    ∃ pattern, value = .string pattern ∧ IsSafeRegex H pattern
  uniqueItems : ∀ value, schema.get? "uniqueItems" = some value → value.asBool?.isSome = true
  maps : ∀ key ∈ schemaMapKeywords, ∀ value, schema.get? key = some value → value.isPlainObject = true
  patternProperties : ∀ value, schema.get? "patternProperties" = some value →
    ∀ member ∈ value.members, IsSafeRegex H member.1
  prefixItems : ∀ value, schema.get? "prefixItems" = some value → value.asArray?.isSome = true
  schemas : ∀ child ∈ schemaChildren schema, isSchemaValue child.2 = true

/-- The children the shape check walks to. -/
def walkedChildren (schema : Json) : List Json :=
  (schemaChildren schema).map Prod.snd ++ (combinedSchemas schema).map Prod.snd

/-- What the keywords of an object schema have passed. -/
structure KeywordsPass (H : SchemaHost) (schema : Json) (path : JsString)
    (references : List SchemaReference) : Prop where
  plain : schema.isPlainObject = true
  core : ∃ own, validateCoreKeywords schema path = .ok own ∧ own ⊆ references
  bounds : validateBoundKeywords schema path = .ok ()
  lists : validateListKeywords schema path = .ok ()
  texts : validateTextKeywords H schema path = .ok ()
  children : validateChildKeywords H schema path = .ok ()
  schemas : ∀ child ∈ schemaChildren schema, isSchemaValue child.2 = true
  walked : ∀ child ∈ walkedChildren schema, ∃ path' inner,
    validateSchemaShape H child path' = .ok inner ∧ inner ⊆ references

theorem validateSchemaShape_ok {schema : Json} {path : JsString} {references : List SchemaReference}
    (accepted : validateSchemaShape H schema path = .ok references) :
    (∃ held, schema = .bool held) ∨ KeywordsPass H schema path references := by
  rw [validateSchemaShape.eq_def] at accepted
  split at accepted
  · exact .inl ⟨_, rfl⟩
  · refine .inr ?_
    obtain ⟨_, plain, accepted⟩ := bind_ok accepted
    obtain ⟨own, core, accepted⟩ := bind_ok accepted
    obtain ⟨_, bounds, accepted⟩ := bind_ok accepted
    obtain ⟨_, lists, accepted⟩ := bind_ok accepted
    obtain ⟨_, texts, accepted⟩ := bind_ok accepted
    obtain ⟨_, children, accepted⟩ := bind_ok accepted
    obtain ⟨below, first, accepted⟩ := bind_ok accepted
    obtain ⟨combined, second, same⟩ := bind_ok accepted
    obtain rfl := Except.ok.inj same
    have walkedFirst := mapM_ok first
    have walkedSecond := mapM_ok second
    refine ⟨require_ok plain, ⟨own, core, ?_⟩, bounds, lists, texts, children, ?_, ?_⟩
    · intro reference member
      exact List.mem_append_left _ (List.mem_append_left _ member)
    · rintro ⟨part, child⟩ inside
      obtain ⟨inner, -, passed⟩ := walkedFirst ⟨(part, child), inside⟩ (List.mem_attach _ _)
      obtain ⟨_, typed, -⟩ := bind_ok passed
      exact requireField_ok typed
    · intro child member
      rcases List.mem_append.mp member with member | member
      · obtain ⟨⟨part, child⟩, inside, rfl⟩ := List.mem_map.mp member
        obtain ⟨inner, listed, passed⟩ := walkedFirst ⟨(part, child), inside⟩ (List.mem_attach _ _)
        obtain ⟨_, -, passed⟩ := bind_ok passed
        refine ⟨_, inner, passed, fun reference found => ?_⟩
        exact List.mem_append_left _ (List.mem_append_right _ (List.mem_flatten.mpr ⟨inner, listed, found⟩))
      · obtain ⟨⟨part, child⟩, inside, rfl⟩ := List.mem_map.mp member
        obtain ⟨inner, listed, passed⟩ := walkedSecond ⟨(part, child), inside⟩ (List.mem_attach _ _)
        refine ⟨_, inner, passed, fun reference found => ?_⟩
        exact List.mem_append_right _ (List.mem_flatten.mpr ⟨inner, listed, found⟩)

theorem addSchemaReference_ok {value : Json} {path : JsString} {reference : SchemaReference}
    (passed : addSchemaReference value path = .ok reference) :
    value = .string reference.ref ∧ isLocalReference reference.ref = true := by
  unfold addSchemaReference at passed
  cases text : value.asString? with
  | none =>
    rw [text] at passed
    cases passed
  | some ref =>
    rw [text] at passed
    obtain ⟨_, local', passed⟩ := bind_ok passed
    obtain rfl := Except.ok.inj passed
    exact ⟨by cases value <;> simp_all [Json.asString?], requireField_ok local'⟩

theorem validateCoreKeywords_ok {schema : Json} {path : JsString} {references : List SchemaReference}
    (passed : validateCoreKeywords schema path = .ok references) :
    ∀ value, schema.get? "$ref" = some value → ∃ reference ∈ references,
      value = .string reference.ref ∧ isLocalReference reference.ref = true := by
  unfold validateCoreKeywords at passed
  obtain ⟨_, -, passed⟩ := bind_ok passed
  obtain ⟨_, -, passed⟩ := bind_ok passed
  obtain ⟨own, added, passed⟩ := bind_ok passed
  obtain ⟨_, -, passed⟩ := bind_ok passed
  obtain ⟨_, -, passed⟩ := bind_ok passed
  obtain ⟨_, -, passed⟩ := bind_ok passed
  obtain ⟨_, -, passed⟩ := bind_ok passed
  obtain ⟨_, -, passed⟩ := bind_ok passed
  obtain rfl := Except.ok.inj passed
  intro value found
  obtain ⟨reference, member, checked⟩ := mapM_ok added value (Option.mem_toList.mpr found)
  exact ⟨reference, member, addSchemaReference_ok checked⟩

theorem KeywordsPass.shaped {schema : Json} {path : JsString} {references : List SchemaReference}
    (pass : KeywordsPass H schema path references) : Shaped H schema := by
  obtain ⟨plain, ⟨own, core, -⟩, bounds, lists, texts, children, schemas, -⟩ := pass
  obtain ⟨_, type, bounds⟩ := bind_ok bounds
  obtain ⟨_, naturals, bounds⟩ := bind_ok bounds
  obtain ⟨_, numbers, bounds⟩ := bind_ok bounds
  obtain ⟨_, multiple, bounds⟩ := bind_ok bounds
  obtain ⟨_, counted, -⟩ := bind_ok bounds
  obtain ⟨_, required, lists⟩ := bind_ok lists
  obtain ⟨_, dependent, lists⟩ := bind_ok lists
  obtain ⟨_, dependencies, lists⟩ := bind_ok lists
  obtain ⟨_, -, lists⟩ := bind_ok lists
  obtain ⟨_, enum, combining⟩ := bind_ok lists
  obtain ⟨_, strings, texts⟩ := bind_ok texts
  obtain ⟨_, pattern, texts⟩ := bind_ok texts
  obtain ⟨_, unique, -⟩ := bind_ok texts
  obtain ⟨_, maps, prefixItems⟩ := bind_ok children
  have isObject : isSchemaValue schema = true := by
    cases schema <;> first | rfl | exact plain
  exact {
    isSchema := isObject
    reference := fun value found => by
      obtain ⟨reference, -, same, isLocal⟩ := validateCoreKeywords_ok core value found
      exact ⟨reference.ref, same, isLocal⟩
    type := fun value found => keyword_ok type found
    natural := fun key listed value found => by
      simp only [List.mem_cons, List.not_mem_nil, or_false] at listed
      rcases listed with rfl | rfl | rfl | rfl | rfl | rfl | listed
      · exact keyword_ok (forM_ok naturals _ (by simp)) found
      · exact keyword_ok (forM_ok naturals _ (by simp)) found
      · exact keyword_ok (forM_ok naturals _ (by simp)) found
      · exact keyword_ok (forM_ok naturals _ (by simp)) found
      · exact keyword_ok (forM_ok naturals _ (by simp)) found
      · exact keyword_ok (forM_ok naturals _ (by simp)) found
      · exact keyword_ok (forM_ok counted key (by simpa using listed)) found
    number := fun key listed value found => keyword_ok (forM_ok numbers key listed) found
    multipleOf := fun value found => keyword_ok multiple found
    required := fun value found => keyword_ok required found
    dependentRequired := fun value found => by
      refine ⟨keyword_ok dependent found, fun member inside => ?_⟩
      rw [found] at dependencies
      exact requireField_ok (forM_ok dependencies member inside)
    enum := fun value found => keyword_ok enum found
    combining := fun key listed value found => keyword_ok (forM_ok combining key listed) found
    pattern := fun value found => by
      have text : isString value = true := keyword_ok (forM_ok strings "pattern" (by simp)) found
      obtain ⟨name, named⟩ := Option.isSome_iff_exists.mp text
      have same := string_of_asString? (show (some value).bind Json.asString? = some name from named)
      refine ⟨name, Option.some.inj same, ?_⟩
      rw [found, Option.bind_some, named] at pattern
      exact isSafeRegex_of_ok (forM_ok pattern _ (by simp))
    uniqueItems := fun value found => keyword_ok unique found
    maps := fun key listed value found => by
      obtain ⟨_, plainMap, -⟩ := bind_ok (forM_ok maps key listed)
      exact keyword_ok plainMap found
    patternProperties := fun value found member inside => by
      obtain ⟨_, -, names⟩ := bind_ok (forM_ok maps "patternProperties" (by decide +kernel))
      rw [if_pos rfl, found] at names
      exact isSafeRegex_of_ok (forM_ok names member inside)
    prefixItems := fun value found => keyword_ok prefixItems found
    schemas }

/-- Booleans have no keywords. -/
theorem shaped_bool (held : Bool) : Shaped H (.bool held) where
  isSchema := rfl
  reference := nofun
  type := nofun
  natural := nofun
  number := nofun
  multipleOf := nofun
  required := nofun
  dependentRequired := nofun
  enum := nofun
  combining := nofun
  pattern := nofun
  uniqueItems := nofun
  maps := nofun
  patternProperties := nofun
  prefixItems := nofun
  schemas := nofun

theorem shaped_of_accepted {schema : Json} {path : JsString} {references : List SchemaReference}
    (accepted : validateSchemaShape H schema path = .ok references) : Shaped H schema := by
  rcases validateSchemaShape_ok accepted with ⟨held, rfl⟩ | pass
  · exact shaped_bool held
  · exact pass.shaped

/-- The schemas the shape check of a schema walks to. -/
inductive Walked (root : Json) : Json → Prop where
  | root : Walked root root
  | child {schema child : Json} : Walked root schema → child ∈ walkedChildren schema → Walked root child

theorem walked_accepted {root schema : Json} {references : List SchemaReference}
    (accepted : validateSchemaShape H root "$" = .ok references) (walked : Walked root schema) :
    ∃ path inner, validateSchemaShape H schema path = .ok inner ∧ inner ⊆ references := by
  induction walked with
  | root => exact ⟨"$", references, accepted, List.Subset.refl _⟩
  | child walked inside ih =>
    obtain ⟨path, inner, passed, within⟩ := ih
    rcases validateSchemaShape_ok passed with ⟨held, rfl⟩ | pass
    · have none : walkedChildren (.bool held) = [] := by cases held <;> rfl
      rw [none] at inside
      cases inside
    · obtain ⟨path', deeper, passed, subset⟩ := pass.walked _ inside
      exact ⟨path', deeper, passed, List.Subset.trans subset within⟩

end Shape

section Closure

variable {H : SchemaHost}

theorem mem_walkedChildren_array {schema child : Json} {key : JsString}
    (inside : child ∈ arrayKeyword schema key) (listed : key ∈ combiningKeywords) :
    child ∈ walkedChildren schema := by
  obtain ⟨index, bound, rfl⟩ := List.mem_iff_getElem.mp inside
  apply List.mem_append_right
  apply List.mem_map.mpr
  refine ⟨(key ++ "[" ++ JsString.ofNat index ++ "]", (arrayKeyword schema key)[index]), ?_, rfl⟩
  exact List.mem_flatMap.mpr ⟨key, listed, List.mem_mapIdx.mpr ⟨index, bound, rfl⟩⟩

/-- What is evaluated of a schema is walked to by its shape check. -/
theorem evaluatedChildren_walked {schema child : Json} (inside : child ∈ evaluatedChildren schema) :
    child ∈ walkedChildren schema := by
  unfold evaluatedChildren at inside
  simp only [List.mem_append, List.mem_filterMap, List.mem_flatMap, List.mem_map] at inside
  rcases inside with ((⟨key, listed, found⟩ | ⟨key, listed, ⟨name, member⟩, found, rfl⟩) | found) |
    ⟨key, listed, found⟩
  · apply List.mem_append_left
    refine List.mem_map.mpr ⟨(key, child), ?_, rfl⟩
    refine List.mem_append_left _ (List.mem_append_left _ (List.mem_filterMap.mpr ⟨key, listed, ?_⟩))
    rw [found]
    rfl
  · apply List.mem_append_left
    refine List.mem_map.mpr ⟨(key ++ "." ++ name, member), ?_, rfl⟩
    refine List.mem_append_left _ (List.mem_append_right _ (List.mem_flatMap.mpr ⟨key, ?_, ?_⟩))
    · have all : ∀ key ∈ (["dependentSchemas", "patternProperties", "properties"] : List JsString),
          key ∈ schemaMapKeywords := by decide +kernel
      exact all key listed
    · refine List.mem_map.mpr ⟨(name, member), ?_, rfl⟩
      unfold mapKeyword at found
      cases schemas : schema.get? key with
      | none =>
        rw [schemas] at found
        cases found
      | some value =>
        rw [schemas, Option.filter_some] at found
        split at found
        · exact found
        · cases found
  · obtain ⟨index, bound, rfl⟩ := List.mem_iff_getElem.mp found
    apply List.mem_append_left
    refine List.mem_map.mpr ⟨("prefixItems." ++ JsString.ofNat index, (arrayKeyword schema "prefixItems")[index]),
      ?_, rfl⟩
    exact List.mem_append_right _ (List.mem_mapIdx.mpr ⟨index, bound, rfl⟩)
  · exact mem_walkedChildren_array found listed

/-- The schemas evaluation can come to: children, and the targets of references. -/
inductive Reached (root : Json) : Json → Prop where
  | root : Reached root root
  | child {schema child : Json} : Reached root schema → child ∈ evaluatedChildren schema → Reached root child
  | target {schema target : Json} {reference : JsString} : Reached root schema →
      schemaReference schema = some reference →
      resolveSchemaReference (collectSchemaIndex root) reference = some target → Reached root target

/-- No reference evaluation can come to leads out of the walk of the shape check. -/
def ReferencesStay (root : Json) : Prop :=
  ∀ schema reference target, Reached root schema → schemaReference schema = some reference →
    resolveSchemaReference (collectSchemaIndex root) reference = some target → Walked root target

theorem ReferencesStay.walked {root schema : Json} (stay : ReferencesStay root)
    (reached : Reached root schema) : Walked root schema := by
  induction reached with
  | root => exact .root
  | child reached inside ih => exact .child ih (evaluatedChildren_walked inside)
  | target reached named found ih => exact stay _ _ _ reached named found

/-- The run of `matchesSchema` on a value, from the schema itself and with a full budget. -/
def evaluation (H : SchemaHost) (root value : Json) (maxDepth maxOperations : Nat) :
    Except TypeError SchemaValidationResult × Evaluation :=
  (matchesSchema H ⟨collectSchemaIndex root, maxDepth, maxOperations⟩ (maxDepth + 1) value root "$" ∅).run.run
    { operations := 0, exhausted := false, evaluated := [], ran := [] }

/-- A schema that is evaluated has been checked: the shape check walks to it and accepts it, its
keywords have the types required, and its reference is local and resolves. -/
structure CheckedSchema (H : SchemaHost) (root schema : Json) : Prop where
  walked : Walked root schema
  accepted : ∃ path references, validateSchemaShape H schema path = .ok references
  shaped : Shaped H schema
  reference : ∀ reference, schemaReference schema = some reference → isLocalReference reference = true ∧
    (resolveSchemaReference (collectSchemaIndex root) reference).isSome = true

/-- What is evaluated and run has been checked. -/
def CheckedRun (H : SchemaHost) (root : Json) (run : Evaluation) : Prop :=
  (∀ schema ∈ run.evaluated, CheckedSchema H root schema) ∧ ∀ pattern ∈ run.ran, IsSafeRegex H pattern

theorem validateJsonSchema_ok {options : ValidationOptions} {root schema : Json}
    (accepted : validateJsonSchema H options root = .ok (.success schema)) :
    schema = root ∧ ∃ references, validateSchemaShape H root "$" = .ok references ∧
      ∀ reference ∈ references,
        (resolveSchemaReference (collectSchemaIndex root) reference.ref).isSome = true := by
  unfold validateJsonSchema at accepted
  obtain ⟨limits, -, accepted⟩ := bind_ok accepted
  cases measured : measureJsonBytes limits.maxSchemaBytes root with
  | tooLarge bytes => rw [measured] at accepted; cases accepted
  | invalid path reason => rw [measured] at accepted; cases accepted
  | ok bytes =>
    rw [measured] at accepted
    dsimp only at accepted
    split at accepted
    · cases accepted
    · obtain ⟨answer, answered, compiled⟩ := bind_ok accepted
      cases answer with
      | failure error => cases compiled
      | success value =>
        obtain ⟨checked, same⟩ := answerCheck_success answered
        subst same
        dsimp only at compiled
        split at compiled
        · cases compiled
        · cases compiled
          obtain ⟨references, shape, resolved⟩ := bind_ok checked
          exact ⟨rfl, references, shape, fun reference member =>
            requireField_ok (forM_ok resolved reference member)⟩

theorem checkedSchema_of_walked {root schema : Json} {references : List SchemaReference}
    (shape : validateSchemaShape H root "$" = .ok references)
    (resolved : ∀ reference ∈ references,
      (resolveSchemaReference (collectSchemaIndex root) reference.ref).isSome = true)
    (walked : Walked root schema) : CheckedSchema H root schema := by
  obtain ⟨path, inner, passed, within⟩ := walked_accepted shape walked
  refine ⟨walked, ⟨path, inner, passed⟩, shaped_of_accepted passed, fun reference named => ?_⟩
  have found := string_of_asString? named
  rcases validateSchemaShape_ok passed with ⟨held, rfl⟩ | pass
  · cases found
  · obtain ⟨own, core, subset⟩ := pass.core
    obtain ⟨entry, member, same, isLocal⟩ := validateCoreKeywords_ok core _ found
    obtain rfl := Json.string.inj same
    exact ⟨isLocal, resolved entry (within (subset member))⟩

/-- Where no reference leads out of the walk, everything evaluated and run has been checked,
whatever the value and the limits. -/
theorem evaluation_checked {options : ValidationOptions} {root schema : Json}
    (accepted : validateJsonSchema H options root = .ok (.success schema)) (stay : ReferencesStay root)
    (value : Json) (maxDepth maxOperations : Nat) :
    CheckedRun H root (evaluation H root value maxDepth maxOperations).2 := by
  obtain ⟨-, references, shape, resolved⟩ := validateJsonSchema_ok accepted
  have checked : ∀ schema, Reached root schema → CheckedSchema H root schema := fun schema reached =>
    checkedSchema_of_walked shape resolved (stay.walked reached)
  have closed : Closed (collectSchemaIndex root) (Reached root) (IsSafeRegex H) := {
    child := fun schema child reached inside => .child reached inside
    target := fun schema reference target reached named found => .target reached named found
    pattern := fun schema pattern reached named => by
      obtain ⟨other, same, safe⟩ := (checked schema reached).shaped.pattern _ (string_of_asString? named)
      exact Json.string.inj same ▸ safe
    patternProperty := fun schema pattern child reached inside => by
      unfold mapKeyword at inside
      cases schemas : schema.get? "patternProperties" with
      | none =>
        rw [schemas] at inside
        cases inside
      | some map =>
        rw [schemas, Option.filter_some] at inside
        split at inside
        · exact (checked schema reached).shaped.patternProperties map schemas (pattern, child) inside
        · cases inside }
  have kept := @keeps_matchesSchema H ⟨collectSchemaIndex root, maxDepth, maxOperations⟩ (Reached root)
    (IsSafeRegex H) closed (maxDepth + 1) value root "$" ∅ .root
  obtain ⟨evaluated, ran⟩ := kept { operations := 0, exhausted := false, evaluated := [], ran := [] }
    ⟨nofun, nofun⟩
  exact ⟨fun schema member => checked schema (evaluated schema member), ran⟩

end Closure

section Samples

/-- Every expression is valid and matches, and every schema compiles. -/
def anyHost : SchemaHost where
  regExp _ := some fun _ => true
  isMultipleOf _ _ := true
  compileDraft2020Schema _ := some fun _ => true

def schemaOptions : ValidationOptions where
  now := 0
  maxEnvelopeBytes := none
  limits := ceilingLimits
  expectedRequestId := none

/-- A schema with a pattern. -/
def wordSchema (pattern : JsString) : Json := .record [("pattern", .string pattern)]

/-- A schema that refers to one of its definitions. -/
def definedSchema : Json :=
  .record [("$ref", .string "#/$defs/word"), ("$defs", .record [("word", wordSchema "^a")])]

/-- A schema that refers to its default value, where an expression is nested in another. -/
def defaultSchema : Json :=
  .record [("$ref", .string "#/default"), ("default", wordSchema "(a+)+$")]

theorem reached_definedSchema {schema : Json} (reached : Reached definedSchema schema) :
    schema = definedSchema ∨ schema = wordSchema "^a" := by
  induction reached with
  | root => exact .inl rfl
  | child reached inside ih =>
    rcases ih with rfl | rfl
    · have none : evaluatedChildren definedSchema = [] := by decide +kernel
      rw [none] at inside
      cases inside
    · have none : evaluatedChildren (wordSchema "^a") = [] := by decide +kernel
      rw [none] at inside
      cases inside
  | target reached named found ih =>
    rcases ih with rfl | rfl
    · have reference : schemaReference definedSchema = some "#/$defs/word" := by decide +kernel
      obtain rfl := Option.some.inj (reference.symm.trans named)
      have target : resolveSchemaReference (collectSchemaIndex definedSchema) "#/$defs/word" =
          some (wordSchema "^a") := by decide +kernel
      exact .inr (Option.some.inj (found.symm.trans target))
    · have none : schemaReference (wordSchema "^a") = none := by decide +kernel
      rw [none] at named
      cases named

theorem definedSchema_checked : CheckedRun anyHost definedSchema
    (evaluation anyHost definedSchema (.string "abc") 128 200000).2 := by
  have accepted : validateJsonSchema anyHost schemaOptions definedSchema =
      .ok (.success definedSchema) := by decide +kernel
  refine evaluation_checked accepted ?_ (.string "abc") 128 200000
  intro schema reference target reached named found
  rcases reached_definedSchema (.target reached named found) with rfl | rfl
  · exact .root
  · exact .child .root (by decide +kernel)

/-- What a default value holds is evaluated and run, and has not been checked. -/
theorem defaultSchema_unchecked :
    validateJsonSchema anyHost schemaOptions defaultSchema = .ok (.success defaultSchema) ∧
      ¬CheckedRun anyHost defaultSchema
        (evaluation anyHost defaultSchema (.string "aaa") 128 200000).2 := by
  refine ⟨by decide +kernel, fun checked => ?_⟩
  have evaluated : wordSchema "(a+)+$" ∈
      (evaluation anyHost defaultSchema (.string "aaa") 128 200000).2.evaluated := by decide +kernel
  have walked := (checked.1 _ evaluated).walked
  have only : ∀ schema, Walked defaultSchema schema → schema = defaultSchema := by
    intro schema walked
    induction walked with
    | root => rfl
    | child walked inside ih =>
      subst ih
      have none : walkedChildren defaultSchema = [] := by decide +kernel
      rw [none] at inside
      cases inside
  exact absurd (only _ walked) (by decide +kernel)

end Samples

end PiToPi.Validation
