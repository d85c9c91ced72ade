import PiToPi.CanonicalProofs

/-!
The parts of `matchesSchema` that ask nothing of a subschema give what they are named for, or refuse
once the budget is exhausted. A schema says one thing of a value, after however many steps
(`says_unique`).
-/
namespace PiToPi.Validation

section Answers

variable {H : SchemaHost} {context : SchemaContext} {α β : Type}

/-- Code that answers, or refuses as soon as the budget is exhausted; it hits no limit. -/
def Answers (code : Evaluate α) (answer refused : α) : Prop := ∀ s, s.exhausted = false →
  ∃ s', code.run.run s = (.ok (if s'.exhausted then refused else answer), s') ∧
    s'.cutShort = s.cutShort ∧ s'.cutInside = s.cutInside

theorem answers_pure (answer refused : α) : Answers (pure answer) answer refused := by
  intro s fresh
  refine ⟨s, ?_, rfl, rfl⟩
  rw [fresh]
  rfl

/-- A first part that refuses ends the whole. -/
theorem Answers.bind {first : Evaluate α} {next : α → Evaluate β} {answer refused : α} {answer' refused' : β}
    (here : Answers first answer refused) (stop : next refused = pure refused')
    (there : Answers (next answer) answer' refused') : Answers (first >>= next) answer' refused' := by
  intro s fresh
  obtain ⟨s₁, ran, short, inside⟩ := here s fresh
  rw [ExceptT.run_bind, StateT.run_bind, ran]
  cases spent : s₁.exhausted with
  | true =>
    refine ⟨s₁, ?_, short, inside⟩
    rw [spent, if_pos rfl, if_pos rfl]
    show (next refused).run.run s₁ = _
    rw [stop]
    rfl
  | false =>
    obtain ⟨s₂, ran', short', inside'⟩ := there s₁ spent
    refine ⟨s₂, ?_, short'.trans short, inside'.trans inside⟩
    rw [if_neg (by simp)]
    exact ran'

theorem consumeEvaluationBudget_answers (cost : Nat) :
    Answers (consumeEvaluationBudget context cost) true false := by
  intro s fresh
  refine ⟨{ s with operations := s.operations + cost
                   exhausted := context.maxOperations < s.operations + cost }, ?_, rfl, rfl⟩
  have room : decide (s.operations + cost ≤ context.maxOperations) =
      if decide (context.maxOperations < s.operations + cost) then false else true := by
    by_cases past : context.maxOperations < s.operations + cost
    · simp [past]
    · simp [past, Nat.le_of_not_lt past]
  show (consumeEvaluationBudget context cost).run.run s = _
  rw [← room]
  unfold consumeEvaluationBudget
  show (do
    if s.exhausted then return false
    set { s with operations := s.operations + cost
                 exhausted := context.maxOperations < s.operations + cost }
    return s.operations + cost ≤ context.maxOperations : Evaluate Bool).run.run s = _
  rw [fresh]
  rfl

/-- Code that takes from the budget first. -/
theorem answers_spend {cost : Nat} {next : Evaluate α} {answer refused : α}
    (there : Answers next answer refused) :
    Answers (do if !(← consumeEvaluationBudget context cost) then return refused else next) answer refused :=
  (consumeEvaluationBudget_answers cost).bind rfl there

theorem answers_allTrue {checks : List (Evaluate Bool)} {results : List Bool}
    (each : List.Forall₂ (fun check result => Answers check result false) checks results) :
    Answers (allTrue checks) (results.all id) false := by
  induction each with
  | nil => exact answers_pure true false
  | @cons check result checks results here _ ih =>
    refine here.bind rfl ?_
    rw [List.all_cons]
    cases result with
    | true => exact ih
    | false => exact answers_pure false false

theorem answers_allTexts {texts : List (Evaluate (Option JsString))} {results : List (Option JsString)}
    (each : List.Forall₂ (fun text result => Answers text result none) texts results) :
    Answers (allTexts texts) (results.mapM id) none := by
  induction each with
  | nil => exact answers_pure (some []) none
  | @cons text result texts results here _ ih =>
    refine here.bind rfl ?_
    rw [List.mapM_cons]
    cases result with
    | none => exact answers_pure none none
    | some text =>
      refine ih.bind rfl ?_
      cases results.mapM id with
      | none => exact answers_pure none none
      | some texts => exact answers_pure (some (text :: texts)) none

theorem forall₂_map {γ : Type} {items : List γ} {f : γ → α} {g : γ → β} {P : α → β → Prop}
    (each : ∀ item ∈ items, P (f item) (g item)) : List.Forall₂ P (items.map f) (items.map g) := by
  rw [List.forall₂_map_left_iff, List.forall₂_map_right_iff, List.forall₂_same]
  exact each

theorem equalElements_zip (xs ys : List Json) (length : xs.length = ys.length) :
    ((xs.zip ys).map fun (x, y) => equalJson x y).all id = equalElements xs ys := by
  induction xs generalizing ys with
  | nil =>
    cases ys with
    | nil => rfl
    | cons y ys => cases length
  | cons x xs ih =>
    cases ys with
    | nil => cases length
    | cons y ys =>
      rw [List.zip_cons_cons, List.map_cons, List.all_cons, ih ys (Nat.succ.inj length), equalElements]
      rfl

theorem equalElements_length {xs ys : List Json} (equal : equalElements xs ys = true) : xs.length = ys.length := by
  induction xs generalizing ys with
  | nil =>
    cases ys with
    | nil => rfl
    | cons y ys => cases equal
  | cons x xs ih =>
    cases ys with
    | nil => cases equal
    | cons y ys =>
      rw [equalElements, Bool.and_eq_true] at equal
      rw [List.length_cons, List.length_cons, ih equal.2]

/-- Comparing within a budget gives the comparison. -/
theorem deepEqualJson_answers (left right : Json) :
    Answers (deepEqualJson context left right) (equalJson left right) false := by
  induction left using Json.induct generalizing right with
  | array xs ih =>
    unfold deepEqualJson
    refine answers_spend ?_
    cases right with
    | array ys =>
      rw [equalJson]
      dsimp only
      split
      · rename_i length
        rw [← equalElements_zip xs ys length, deepEqualElements_eq, List.zip_map_left, List.map_map]
        exact answers_allTrue (forall₂_map fun item inside => ih item.1 (List.of_mem_zip inside).1 item.2)
      · rename_i length
        have differ : equalElements xs ys = false :=
          Bool.eq_false_iff.mpr fun equal => length (equalElements_length equal)
        rw [differ]
        exact answers_pure false false
    | null | bool _ | number _ | string _ | object _ _ => exact answers_pure false false
  | object readOnly xs ih =>
    unfold deepEqualJson
    refine answers_spend ?_
    split
    · rename_i ys
      rw [equalJson]
      cases same : sameKeys xs ys with
      | true =>
        rw [Bool.true_and, if_pos rfl, deepEqualMembers_eq, sortByKey_map (fun member => deepEqualJson context member.2),
          equalMembers_eq, sortByKey_map (fun member => equalJson member.2), List.zip_map_left, List.map_map,
          List.zip_map_left, List.all_map]
        have each := @forall₂_map _ _ _ ((sortByKey xs).zip (sortByKey ys))
          (fun pair => deepEqualJson context pair.1.2 pair.2.2) (fun pair => equalJson pair.1.2 pair.2.2)
          (fun check result => Answers check result false) fun pair inside =>
            ih pair.1 (mem_sortByKey.mp (List.of_mem_zip inside).1) pair.2.2
        have all := answers_allTrue each
        rw [List.all_map] at all
        exact all
      | false => exact answers_pure false false
    · rename_i other
      have differ : equalJson (.object readOnly xs) right = false := by
        cases readOnly with
        | some names => rfl
        | none =>
          cases right with
          | object readOnly' ys =>
            cases readOnly' with
            | some names => rfl
            | none => exact absurd rfl (other ys rfl)
          | null | bool _ | number _ | string _ | array _ => rfl
      rw [differ]
      exact answers_pure false false
  | number a =>
    unfold deepEqualJson
    refine answers_spend ?_
    cases right with
    | number b => exact answers_pure _ _
    | null | bool _ | string _ | array _ | object _ _ => exact answers_pure _ _
  | null | bool flag | string text =>
    unfold deepEqualJson
    exact answers_spend (answers_pure _ _)

/-- Code that writes what an answer gives. -/
theorem Answers.map {code : Evaluate (Option α)} {answer : Option α} (f : α → β) (here : Answers code answer none) :
    Answers (do return (← code).map f) (answer.map f) none :=
  here.bind rfl (answers_pure _ _)

/-- The text within a budget is the canonical text. -/
theorem canonicalizeValue_answers (value : Json) :
    Answers (canonicalizeValue context value) (canonicalizeJson value) none := by
  induction value using Json.induct with
  | array elements ih =>
    unfold canonicalizeValue
    refine answers_spend ?_
    rw [canonicalizeJson, canonicalizeElements_mapM, canonicalElements_eq]
    exact (answers_allTexts (forall₂_map ih)).map _
  | object readOnly members ih =>
    unfold canonicalizeValue
    refine answers_spend ?_
    rw [canonicalizeJson]
    cases bare : readOnly.isSome with
    | true => exact answers_pure none none
    | false =>
      simp only [Bool.false_eq_true, ↓reduceIte]
      rw [sortedTexts_eq, canonicalMembers_eq, sortByKey_map (memberWithinBudget context), List.map_map]
      refine (answers_allTexts (forall₂_map fun member inside => ?_)).map _
      exact answers_spend ((ih member (mem_sortByKey.mp inside)).map _)
  | null | bool flag | number n | string text =>
    unfold canonicalizeValue
    exact answers_spend (answers_pure _ _)

/-- The test of an expression. -/
theorem testSchemaRegex_answers (pattern value : JsString) : Answers (testSchemaRegex H context pattern value)
    (.tested ((H.regExp pattern).any (· value))) .exhausted := by
  refine answers_spend ?_
  cases compiled : H.regExp pattern with
  | none =>
    intro s fresh
    refine ⟨s, ?_, rfl, rfl⟩
    show (do return if s.exhausted then .exhausted else .tested false : Evaluate RegexTest).run.run s = _
    rw [fresh]
    rfl
  | some test =>
    intro s fresh
    refine ⟨{ s with ran := pattern :: s.ran }, ?_, rfl, rfl⟩
    rw [if_neg (by simp [fresh])]
    rfl

theorem matchesSomePattern_answers (property : JsString) (patterns : List JsString) :
    Answers (matchesSomePattern H context property patterns)
      (some (patterns.any fun pattern => (H.regExp pattern).any (· property))) none := by
  induction patterns with
  | nil => exact answers_pure _ _
  | cons pattern rest ih =>
    refine (testSchemaRegex_answers pattern property).bind rfl ?_
    rw [List.any_cons]
    cases (H.regExp pattern).any (· property) with
    | true => exact answers_pure _ _
    | false => exact ih

end Answers

section Steps

variable {R : Reading} {f g : Judge} {value schema : Json}

theorem judgeReference_below (each : ∀ value schema, Kleene.Below (f value schema) (g value schema)) :
    Kleene.Below (judgeReference R f value schema) (judgeReference R g value schema) := by
  unfold judgeReference
  cases schemaReference schema with
  | none => exact Kleene.below_refl _
  | some reference =>
    dsimp only
    cases R.refers reference with
    | none => exact Kleene.below_refl _
    | some target => exact each value target

theorem judgeContains_below {elements : List Json}
    (each : ∀ value schema, Kleene.Below (f value schema) (g value schema)) :
    Kleene.Below (judgeContains f elements schema) (judgeContains g elements schema) := by
  unfold judgeContains
  cases schema.get? "contains" with
  | none => exact Kleene.below_refl _
  | some child =>
    dsimp only [Option.elim_some]
    cases (naturalKeyword schema "maxContains").isSome with
    | true => exact Kleene.count_below (Kleene.map_below fun element _ => each element child)
    | false => exact Kleene.atLeast_below (Kleene.map_below fun element _ => each element child)

theorem judgeArray_below (each : ∀ value schema, Kleene.Below (f value schema) (g value schema)) :
    Kleene.Below (judgeArray f value schema) (judgeArray g value schema) := by
  unfold judgeArray
  cases value with
  | array elements =>
    exact Kleene.all_below (.cons (Kleene.below_refl _) (.cons (Kleene.below_refl _) (.cons (Kleene.below_refl _)
      (.cons (judgeContains_below each) (Kleene.map_below fun application _ => each application.1 application.2)))))
  | null | bool _ | number _ | string _ | object _ _ => exact Kleene.below_refl _

theorem judgeObject_below (each : ∀ value schema, Kleene.Below (f value schema) (g value schema)) :
    Kleene.Below (judgeObject R f value schema) (judgeObject R g value schema) := by
  unfold judgeObject
  rcases value with _ | _ | _ | _ | _ | ⟨_ | names, members⟩
  case object.none =>
    exact Kleene.all_below (.cons (Kleene.below_refl _) (.cons (Kleene.below_refl _) (.cons (Kleene.below_refl _)
      (.cons (Kleene.below_refl _) (.cons (Kleene.below_refl _)
        (Kleene.map_below fun application _ => each application.1 application.2))))))
  all_goals exact Kleene.below_refl _

theorem judgeCombining_below (each : ∀ value schema, Kleene.Below (f value schema) (g value schema)) :
    Kleene.Below (judgeCombining f value schema) (judgeCombining g value schema) := by
  refine Kleene.all_below (.cons ?_ (.cons ?_ (.cons ?_ .nil)))
  · exact Kleene.all_below (Kleene.map_below fun child _ => each value child)
  · cases (schema.get? "anyOf").bind Json.asArray? with
    | none => exact Kleene.below_refl _
    | some schemas => exact Kleene.any_below (Kleene.map_below fun child _ => each value child)
  · cases (schema.get? "oneOf").bind Json.asArray? with
    | none => exact Kleene.below_refl _
    | some schemas =>
      dsimp only [Option.elim_some]
      exact Kleene.count_below (Kleene.map_below fun child _ => each value child)

theorem judgeNot_below (each : ∀ value schema, Kleene.Below (f value schema) (g value schema)) :
    Kleene.Below (judgeNot f value schema) (judgeNot g value schema) := by
  unfold judgeNot
  cases schema.get? "not" with
  | none => exact Kleene.below_refl _
  | some child =>
    intro result known
    obtain ⟨held, here, rfl⟩ := Option.map_eq_some_iff.mp known
    exact Option.map_eq_some_iff.mpr ⟨held, each value child held here, rfl⟩

theorem judgeConditional_below (each : ∀ value schema, Kleene.Below (f value schema) (g value schema)) :
    Kleene.Below (judgeConditional f value schema) (judgeConditional g value schema) := by
  unfold judgeConditional
  cases schema.get? "if" with
  | none => exact Kleene.below_refl _
  | some child =>
    intro result known
    obtain ⟨held, here, known⟩ := Option.bind_eq_some_iff.mp known
    refine Option.bind_eq_some_iff.mpr ⟨held, each value child held here, ?_⟩
    cases chosen : schema.get? (if held then "then" else "else") with
    | none =>
      rw [chosen] at known
      exact known
    | some conditional =>
      rw [chosen] at known
      exact each value conditional result known

/-- More steps into subschemas tell no less. -/
theorem judge_below {n m : Nat} (more : n ≤ m) (value schema : Json) :
    Kleene.Below (judge R n value schema) (judge R m value schema) := by
  induction n generalizing m value schema with
  | zero =>
    intro result known
    rw [judge] at known
    cases known
  | succ n ih =>
    obtain ⟨m, rfl⟩ : ∃ k, m = k + 1 := ⟨m - 1, by omega⟩
    have each : ∀ value schema, Kleene.Below (judge R n value schema) (judge R m value schema) := ih (by omega)
    by_cases boolean : ∃ held, schema = .bool held
    · obtain ⟨held, rfl⟩ := boolean
      rw [judge, judge]
      exact Kleene.below_refl _
    · by_cases null : schema = .null
      · subst null
        rw [judge, judge]
        exact Kleene.below_refl _
      · have noBool : ∀ held, schema = .bool held → False := fun held equal => boolean ⟨held, equal⟩
        rw [judge.eq_4 R value schema n noBool null, judge.eq_4 R value schema m noBool null]
        exact Kleene.all_below (.cons (judgeReference_below each) (.cons (Kleene.below_refl _)
          (.cons (Kleene.below_refl _) (.cons (Kleene.below_refl _) (.cons (Kleene.below_refl _)
            (.cons (Kleene.below_refl _) (.cons (judgeArray_below each) (.cons (judgeObject_below each)
              (.cons (judgeCombining_below each) (.cons (judgeNot_below each)
                (.cons (judgeConditional_below each) .nil)))))))))))

/-- A schema says one thing of a value. -/
theorem says_unique {first second : Bool} (here : Says R first value schema) (there : Says R second value schema) :
    first = second := by
  obtain ⟨n, known⟩ := here
  obtain ⟨m, known'⟩ := there
  have upper := judge_below (Nat.le_max_left n m) value schema first known
  have lower := judge_below (Nat.le_max_right n m) value schema second known'
  exact Option.some.inj (upper.symm.trans lower)

end Steps

section Parts

variable {value : Json}

theorem Part.get? {whole part member : Json} {key : JsString} (inside : Part whole part)
    (found : part.get? key = some member) : Part whole member := by
  cases part with
  | object readOnly members =>
    obtain ⟨⟨name, other⟩, listed, rfl⟩ := Option.map_eq_some_iff.mp found
    exact inside.member (List.mem_of_find?_eq_some listed)
  | null | bool _ | number _ | string _ | array _ => cases found

theorem isJsonData_part {part : Json} (data : isJsonData value = true) (inside : Part value part) :
    isJsonData part = true := by
  induction inside with
  | whole => exact data
  | element _ listed ih => exact isJsonData_array.mp ih _ listed
  | member _ listed ih => exact (isJsonData_object.mp ih).2.2 _ listed

end Parts

end PiToPi.Validation
