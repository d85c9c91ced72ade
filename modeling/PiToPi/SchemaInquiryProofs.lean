import PiToPi.SchemaInquiry
import PiToPi.SchemaMeaningProofs

/-!
`matchesSchema` comes to the answer, and meets the limits, that the order of its questions leads
to (`matchesSchema_follows`). An answer in order is what the schema says, where no limit is met in
a condition and, for a failure, none at all (`judge_of_reply`).
-/
namespace PiToPi.Validation
open Inquiry

section Traces

variable {H : SchemaHost} {context : SchemaContext} {R : Reading} {levels : Nat} {exact : Prop} {α β γ δ : Type}

def limitsMetBy (R : Reading) (levels : Nat) (questions : List Question) : Nat :=
  (questions.map (limitsMet R levels)).sum

def limitsInsideBy (R : Reading) (levels : Nat) (questions : List Question) : Nat :=
  (questions.map fun next => limitsInside R levels next + if next.isCondition then limitsMet R levels next else 0).sum

/-- The limits hit between two states are those met by the questions; those outside of conditions
may be more, unless their number is exact. -/
structure Met (R : Reading) (levels : Nat) (exact : Prop) (questions : List Question) (s s' : Evaluation) : Prop where
  least : s.cutShort + limitsMetBy R levels questions ≤ s'.cutShort
  met : exact → s'.cutShort = s.cutShort + limitsMetBy R levels questions

/-- Those hit in conditions are those met there as well. -/
structure Tally (R : Reading) (levels : Nat) (exact : Prop) (questions : List Question) (s s' : Evaluation) : Prop
    extends Met R levels exact questions s s' where
  inside : s'.cutInside = s.cutInside + limitsInsideBy R levels questions

theorem Tally.unchanged {s s' : Evaluation} (short : s'.cutShort = s.cutShort) (inside : s'.cutInside = s.cutInside) :
    Tally R levels exact [] s s' := ⟨⟨short.ge, fun _ => short⟩, inside⟩

theorem limitsMetBy_append (first second : List Question) :
    limitsMetBy R levels (first ++ second) = limitsMetBy R levels first + limitsMetBy R levels second := by
  unfold limitsMetBy
  rw [List.map_append, List.sum_append]

theorem Met.append {first second : List Question} {s s₁ s₂ : Evaluation} (here : Met R levels exact first s s₁)
    (there : Met R levels exact second s₁ s₂) : Met R levels exact (first ++ second) s s₂ := by
  have both := @limitsMetBy_append R levels first second
  refine ⟨?_, fun precise => ?_⟩
  · have below := here.least
    have above := there.least
    omega
  · have first := here.met precise
    have second := there.met precise
    omega

theorem Tally.append {first second : List Question} {s s₁ s₂ : Evaluation} (here : Tally R levels exact first s s₁)
    (there : Tally R levels exact second s₁ s₂) : Tally R levels exact (first ++ second) s s₂ := by
  refine ⟨here.toMet.append there.toMet, ?_⟩
  unfold limitsInsideBy
  rw [List.map_append, List.sum_append, there.inside, here.inside, Nat.add_assoc]
  rfl

theorem Met.weaken {exact' : Prop} {questions : List Question} {s s' : Evaluation} (less : exact' → exact)
    (met : Met R levels exact questions s s') : Met R levels exact' questions s s' :=
  ⟨met.least, fun precise => met.met (less precise)⟩

/-- An outcome that is what an inquiry comes to, or refused for the budget. -/
def Traced (R : Reading) (levels : Nat) (exact : Prop) (refused : α → Prop) (reads : α → β → Prop)
    (inquiry : Inquiry Question β) (s : Evaluation) : Except TypeError α × Evaluation → Prop
  | (.error _, s') => inquiry.run (reply R levels) = none ∧
      Met R levels exact (inquiry.asked (reply R levels)) s s'
  | (.ok result, s') => (s'.exhausted = true → refused result) ∧
      (s'.exhausted = false → ∃ answer, reads result answer ∧ inquiry.run (reply R levels) = some answer ∧
        Tally R levels exact (inquiry.asked (reply R levels)) s s')

/-- Code that comes to what an inquiry comes to, unless it exhausts the budget. -/
def Traces (R : Reading) (levels : Nat) (exact : Prop) (refused : α → Prop) (reads : α → β → Prop)
    (code : Evaluate α) (inquiry : Inquiry Question β) : Prop :=
  ∀ s, s.exhausted = false → Traced R levels exact refused reads inquiry s (code.run.run s)

/-- Code that refuses at once where the budget is exhausted. -/
def Stops (refused : α → Prop) (code : Evaluate α) : Prop :=
  ∀ s, s.exhausted = true → ∃ result, refused result ∧ code.run.run s = (.ok result, s)

variable {refused : α → Prop} {reads : α → β → Prop} {refused' : γ → Prop} {reads' : γ → δ → Prop}

/-- What comes after a part that asked the first questions. -/
theorem Traced.after {inquiry : Inquiry Question β} {rest : β → Inquiry Question δ} {answer : β} {s s₁ : Evaluation}
    {outcome : Except TypeError γ × Evaluation} (came : inquiry.run (reply R levels) = some answer)
    (tally : Tally R levels exact (inquiry.asked (reply R levels)) s s₁)
    (traced : Traced R levels exact refused' reads' (rest answer) s₁ outcome) :
    Traced R levels exact refused' reads' (inquiry.bind rest) s outcome := by
  have run : (inquiry.bind rest).run (reply R levels) = (rest answer).run (reply R levels) := by
    rw [run_bind, came]
    rfl
  have asked : (inquiry.bind rest).asked (reply R levels) =
      inquiry.asked (reply R levels) ++ (rest answer).asked (reply R levels) := by
    rw [asked_bind, came]
    rfl
  obtain ⟨error | result, s₂⟩ := outcome
  · exact ⟨run.trans traced.1, asked ▸ tally.toMet.append traced.2⟩
  · refine ⟨traced.1, fun fresh => ?_⟩
    obtain ⟨answer', shown, came', tally'⟩ := traced.2 fresh
    exact ⟨answer', shown, run.trans came', asked ▸ tally.append tally'⟩

/-- What comes after a part that hit no limit. -/
theorem Traced.silent {inquiry : Inquiry Question δ} {s s₁ : Evaluation} {outcome : Except TypeError γ × Evaluation}
    (short : s₁.cutShort = s.cutShort) (inside : s₁.cutInside = s.cutInside)
    (traced : Traced R levels exact refused' reads' inquiry s₁ outcome) :
    Traced R levels exact refused' reads' inquiry s outcome :=
  @Traced.after R levels exact Unit γ δ refused' reads' (.answer ()) (fun _ => inquiry) () s s₁ outcome rfl
    (.unchanged short inside) traced

theorem Traces.bind {first : Evaluate α} {inquiry : Inquiry Question β} {next : α → Evaluate γ}
    {rest : β → Inquiry Question δ} (here : Traces R levels exact refused reads first inquiry)
    (stop : ∀ result, refused result → Stops refused' (next result))
    (there : ∀ result answer, reads result answer → Traces R levels exact refused' reads' (next result) (rest answer)) :
    Traces R levels exact refused' reads' (first >>= next) (inquiry.bind rest) := by
  intro s fresh
  have traced := here s fresh
  rw [ExceptT.run_bind, StateT.run_bind]
  generalize first.run.run s = outcome at traced ⊢
  obtain ⟨error | result, s₁⟩ := outcome
  · obtain ⟨stuck, met⟩ := traced
    refine ⟨by rw [run_bind, stuck]; rfl, ?_⟩
    rw [asked_bind, stuck, Option.elim_none, List.append_nil]
    exact met
  · obtain ⟨spent, known⟩ := traced
    show Traced R levels exact refused' reads' _ s ((next result).run.run s₁)
    cases exhausted : s₁.exhausted with
    | true =>
      obtain ⟨other, refuses, ran⟩ := stop result (spent exhausted) s₁ exhausted
      rw [ran]
      exact ⟨fun _ => refuses, fun fresh' => absurd (exhausted.symm.trans fresh') (by decide)⟩
    | false =>
      obtain ⟨answer, shown, came, tally⟩ := known exhausted
      exact (there result answer shown s₁ exhausted).after came tally

/-- A part that answers without a question. -/
theorem Answers.traces {first : Evaluate α} {next : α → Evaluate γ} {answer refusal : α}
    {inquiry : Inquiry Question δ} (here : Answers first answer refusal) (stop : Stops refused' (next refusal))
    (there : Traces R levels exact refused' reads' (next answer) inquiry) :
    Traces R levels exact refused' reads' (first >>= next) inquiry := by
  intro s fresh
  obtain ⟨s₁, ran, short, inside⟩ := here s fresh
  rw [ExceptT.run_bind, StateT.run_bind, ran]
  cases exhausted : s₁.exhausted with
  | true =>
    obtain ⟨result, refuses, ran'⟩ := stop s₁ exhausted
    show Traced R levels exact refused' reads' inquiry s ((next refusal).run.run s₁)
    rw [ran']
    exact ⟨fun _ => refuses, fun fresh' => absurd (exhausted.symm.trans fresh') (by decide)⟩
  | false => exact (there s₁ exhausted).silent short inside

theorem Traces.weaken {exact' : Prop} {code : Evaluate α} {inquiry : Inquiry Question β} (less : exact' → exact)
    (traces : Traces R levels exact refused reads code inquiry) : Traces R levels exact' refused reads code inquiry := by
  intro s fresh
  have traced := traces s fresh
  generalize code.run.run s = outcome at traced ⊢
  obtain ⟨error | result, s₁⟩ := outcome
  · exact ⟨traced.1, traced.2.weaken less⟩
  · refine ⟨traced.1, fun fresh' => ?_⟩
    obtain ⟨answer, shown, came, tally⟩ := traced.2 fresh'
    exact ⟨answer, shown, came, tally.toMet.weaken less, tally.inside⟩

/-- A result that is given at once. -/
theorem traces_pure {result : α} {answer : β} (shown : reads result answer) :
    Traces R levels exact refused reads (pure result) (.answer answer) := by
  intro s fresh
  exact ⟨fun spent => absurd (fresh.symm.trans spent) (by decide),
    fun _ => ⟨answer, shown, rfl, .unchanged rfl rfl⟩⟩

theorem stops_pure {result : α} (refuses : refused result) : Stops refused (pure result) :=
  fun _ _ => ⟨result, refuses, rfl⟩

/-- The question for the budget after a result. -/
theorem traces_isExhausted {refusal : α} {next : Evaluate α} {inquiry : Inquiry Question β}
    (there : Traces R levels exact refused reads next inquiry) :
    Traces R levels exact refused reads (do
      if ← isExhausted then return refusal
      next) inquiry := by
  intro s fresh
  show Traced R levels exact refused reads inquiry s
    ((if s.exhausted then return refusal else next : Evaluate α).run.run s)
  rw [fresh]
  exact there s fresh

theorem stops_isExhausted {refusal : α} {next : Evaluate α} (refuses : refused refusal) :
    Stops refused (do
      if ← isExhausted then return refusal
      next) := by
  intro s spent
  refine ⟨refusal, refuses, ?_⟩
  show (if s.exhausted then return refusal else next : Evaluate α).run.run s = _
  rw [if_pos spent]
  rfl

/-- A result that depends on whether the budget is exhausted. -/
theorem traces_either {refusal result : α} {answer : β} (shown : reads result answer) :
    Traces R levels exact refused reads (do return if ← isExhausted then refusal else result) (.answer answer) := by
  intro s fresh
  show Traced R levels exact refused reads (.answer answer) s
    ((return if s.exhausted then refusal else result : Evaluate α).run.run s)
  rw [fresh]
  exact traces_pure shown s fresh

theorem stops_either {refusal result : α} (refuses : refused refusal) :
    Stops refused (do return if ← isExhausted then refusal else result) := by
  intro s spent
  refine ⟨refusal, refuses, ?_⟩
  show (return if s.exhausted then refusal else result : Evaluate α).run.run s = _
  rw [if_pos spent]
  rfl

end Traces

section Follows

variable {H : SchemaHost} {context : SchemaContext} {R : Reading} {levels : Nat} {exact : Prop} {α β : Type}

/-- Code with a valid result where the inquiry comes to a yes. -/
abbrev Follows (R : Reading) (levels : Nat) (exact : Prop) (code : Evaluate SchemaValidationResult)
    (inquiry : Inquiry Question Bool) : Prop :=
  Traces R levels exact (·.isValid = false) (fun result held => result.isValid = held) code inquiry

theorem follows_valid : Follows R levels exact (pure .valid) (answer true) := traces_pure rfl

theorem follows_invalid (path reason : JsString) : Follows R levels exact (pure (.invalid path reason)) (answer false) :=
  traces_pure rfl

theorem follows_validIf (held : Bool) (path reason : JsString) :
    Follows R levels exact (validIf held path reason) (answer held) := by
  cases held with
  | true => exact follows_valid
  | false => exact follows_invalid path reason

/-- Checks one after the other. -/
theorem follows_forAll {items : List α} {others : List β} {check : α → Evaluate SchemaValidationResult}
    {ask : β → Inquiry Question Bool}
    (each : List.Forall₂ (fun item other => Follows R levels exact (check item) (ask other)) items others) :
    Follows R levels exact (forAllValid items check) (forAll ask others) := by
  induction each with
  | nil => exact follows_valid
  | @cons item other items others here _ ih =>
    refine Traces.bind here (fun result failed => ?_) fun result held shown => ?_
    · cases result with
      | valid => cases failed
      | invalid path reason => exact stops_pure rfl
    · cases result with
      | valid =>
        obtain rfl : true = held := shown
        exact ih
      | invalid path reason =>
        obtain rfl : false = held := shown
        exact follows_invalid path reason

/-- A loop over what is asked about. -/
theorem follows_loop {items : List α} {check : α → Evaluate SchemaValidationResult} {ask : α → Inquiry Question Bool}
    (each : ∀ item ∈ items, Follows R levels exact (check item) (ask item)) :
    Follows R levels exact (forAllValid items check) (forAll ask items) :=
  follows_forAll (List.forall₂_same.mpr each)

/-- A loop over items in which there is what is asked about. -/
theorem follows_mapped {items : List α} {check : α → Evaluate SchemaValidationResult} {ask : β → Inquiry Question Bool}
    (view : α → β) (each : ∀ item ∈ items, Follows R levels exact (check item) (ask (view item))) :
    Follows R levels exact (forAllValid items check) (forAll ask (items.map view)) :=
  follows_forAll (List.forall₂_map_right_iff.mpr (List.forall₂_same.mpr each))

/-- A loop of checks without a question. -/
theorem follows_checks {items : List α} {check : α → Evaluate SchemaValidationResult} {held : α → Bool}
    (each : ∀ item ∈ items, Follows R levels exact (check item) (answer (held item))) :
    Follows R levels exact (forAllValid items check) (answer (items.all held)) := by
  have flat : ∀ items : List α, forAll (fun item => (answer (held item) : Inquiry Question Bool)) items =
      answer (items.all held) := by
    intro items
    induction items with
    | nil => rfl
    | cons item rest ih =>
      rw [forAll, List.all_cons, ih]
      cases held item with
      | true => rfl
      | false => rfl
  rw [← flat]
  exact follows_loop each

end Follows

section Stages

variable {H : SchemaHost} {context : SchemaContext} {R : Reading} {levels : Nat} {exact : Prop} {value schema : Json}
  {path : JsString}

/-- A question that no subschema is asked about. -/
theorem Tally.leaf {question : Question} (leaf : question.isSchema = false) (s : Evaluation) :
    Tally R levels exact [question] s s := by
  have none : (∀ levels, leadsTo R levels question = []) ∧ question.isCondition = false := by
    cases question with
    | schema use value schema => cases leaf
    | type value schema => exact ⟨fun _ => rfl, rfl⟩
    | multiple n divisor => exact ⟨fun _ => rfl, rfl⟩
  have met : limitsMetBy R levels [question] = 0 := by
    unfold limitsMetBy
    cases levels with
    | zero => simp [limitsMet, leaf]
    | succ levels => simp [limitsMet, none.1]
  have inside : limitsInsideBy R levels [question] = 0 := by
    unfold limitsInsideBy
    cases levels with
    | zero => simp [limitsInside, none.2]
    | succ levels => simp [limitsInside, none.1, none.2]
  exact ⟨⟨by omega, fun _ => by omega⟩, by omega⟩

theorem follows_leaf {question : Question} {result : SchemaValidationResult} (leaf : question.isSchema = false)
    (said : reply R levels question = some result.isValid) : Follows R levels exact (pure result) (test question) := by
  intro s fresh
  refine ⟨fun spent => absurd (fresh.symm.trans spent) (by decide), fun _ => ⟨_, rfl, ?_, ?_⟩⟩
  · rw [run_test, said]
  · rw [asked_test]
    exact .leaf leaf s

theorem follows_matchType (index : SchemaIndex) : Follows (codeReading H index) levels exact
    (matchType value schema path) (test (.type value schema)) := by
  have said : reply (codeReading H index) levels (.type value schema) = judgeType (codeReading H index) value schema :=
    reply_type
  unfold judgeType at said
  unfold matchType
  cases found : schema.get? "type" with
  | none =>
    rw [found] at said
    exact follows_leaf rfl said
  | some type =>
    rw [found] at said
    cases type with
    | string type =>
      refine follows_leaf rfl (said.trans (congrArg some ?_))
      show schemaTypeMatches value type = _
      cases schemaTypeMatches value type <;> rfl
    | array types =>
      refine follows_leaf rfl (said.trans (congrArg some ?_))
      show (types.any fun type => type.asString?.any (schemaTypeMatches value)) = _
      cases types.any fun type => type.asString?.any (schemaTypeMatches value) <;> rfl
    | null | bool _ | number _ | object _ _ =>
      intro s fresh
      refine ⟨(run_test _).trans said, ?_⟩
      rw [asked_test]
      have leaf : Tally (codeReading H index) levels exact [.type value schema] s s := .leaf rfl s
      exact leaf.toMet

theorem follows_matchConst : Follows R levels exact (matchConst context value schema path)
    (answer ((schema.get? "const").all (equalJson value))) := by
  unfold matchConst
  cases schema.get? "const" with
  | none => exact follows_valid
  | some expected =>
    refine (deepEqualJson_answers value expected).traces (stops_either rfl) ?_
    rw [Option.all_some]
    cases equalJson value expected with
    | true => exact follows_valid
    | false => exact traces_either rfl

theorem follows_matchEnum : Follows R levels exact (matchEnum context value schema path)
    (answer (((schema.get? "enum").bind Json.asArray?).all fun entries => entries.any (equalJson value))) := by
  unfold matchEnum
  cases (schema.get? "enum").bind Json.asArray? with
  | none => exact follows_valid
  | some entries =>
    rw [Option.all_some]
    induction entries with
    | nil => exact follows_invalid _ _
    | cons entry rest ih =>
      unfold matchEntries
      refine (deepEqualJson_answers value entry).traces (stops_isExhausted rfl) ?_
      rw [List.any_cons]
      cases equalJson value entry with
      | true => exact follows_valid
      | false => exact traces_isExhausted ih

theorem follows_matchNumber (index : SchemaIndex) : Follows (codeReading H index) levels exact
    (matchNumber H value schema path) (inquireNumber (codeReading H index) value schema) := by
  unfold matchNumber inquireNumber numberKeyword
  simp only [Option.all_map]
  cases value with
  | number n =>
    have multiple : Follows (codeReading H index) levels exact
        (validIf (((schema.get? "multipleOf").bind Json.asNumber?).all (H.isMultipleOf n)) path
          "number is not a multipleOf value")
        (((schema.get? "multipleOf").bind Json.asNumber?).elim (answer true) fun divisor => test (.multiple n divisor)) := by
      cases (schema.get? "multipleOf").bind Json.asNumber? with
      | none => exact follows_valid
      | some divisor =>
        refine follows_leaf rfl (reply_multiple.trans (congrArg some ?_))
        show H.isMultipleOf n divisor = _
        rw [Option.all_some]
        cases H.isMultipleOf n divisor <;> rfl
    exact follows_forAll (.cons multiple (.cons (follows_validIf _ _ _) (.cons (follows_validIf _ _ _)
      (.cons (follows_validIf _ _ _) (.cons (follows_validIf _ _ _) .nil)))))
  | null | bool _ | string _ | array _ | object _ _ => exact follows_valid

theorem follows_matchPattern (index : SchemaIndex) (text : JsString) : Follows (codeReading H index) levels exact
    (matchPattern H context text schema path) (answer (((schema.get? "pattern").bind Json.asString?).all
      fun pattern => (codeReading H index).matchesPattern pattern text)) := by
  unfold matchPattern
  cases (schema.get? "pattern").bind Json.asString? with
  | none => exact follows_valid
  | some pattern => exact (testSchemaRegex_answers pattern text).traces (stops_pure rfl) (follows_validIf _ _ _)

theorem follows_matchString (index : SchemaIndex) : Follows (codeReading H index) levels exact
    (matchString H context value schema path) (inquireString (codeReading H index) value schema) := by
  unfold matchString inquireString
  cases value with
  | string text =>
    exact follows_forAll (.cons (follows_validIf _ _ _) (.cons (follows_validIf _ _ _)
      (.cons (follows_matchPattern index text) .nil)))
  | null | bool _ | number _ | array _ | object _ _ => exact follows_valid

/-- No item has a text that was met before, and no two items are equal. -/
def AreNew (signatures : List JsString) (items : List Json) : Prop :=
  (∀ item ∈ items, ∀ text ∈ signatures, canonicalizeJson item ≠ some text) ∧
    items.Pairwise fun first second => equalJson first second = false

theorem areNew_cons {signatures : List JsString} {item : Json} {rest : List Json} {signature : JsString}
    (data : isJsonData item = true) (others : ∀ other ∈ rest, isJsonData other = true)
    (written : canonicalizeJson item = some signature) :
    AreNew signatures (item :: rest) ↔ signature ∉ signatures ∧ AreNew (signature :: signatures) rest := by
  have differ : ∀ other ∈ rest, equalJson item other = false ↔ canonicalizeJson other ≠ some signature := by
    intro other inside
    rw [← written, ← Bool.not_eq_true, equalJson_iff item other data (others other inside),
      ← canonicalizeJson_eq_iff data (others other inside), ne_comm]
  unfold AreNew
  rw [List.forall_mem_cons, List.pairwise_cons]
  constructor
  · rintro ⟨⟨new, fresh⟩, apart, distinct⟩
    refine ⟨fun known => new signature known written, fun other inside text known => ?_, distinct⟩
    rcases List.mem_cons.mp known with rfl | known
    · exact (differ other inside).mp (apart other inside)
    · exact fresh other inside text known
  · rintro ⟨new, fresh, distinct⟩
    refine ⟨⟨fun text known same => ?_, fun other inside text known => ?_⟩, fun other inside => ?_, distinct⟩
    · exact new (Option.some.inj (written.symm.trans same) ▸ known)
    · exact fresh other inside text (List.mem_cons_of_mem _ known)
    · exact (differ other inside).mpr (fresh other inside signature List.mem_cons_self)

theorem follows_matchUnique {items : List Json} (data : ∀ item ∈ items, isJsonData item = true)
    (signatures : List JsString) {held : Bool} (same : held = true ↔ AreNew signatures items) :
    Follows R levels exact (matchUnique context path items signatures) (answer held) := by
  induction items generalizing signatures held with
  | nil =>
    obtain rfl : held = true := same.mpr ⟨nofun, .nil⟩
    exact follows_valid
  | cons item rest ih =>
    rw [List.forall_mem_cons] at data
    have written := canonicalizeJson_eq item data.1
    rw [areNew_cons data.1 data.2 written] at same
    unfold matchUnique
    refine (consumeEvaluationBudget_answers 1).traces (stops_pure rfl) ?_
    refine (canonicalizeValue_answers item).traces (stops_either rfl) ?_
    rw [written]
    cases known : signatures.contains (sortKeys item).stringify with
    | true =>
      have refuted : held = false := by
        rw [Bool.eq_false_iff]
        intro every
        exact (same.mp every).1 (List.contains_iff_mem.mp known)
      rw [refuted]
      simp only [known]
      exact follows_invalid _ _
    | false =>
      simp only [known]
      refine ih data.2 _ (same.trans ⟨And.right, fun fresh => ⟨fun inside => ?_, fresh⟩⟩)
      rw [List.contains_iff_mem.mpr inside] at known
      cases known

/-- A count of results. -/
theorem traces_countMatching {α β : Type} {items : List α} {check : α → Evaluate SchemaValidationResult}
    {ask : β → Inquiry Question Bool} (view : α → β)
    (each : ∀ item ∈ items, Follows R levels exact (check item) (ask (view item))) (passed : Nat) :
    Traces R levels exact (· = none) (fun result total => result = some total) (countMatching check items passed)
      (count ask (items.map view) passed) := by
  induction items generalizing passed with
  | nil => exact traces_pure rfl
  | cons item rest ih =>
    rw [List.forall_mem_cons] at each
    refine Traces.bind each.1 (fun result _ => stops_isExhausted rfl) fun result held shown => ?_
    rw [← shown]
    exact traces_isExhausted (ih each.2 _)

end Stages

section Children

variable {H : SchemaHost} {context : SchemaContext} {R : Reading} {levels : Nat} {exact : Prop} {value schema : Json}
  {path : JsString} {evaluate : Evaluator}

/-- The evaluation of subschemas answers questions about them. -/
structure FollowsChildren (R : Reading) (levels : Nat) (exact : Prop) (evaluate : Evaluator) : Prop where
  plain : ∀ item child path, isJsonData item = true →
    Follows R levels exact (evaluate item child path) (test (.schema .plain item child))
  condition : ∀ item child path, isJsonData item = true →
    Follows R levels exact (asCondition (evaluate item child path)) (test (.schema .condition item child))

theorem follows_matchContains {elements : List Json} (data : ∀ element ∈ elements, isJsonData element = true)
    (children : FollowsChildren R levels exact evaluate) :
    Follows R levels exact (matchContains elements schema path evaluate) (inquireContains elements schema) := by
  unfold matchContains inquireContains
  cases schema.get? "contains" with
  | none => exact follows_valid
  | some child =>
    have entry : ∀ entry ∈ elements.zipIdx, isJsonData entry.1 = true := by
      intro entry inside
      refine data _ ?_
      have mapped := List.mem_map_of_mem (f := Prod.fst) inside
      rwa [List.zipIdx_map_fst] at mapped
    let use := if (naturalKeyword schema "maxContains").isSome then Use.condition else Use.plain
    have counted := @traces_countMatching R levels exact _ _ elements.zipIdx (fun entry =>
        if (naturalKeyword schema "maxContains").isSome then asCondition (evaluate entry.1 child (elementPath path entry.2))
        else evaluate entry.1 child (elementPath path entry.2))
      (fun element => test (.schema use element child)) Prod.fst (fun item inside => ?_) 0
    rw [List.zipIdx_map_fst] at counted
    refine Traces.bind counted (fun result refused => ?_) fun result matching shown => ?_
    · rw [refused]
      exact stops_pure rfl
    · rw [shown]
      exact follows_validIf _ _ _
    · dsimp only [use]
      cases (naturalKeyword schema "maxContains").isSome with
      | true => exact children.condition _ _ _ (entry item inside)
      | false => exact children.plain _ _ _ (entry item inside)

theorem follows_matchArray (data : isJsonData value = true) (children : FollowsChildren R levels exact evaluate) :
    Follows R levels exact (matchArray context value schema path evaluate) (inquireArray value schema) := by
  unfold matchArray inquireArray
  cases value with
  | array elements =>
    have each := isJsonData_array.mp data
    have unique : Follows R levels exact (if schema.get? "uniqueItems" = some (.bool true)
        then matchUnique context path elements [] else return .valid)
        (answer (schema.get? "uniqueItems" != some (.bool true) || areDistinct elements)) := by
      by_cases asked : schema.get? "uniqueItems" = some (.bool true)
      · rw [if_pos asked, asked]
        refine follows_matchUnique each [] ?_
        unfold AreNew areDistinct
        simp
      · rw [if_neg asked, bne_iff_ne.mpr asked]
        exact follows_valid
    have first : Follows R levels exact (forAllValid (elements.zipIdx.zip (arrayKeyword schema "prefixItems"))
        fun entry => evaluate entry.1.1 entry.2 (elementPath path entry.1.2))
        (forAll (fun entry => test (.schema .plain entry.1 entry.2))
          (elements.zip (arrayKeyword schema "prefixItems"))) := by
      rw [← zipIdx_zip]
      refine follows_mapped _ fun entry inside => children.plain _ _ _ (each _ ?_)
      have mapped := List.mem_map_of_mem (f := Prod.fst) (List.of_mem_zip inside).1
      rwa [List.zipIdx_map_fst] at mapped
    have others : Follows R levels exact (forAllValid (schema.get? "items").toList fun child =>
        forAllValid (elements.zipIdx.drop (arrayKeyword schema "prefixItems").length) fun entry =>
          evaluate entry.1 child (elementPath path entry.2))
        (forAll (fun child => forAll (fun element => test (.schema .plain element child))
          (elements.drop (arrayKeyword schema "prefixItems").length)) (schema.get? "items").toList) := by
      rw [← zipIdx_drop]
      refine follows_loop fun child _ => follows_mapped _ fun entry inside => children.plain _ _ _ (each _ ?_)
      have mapped := List.mem_map_of_mem (f := Prod.fst) (List.mem_of_mem_drop inside)
      rwa [List.zipIdx_map_fst] at mapped
    exact follows_forAll (.cons (follows_validIf _ _ _) (.cons (follows_validIf _ _ _) (.cons unique
      (.cons first (.cons others (.cons (follows_matchContains each children) .nil))))))
  | null | bool _ | number _ | string _ | object _ _ => exact follows_valid

theorem follows_matchPatternProperty {members : List (JsString × Json)} {pattern : JsString} {child : Json}
    (index : SchemaIndex) (data : ∀ member ∈ members, isJsonData member.2 = true)
    (children : FollowsChildren (codeReading H index) levels exact evaluate) :
    Follows (codeReading H index) levels exact (matchPatternProperty H context members path evaluate pattern child)
      (forAll (fun (property, member) => if (codeReading H index).matchesPattern pattern property
        then test (.schema .plain member child) else answer true) members) := by
  refine follows_loop fun member inside => ?_
  refine (testSchemaRegex_answers pattern member.1).traces (stops_pure rfl) ?_
  show Follows _ levels exact _ (if (H.regExp pattern).any (· member.1) then _ else _)
  cases (H.regExp pattern).any (· member.1) with
  | true => exact children.plain _ _ _ (data member inside)
  | false => exact follows_valid

theorem follows_matchAdditional {members : List (JsString × Json)} (index : SchemaIndex)
    (data : ∀ member ∈ members, isJsonData member.2 = true)
    (children : FollowsChildren (codeReading H index) levels exact evaluate) :
    Follows (codeReading H index) levels exact (matchAdditional H context members schema path evaluate)
      (inquireAdditional (codeReading H index) members schema) := by
  unfold matchAdditional inquireAdditional
  cases schema.get? "additionalProperties" with
  | none => exact follows_valid
  | some child =>
    rw [Option.elim_some]
    refine follows_loop fun member inside => ?_
    refine (matchesSomePattern_answers member.1 _).traces (stops_pure rfl) ?_
    show Follows _ levels exact _ (if ((mapKeyword schema "patternProperties").map Prod.fst).any
      (fun pattern => (H.regExp pattern).any (· member.1)) then _ else _)
    cases ((mapKeyword schema "patternProperties").map Prod.fst).any fun pattern =>
        (H.regExp pattern).any (· member.1) with
    | true => exact follows_valid
    | false =>
      dsimp only
      by_cases refused : child = .bool false
      · simp only [refused, ↓reduceIte]
        exact follows_invalid _ _
      · simp only [refused, ↓reduceIte]
        exact children.plain _ _ _ (data member (List.mem_filter.mp inside).1)

theorem follows_matchObject (index : SchemaIndex) (data : isJsonData value = true)
    (children : FollowsChildren (codeReading H index) levels exact evaluate) :
    Follows (codeReading H index) levels exact (matchObject H context value schema path evaluate)
      (inquireObject (codeReading H index) value schema) := by
  unfold matchObject inquireObject
  rcases value with _ | _ | _ | _ | _ | ⟨_ | names, members⟩
  case object.none =>
    have each : ∀ member ∈ members, isJsonData member.2 = true := (isJsonData_object.mp data).2.2
    have required : Follows (codeReading H index) levels exact
        (forAllValid ((arrayKeyword schema "required").filterMap Json.asString?) fun required =>
          validIf ((Json.record members).hasOwn required) (path ++ "." ++ required) "required property is missing")
        (answer (((arrayKeyword schema "required").filterMap Json.asString?).all (Json.record members).hasOwn)) :=
      follows_checks fun _ _ => follows_validIf _ _ _
    have properties : Follows (codeReading H index) levels exact
        (forAllValid (mapKeyword schema "properties") fun entry =>
          forAllValid ((Json.record members).get? entry.1).toList fun item =>
            evaluate item entry.2 (path ++ "." ++ entry.1))
        (forAll (fun entry => forAll (fun member => test (.schema .plain member entry.2))
          ((Json.record members).get? entry.1).toList) (mapKeyword schema "properties")) :=
      follows_loop fun entry _ => follows_loop fun item found =>
        children.plain _ _ _ (isJsonData_part data (Part.whole.get? (Option.mem_toList.mp found)))
    have patterns : Follows (codeReading H index) levels exact
        (forAllValid (mapKeyword schema "patternProperties") fun entry =>
          matchPatternProperty H context members path evaluate entry.1 entry.2)
        (forAll (fun entry => forAll (fun (property, member) =>
            if (codeReading H index).matchesPattern entry.1 property then test (.schema .plain member entry.2)
            else answer true) members) (mapKeyword schema "patternProperties")) :=
      follows_loop fun _ _ => follows_matchPatternProperty index each children
    have dependent : Follows (codeReading H index) levels exact
        (forAllValid (mapKeyword schema "dependentRequired") fun entry =>
          if (Json.record members).hasOwn entry.1 then
            forAllValid ((entry.2.asArray?.getD []).filterMap Json.asString?) fun dependency =>
              validIf ((Json.record members).hasOwn dependency) (path ++ "." ++ dependency)
                "dependent property is missing"
          else return .valid)
        (answer ((mapKeyword schema "dependentRequired").all fun entry =>
          !(Json.record members).hasOwn entry.1 ||
            ((entry.2.asArray?.getD []).filterMap Json.asString?).all (Json.record members).hasOwn)) := by
      apply follows_checks
      rintro ⟨property, dependencies⟩ -
      dsimp only
      cases (Json.record members).hasOwn property with
      | true => exact follows_checks fun _ _ => follows_validIf _ _ _
      | false => exact follows_valid
    have schemas : Follows (codeReading H index) levels exact
        (forAllValid (mapKeyword schema "dependentSchemas") fun entry =>
          if (Json.record members).hasOwn entry.1 then evaluate (.record members) entry.2 path else return .valid)
        (forAll (fun entry => if (Json.record members).hasOwn entry.1
          then test (.schema .plain (.record members) entry.2) else answer true)
          (mapKeyword schema "dependentSchemas")) := by
      apply follows_loop
      rintro ⟨property, child⟩ -
      dsimp only
      cases (Json.record members).hasOwn property with
      | true => exact children.plain _ _ _ data
      | false => exact follows_valid
    have names : Follows (codeReading H index) levels exact
        (forAllValid (schema.get? "propertyNames").toList fun child =>
          forAllValid members fun entry => evaluate (.string entry.1) child (path ++ "." ++ entry.1))
        (forAll (fun child => forAll (fun entry => test (.schema .plain (.string entry.1) child)) members)
          (schema.get? "propertyNames").toList) :=
      follows_loop fun _ _ => follows_loop fun _ _ => children.plain _ _ _ rfl
    exact follows_forAll (.cons (follows_validIf _ _ _) (.cons (follows_validIf _ _ _) (.cons required
      (.cons properties (.cons patterns (.cons (follows_matchAdditional index each children) (.cons dependent
        (.cons schemas (.cons names .nil)))))))))
  all_goals exact follows_valid

theorem follows_matchAny {schemas : List Json} (data : isJsonData value = true)
    (children : FollowsChildren R levels exact evaluate) : Follows R levels exact (matchAny value path evaluate schemas)
      (forSome (fun child => test (.schema .plain value child)) schemas) := by
  induction schemas with
  | nil => exact follows_invalid _ _
  | cons child rest ih =>
    refine Traces.bind (children.plain value child path data) (fun result failed => ?_) fun result held shown => ?_
    · rw [failed]
      exact stops_isExhausted rfl
    · rw [shown]
      cases held with
      | true => exact follows_valid
      | false => exact traces_isExhausted ih

theorem follows_matchCombining (data : isJsonData value = true) (children : FollowsChildren R levels exact evaluate) :
    Follows R levels exact (matchCombining value schema path evaluate) (inquireCombining value schema) := by
  refine follows_forAll (.cons ?_ (.cons ?_ (.cons ?_ .nil)))
  · exact follows_loop fun child _ => children.plain _ _ _ data
  · cases (schema.get? "anyOf").bind Json.asArray? with
    | none => exact follows_valid
    | some schemas => exact follows_matchAny data children
  · cases (schema.get? "oneOf").bind Json.asArray? with
    | none => exact follows_valid
    | some schemas =>
      have counted := @traces_countMatching R levels exact _ _ schemas
        (fun child => asCondition (evaluate value child path)) (fun child => test (.schema .condition value child)) id
        (fun child _ => children.condition _ _ _ data) 0
      rw [List.map_id] at counted
      refine Traces.bind counted (fun result refused => ?_) fun result matching shown => ?_
      · rw [refused]
        exact stops_pure rfl
      · rw [shown]
        exact follows_validIf _ _ _

theorem follows_matchNot (data : isJsonData value = true) (children : FollowsChildren R levels exact evaluate) :
    Follows R levels exact (matchNot value schema path evaluate) (inquireNot value schema) := by
  unfold matchNot inquireNot
  cases schema.get? "not" with
  | none => exact follows_valid
  | some child =>
    refine Traces.bind (children.condition value child path data) (fun result _ => stops_isExhausted rfl)
      fun result held shown => traces_isExhausted ?_
    rw [shown]
    exact follows_validIf _ _ _

theorem follows_matchConditional (data : isJsonData value = true) (children : FollowsChildren R levels exact evaluate) :
    Follows R levels exact (matchConditional value schema path evaluate) (inquireConditional value schema) := by
  unfold matchConditional inquireConditional
  cases schema.get? "if" with
  | none => exact follows_valid
  | some child =>
    refine Traces.bind (children.condition value child path data) (fun result _ => stops_isExhausted rfl)
      fun result held shown => traces_isExhausted ?_
    rw [shown]
    cases schema.get? (if held then "then" else "else") with
    | none => exact follows_valid
    | some conditional => exact children.plain _ _ _ data

end Children

section Evaluation

variable {H : SchemaHost} {context : SchemaContext} {levels : Nat} {exact : Prop} {value schema : Json}
  {path : JsString}

/-- The references being followed, with the levels that are left, are no more than the depth; and
they refer to schemas. -/
structure RefsFit (context : SchemaContext) (levels : Nat) (activeRefs : JsMap JsString Nat) : Prop where
  depth : ∀ reference, (activeRefs.get? reference).getD 0 + levels ≤ context.maxDepth + 1
  resolved : ∀ reference, 0 < (activeRefs.get? reference).getD 0 →
    (resolveSchemaReference context.index reference).isSome = true

theorem RefsFit.inner {activeRefs : JsMap JsString Nat} (fit : RefsFit context (levels + 1) activeRefs) :
    RefsFit context levels activeRefs where
  depth reference := by
    have bound := fit.depth reference
    omega
  resolved := fit.resolved

theorem RefsFit.follow {activeRefs : JsMap JsString Nat} {reference : JsString} {target : Json}
    (fit : RefsFit context (levels + 1) activeRefs)
    (found : resolveSchemaReference context.index reference = some target) :
    RefsFit context levels (activeRefs.set reference ((activeRefs.get? reference).getD 0 + 1)) := by
  refine ⟨fun other => ?_, fun other active => ?_⟩
  · have bound := fit.depth other
    by_cases same : other = reference
    · subst same
      rw [JsMap.get?_set_self, Option.getD_some]
      omega
    · rw [JsMap.get?_set_ne same]
      omega
  · by_cases same : other = reference
    · rw [same, found]
      rfl
    · rw [JsMap.get?_set_ne same] at active
      exact fit.resolved other active

/-- How the result of a subschema is used does not bear on its evaluation. -/
theorem course_use {R : Reading} (use : Use) :
    reply R levels (.schema use value schema) = reply R levels (.schema .plain value schema) ∧
      limitsMet R levels (.schema use value schema) = limitsMet R levels (.schema .plain value schema) ∧
        limitsInside R levels (.schema use value schema) = limitsInside R levels (.schema .plain value schema) := by
  cases levels <;> exact ⟨rfl, rfl, rfl⟩

/-- An evaluation whose result is inverted, counted or a condition: the limits hit in it count. -/
theorem Traces.condition {R : Reading} {code : Evaluate SchemaValidationResult}
    (follows : Follows R levels True code (test (.schema .plain value schema))) :
    Follows R levels exact (asCondition code) (test (.schema .condition value schema)) := by
  obtain ⟨replies, met, inside⟩ := @course_use levels value schema R .condition
  have counted : ∀ s s₁ : Evaluation, Tally R levels True [.schema .plain value schema] s s₁ →
      Tally R levels exact [.schema .condition value schema] s
        { s₁ with cutInside := s₁.cutInside + (s₁.cutShort - s.cutShort) } := by
    intro s s₁ tally
    have short := tally.met trivial
    have deep := tally.inside
    simp only [limitsMetBy, limitsInsideBy, List.map_cons, List.map_nil, List.sum_cons, List.sum_nil,
      Question.isCondition, Bool.false_eq_true, ↓reduceIte] at short deep
    refine ⟨⟨?_, fun _ => ?_⟩, ?_⟩
    all_goals
      simp only [limitsMetBy, limitsInsideBy, List.map_cons, List.map_nil, List.sum_cons, List.sum_nil,
        Question.isCondition, ↓reduceIte, met, inside]
      omega
  intro s fresh
  have traced := follows s fresh
  show Traced R levels exact _ _ _ s ((do
    let result ← code
    modify fun t => { t with cutInside := t.cutInside + (t.cutShort - s.cutShort) }
    return result : Evaluate SchemaValidationResult).run.run s)
  rw [ExceptT.run_bind, StateT.run_bind]
  generalize code.run.run s = outcome at traced ⊢
  obtain ⟨error | result, s₁⟩ := outcome
  · obtain ⟨stuck, short⟩ := traced
    rw [run_test] at stuck
    rw [asked_test] at short
    refine ⟨?_, ?_⟩
    · rw [run_test, replies, stuck]
    · rw [asked_test]
      refine Met.weaken (fun _ => trivial) ?_
      exact ⟨by simpa only [limitsMetBy, List.map_cons, List.map_nil, met] using short.least,
        by simpa only [limitsMetBy, List.map_cons, List.map_nil, met] using short.met⟩
  · obtain ⟨spent, known⟩ := traced
    refine ⟨spent, fun fresh' => ?_⟩
    obtain ⟨held, shown, came, tally⟩ := known fresh'
    rw [run_test] at came
    rw [asked_test] at tally
    refine ⟨held, shown, ?_, ?_⟩
    · rw [run_test, replies, came]
    · rw [asked_test]
      exact counted s s₁ tally

theorem follows_matchReference {activeRefs : JsMap JsString Nat}
    {follow : JsMap JsString Nat → Json → Evaluate SchemaValidationResult} (fit : RefsFit context (levels + 1) activeRefs)
    (deep : exact → 0 < context.maxDepth)
    (target : ∀ reference target, resolveSchemaReference context.index reference = some target →
      Follows (codeReading H context.index) levels exact
        (follow (activeRefs.set reference ((activeRefs.get? reference).getD 0 + 1)) target)
        (test (.schema .plain value target))) :
    Follows (codeReading H context.index) levels exact (matchReference context activeRefs schema path follow)
      (inquireReference (codeReading H context.index) value schema) := by
  unfold matchReference inquireReference
  cases schemaReference schema with
  | none => exact follows_valid
  | some reference =>
    have refers : (codeReading H context.index).refers reference =
        resolveSchemaReference context.index reference := rfl
    have bound := fit.depth reference
    dsimp only
    rw [refers]
    split
    · rename_i most
      obtain rfl : levels = 0 := by omega
      intro s fresh
      refine ⟨fun spent => absurd (fresh.symm.trans spent) (by decide), fun _ => ⟨false, rfl, ?_⟩⟩
      cases found : resolveSchemaReference context.index reference with
      | none =>
        -- a reference that is followed already refers to a schema
        have passed : ¬exact := fun precise => by
          have active := fit.resolved reference ((deep precise).trans_le most)
          rw [found] at active
          cases active
        exact ⟨rfl, ⟨Nat.le_succ _, fun precise => absurd precise passed⟩, rfl⟩
      | some next => exact ⟨rfl, ⟨le_rfl, fun _ => rfl⟩, rfl⟩
    · cases found : resolveSchemaReference context.index reference with
      | none => exact follows_invalid _ _
      | some next => exact target reference next found

/-- A question whose answer is what an inquiry comes to, one level further down. -/
theorem Traces.opened {R : Reading} {code : Evaluate SchemaValidationResult} {inquiry : Inquiry Question Bool}
    (asks : inquireSchema R value schema = some inquiry) (follows : Follows R levels exact code inquiry) :
    Follows R (levels + 1) exact code (test (.schema .plain value schema)) := by
  have leads : leadsTo R levels (.schema .plain value schema) = inquiry.asked (reply R levels) := leadsTo_schema asks
  have met : limitsMetBy R (levels + 1) [.schema .plain value schema] =
      limitsMetBy R levels (inquiry.asked (reply R levels)) := by
    rw [← leads]
    simp [limitsMetBy, limitsMet]
  have inside : limitsInsideBy R (levels + 1) [.schema .plain value schema] =
      limitsInsideBy R levels (inquiry.asked (reply R levels)) := by
    rw [← leads]
    simp [limitsInsideBy, limitsInside, Question.isCondition]
  intro s fresh
  have traced := follows s fresh
  generalize code.run.run s = outcome at traced ⊢
  obtain ⟨error | result, s₁⟩ := outcome
  · refine ⟨(run_test _).trans ((reply_schema asks).trans traced.1), ?_⟩
    rw [asked_test]
    exact ⟨met ▸ traced.2.least, fun precise => met ▸ traced.2.met precise⟩
  · refine ⟨traced.1, fun fresh' => ?_⟩
    obtain ⟨held, shown, came, tally⟩ := traced.2 fresh'
    refine ⟨held, shown, (run_test _).trans ((reply_schema asks).trans came), ?_⟩
    rw [asked_test]
    exact ⟨⟨met ▸ tally.least, fun precise => met ▸ tally.met precise⟩, inside ▸ tally.inside⟩

/-- What is done first is recorded and taken from the budget. -/
theorem follows_entered {R : Reading} {next : Evaluate SchemaValidationResult} {inquiry : Inquiry Question Bool}
    (there : Follows R levels exact next inquiry) : Follows R levels exact (do
      modify fun s => { s with evaluated := schema :: s.evaluated }
      if !(← consumeEvaluationBudget context 1) then return budgetFailure path
      next) inquiry := by
  intro s fresh
  have spent : Follows R levels exact (do
      if !(← consumeEvaluationBudget context 1) then return budgetFailure path
      next) inquiry := (consumeEvaluationBudget_answers 1).traces (stops_pure rfl) there
  have entered := spent { s with evaluated := schema :: s.evaluated } fresh
  refine Traced.silent ?_ ?_ entered
  · exact rfl
  · exact rfl

/-- `matchesSchema` follows the order of the questions. Limits outside of conditions may be counted
twice only at the root, where nothing may be referred to. -/
theorem matchesSchema_follows (levels : Nat) (activeRefs : JsMap JsString Nat) (fit : RefsFit context levels activeRefs)
    (data : isJsonData value = true) :
    Follows (codeReading H context.index) levels (levels = 0 ∨ 0 < context.maxDepth)
      (matchesSchema H context levels value schema path activeRefs) (test (.schema .plain value schema)) := by
  induction levels generalizing value schema path activeRefs with
  | zero =>
    unfold matchesSchema
    refine follows_entered fun s fresh => ?_
    exact ⟨fun spent => absurd (fresh.symm.trans spent) (by decide), fun _ => ⟨false, rfl, rfl, ⟨le_rfl, fun _ => rfl⟩, rfl⟩⟩
  | succ levels ih =>
    have room := (fit.depth "").trans' (Nat.le_add_left _ _)
    have precise : ∀ item child path, isJsonData item = true → Follows (codeReading H context.index) levels True
        (matchesSchema H context levels item child path activeRefs) (test (.schema .plain item child)) := by
      intro item child path data
      have follows := @ih item child path activeRefs fit.inner data
      rwa [eq_true (show levels = 0 ∨ 0 < context.maxDepth by omega)] at follows
    have children : FollowsChildren (codeReading H context.index) levels (levels + 1 = 0 ∨ 0 < context.maxDepth)
        (fun value schema path => matchesSchema H context levels value schema path activeRefs) :=
      ⟨fun item child path data => (precise item child path data).weaken fun _ => trivial,
        fun item child path data => (precise item child path data).condition⟩
    unfold matchesSchema
    refine follows_entered ?_
    split
    · contradiction
    · rename_i held _
      exact Traces.opened rfl (follows_validIf held _ _)
    · intro s _
      exact ⟨rfl, le_rfl, fun _ => rfl⟩
    · rename_i next same _ _
      cases same
      refine Traces.opened (by rw [inquireSchema]; all_goals assumption) ?_
      refine follows_forAll (.cons (follows_matchReference fit (by omega) fun reference target found => ?_)
        (.cons (follows_matchType context.index) (.cons follows_matchConst (.cons follows_matchEnum
        (.cons (follows_matchNumber context.index) (.cons (follows_matchString context.index)
        (.cons (follows_matchArray data children) (.cons (follows_matchObject context.index data children)
        (.cons (follows_matchCombining data children) (.cons (follows_matchNot data children)
        (.cons (follows_matchConditional data children) .nil)))))))))))
      exact (ih _ (fit.follow found) data).weaken (by omega)

end Evaluation

end PiToPi.Validation
