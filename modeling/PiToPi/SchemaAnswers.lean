import PiToPi.SchemaInquiry
import PiToPi.SchemaMeaningProofs

/-!
What the answers in order tell of what a schema says (`judge_of_reply`). A yes is right where no
limit is met in a condition, and a no where none is met at all; a subschema that the order does not
come to does not matter.
-/
namespace PiToPi.Validation
open Inquiry

section Bears

variable {exact : Prop} {α : Type} {oracle : Question → Option Bool}

/-- A yes is right, and so is a no where it is exact. -/
def Bears (exact : Prop) (answer verdict : Option Bool) : Prop :=
  (answer = some true → verdict = some true) ∧ (exact → answer = some false → verdict = some false)

theorem bears_refl (answer : Option Bool) : Bears exact answer answer := ⟨id, fun _ => id⟩

theorem Bears.of_below {answer verdict : Option Bool} (below : Kleene.Below answer verdict) :
    Bears exact answer verdict := ⟨below true, fun _ => below false⟩

theorem Bears.below {answer verdict : Option Bool} (bears : Bears exact answer verdict) (precise : exact) :
    Kleene.Below answer verdict := by
  intro held known
  cases held with
  | true => exact bears.1 known
  | false => exact bears.2 precise known

theorem Bears.congr {answer verdict other : Option Bool} (bears : Bears exact answer verdict) (same : verdict = other) :
    Bears exact answer other := same ▸ bears

theorem bears_forAll_flatten {items : List α} {check : α → Inquiry Question Bool} {results : List (List (Option Bool))}
    (each : List.Forall₂ (fun item results => Bears exact ((check item).run oracle) (Kleene.all results)) items results) :
    Bears exact ((forAll check items).run oracle) (Kleene.all results.flatten) := by
  induction each with
  | nil => exact bears_refl _
  | @cons item first rest others here _ ih =>
    rw [forAll, run_bind, List.flatten_cons]
    refine ⟨fun yes => ?_, fun precise no => ?_⟩
    · obtain ⟨held, said, yes⟩ := Option.bind_eq_some_iff.mp yes
      cases held with
      | true => exact Kleene.all_append_true.mpr ⟨here.1 said, ih.1 yes⟩
      | false => cases yes
    · obtain ⟨held, said, no⟩ := Option.bind_eq_some_iff.mp no
      cases held with
      | true => exact Kleene.all_append_false.mpr (.inr (ih.2 precise no))
      | false => exact Kleene.all_append_false.mpr (.inl (here.2 precise said))

theorem bears_forAll {items : List α} {check : α → Inquiry Question Bool} {results : α → List (Option Bool)}
    (each : ∀ item ∈ items, Bears exact ((check item).run oracle) (Kleene.all (results item))) :
    Bears exact ((forAll check items).run oracle) (Kleene.all (items.flatMap results)) := by
  rw [List.flatMap_def]
  refine bears_forAll_flatten ?_
  rw [List.forall₂_map_right_iff, List.forall₂_same]
  exact each

/-- A loop over applications. -/
theorem bears_loop {items : List α} {check : α → Inquiry Question Bool} {result : α → Option Bool}
    (each : ∀ item ∈ items, Bears exact ((check item).run oracle) (result item)) :
    Bears exact ((forAll check items).run oracle) (Kleene.all (items.map result)) := by
  have bears := @bears_forAll exact _ oracle items check (fun item => [result item]) fun item inside => by
    rw [Kleene.all_singleton]
    exact each item inside
  rwa [← List.map_eq_flatMap] at bears

/-- The stages of an inquiry, one after the other. -/
theorem bears_stages {stages : List (Inquiry Question Bool)} {verdicts : List (Option Bool)}
    (each : List.Forall₂ (fun stage verdict => Bears exact (stage.run oracle) verdict) stages verdicts) :
    Bears exact ((forAll id stages).run oracle) (Kleene.all verdicts) := by
  have bears := @bears_forAll_flatten exact _ oracle stages id (verdicts.map fun verdict => [verdict]) <| by
    rw [List.forall₂_map_right_iff]
    refine each.imp fun stage verdict bears => ?_
    rw [Kleene.all_singleton]
    exact bears
  rwa [← List.flatMap_def, ← List.map_eq_flatMap, List.map_id'] at bears

/-- A loop that passes over some of its items. -/
theorem bears_filtered {items : List α} {check : α → Inquiry Question Bool} {asked : α → Bool}
    {result : α → Option Bool}
    (each : ∀ item ∈ items, asked item = true → Bears exact ((check item).run oracle) (result item))
    (other : ∀ item ∈ items, asked item = false → Bears exact ((check item).run oracle) (some true)) :
    Bears exact ((forAll check items).run oracle) (Kleene.all ((items.filter asked).map result)) := by
  have bears := @bears_forAll exact _ oracle items check (fun item => if asked item then [result item] else [])
    fun item inside => by
      cases held : asked item with
      | true =>
        rw [if_pos rfl, Kleene.all_singleton]
        exact each item inside held
      | false => exact other item inside held
  have same : items.flatMap (fun item => if asked item then [result item] else []) =
      (items.filter asked).map result := by
    clear bears each other
    induction items with
    | nil => rfl
    | cons item rest ih =>
      rw [List.flatMap_cons, ih]
      cases held : asked item with
      | true => rw [List.filter_cons_of_pos held, List.map_cons]; rfl
      | false => rw [List.filter_cons_of_neg (by simp [held])]; rfl
  rwa [same] at bears

theorem bears_forSome {items : List α} {check : α → Inquiry Question Bool} {result : α → Option Bool}
    (each : ∀ item ∈ items, Bears exact ((check item).run oracle) (result item)) :
    Bears exact ((forSome check items).run oracle) (Kleene.any (items.map result)) := by
  refine ⟨fun yes => ?_, fun precise no => ?_⟩
  · obtain ⟨item, inside, said⟩ := forSome_true yes
    exact Kleene.any_true_iff.mpr (List.mem_map.mpr ⟨item, inside, (each item inside).1 said⟩)
  · refine Kleene.any_false_iff.mpr fun verdict listed => ?_
    obtain ⟨item, inside, rfl⟩ := List.mem_map.mp listed
    exact (each item inside).2 precise (forSome_false no item inside)

/-- A count of answers that are right either way. -/
theorem below_count {items : List α} {check : α → Inquiry Question Bool} {total : Nat} (result : α → Option Bool)
    (each : ∀ item ∈ items, Kleene.Below ((check item).run oracle) (result item))
    (counted : (count check items 0).run oracle = some total) :
    (items.map result).all Option.isSome = true ∧ total = Kleene.trues (items.map result) := by
  obtain ⟨answered, total⟩ := count_some counted
  have same : ∀ item ∈ items, result item = (check item).run oracle := by
    intro item inside
    obtain ⟨held, said⟩ := Option.isSome_iff_exists.mp (answered item inside)
    rw [said, each item inside held said]
  rw [List.map_congr_left same]
  refine ⟨List.all_eq_true.mpr fun verdict listed => ?_, ?_⟩
  · obtain ⟨item, inside, rfl⟩ := List.mem_map.mp listed
    exact answered item inside
  · rw [total, Nat.zero_add, Kleene.trues, List.countP_map]
    rfl

end Bears

/-- Conjunctions within a conjunction, in the order of the keywords of an array. -/
theorem all_arrayStages (a b c d : Option Bool) (p q : List (Option Bool)) :
    Kleene.all [a, b, c, Kleene.all p, Kleene.all q, d] = Kleene.all ([a, b, c, d] ++ (p ++ q)) := by
  apply Kleene.ext
  · simp only [Kleene.all_append_true, Kleene.all_cons_true]
    tauto
  · simp only [Kleene.all_append_false, Kleene.all_cons_false]
    tauto

/-- Conjunctions within a conjunction, in the order of the keywords of an object. -/
theorem all_objectStages (a b c d e : Option Bool) (p q r t u : List (Option Bool)) :
    Kleene.all [a, b, c, Kleene.all p, Kleene.all q, Kleene.all (d :: r), e, Kleene.all t, Kleene.all u] =
      Kleene.all ([a, b, c, d, e] ++ (p ++ q ++ r ++ t ++ u)) := by
  apply Kleene.ext
  · simp only [Kleene.all_append_true, Kleene.all_cons_true]
    tauto
  · simp only [Kleene.all_append_false, Kleene.all_cons_false]
    tauto

section Keywords

variable {exact : Prop} {R : Reading} {oracle : Question → Option Bool} {judged : Judge} {value schema : Json}

/-- Answers that are right: about conditions and leaves either way. -/
structure Sound (exact : Prop) (R : Reading) (oracle : Question → Option Bool) (judged : Judge) : Prop where
  plain : ∀ item child, Bears exact (oracle (.schema .plain item child)) (judged item child)
  condition : ∀ item child, Kleene.Below (oracle (.schema .condition item child)) (judged item child)
  type : ∀ value schema, Kleene.Below (oracle (.type value schema)) (judgeType R value schema)
  multiple : ∀ n divisor, Kleene.Below (oracle (.multiple n divisor)) (some (R.isMultipleOf n divisor))

theorem Sound.test (sound : Sound exact R oracle judged) (item child : Json) :
    Bears exact ((test (.schema .plain item child)).run oracle) (judged item child) := by
  rw [run_test]
  exact sound.plain item child

theorem bears_inquireReference (sound : Sound exact R oracle judged) :
    Bears exact ((inquireReference R value schema).run oracle) (judgeReference R judged value schema) := by
  unfold inquireReference judgeReference
  cases schemaReference schema with
  | none => exact bears_refl _
  | some reference =>
    dsimp only
    cases R.refers reference with
    | none => exact bears_refl _
    | some target => exact sound.test value target

theorem bears_inquireNumber (sound : Sound exact R oracle judged) :
    Bears exact ((inquireNumber R value schema).run oracle) (judgeNumber R value schema) := by
  unfold inquireNumber judgeNumber
  cases value with
  | number n =>
    refine bears_stages (.cons ?_ (.cons (bears_refl _) (.cons (bears_refl _) (.cons (bears_refl _)
      (.cons (bears_refl _) .nil)))))
    cases (schema.get? "multipleOf").bind Json.asNumber? with
    | none => exact bears_refl _
    | some divisor =>
      rw [Option.elim_some, run_test]
      exact .of_below (sound.multiple n divisor)
  | null | bool _ | string _ | array _ | object _ _ => exact bears_refl _

theorem bears_inquireString :
    Bears exact ((inquireString R value schema).run oracle) (judgeString R value schema) := by
  unfold inquireString judgeString
  cases value with
  | string text => exact bears_stages (.cons (bears_refl _) (.cons (bears_refl _) (.cons (bears_refl _) .nil)))
  | null | bool _ | number _ | array _ | object _ _ => exact bears_refl _

/-- Without a largest count, more that satisfy `contains` do no harm. -/
theorem bears_atLeast {elements : List Json} {child : Json} (sound : Sound exact R oracle judged)
    (unbounded : naturalKeyword schema "maxContains" = none) :
    Bears exact (((count (fun element => test (.schema .plain element child)) elements 0).bind fun matching =>
        answer (satisfiesContains schema matching)).run oracle)
      (Kleene.atLeast ((naturalKeyword schema "minContains").getD 1) (elements.map fun element => judged element child)) := by
  have satisfied : ∀ matching : Nat, satisfiesContains schema matching =
      decide ((naturalKeyword schema "minContains").getD 1 ≤ matching) := by
    intro matching
    unfold satisfiesContains
    rw [unbounded, Option.all_none, Bool.and_true]
  rw [run_bind]
  refine ⟨fun yes => ?_, fun precise no => ?_⟩
  · obtain ⟨matching, counted, yes⟩ := Option.bind_eq_some_iff.mp yes
    have enough := of_decide_eq_true ((satisfied matching).symm.trans (Option.some.inj yes))
    have bound : matching ≤ Kleene.trues (elements.map fun element => judged element child) := by
      rw [(count_some counted).2, Nat.zero_add, Kleene.trues, List.countP_map]
      refine List.countP_mono_left fun element _ said => ?_
      rw [run_test, decide_eq_true_eq] at said
      exact decide_eq_true ((sound.plain element child).1 said)
    exact if_pos (enough.trans (by exact_mod_cast bound))
  · obtain ⟨matching, counted, no⟩ := Option.bind_eq_some_iff.mp no
    have few := of_decide_eq_false ((satisfied matching).symm.trans (Option.some.inj no))
    obtain ⟨known, total⟩ := below_count (fun element => judged element child)
      (fun element _ => (sound.test element child).below precise) counted
    rw [Kleene.atLeast, if_neg (total ▸ few), if_pos]
    rw [Kleene.possible_of_known known, ← total]
    exact not_le.mp few

theorem bears_inquireContains {elements : List Json} (sound : Sound exact R oracle judged) :
    Bears exact ((inquireContains elements schema).run oracle) (judgeContains judged elements schema) := by
  unfold inquireContains judgeContains
  cases schema.get? "contains" with
  | none => exact bears_refl _
  | some child =>
    rw [Option.elim_some, Option.elim_some]
    dsimp only
    cases bounded : (naturalKeyword schema "maxContains").isSome with
    | true =>
      refine .of_below fun held known => ?_
      simp only [↓reduceIte, run_bind] at known ⊢
      obtain ⟨matching, counted, known⟩ := Option.bind_eq_some_iff.mp known
      obtain ⟨all, total⟩ := below_count (fun element => judged element child)
        (fun element _ => by
          rw [run_test]
          exact sound.condition element child) counted
      rw [Kleene.count, if_pos all, ← total]
      exact known
    | false => exact bears_atLeast sound (by simpa using bounded)

theorem bears_inquireArray (sound : Sound exact R oracle judged) :
    Bears exact ((inquireArray value schema).run oracle) (judgeArray judged value schema) := by
  unfold inquireArray judgeArray
  cases value with
  | array elements =>
    refine (bears_stages (.cons (bears_refl _) (.cons (bears_refl _) (.cons (bears_refl _)
      (.cons (bears_loop fun entry _ => sound.test entry.1 entry.2)
        (.cons (bears_forAll fun child _ => bears_loop fun element _ => sound.test element child)
          (.cons (bears_inquireContains sound) .nil))))))).congr ?_
    unfold itemApplications
    simp only [List.map_append, List.map_flatMap, List.map_map, Function.comp_def]
    exact all_arrayStages _ _ _ _ _ _
  | null | bool _ | number _ | string _ | object _ _ => exact bears_refl _

theorem bears_inquireAdditional {members : List (JsString × Json)} (sound : Sound exact R oracle judged) :
    Bears exact ((inquireAdditional R members schema).run oracle)
      (Kleene.all (some (schema.get? "additionalProperties" != some (.bool false) ||
          members.all fun member => !isAdditional R schema member.1) ::
        ((schema.get? "additionalProperties").filter (· != .bool false)).toList.flatMap fun child =>
          (members.filter fun member => isAdditional R schema member.1).map fun member => judged member.2 child)) := by
  unfold inquireAdditional
  cases schema.get? "additionalProperties" with
  | none => exact bears_refl _
  | some child =>
    let matched (property : JsString) : Bool := ((mapKeyword schema "patternProperties").map Prod.fst).any
      fun pattern => R.matchesPattern pattern property
    have extra : ∀ property, isAdditional R schema property =
        (!((mapKeyword schema "properties").map Prod.fst).contains property && !matched property) := fun _ => rfl
    rw [Option.elim_some]
    by_cases refused : child = .bool false
    · have same : (members.filter fun member =>
          !((mapKeyword schema "properties").map Prod.fst).contains member.1).all (fun member => matched member.1) =
            members.all fun member => !isAdditional R schema member.1 := by
        rw [List.all_filter]
        congr 1
        funext member
        rw [extra]
        cases ((mapKeyword schema "properties").map Prod.fst).contains member.1 with
        | true => rfl
        | false => cases matched member.1 <;> rfl
      rw [refused]
      show Bears exact _ (Kleene.all [some (members.all fun member => !isAdditional R schema member.1)])
      rw [Kleene.all_singleton, ← same, ← Kleene.all_map_some]
      refine bears_loop fun member _ => ?_
      show Bears exact ((if matched member.1 then answer true else _ : Inquiry Question Bool).run oracle) _
      cases matched member.1 <;> exact bears_refl _
    · have given : (some child).filter (· != Json.bool false) = some child := by simp [refused]
      have differ : (some child != some (Json.bool false)) = true := by simp [refused]
      have same : (members.filter fun member => isAdditional R schema member.1) =
          (members.filter fun member => !((mapKeyword schema "properties").map Prod.fst).contains member.1).filter
            fun member => !matched member.1 := by
        rw [List.filter_filter]
        congr 1
        funext member
        rw [extra, Bool.and_comm]
      have flat : Kleene.all (some true :: (members.filter fun member =>
          isAdditional R schema member.1).map fun member => judged member.2 child) =
            Kleene.all ((members.filter fun member => isAdditional R schema member.1).map
              fun member => judged member.2 child) := by
        apply Kleene.ext
        · rw [Kleene.all_cons_true, and_iff_right rfl]
        · rw [Kleene.all_cons_false, or_iff_right (by decide)]
      rw [given, differ, Bool.true_or, Option.toList_some, List.flatMap_singleton, flat, same]
      refine bears_filtered (fun member _ asked => ?_) fun member _ passed => ?_
      · have unmatched : matched member.1 = false := by simpa using asked
        show Bears exact ((if matched member.1 then answer true else _ : Inquiry Question Bool).run oracle) _
        rw [unmatched, if_neg (by decide), if_neg refused]
        exact sound.test member.2 child
      · have held : matched member.1 = true := by simpa using passed
        show Bears exact ((if matched member.1 then answer true else _ : Inquiry Question Bool).run oracle) _
        rw [held]
        exact bears_refl _

theorem bears_inquireObject (sound : Sound exact R oracle judged) :
    Bears exact ((inquireObject R value schema).run oracle) (judgeObject R judged value schema) := by
  unfold inquireObject judgeObject
  rcases value with _ | _ | _ | _ | _ | ⟨_ | names, members⟩
  case object.none =>
    have patterns : Bears exact ((forAll (fun entry => forAll (fun member =>
          if R.matchesPattern entry.1 member.1 then test (.schema .plain member.2 entry.2) else answer true) members)
            (mapKeyword schema "patternProperties")).run oracle)
        (Kleene.all ((mapKeyword schema "patternProperties").flatMap fun entry =>
          (members.filter fun member => R.matchesPattern entry.1 member.1).map fun member => judged member.2 entry.2)) := by
      refine bears_forAll fun entry _ => bears_filtered (fun member _ matched => ?_) fun member _ other => ?_
      · rw [if_pos matched]
        exact sound.test member.2 entry.2
      · rw [if_neg (by simp [other])]
        exact bears_refl _
    have schemas : Bears exact ((forAll (fun entry => if (Json.record members).hasOwn entry.1
          then test (.schema .plain (.record members) entry.2) else answer true)
            (mapKeyword schema "dependentSchemas")).run oracle)
        (Kleene.all (((mapKeyword schema "dependentSchemas").filter
          fun entry => (Json.record members).hasOwn entry.1).map fun entry => judged (.record members) entry.2)) := by
      refine bears_filtered (fun entry _ present => ?_) fun entry _ absent => ?_
      · rw [if_pos present]
        exact sound.test (.record members) entry.2
      · rw [if_neg (by simp [absent])]
        exact bears_refl _
    refine (bears_stages (.cons (bears_refl _) (.cons (bears_refl _) (.cons (bears_refl _)
      (.cons (bears_forAll fun entry _ => bears_loop fun member _ => sound.test member entry.2) (.cons patterns
        (.cons (bears_inquireAdditional sound) (.cons (bears_refl _) (.cons schemas
          (.cons (bears_forAll fun child _ => bears_loop fun member _ => sound.test (.string member.1) child)
            .nil)))))))))).congr ?_
    unfold memberApplications
    simp only [List.map_append, List.map_flatMap, List.map_map, Function.comp_def]
    exact all_objectStages _ _ _ _ _ _ _ _ _ _
  all_goals exact bears_refl _

theorem bears_inquireCombining (sound : Sound exact R oracle judged) :
    Bears exact ((inquireCombining value schema).run oracle) (judgeCombining judged value schema) := by
  refine bears_stages (.cons ?_ (.cons ?_ (.cons ?_ .nil)))
  · exact bears_loop fun child _ => sound.test value child
  · cases (schema.get? "anyOf").bind Json.asArray? with
    | none => exact bears_refl _
    | some schemas => exact bears_forSome fun child _ => sound.test value child
  · cases (schema.get? "oneOf").bind Json.asArray? with
    | none => exact bears_refl _
    | some schemas =>
      refine .of_below fun held known => ?_
      rw [Option.elim_some, run_bind] at known
      obtain ⟨matching, counted, known⟩ := Option.bind_eq_some_iff.mp known
      obtain ⟨all, total⟩ := below_count (judged value)
        (fun child _ => by
          rw [run_test]
          exact sound.condition value child) counted
      rw [Option.elim_some, Kleene.count, if_pos all, ← total]
      exact known

theorem bears_inquireNot (sound : Sound exact R oracle judged) :
    Bears exact ((inquireNot value schema).run oracle) (judgeNot judged value schema) := by
  unfold inquireNot judgeNot
  cases schema.get? "not" with
  | none => exact bears_refl _
  | some child =>
    refine .of_below fun held known => ?_
    rw [Option.elim_some, run_bind, run_test] at known
    obtain ⟨result, said, known⟩ := Option.bind_eq_some_iff.mp known
    rw [Option.elim_some, sound.condition value child result said]
    exact known

theorem bears_inquireConditional (sound : Sound exact R oracle judged) :
    Bears exact ((inquireConditional value schema).run oracle) (judgeConditional judged value schema) := by
  unfold inquireConditional judgeConditional
  cases schema.get? "if" with
  | none => exact bears_refl _
  | some child =>
    rw [Option.elim_some, Option.elim_some, run_bind, run_test]
    cases said : oracle (.schema .condition value child) with
    | none => exact ⟨nofun, fun _ => nofun⟩
    | some condition =>
      rw [sound.condition value child condition said, Option.bind_some, Option.bind_some]
      cases schema.get? (if condition then "then" else "else") with
      | none => exact bears_refl _
      | some conditional => exact sound.test value conditional

/-- The answers to what a schema asks about a value tell what it says of it. -/
theorem bears_inquire (sound : Sound exact R oracle judged) :
    Bears exact ((inquire R value schema).run oracle) (Kleene.all
      [judgeReference R judged value schema, judgeType R value schema, judgeConst value schema,
        judgeEnum value schema, judgeNumber R value schema, judgeString R value schema,
        judgeArray judged value schema, judgeObject R judged value schema, judgeCombining judged value schema,
        judgeNot judged value schema, judgeConditional judged value schema]) := by
  refine bears_stages (.cons (bears_inquireReference sound) (.cons ?_ (.cons (bears_refl _) (.cons (bears_refl _)
    (.cons (bears_inquireNumber sound) (.cons bears_inquireString (.cons (bears_inquireArray sound)
      (.cons (bears_inquireObject sound) (.cons (bears_inquireCombining sound) (.cons (bears_inquireNot sound)
        (.cons (bears_inquireConditional sound) .nil)))))))))))
  rw [run_test]
  exact .of_below (sound.type value schema)

end Keywords

section Levels

variable {R R' : Reading} {levels : Nat} {question : Question}

/-- Two readings that answer a question alike, and ask alike on the way. -/
def ReadAlike (R R' : Reading) : Question → Prop
  | .schema _ value schema => inquire R value schema = inquire R' value schema
  | .type value schema => judgeType R value schema = judgeType R' value schema
  | .multiple n divisor => R.isMultipleOf n divisor = R'.isMultipleOf n divisor

/-- What is met on the way to the answers is met on the way to the one they lead to. -/
theorem limitsMet_leadsTo {next : Question} (none : limitsMet R (levels + 1) question = 0)
    (led : next ∈ leadsTo R levels question) : limitsMet R levels next = 0 := by
  rw [limitsMet] at none
  exact List.sum_eq_zero_iff_forall_eq_nat.mp none _ (List.mem_map_of_mem led)

theorem limitsInside_leadsTo {next : Question} (none : limitsInside R (levels + 1) question = 0)
    (led : next ∈ leadsTo R levels question) :
    limitsInside R levels next = 0 ∧ (next.isCondition = true → limitsMet R levels next = 0) := by
  rw [limitsInside] at none
  have here := List.sum_eq_zero_iff_forall_eq_nat.mp none _ (List.mem_map_of_mem led)
  refine ⟨by omega, fun condition => ?_⟩
  rw [if_pos condition] at here
  omega

theorem comesTo_self : question ∈ comesTo R levels question := by
  cases levels with
  | zero => exact List.mem_cons_self
  | succ levels => exact List.mem_cons_self

theorem comesTo_leadsTo {next other : Question} (led : next ∈ leadsTo R levels question)
    (come : other ∈ comesTo R levels next) : other ∈ comesTo R (levels + 1) question :=
  List.mem_cons_of_mem _ (List.mem_flatMap.mpr ⟨next, led, come⟩)

theorem comesTo_leaf (leaf : question.isSchema = false) : comesTo R levels question = [question] := by
  cases question with
  | schema use value schema => cases leaf
  | type value schema => cases levels <;> rfl
  | multiple n divisor => cases levels <;> rfl

/-- A question about no subschema is answered where it can be called. -/
theorem reply_leaf (leaf : question.isSchema = false) :
    reply R levels question = none ↔ question.isCallable = false := by
  have answered : ∀ held : Bool, some held = none ↔ true = false :=
    fun held => iff_of_false (Option.some_ne_none held) (by decide)
  cases question with
  | schema use value schema => cases leaf
  | type value schema =>
    rw [reply_type]
    unfold judgeType Question.isCallable
    dsimp only
    cases schema.get? "type" with
    | none => exact answered true
    | some type =>
      cases type with
      | string type => exact answered _
      | array types => exact answered _
      | null | bool _ | number _ | object _ _ => exact ⟨fun _ => rfl, fun _ => rfl⟩
  | multiple n divisor =>
    rw [reply_multiple]
    exact answered _

/-- An evaluation that meets no limit throws where it comes to a question it cannot call. -/
theorem reply_eq_none_iff (unmet : limitsMet R levels question = 0) :
    reply R levels question = none ↔ ∃ other ∈ comesTo R levels question, other.isCallable = false := by
  induction levels generalizing question with
  | zero =>
    have leaf : question.isSchema = false := by
      by_contra schema
      rw [limitsMet, if_pos (by simpa using schema)] at unmet
      cases unmet
    simp [comesTo_leaf leaf, reply_leaf leaf]
  | succ levels ih =>
    cases question with
    | schema use value schema =>
      cases asks : inquireSchema R value schema with
      | none =>
        cases schema with
        | null => exact ⟨fun _ => ⟨_, comesTo_self, rfl⟩, fun _ => rfl⟩
        | bool _ | number _ | string _ | array _ | object _ _ => cases asks
      | some inquiry =>
        have callable : (Question.schema use value schema).isCallable = true := by
          cases schema with
          | null => cases asks
          | bool _ | number _ | string _ | array _ | object _ _ => rfl
        rw [reply_schema asks, unanswered_iff, ← leadsTo_schema asks]
        constructor
        · rintro ⟨next, led, stuck⟩
          obtain ⟨other, come, faulty⟩ := (ih (limitsMet_leadsTo unmet led)).mp stuck
          exact ⟨other, comesTo_leadsTo led come, faulty⟩
        · rintro ⟨other, come, faulty⟩
          rcases List.mem_cons.mp come with rfl | later
          · rw [callable] at faulty
            cases faulty
          · obtain ⟨next, led, come⟩ := List.mem_flatMap.mp later
            exact ⟨next, led, (ih (limitsMet_leadsTo unmet led)).mpr ⟨other, come, faulty⟩⟩
    | type value schema =>
      rw [comesTo_leaf rfl, reply_leaf rfl]
      simp
    | multiple n divisor =>
      rw [comesTo_leaf rfl, reply_leaf rfl]
      simp

/-- Where no limit is met at all, none is in a condition. -/
theorem limitsInside_of_unmet (none : limitsMet R levels question = 0) : limitsInside R levels question = 0 := by
  induction levels generalizing question with
  | zero => rfl
  | succ levels ih =>
    rw [limitsInside, List.sum_eq_zero_iff_forall_eq_nat]
    intro count listed
    obtain ⟨next, led, rfl⟩ := List.mem_map.mp listed
    have unmet := limitsMet_leadsTo none led
    rw [ih unmet, unmet, ite_self]

/-- The same answers on the way lead to the same questions and the same answer. -/
theorem course_congr {n m : Nat} (same : ∀ next ∈ leadsTo R n question, reply R n next = reply R m next) :
    leadsTo R m question = leadsTo R n question ∧ reply R (m + 1) question = reply R (n + 1) question := by
  cases question with
  | schema use value schema =>
    cases asks : inquireSchema R value schema with
    | none => exact ⟨by rw [leadsTo, leadsTo, asks]; rfl, by rw [reply, reply, asks]; rfl⟩
    | some inquiry =>
      rw [leadsTo_schema asks] at same
      rw [leadsTo_schema asks, leadsTo_schema asks, reply_schema asks, reply_schema asks]
      exact ⟨asked_congr inquiry same, run_congr inquiry same⟩
  | type value schema => exact ⟨rfl, by rw [reply_type, reply_type]⟩
  | multiple n divisor => exact ⟨rfl, by rw [reply_multiple, reply_multiple]⟩

/-- Once no limit is met, more levels change nothing. -/
theorem course_stable {n m : Nat} (none : limitsMet R n question = 0) (more : n ≤ m) :
    reply R m question = reply R n question ∧ limitsMet R m question = 0 ∧
      comesTo R m question = comesTo R n question := by
  induction n generalizing m question with
  | zero =>
    cases question with
    | schema use value schema => cases none
    | type value schema => cases m <;> exact ⟨rfl, rfl, rfl⟩
    | multiple n divisor => cases m <;> exact ⟨rfl, rfl, rfl⟩
  | succ n ih =>
    obtain ⟨m, rfl⟩ : ∃ k, m = k + 1 := ⟨m - 1, by omega⟩
    have each : ∀ next ∈ leadsTo R n question, reply R m next = reply R n next ∧ limitsMet R m next = 0 ∧
        comesTo R m next = comesTo R n next := fun next led => ih (limitsMet_leadsTo none led) (by omega)
    have same : ∀ next ∈ leadsTo R n question, reply R n next = reply R m next := fun next led => (each next led).1.symm
    obtain ⟨leads, replies⟩ := course_congr same
    refine ⟨replies, ?_, ?_⟩
    · rw [limitsMet, leads, List.sum_eq_zero_iff_forall_eq_nat]
      intro count listed
      obtain ⟨next, led, rfl⟩ := List.mem_map.mp listed
      exact (each next led).2.1
    · rw [comesTo, comesTo, leads]
      exact congrArg _ (List.flatMap_congr fun next led => (each next led).2.2)

/-- The questions of an evaluation are those within any depth that is enough. -/
theorem ComesTo.mem {value root : Json} (come : ComesTo R value root question)
    (unmet : limitsMet R levels (.schema .plain value root) = 0) :
    question ∈ comesTo R levels (.schema .plain value root) := by
  obtain ⟨enough, unmet', listed⟩ := come
  rcases Nat.le_total enough levels with more | less
  · rwa [(course_stable unmet' more).2.2]
  · rwa [← (course_stable unmet less).2.2]

/-- An answer in order is what the schema says, in a reading that does not differ on the way. -/
theorem judge_of_reply (levels : Nat) (use : Use) (value schema : Json)
    (sheltered : limitsInside R levels (.schema use value schema) = 0)
    (alike : ∀ question ∈ comesTo R levels (.schema use value schema), ReadAlike R R' question) :
    Bears (limitsMet R levels (.schema use value schema) = 0) (reply R levels (.schema use value schema))
      (judge R' levels value schema) := by
  induction levels generalizing use value schema with
  | zero => exact ⟨nofun, nofun⟩
  | succ levels ih =>
    have each : ∀ next ∈ leadsTo R levels (.schema use value schema),
        ∀ question ∈ comesTo R levels next, ReadAlike R R' question :=
      fun next led question come => alike question (comesTo_leadsTo led come)
    have same : inquire R value schema = inquire R' value schema := alike _ comesTo_self
    -- only the questions on the way have to be answered rightly
    let oracle (next : Question) : Option Bool :=
      if next ∈ leadsTo R levels (.schema use value schema) then reply R levels next else none
    have sound : Sound (limitsMet R (levels + 1) (.schema use value schema) = 0) R' oracle (judge R' levels) := by
      refine ⟨fun item child => ?_, fun item child => ?_, fun item child => ?_, fun n divisor => ?_⟩
      all_goals
        dsimp only [oracle]
        split
      · rename_i led
        obtain ⟨none, -⟩ := limitsInside_leadsTo sheltered led
        have bears := ih .plain item child none (each _ led)
        exact ⟨bears.1, fun unmet => bears.2 (limitsMet_leadsTo unmet led)⟩
      · exact ⟨nofun, fun _ => nofun⟩
      · rename_i led
        obtain ⟨none, unmet⟩ := limitsInside_leadsTo sheltered led
        exact (ih .condition item child none (each _ led)).below (unmet rfl)
      · exact fun _ => nofun
      · rename_i led
        rw [reply_type, show judgeType R item child = judgeType R' item child from each _ led _ comesTo_self]
        exact Kleene.below_refl _
      · exact fun _ => nofun
      · rename_i led
        rw [reply_multiple, show R.isMultipleOf n divisor = R'.isMultipleOf n divisor from each _ led _ comesTo_self]
        exact Kleene.below_refl _
      · exact fun _ => nofun
    have answers : reply R (levels + 1) (.schema use value schema) =
        (inquireSchema R value schema).bind fun inquiry => inquiry.run oracle := by
      cases asks : inquireSchema R value schema with
      | none => rw [reply, asks]; rfl
      | some inquiry =>
        rw [reply_schema asks]
        refine (run_congr inquiry fun question inside => (if_pos ?_).symm).symm
        rw [leadsTo_schema asks]
        exact inside
    rw [answers]
    unfold inquireSchema
    split
    · exact bears_refl _
    · exact bears_refl _
    · rename_i noBool null
      rw [judge.eq_4 R' value schema levels noBool null, Option.bind_some, same]
      exact bears_inquire sound

end Levels

end PiToPi.Validation
