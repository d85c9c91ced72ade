import Mathlib.Data.List.Basic

/-!
Computations that ask questions with a yes or a no for an answer. What they come to, and which
questions they ask, depends on the answers to the questions they ask and on no others
(`Inquiry.run_congr`, `Inquiry.asked_congr`).
-/

/-- A result, or a question and what comes after either answer. -/
inductive Inquiry (Q α : Type) where
  | answer (result : α)
  | ask (question : Q) (next : Bool → Inquiry Q α)

namespace Inquiry

variable {Q α β ι : Type}

/-- One inquiry and then another. -/
def bind : Inquiry Q α → (α → Inquiry Q β) → Inquiry Q β
  | answer result, rest => rest result
  | ask question next, rest => ask question fun reply => (next reply).bind rest

/-- What an inquiry comes to; nothing where a question is not answered. -/
def run (oracle : Q → Option Bool) : Inquiry Q α → Option α
  | answer result => some result
  | ask question next => (oracle question).bind fun reply => (next reply).run oracle

/-- The questions of an inquiry, up to the first that is not answered. -/
def asked (oracle : Q → Option Bool) : Inquiry Q α → List Q
  | answer _ => []
  | ask question next => question :: (oracle question).elim [] fun reply => (next reply).asked oracle

/-- A single question. -/
def test (question : Q) : Inquiry Q Bool := ask question answer

/-- Whether all items pass, up to the first that does not. -/
def forAll (check : ι → Inquiry Q Bool) : List ι → Inquiry Q Bool
  | [] => answer true
  | item :: rest => (check item).bind fun held => if held then forAll check rest else answer false

/-- Whether an item passes, up to the first that does. -/
def forSome (check : ι → Inquiry Q Bool) : List ι → Inquiry Q Bool
  | [] => answer false
  | item :: rest => (check item).bind fun held => if held then answer true else forSome check rest

/-- How many items pass, on top of so many. -/
def count (check : ι → Inquiry Q Bool) : List ι → Nat → Inquiry Q Nat
  | [], passed => answer passed
  | item :: rest, passed => (check item).bind fun held => count check rest (if held then passed + 1 else passed)

section Run

variable {oracle other : Q → Option Bool}

@[simp] theorem run_test (question : Q) : (test question).run oracle = oracle question := by
  unfold test run
  cases oracle question with
  | none => rfl
  | some reply => rfl

@[simp] theorem asked_test (question : Q) : (test question).asked oracle = [question] := by
  unfold test asked
  cases oracle question with
  | none => rfl
  | some reply => rfl

theorem run_bind (inquiry : Inquiry Q α) (rest : α → Inquiry Q β) :
    (inquiry.bind rest).run oracle = (inquiry.run oracle).bind fun result => (rest result).run oracle := by
  induction inquiry with
  | answer result => rfl
  | ask question next ih =>
    rw [bind, run, run]
    cases oracle question with
    | none => rfl
    | some reply => exact ih reply

theorem asked_bind (inquiry : Inquiry Q α) (rest : α → Inquiry Q β) :
    (inquiry.bind rest).asked oracle =
      inquiry.asked oracle ++ (inquiry.run oracle).elim [] fun result => (rest result).asked oracle := by
  induction inquiry with
  | answer result => rfl
  | ask question next ih =>
    rw [bind, asked, asked, run]
    cases oracle question with
    | none => rfl
    | some reply => exact congrArg _ (ih reply)

/-- Answers that agree on the questions asked lead to the same result. -/
theorem run_congr (inquiry : Inquiry Q α) (agree : ∀ question ∈ inquiry.asked oracle, oracle question = other question) :
    inquiry.run other = inquiry.run oracle := by
  induction inquiry with
  | answer result => rfl
  | ask question next ih =>
    rw [asked, List.forall_mem_cons] at agree
    obtain ⟨here, later⟩ := agree
    rw [run, run, ← here]
    cases answered : oracle question with
    | none => rfl
    | some reply =>
      rw [answered] at later
      exact ih reply later

/-- Answers that agree on the questions asked lead to the same questions. -/
theorem asked_congr (inquiry : Inquiry Q α) (agree : ∀ question ∈ inquiry.asked oracle, oracle question = other question) :
    inquiry.asked other = inquiry.asked oracle := by
  induction inquiry with
  | answer result => rfl
  | ask question next ih =>
    rw [asked, List.forall_mem_cons] at agree
    obtain ⟨here, later⟩ := agree
    rw [asked, asked, ← here]
    cases answered : oracle question with
    | none => rfl
    | some reply =>
      rw [answered] at later
      exact congrArg _ (ih reply later)

/-- An inquiry comes to nothing where a question on its way is not answered. -/
theorem unanswered_iff (inquiry : Inquiry Q α) :
    inquiry.run oracle = none ↔ ∃ question ∈ inquiry.asked oracle, oracle question = none := by
  induction inquiry with
  | answer result => simp [run, asked]
  | ask question next ih =>
    rw [run, asked]
    cases answered : oracle question with
    | none => simp [answered]
    | some reply => simp [answered, ih reply]

end Run

section Loops

variable {oracle : Q → Option Bool} {check : ι → Inquiry Q Bool}

theorem forSome_true {items : List ι} (found : (forSome check items).run oracle = some true) :
    ∃ item ∈ items, (check item).run oracle = some true := by
  induction items with
  | nil => cases found
  | cons item rest ih =>
    rw [forSome, run_bind, Option.bind_eq_some_iff] at found
    obtain ⟨held, here, found⟩ := found
    cases held with
    | true => exact ⟨item, List.mem_cons_self, here⟩
    | false =>
      obtain ⟨other, inside, found⟩ := ih found
      exact ⟨other, List.mem_cons_of_mem _ inside, found⟩

theorem forSome_false {items : List ι} (failed : (forSome check items).run oracle = some false) :
    ∀ item ∈ items, (check item).run oracle = some false := by
  induction items with
  | nil => nofun
  | cons item rest ih =>
    rw [forSome, run_bind, Option.bind_eq_some_iff] at failed
    obtain ⟨held, here, failed⟩ := failed
    cases held with
    | true => cases failed
    | false => exact List.forall_mem_cons.mpr ⟨here, ih failed⟩

/-- A count has an answer for each item, and counts those that pass. -/
theorem count_some {items : List ι} {passed total : Nat} (counted : (count check items passed).run oracle = some total) :
    (∀ item ∈ items, ((check item).run oracle).isSome = true) ∧
      total = passed + items.countP fun item => (check item).run oracle = some true := by
  induction items generalizing passed with
  | nil => exact ⟨nofun, (Option.some.inj counted).symm⟩
  | cons item rest ih =>
    rw [count, run_bind, Option.bind_eq_some_iff] at counted
    obtain ⟨held, here, counted⟩ := counted
    obtain ⟨answered, total⟩ := ih counted
    refine ⟨List.forall_mem_cons.mpr ⟨by rw [here]; rfl, answered⟩, ?_⟩
    rw [List.countP_cons, here, total]
    cases held with
    | true => simp only [↓reduceIte, decide_true]; omega
    | false => simp

end Loops

section Within

variable {P : Q → Prop} {oracle : Q → Option Bool}

/-- All that an inquiry can ask has the property. -/
def Within (P : Q → Prop) : Inquiry Q α → Prop
  | answer _ => True
  | ask question next => P question ∧ ∀ reply, (next reply).Within P

theorem Within.asked {inquiry : Inquiry Q α} (within : inquiry.Within P) : ∀ question ∈ inquiry.asked oracle, P question := by
  induction inquiry with
  | answer result => nofun
  | ask question next ih =>
    rw [Inquiry.asked, List.forall_mem_cons]
    refine ⟨within.1, ?_⟩
    cases oracle question with
    | none => nofun
    | some reply => exact ih reply (within.2 reply)

theorem within_answer (result : α) : (answer result : Inquiry Q α).Within P := trivial

theorem within_test {question : Q} (holds : P question) : (test question).Within P := ⟨holds, fun _ => trivial⟩

theorem Within.bind {inquiry : Inquiry Q α} {rest : α → Inquiry Q β} (here : inquiry.Within P)
    (there : ∀ result, (rest result).Within P) : (inquiry.bind rest).Within P := by
  induction inquiry with
  | answer result => exact there result
  | ask question next ih => exact ⟨here.1, fun reply => ih reply (here.2 reply)⟩

variable {check : ι → Inquiry Q Bool} {items : List ι}

theorem within_forAll (each : ∀ item ∈ items, (check item).Within P) : (forAll check items).Within P := by
  induction items with
  | nil => exact within_answer true
  | cons item rest ih =>
    rw [List.forall_mem_cons] at each
    refine each.1.bind fun held => ?_
    cases held with
    | true => exact ih each.2
    | false => exact within_answer false

theorem within_forSome (each : ∀ item ∈ items, (check item).Within P) : (forSome check items).Within P := by
  induction items with
  | nil => exact within_answer false
  | cons item rest ih =>
    rw [List.forall_mem_cons] at each
    refine each.1.bind fun held => ?_
    cases held with
    | true => exact within_answer true
    | false => exact ih each.2

theorem within_count (each : ∀ item ∈ items, (check item).Within P) (passed : Nat) :
    (count check items passed).Within P := by
  induction items generalizing passed with
  | nil => exact within_answer passed
  | cons item rest ih =>
    rw [List.forall_mem_cons] at each
    exact each.1.bind fun held => ih each.2 _

end Within

end Inquiry
