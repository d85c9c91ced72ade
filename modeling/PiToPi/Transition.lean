import Mathlib.Logic.Function.Basic
import Mathlib.Logic.Relation

/-!
Labelled transition systems, with the run kept as the list of the states it has
passed and the labels it has taken. A statement about every run is proved by one
lemma about a step; the rules below do the induction. Nothing here knows what
the states are.

`restrict` is the system whose steps all meet a condition. A property that
holds under a condition on the steps is a property of the restricted system,
and every restricted run is a run (`Trace.of_restrict`).
-/
namespace Transition

/-- A system: its initial states and its labelled steps. -/
structure System (σ ι : Type) where
  init : σ → Prop
  step : σ → ι → σ → Prop

namespace System

variable {σ ι : Type} {S : System σ ι}

/-- `S.Trace history s`: a run ends in `s` after the states of `history`, each
with the label it was left by, latest first. -/
inductive Trace (S : System σ ι) : List (σ × ι) → σ → Prop where
  | init (start : S.init s) : Trace S [] s
  | step (run : Trace S history s) (taken : S.step s i s') : Trace S ((s, i) :: history) s'

/-- A state some run ends in. -/
def Reachable (S : System σ ι) (s : σ) : Prop := ∃ history, S.Trace history s

/-- The steps of `S` that meet `ok`, which sees the state before the step. -/
def restrict (S : System σ ι) (ok : σ → ι → Prop) : System σ ι where
  init := S.init
  step s i s' := ok s i ∧ S.step s i s'

/-- The runs from `s` on. -/
def startingAt (S : System σ ι) (s : σ) : System σ ι where
  init x := x = s
  step := S.step

/-- A state a run has been in: its last one, or one before it. -/
def Visited (history : List (σ × ι)) (s x : σ) : Prop := x = s ∨ ∃ i, (x, i) ∈ history

/-- A step a run has taken, from `x` to `y`. -/
def Passed : List (σ × ι) → σ → σ → ι → σ → Prop
  | [], _, _, _, _ => False
  | (before, label) :: earlier, s, x, i, y =>
    (x = before ∧ i = label ∧ y = s) ∨ Passed earlier before x i y

/-- What holds initially and is kept by every step holds at the end of every run. -/
theorem Trace.invariant {I : σ → Prop} (initial : ∀ s, S.init s → I s)
    (kept : ∀ s i s', I s → S.step s i s' → I s') (run : S.Trace history s) : I s := by
  induction run with
  | init start => exact initial _ start
  | step _ taken ih => exact kept _ _ _ ih taken

/-- The same for a property that also looks back at the run. -/
theorem Trace.invariant_history {I : List (σ × ι) → σ → Prop} (initial : ∀ s, S.init s → I [] s)
    (kept : ∀ history s i s', S.Trace history s → I history s → S.step s i s' →
      I ((s, i) :: history) s')
    (run : S.Trace history s) : I history s := by
  induction run with
  | init start => exact initial _ start
  | step run taken ih => exact kept _ _ _ _ run ih taken

theorem Reachable.invariant {I : σ → Prop} (initial : ∀ s, S.init s → I s)
    (kept : ∀ s i s', I s → S.step s i s' → I s') (reached : S.Reachable s) : I s := by
  obtain ⟨_, run⟩ := reached
  exact run.invariant initial kept

theorem Reachable.init (start : S.init s) : S.Reachable s := ⟨[], .init start⟩

theorem Reachable.step (reached : S.Reachable s) (taken : S.step s i s') : S.Reachable s' := by
  obtain ⟨history, run⟩ := reached
  exact ⟨(s, i) :: history, run.step taken⟩

/-- A run from a reachable state ends in one. -/
theorem Reachable.continue (reached : S.Reachable x) (run : (S.startingAt x).Trace history s) :
    S.Reachable s := by
  induction run with
  | init start => exact start ▸ reached
  | step _ taken ih => exact ih.step taken

/-- Every state a run has been in is reachable. -/
theorem Trace.visited_reachable (run : S.Trace history s) (visited : Visited history s x) :
    S.Reachable x := by
  induction run with
  | init start =>
    obtain rfl | ⟨_, absent⟩ := visited
    · exact .init start
    · cases absent
  | @step history s i s' run taken ih =>
    obtain rfl | ⟨j, member⟩ := visited
    · exact Reachable.step ⟨_, run⟩ taken
    · obtain same | member := List.mem_cons.mp member
      · exact ih (.inl (Prod.mk.inj same).1)
      · exact ih (.inr ⟨j, member⟩)

/-- Every step of a run is a step of the system, from a state it reaches. -/
theorem Trace.passed_step (run : S.Trace history s) (passed : Passed history s x i y) :
    S.Reachable x ∧ S.step x i y := by
  induction run with
  | init start => exact passed.elim
  | @step history s j s' run taken ih =>
    obtain ⟨rfl, rfl, rfl⟩ | passed := passed
    · exact ⟨⟨_, run⟩, taken⟩
    · exact ih passed

/-- What every step relates, a run relates the state after a step to its last. -/
theorem Trace.passed_rel {R : σ → σ → Prop} (refl : ∀ s, R s s)
    (grows : ∀ x s i s', S.Reachable s → R x s → S.step s i s' → R x s')
    (run : S.Trace history s) (passed : Passed history s x i y) : R y s := by
  induction run with
  | init start => exact passed.elim
  | @step history s j s' run taken ih =>
    obtain ⟨_, _, rfl⟩ | passed := passed
    · exact refl y
    · exact grows y s j s' ⟨_, run⟩ (ih passed) taken

/-- What every step relates, a run relates any state it has been in to its last. -/
theorem Trace.visited_rel {R : σ → σ → Prop} (refl : ∀ s, R s s)
    (grows : ∀ x s i s', S.Reachable s → R x s → S.step s i s' → R x s')
    (run : S.Trace history s) (visited : Visited history s x) : R x s := by
  induction run with
  | init start =>
    obtain rfl | ⟨_, absent⟩ := visited
    · exact refl x
    · cases absent
  | @step history s j s' run taken ih =>
    obtain rfl | ⟨k, member⟩ := visited
    · exact refl x
    · obtain same | member := List.mem_cons.mp member
      · exact grows x s j s' ⟨_, run⟩ (ih (.inl (Prod.mk.inj same).1)) taken
      · exact grows x s j s' ⟨_, run⟩ (ih (.inr ⟨k, member⟩)) taken

/-- A run of the restricted system is a run. -/
theorem Trace.of_restrict (run : (S.restrict ok).Trace history s) : S.Trace history s := by
  induction run with
  | init start => exact .init start
  | step _ taken ih => exact .step ih taken.2

/-- A run whose steps all meet `ok` is a run of the restricted system. -/
theorem Trace.restrict {ok : σ → ι → Prop} (run : S.Trace history s)
    (always : ∀ step ∈ history, ok step.1 step.2) : (S.restrict ok).Trace history s := by
  induction run with
  | init start => exact .init start
  | step _ taken ih =>
    refine .step (ih fun step member => always step (List.mem_cons_of_mem _ member)) ⟨?_, taken⟩
    exact always _ List.mem_cons_self

/-- Every step of the run `f` makes over the labels meets `ok`. -/
def AllMeet (ok : σ → ι → Prop) (f : σ → ι → σ) : σ → List ι → Prop
  | _, [] => True
  | s, i :: rest => ok s i ∧ AllMeet ok f (f s i) rest

theorem AllMeet.mono {ok ok' : σ → ι → Prop} {f : σ → ι → σ} (weaker : ∀ s i, ok s i → ok' s i) :
    ∀ {s : σ} {labels : List ι}, AllMeet ok f s labels → AllMeet ok' f s labels
  | _, [], _ => trivial
  | _, _ :: _, ⟨meets, rest⟩ => ⟨weaker _ _ meets, rest.mono weaker⟩

instance AllMeet.decidable {ok : σ → ι → Prop} {f : σ → ι → σ} [∀ s i, Decidable (ok s i)] :
    ∀ (s : σ) (labels : List ι), Decidable (AllMeet ok f s labels)
  | _, [] => isTrue trivial
  | s, i :: rest =>
    have : Decidable (AllMeet ok f (f s i) rest) := AllMeet.decidable (f s i) rest
    inferInstanceAs (Decidable (ok s i ∧ AllMeet ok f (f s i) rest))

/-- A system whose steps are a function can be run over a list of labels. -/
theorem Reachable.run {f : σ → ι → σ} (steps : ∀ s i, S.step s i (f s i)) :
    ∀ {s : σ}, S.Reachable s → ∀ labels : List ι, S.Reachable (labels.foldl f s)
  | _, reached, [] => reached
  | _, reached, _ :: labels => (reached.step (steps _ _)).run steps labels

theorem Reachable.run_restrict {ok : σ → ι → Prop} {f : σ → ι → σ}
    (steps : ∀ s i, S.step s i (f s i)) :
    ∀ {s : σ} {labels : List ι}, (S.restrict ok).Reachable s → AllMeet ok f s labels →
      (S.restrict ok).Reachable (labels.foldl f s)
  | _, [], reached, _ => reached
  | _, _ :: _, reached, ⟨meets, rest⟩ => (reached.step ⟨meets, steps _ _⟩).run_restrict steps rest

/-- A run over a list of labels, where a step is a partial function, each step meeting `ok`. -/
def Follows (ok : σ → ι → Prop) (f : σ → ι → Option σ) : σ → List ι → σ → Prop
  | s, [], s' => s = s'
  | s, i :: rest, s' => ok s i ∧ ∃ next, f s i = some next ∧ Follows ok f next rest s'

theorem Reachable.follow {ok : σ → ι → Prop} {f : σ → ι → Option σ}
    (steps : ∀ s i s', f s i = some s' → S.step s i s') :
    ∀ {s s' : σ}, (S.restrict ok).Reachable s → ∀ labels : List ι, Follows ok f s labels s' →
      (S.restrict ok).Reachable s'
  | _, _, reached, [], same => same ▸ reached
  | _, _, reached, _ :: labels, ⟨meets, _, taken, rest⟩ =>
    (reached.step ⟨meets, steps _ _ _ taken⟩).follow steps labels rest

/-- A run over the labels exists, and ends where `p` is true. -/
def followsTo (ok : σ → ι → Prop) [∀ s i, Decidable (ok s i)] (f : σ → ι → Option σ)
    (p : σ → Bool) : σ → List ι → Bool
  | s, [] => p s
  | s, i :: rest => decide (ok s i) && (f s i).any fun next => followsTo ok f p next rest

theorem follow_of_followsTo {ok : σ → ι → Prop} [∀ s i, Decidable (ok s i)] {f : σ → ι → Option σ}
    {p : σ → Bool} :
    ∀ {s : σ} {labels : List ι}, followsTo ok f p s labels = true →
      ∃ s', Follows ok f s labels s' ∧ p s' = true
  | s, [], ends => ⟨s, rfl, ends⟩
  | s, i :: rest, ends => by
    obtain ⟨meets, goesOn⟩ := Bool.and_eq_true_iff.mp ends
    cases taken : f s i with
    | none => simp [taken] at goesOn
    | some next =>
      obtain ⟨s', follows, ends⟩ := follow_of_followsTo (by simpa [taken] using goesOn)
      exact ⟨s', ⟨of_decide_eq_true meets, next, taken, follows⟩, ends⟩

/-- What the restricted system reaches, the system reaches. -/
theorem Reachable.of_restrict (reached : (S.restrict ok).Reachable s) : S.Reachable s := by
  obtain ⟨history, run⟩ := reached
  exact ⟨history, run.of_restrict⟩

section Family

variable {κ : Type} [DecidableEq κ] {parts : κ → System σ ι}

/-- Systems side by side, one of which takes a step at a time. -/
def family (parts : κ → System σ ι) : System (κ → σ) (κ × ι) where
  init s := ∀ k, (parts k).init (s k)
  step s i s' := ∃ t, (parts i.1).step (s i.1) i.2 t ∧ s' = Function.update s i.1 t

/-- Each part goes through a run of its own. -/
theorem Reachable.part (reached : (family parts).Reachable s) (k : κ) : (parts k).Reachable (s k) := by
  refine Reachable.invariant (S := family parts) (I := fun s => (parts k).Reachable (s k)) ?_ ?_ reached
  · intro s start
    exact .init (start k)
  · rintro s ⟨j, i⟩ _ before ⟨t, taken, rfl⟩
    obtain rfl | other := eq_or_ne k j
    · rw [Function.update_self]
      exact before.step taken
    · rw [Function.update_of_ne other]
      exact before

end Family

end System

section Histories

/-- Each entry of a history is allowed by those before it. -/
def Each (allowed : List α → α → Prop) (history : List α) : Prop :=
  ∀ earlier entry later, history = earlier ++ entry :: later → allowed earlier entry

theorem each_nil {allowed : List α → α → Prop} : Each allowed [] := by
  intro earlier entry later same
  simp at same

/-- A history grows by an entry that what has happened allows. -/
theorem Each.snoc {allowed : List α → α → Prop} {history : List α} {entry : α}
    (each : Each allowed history) (next : allowed history entry) :
    Each allowed (history ++ [entry]) := by
  intro earlier other later same
  rcases List.eq_nil_or_concat later with rfl | ⟨front, last, rfl⟩
  · obtain ⟨rfl, rfl⟩ := List.concat_inj.mp (by simpa using same)
    exact next
  · rw [List.concat_eq_append, ← List.cons_append, ← List.append_assoc] at same
    exact each earlier other front (List.append_inj' same rfl).1

end Histories

end Transition
