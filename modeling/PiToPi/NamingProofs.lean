import PiToPi.Naming
import Mathlib.Data.List.Chain
import Mathlib.Data.List.DropRight
import Mathlib.Data.List.Infix

/-!
A normalised name is its own normalisation, and so is every part of it that ends
before a hyphen. A published name is read back as the base and the suffix it was
built from.
-/
namespace PiToPi.Naming
open JsString

section Texts

/-- A code point that is no half of a pair. -/
def Whole (codePoint : JsString) : Prop :=
  (∃ u, codePoint = ⟨[u]⟩ ∧ (isHighSurrogate u || isLowSurrogate u) = false) ∨
    ∃ u v, codePoint = ⟨[u, v]⟩ ∧ isHighSurrogate u = true ∧ isLowSurrogate v = true

theorem whole_hyphen : Whole hyphen := .inl ⟨0x2d, rfl, by decide⟩

theorem jsString_ext {a b : JsString} (same : a.units = b.units) : a = b := by
  cases a
  cases b
  exact congrArg JsString.mk same

theorem append_units (a b : JsString) : (a ++ b).units = a.units ++ b.units := rfl

theorem joinStrings_append (a b : List JsString) :
    joinStrings (a ++ b) = joinStrings a ++ joinStrings b := by
  unfold joinStrings
  apply jsString_ext
  simp [append_units]

theorem joinStrings_codePoints (units : List UInt16) : joinStrings (codePoints units) = ⟨units⟩ := by
  unfold joinStrings
  apply jsString_ext
  induction units using codePoints.induct with
  | case1 => rfl
  | case2 u => rfl
  | case3 u v rest pair ih =>
    dsimp only at ih ⊢
    rw [codePoints, if_pos pair, List.flatMap_cons, ih]
    rfl
  | case4 u v rest single ih =>
    dsimp only at ih ⊢
    rw [codePoints, if_neg single, List.flatMap_cons, ih]
    rfl

/-- A code point at the front is split off. -/
theorem codePoints_whole {codePoint : JsString} (whole : Whole codePoint) (rest : List UInt16) :
    codePoints (codePoint.units ++ rest) = codePoint :: codePoints rest := by
  rcases whole with ⟨u, rfl, single⟩ | ⟨u, v, rfl, high, low⟩
  · rw [Bool.or_eq_false_iff] at single
    cases rest with
    | nil => rfl
    | cons v rest => simp [codePoints, single.1]
  · simp [codePoints, high, low]

theorem codePoints_joinStrings {parts : List JsString} (whole : ∀ part ∈ parts, Whole part) :
    codePoints (joinStrings parts).units = parts := by
  induction parts with
  | nil => rfl
  | cons part rest ih =>
    have split := codePoints_whole (whole part List.mem_cons_self) (joinStrings rest).units
    rw [ih fun other member => whole other (List.mem_cons_of_mem _ member)] at split
    exact split

/-- The code points around a hyphen. -/
theorem codePoints_hyphen (a b : List UInt16) :
    codePoints (a ++ 0x2d :: b) = codePoints a ++ hyphen :: codePoints b := by
  induction a using codePoints.induct with
  | case1 => exact codePoints_whole whole_hyphen b
  | case2 u =>
    have tail : codePoints (0x2d :: b) = hyphen :: codePoints b := codePoints_whole whole_hyphen b
    have apart : isLowSurrogate 0x2d = false := by decide
    simp [codePoints, apart, tail]
  | case3 u v rest pair ih =>
    rw [List.cons_append, List.cons_append, codePoints, if_pos pair, ih, codePoints, if_pos pair]
    rfl
  | case4 u v rest single ih =>
    rw [List.cons_append, List.cons_append, codePoints, if_neg single, ← List.cons_append, ih,
      codePoints, if_neg single]
    rfl

theorem splitAtLastHyphen_append {a s : List UInt16} (absent : 0x2d ∉ s) :
    splitAtLastHyphen (a ++ 0x2d :: s) = some (a, s) := by
  have none_after : splitAtLastHyphen s = none := by
    induction s with
    | nil => rfl
    | cons u rest ih =>
      have other : u ≠ 0x2d := fun same => absent (same ▸ List.mem_cons_self)
      have ih := ih fun member => absent (List.mem_cons_of_mem _ member)
      simp [splitAtLastHyphen, ih, other]
  induction a with
  | nil => simp [splitAtLastHyphen, none_after]
  | cons u rest ih => simp [splitAtLastHyphen, ih]

theorem splitAtLastHyphen_none {x : List UInt16} (split : splitAtLastHyphen x = none) : 0x2d ∉ x := by
  induction x with
  | nil => exact List.not_mem_nil
  | cons u rest ih =>
    rw [splitAtLastHyphen] at split
    cases found : splitAtLastHyphen rest with
    | some parts =>
      rw [found] at split
      cases split
    | none =>
      rw [found] at split
      dsimp only at split
      split at split
      · cases split
      · rename_i other
        rw [List.mem_cons]
        rintro (here | later)
        · exact other here.symm
        · exact ih found later

theorem splitAtLastHyphen_some {x a s : List UInt16} (split : splitAtLastHyphen x = some (a, s)) :
    x = a ++ 0x2d :: s ∧ 0x2d ∉ s := by
  induction x generalizing a s with
  | nil => cases split
  | cons u rest ih =>
    rw [splitAtLastHyphen] at split
    cases found : splitAtLastHyphen rest with
    | some parts =>
      obtain ⟨before, after⟩ := parts
      rw [found] at split
      cases split
      obtain ⟨same, absent⟩ := ih found
      exact ⟨congrArg (u :: ·) same, absent⟩
    | none =>
      rw [found] at split
      dsimp only at split
      split at split
      · rename_i here
        cases split
        exact ⟨congrArg (· :: rest) here, splitAtLastHyphen_none found⟩
      · cases split

end Texts

section Labels

variable {H : NameHost}

/-- Every code point of a text is a letter, a number or a hyphen. -/
def Lettered (H : NameHost) (parts : List JsString) : Prop :=
  ∀ part ∈ parts, part = hyphen ∨ H.isLetterOrNumber part = true ∧ Whole part

/-- The form of a label. -/
structure Label (H : NameHost) (name : JsString) : Prop where
  nonempty : codePoints name.units ≠ []
  letters : Lettered H (codePoints name.units)
  first : (codePoints name.units).head? ≠ some hyphen
  last : (codePoints name.units).getLast? ≠ some hyphen
  single : (codePoints name.units).IsChain fun a b => a = hyphen → b ≠ hyphen
  bounded : (codePoints name.units).length ≤ maxProjectLabelCodePoints
  folded : H.nfkcLower name = name

theorem Lettered.whole (letters : Lettered H parts) : ∀ part ∈ parts, Whole part := by
  intro part member
  rcases letters part member with rfl | ⟨-, whole⟩
  · exact whole_hyphen
  · exact whole

theorem whole_of_letter {units : List UInt16} {c : JsString} (member : c ∈ codePoints units)
    (letter : H.isLetterOrNumber c = true) : Whole c := by
  have single : ∀ u, c = ⟨[u]⟩ → Whole c := by
    intro u same
    refine .inl ⟨u, same, ?_⟩
    rw [Bool.eq_false_iff]
    intro surrogate
    have not := H.surrogate_notLetter u surrogate
    rw [← same, letter] at not
    cases not
  induction units using codePoints.induct with
  | case1 => cases member
  | case2 u => exact single u (List.mem_singleton.mp member)
  | case3 u v rest pair ih =>
    rw [codePoints, if_pos pair] at member
    rcases List.mem_cons.mp member with same | member
    · rw [Bool.and_eq_true] at pair
      exact .inr ⟨u, v, same, pair.1, pair.2⟩
    · exact ih member
  | case4 u v rest apart ih =>
    rw [codePoints, if_neg apart] at member
    rcases List.mem_cons.mp member with same | member
    · exact single u same
    · exact ih member

/-- The loop of the normaliser copies what has the form of a label. -/
theorem labelStep_label {parts : List JsString} : ∀ (output : List JsString) (pending : Bool),
    Lettered H parts → (parts.IsChain fun a b => a = hyphen → b ≠ hyphen) →
    parts.getLast? ≠ some hyphen → (output = [] → parts.head? ≠ some hyphen) →
    (pending = true → output ≠ [] ∧ parts ≠ [] ∧ parts.head? ≠ some hyphen) →
    (parts.foldl (labelStep H.toUnicode) (output, pending)).1 =
      output ++ (if pending then [hyphen] else []) ++ parts := by
  induction parts with
  | nil =>
    intro output pending _ _ _ _ due
    cases pending with
    | false => simp
    | true => exact absurd rfl (due rfl).2.1
  | cons part rest ih =>
    intro output pending letters single last first due
    have letters' : Lettered H rest := fun other member => letters other (List.mem_cons_of_mem _ member)
    have single' := single.tail
    have last' : rest.getLast? ≠ some hyphen := by
      cases rest with
      | nil => exact nofun
      | cons next rest => rwa [List.getLast?_cons_cons] at last
    rw [List.foldl_cons, labelStep]
    rcases letters part List.mem_cons_self with rfl | ⟨letter, -⟩
    · rw [H.hyphen_notLetter]
      have started : output ≠ [] := fun empty => first empty rfl
      have now : pending = false := by
        cases pending with
        | false => rfl
        | true => exact absurd rfl (due rfl).2.2
      have more : rest ≠ [] := by
        rintro rfl
        exact last rfl
      have next : rest.head? ≠ some hyphen := by
        cases rest with
        | nil => exact nofun
        | cons next rest =>
          intro same
          exact (List.isChain_cons_cons.mp single).1 rfl (Option.some.inj same)
      have flagged : (pending || !output.isEmpty) = true := by simp [started]
      rw [flagged, if_neg Bool.false_ne_true, ih _ _ letters' single' last' (fun empty => absurd empty started)
        fun _ => ⟨started, more, next⟩, now]
      simp
    · rw [letter, if_pos rfl, ih _ false letters' single' last' (by simp) (fun due => by cases due)]
      have separator : (if pending && !output.isEmpty then [("-" : JsString)] else []) =
          if pending then [hyphen] else [] := by
        cases pending with
        | false => rfl
        | true =>
          have started := (due rfl).1
          simp only [Bool.true_and, Bool.not_eq_true', List.isEmpty_eq_false_iff, started, ne_eq,
            not_false_eq_true, ↓reduceIte]
          rfl
      rw [separator]
      simp

/-- A label is its own normalisation. -/
theorem Label.normalized {name : JsString} (label : Label H name) :
    asNormalizedName H.toUnicode name = .ok name := by
  have silent : H.hasControl name = false := by
    apply H.letters_noControl
    intro part member
    exact (label.letters part member).imp id (·.1)
  have loop := labelStep_label [] false label.letters label.single label.last
    (fun _ => label.first) (fun due => by cases due)
  have kept : ((codePoints name.units).reverse.dropWhile fun part => part = ("-" : JsString)).reverse =
      codePoints name.units := by
    have start : (codePoints name.units).rdropWhile (fun part => part = hyphen) =
        codePoints name.units := by
      rw [List.rdropWhile_eq_self_iff]
      intro nonempty same
      refine label.last ?_
      rw [List.getLast?_eq_some_getLast nonempty, of_decide_eq_true same]
    exact start
  unfold asNormalizedName normalizeProjectLabel
  rw [label.folded]
  simp only [silent, Bool.or_self, Bool.false_eq_true, ↓reduceIte]
  generalize (codePoints name.units).foldl (labelStep H.toUnicode) ([], false) = written at loop
  obtain ⟨output, pending⟩ := written
  dsimp only at loop ⊢
  rw [loop]
  simp only [Bool.false_eq_true, ↓reduceIte, List.nil_append]
  rw [List.take_of_length_le label.bounded, kept]
  simp only [List.isEmpty_iff, label.nonempty, ↓reduceIte, joinStrings_codePoints]

/-- Every beginning of the output is folded. -/
def Folded (H : NameHost) (output : List JsString) : Prop :=
  ∀ start, start <+: output → H.nfkcLower (joinStrings start) = joinStrings start

/-- The parts written since the last hyphen are a run of the text read. -/
structure Running (H : NameHost) (text : JsString) (output : List JsString) (pending : Bool)
    (rest : List JsString) : Prop where
  letters : Lettered H output
  first : output.head? ≠ some hyphen
  last : output.getLast? ≠ some hyphen
  single : output.IsChain fun a b => a = hyphen → b ≠ hyphen
  folded : Folded H output
  run : ∃ done run before, output = done ++ run ∧ (done = [] ∨ ∃ d, done = d ++ [hyphen]) ∧
    (∀ c ∈ run, H.isLetterOrNumber c = true ∧ Whole c) ∧
    text = before ++ joinStrings (if pending then [] else run) ++ joinStrings rest

theorem append_assoc (a b c : JsString) : a ++ b ++ c = a ++ (b ++ c) := by
  apply jsString_ext
  simp [append_units]

theorem append_empty (a : JsString) : a ++ ⟨[]⟩ = a := by
  apply jsString_ext
  simp [append_units]

theorem empty_append (a : JsString) : (⟨[]⟩ : JsString) ++ a = a := by
  apply jsString_ext
  simp [append_units]

theorem joinStrings_singleton (part : JsString) : joinStrings [part] = part := by
  unfold joinStrings
  apply jsString_ext
  simp

theorem joinStrings_nil : joinStrings [] = ⟨[]⟩ := rfl

/-- A run that occurs in the folded text is folded. -/
theorem folded_run {value text before after : JsString} {run : List JsString}
    (folded : H.nfkcLower value = text) (letters : ∀ c ∈ run, H.isLetterOrNumber c = true ∧ Whole c)
    (occurs : text = before ++ joinStrings run ++ after) :
    H.nfkcLower (joinStrings run) = joinStrings run := by
  refine H.nfkcLower_run value before _ after (folded.trans occurs) ?_
  rw [codePoints_joinStrings fun part member => (letters part member).2]
  exact fun c member => (letters c member).1

/-- One more part of the run, after a hyphen or at the start. -/
theorem Folded.snoc {value text before after : JsString} (folded : Folded H output)
    (read : H.nfkcLower value = text) (same : output = done ++ run)
    (apart : done = [] ∨ ∃ d, done = d ++ [hyphen])
    (letters : ∀ c ∈ run ++ [part], H.isLetterOrNumber c = true ∧ Whole c)
    (occurs : text = before ++ joinStrings (run ++ [part]) ++ after) :
    Folded H (output ++ [part]) := by
  have whole := folded_run read letters occurs
  intro start initial
  rcases List.prefix_concat_iff.mp initial with rfl | initial
  · rcases apart with rfl | ⟨d, rfl⟩
    · rwa [same, List.nil_append]
    · have head := folded d ⟨hyphen :: run, by simp [same]⟩
      rw [same, List.append_assoc, joinStrings_append, joinStrings_append, joinStrings_singleton,
        H.nfkcLower_hyphen, head, whole]
  · exact folded start initial

theorem Folded.hyphen (folded : Folded H output) : Folded H (output ++ [hyphen]) := by
  intro start initial
  rcases List.prefix_concat_iff.mp initial with rfl | initial
  · have empty : H.nfkcLower ⟨[]⟩ = ⟨[]⟩ := H.nfkcLower_ascii _ (by simp)
    have all := folded output (List.prefix_refl _)
    rw [joinStrings_append, joinStrings_singleton, ← append_empty (joinStrings output ++ JsString.hyphen),
      H.nfkcLower_hyphen, all, empty]
  · exact folded start initial

theorem labelStep_other {part : JsString} (other : H.isLetterOrNumber part = false)
    (output : List JsString) (pending : Bool) :
    labelStep H.toUnicode (output, pending) part = (output, pending || !output.isEmpty) := by
  simp [labelStep, other]

theorem labelStep_letter {part : JsString} (letter : H.isLetterOrNumber part = true)
    (output : List JsString) (pending : Bool) :
    labelStep H.toUnicode (output, pending) part =
      (output ++ (if pending && !output.isEmpty then [hyphen] else []) ++ [part], false) := by
  simp only [labelStep, letter, ↓reduceIte]
  rfl

theorem Running.step {value text part : JsString} {rest output : List JsString} {pending : Bool}
    (read : H.nfkcLower value = text) (member : part ∈ codePoints text.units)
    (running : Running H text output pending (part :: rest)) :
    Running H text (labelStep H.toUnicode (output, pending) part).1
      (labelStep H.toUnicode (output, pending) part).2 rest := by
  obtain ⟨done, run, before, same, apart, letters, occurs⟩ := running.run
  have split : joinStrings (part :: rest) = part ++ joinStrings rest := by
    rw [← List.singleton_append, joinStrings_append, joinStrings_singleton]
  rw [split] at occurs
  cases letter : H.isLetterOrNumber part with
  | false =>
    rw [labelStep_other letter]
    refine { running with run := ?_ }
    dsimp only
    cases due : pending || !output.isEmpty with
    | true =>
      refine ⟨done, run, before ++ joinStrings (if pending then [] else run) ++ part, same, apart,
        letters, ?_⟩
      rw [if_pos rfl, joinStrings_nil, append_empty, occurs, ← append_assoc]
    | false =>
      rw [Bool.or_eq_false_iff, Bool.not_eq_false', List.isEmpty_iff] at due
      have empty : run = [] := by
        have := due.2.symm.trans same
        exact (List.append_eq_nil_iff.mp this.symm).2
      subst empty
      refine ⟨done, [], before ++ part, same, apart, letters, ?_⟩
      rw [occurs]
      simp only [ite_self, joinStrings_nil, append_empty, append_assoc]
  | true =>
    have whole : Whole part := whole_of_letter member letter
    have own : part ≠ hyphen := by
      rintro rfl
      rw [H.hyphen_notLetter] at letter
      cases letter
    rw [labelStep_letter letter]
    dsimp only
    cases separated : pending && !output.isEmpty with
    | true =>
      rw [Bool.and_eq_true, Bool.not_eq_true', List.isEmpty_eq_false_iff] at separated
      obtain ⟨rfl, started⟩ := separated
      rw [if_pos rfl, joinStrings_nil, append_empty] at occurs
      have occurs' : text = before ++ joinStrings ([] ++ [part]) ++ joinStrings rest := by
        rw [occurs, List.nil_append, joinStrings_singleton, append_assoc]
      have alone : ∀ c ∈ [] ++ [part], H.isLetterOrNumber c = true ∧ Whole c := by
        intro c single
        rw [List.nil_append, List.mem_singleton] at single
        exact single ▸ ⟨letter, whole⟩
      rw [if_pos rfl]
      refine
        { letters := ?_
          first := ?_
          last := ?_
          single := ?_
          folded := ?_
          run := ⟨output ++ [hyphen], [part], before, rfl, .inr ⟨output, rfl⟩, alone, occurs'⟩ }
      · intro c written
        rw [List.append_assoc, List.mem_append] at written
        rcases written with written | written
        · exact running.letters c written
        · rcases List.mem_cons.mp written with rfl | written
          · exact .inl rfl
          · rw [List.mem_singleton.mp written]
            exact .inr ⟨letter, whole⟩
      · rw [List.append_assoc, List.head?_append_of_ne_nil _ started]
        exact running.first
      · rw [List.getLast?_concat]
        simpa using own
      · rw [List.append_assoc, List.isChain_append]
        refine ⟨running.single, ?_, ?_⟩
        · exact List.isChain_cons_cons.mpr ⟨fun _ => own, List.isChain_singleton _⟩
        · intro c final d next before'
          refine absurd ?_ running.last
          rw [Option.mem_def] at final
          rw [final, before']
      · exact (running.folded.hyphen).snoc read (List.append_nil _).symm (.inr ⟨output, rfl⟩) alone occurs'
    | false =>
      have occurs' : text = before ++ joinStrings (run ++ [part]) ++ joinStrings rest := by
        rw [Bool.and_eq_false_iff, Bool.not_eq_false', List.isEmpty_iff] at separated
        rw [joinStrings_append, joinStrings_singleton, occurs]
        rcases separated with rfl | rfl
        · simp [append_assoc]
        · obtain ⟨-, rfl⟩ := List.append_eq_nil_iff.mp same.symm
          simp [append_assoc, joinStrings_nil, append_empty, empty_append]
      have letters' : ∀ c ∈ run ++ [part], H.isLetterOrNumber c = true ∧ Whole c := by
        intro c written
        rcases List.mem_append.mp written with written | written
        · exact letters c written
        · exact List.mem_singleton.mp written ▸ ⟨letter, whole⟩
      rw [if_neg Bool.false_ne_true, List.append_nil]
      refine
        { letters := ?_
          first := ?_
          last := ?_
          single := ?_
          folded := running.folded.snoc read same apart letters' occurs'
          run := ⟨done, run ++ [part], before, by rw [same, List.append_assoc], apart, letters', occurs'⟩ }
      · intro c written
        rcases List.mem_append.mp written with written | written
        · exact running.letters c written
        · rw [List.mem_singleton.mp written]
          exact .inr ⟨letter, whole⟩
      · cases output with
        | nil => simpa using own
        | cons head tail => exact running.first
      · rw [List.getLast?_concat]
        simpa using own
      · rw [List.isChain_append]
        refine ⟨running.single, List.isChain_singleton _, ?_⟩
        intro c final d next before'
        refine absurd ?_ running.last
        rw [Option.mem_def] at final
        rw [final, before']

/-- What the loop leaves, for a whole text. -/
theorem running_labels {value : JsString} :
    ∃ rest, Running H (H.nfkcLower value)
      ((codePoints (H.nfkcLower value).units).foldl (labelStep H.toUnicode) ([], false)).1 rest [] := by
  have loop : ∀ (parts output : List JsString) (pending : Bool),
      (∀ part ∈ parts, part ∈ codePoints (H.nfkcLower value).units) →
      Running H (H.nfkcLower value) output pending parts →
      ∃ rest, Running H (H.nfkcLower value)
        (parts.foldl (labelStep H.toUnicode) (output, pending)).1 rest [] := by
    intro parts
    induction parts with
    | nil => exact fun output pending _ running => ⟨pending, running⟩
    | cons part rest ih =>
      intro output pending members running
      have next := running.step rfl (members part List.mem_cons_self)
      exact ih _ _ (fun other member => members other (List.mem_cons_of_mem _ member)) next
  refine loop _ [] false (fun part member => member) ?_
  refine
    { letters := nofun
      first := nofun
      last := nofun
      single := List.isChain_nil
      folded := ?_
      run := ⟨[], [], ⟨[]⟩, rfl, .inl rfl, nofun, ?_⟩ }
  · intro start initial
    rw [List.prefix_nil.mp initial, joinStrings_nil]
    exact H.nfkcLower_ascii _ (by simp)
  · rw [joinStrings_codePoints]
    simp only [Bool.false_eq_true, ↓reduceIte, joinStrings_nil, empty_append]

/-- Whatever the normaliser gives is a label. -/
theorem label_of_normalized {value name : JsString}
    (normalized : asNormalizedName H.toUnicode value = .ok name) : Label H name := by
  obtain ⟨pending, running⟩ := @running_labels H value
  unfold asNormalizedName normalizeProjectLabel at normalized
  dsimp only at normalized
  split at normalized
  · cases normalized
  · generalize (codePoints (H.nfkcLower value).units).foldl (labelStep H.toUnicode) ([], false) =
      written at running normalized
    obtain ⟨output, due⟩ := written
    dsimp only at running normalized
    split at normalized
    · cases normalized
    · rename_i nonempty
      have named : joinStrings ((output.take maxProjectLabelCodePoints).rdropWhile
          fun part => part = hyphen) = name := Except.ok.inj normalized
      have started : (output.take maxProjectLabelCodePoints).rdropWhile (fun part => part = hyphen) ≠ [] :=
        fun empty => nonempty (List.isEmpty_iff.mpr empty)
      have final := List.rdropWhile_last_not (fun part => decide (part = hyphen)) _ started
      have initial := (List.rdropWhile_prefix (fun part => decide (part = hyphen))
        (output.take maxProjectLabelCodePoints))
      have bounded := initial.length_le.trans (List.length_take_le maxProjectLabelCodePoints output)
      have initial := initial.trans (List.take_prefix _ _)
      generalize (output.take maxProjectLabelCodePoints).rdropWhile (fun part => decide (part = hyphen)) =
        parts at named started final bounded initial
      have letters : Lettered H parts := fun part member => running.letters part (initial.subset member)
      have points : codePoints name.units = parts := by
        rw [← named]
        exact codePoints_joinStrings letters.whole
      refine
        { nonempty := points ▸ started
          letters := points ▸ letters
          first := ?_
          last := ?_
          single := points ▸ running.single.prefix initial
          bounded := points ▸ bounded
          folded := named ▸ running.folded parts initial }
      · rw [points]
        obtain ⟨after, rfl⟩ := initial
        rw [← List.head?_append_of_ne_nil _ started]
        exact running.first
      · rw [points, List.getLast?_eq_some_getLast started]
        intro same
        exact final (decide_eq_true (Option.some.inj same))

/-- Normalisation is idempotent. -/
theorem normalized_idempotent {value name : JsString}
    (normalized : asNormalizedName H.toUnicode value = .ok name) :
    asNormalizedName H.toUnicode name = .ok name :=
  (label_of_normalized normalized).normalized

end Labels

section PublishedNames

variable {H : NameHost}

/-- `<base>-<suffix>`. -/
def published (base : JsString) (suffix : List UInt16) : JsString := base ++ hyphen ++ ⟨suffix⟩

theorem published_units (base : JsString) (suffix : List UInt16) :
    (published base suffix).units = base.units ++ 0x2d :: suffix := by
  simp [published, append_units, hyphen]

theorem suffix_ascii {suffix : List UInt16} (valid : isRuntimeNameSuffix suffix = true) :
    (∀ u ∈ suffix, isLowerAlphanumeric u = true) ∧ 0x2d ∉ suffix := by
  have alphabet : ∀ u ∈ crockfordBase32Alphabet, isLowerAlphanumeric u = true ∧ u ≠ 0x2d := by
    have each : (crockfordBase32Alphabet.all fun u => isLowerAlphanumeric u && u != 0x2d) = true := rfl
    simpa using List.all_eq_true.mp each
  unfold isRuntimeNameSuffix at valid
  rw [Bool.and_eq_true, List.all_eq_true] at valid
  have members : ∀ u ∈ suffix, u ∈ crockfordBase32Alphabet := fun u member =>
    List.contains_iff_mem.mp (valid.2 u member)
  exact ⟨fun u member => (alphabet u (members u member)).1,
    fun member => (alphabet _ (members _ member)).2 rfl⟩

theorem suffix_nonempty {suffix : List UInt16} (valid : isRuntimeNameSuffix suffix = true) :
    suffix.length = 4 := by
  unfold isRuntimeNameSuffix at valid
  rw [Bool.and_eq_true, beq_iff_eq] at valid
  exact valid.1

theorem suffixOfDigest_valid (digest : Vector UInt8 32) :
    isRuntimeNameSuffix (suffixOfDigest digest).units = true := by
  have member : ∀ bits index, suffixUnit bits index ∈ crockfordBase32Alphabet := by
    intro bits index
    unfold suffixUnit
    have bound : (bits >>> (index * 5)) % 0x20 < crockfordBase32Alphabet.length :=
      Nat.mod_lt _ (by decide)
    rw [List.getD_eq_getElem?_getD, List.getElem?_eq_getElem bound]
    exact List.getElem_mem bound
  unfold isRuntimeNameSuffix suffixOfDigest
  simp [member]

theorem runtimeNameSuffix_valid (runtimeId : JsString) :
    isRuntimeNameSuffix (H.runtimeNameSuffix runtimeId).units = true := by
  rw [H.runtimeNameSuffix_eq]
  exact suffixOfDigest_valid _

theorem split_published {suffix : List UInt16} (valid : isRuntimeNameSuffix suffix = true)
    (base : JsString) :
    splitAtLastHyphen (published base suffix).units = some (base.units, suffix) := by
  rw [published_units]
  exact splitAtLastHyphen_append (suffix_ascii valid).2

/-- The parts of a published name are determined by it. -/
theorem published_inj {base base' : JsString} {suffix suffix' : List UInt16}
    (valid : isRuntimeNameSuffix suffix = true) (valid' : isRuntimeNameSuffix suffix' = true)
    (same : published base suffix = published base' suffix') : base = base' ∧ suffix = suffix' := by
  have split := split_published valid base
  rw [same, split_published valid' base'] at split
  obtain ⟨base, suffix⟩ := Prod.mk.inj (Option.some.inj split)
  exact ⟨jsString_ext base.symm, suffix.symm⟩

/-- A base is shorter than the names it is published under. -/
theorem base_ne_published (base : JsString) (suffix : List UInt16) : base ≠ published base suffix := by
  intro same
  have lengths := congrArg (List.length ∘ JsString.units) same
  simp only [Function.comp, published_units, List.length_append, List.length_cons] at lengths
  omega

theorem isPublishedNetworkName_iff {name : JsString} : isPublishedNetworkName H name = true ↔
    ∃ base suffix, name = published base suffix ∧ Label H base ∧ isRuntimeNameSuffix suffix = true := by
  unfold isPublishedNetworkName
  constructor
  · intro valid
    cases split : splitAtLastHyphen name.units with
    | none =>
      rw [split] at valid
      cases valid
    | some parts =>
      obtain ⟨base, suffix⟩ := parts
      rw [split] at valid
      dsimp only at valid
      rw [Bool.and_eq_true, Bool.and_eq_true] at valid
      obtain ⟨⟨-, suffixed⟩, normalized⟩ := valid
      cases named : asNormalizedName H.toUnicode ⟨base⟩ with
      | error message =>
        rw [named] at normalized
        cases normalized
      | ok base' =>
        rw [named] at normalized
        have same : base' = ⟨base⟩ := beq_iff_eq.mp normalized
        refine ⟨⟨base⟩, suffix, ?_, ?_, suffixed⟩
        · apply jsString_ext
          rw [published_units]
          exact (splitAtLastHyphen_some split).1
        · exact label_of_normalized (same ▸ named)
  · rintro ⟨base, suffix, rfl, label, valid⟩
    have nonempty : base.units.isEmpty = false := by
      rw [List.isEmpty_eq_false_iff]
      intro empty
      exact label.nonempty (by rw [empty]; rfl)
    have normalized : asNormalizedName H.toUnicode ⟨base.units⟩ = .ok base := label.normalized
    rw [split_published valid]
    dsimp only
    rw [nonempty, valid, normalized]
    exact beq_iff_eq.mpr rfl

theorem publishedNetworkBase_published {base : JsString} {suffix : List UInt16} (label : Label H base)
    (valid : isRuntimeNameSuffix suffix = true) :
    publishedNetworkBase H (published base suffix) = .ok base := by
  have named : isPublishedNetworkName H (published base suffix) = true :=
    isPublishedNetworkName_iff.mpr ⟨base, suffix, rfl, label, valid⟩
  unfold publishedNetworkBase asPublishedNetworkName nameParts normalizedName
  rw [if_pos named]
  dsimp only [bind, Except.bind]
  rw [split_published valid]
  exact congrArg (Except.mapError _) label.normalized

/-- A published name is read back as its parts. -/
theorem splitPublishedNetworkName_published {base : JsString} {suffix : List UInt16}
    (label : Label H base) (valid : isRuntimeNameSuffix suffix = true) :
    splitPublishedNetworkName H (published base suffix) = .ok (base, ⟨suffix⟩) := by
  have named : isPublishedNetworkName H (published base suffix) = true :=
    isPublishedNetworkName_iff.mpr ⟨base, suffix, rfl, label, valid⟩
  have normalized : asNormalizedName H.toUnicode ⟨base.units⟩ = .ok base := label.normalized
  unfold splitPublishedNetworkName asPublishedNetworkName nameParts normalizedName
  rw [if_pos named]
  dsimp only [bind, Except.bind]
  rw [split_published valid]
  dsimp only
  rw [normalized]
  rfl

theorem buildNetworkName_label {base : JsString} (label : Label H base) (runtimeId : RuntimeId) :
    buildNetworkName H base runtimeId =
      .ok (published base (H.runtimeNameSuffix runtimeId.val).units) := by
  unfold buildNetworkName normalizedName
  rw [label.normalized]
  rfl

/-- The base of a label that itself ends in a suffix is a label. -/
theorem Label.before_suffix {base : JsString} {suffix : List UInt16}
    (label : Label H (published base suffix)) (valid : isRuntimeNameSuffix suffix = true) :
    Label H base := by
  have points : codePoints (published base suffix).units =
      codePoints base.units ++ hyphen :: codePoints suffix := by
    rw [published_units]
    exact codePoints_hyphen _ _
  have letters := label.letters
  have first := label.first
  have single := label.single
  have bounded := label.bounded
  rw [points] at letters first single bounded
  have nonempty : codePoints base.units ≠ [] := by
    intro empty
    rw [empty] at first
    exact first rfl
  refine
    { nonempty := nonempty
      letters := fun part member => letters part (List.mem_append_left _ member)
      first := ?_
      last := ?_
      single := single.left_of_append
      bounded := ?_
      folded := ?_ }
  · rwa [List.head?_append_of_ne_nil _ nonempty] at first
  · intro last
    obtain ⟨-, -, apart⟩ := List.isChain_append.mp single
    exact apart hyphen last hyphen rfl rfl rfl
  · rw [List.length_append] at bounded
    exact (Nat.le_add_right _ _).trans bounded
  · have folded := label.folded
    have ascii : H.nfkcLower ⟨suffix⟩ = ⟨suffix⟩ := H.nfkcLower_ascii _ (suffix_ascii valid).1
    unfold published at folded
    rw [H.nfkcLower_hyphen, ascii] at folded
    apply jsString_ext
    have units := congrArg JsString.units folded
    simp only [append_units, List.append_assoc] at units
    exact List.append_cancel_right units

theorem nfkcLower_published {base : JsString} {suffix : List UInt16} (label : Label H base)
    (valid : isRuntimeNameSuffix suffix = true) :
    H.nfkcLower (published base suffix) = published base suffix := by
  have ascii : H.nfkcLower ⟨suffix⟩ = ⟨suffix⟩ := H.nfkcLower_ascii _ (suffix_ascii valid).1
  unfold published
  rw [H.nfkcLower_hyphen, ascii, label.folded]

theorem normalizePeerLookupName_published {base : JsString} {suffix : List UInt16}
    (label : Label H base) (valid : isRuntimeNameSuffix suffix = true) :
    normalizePeerLookupName H (published base suffix) = .ok (published base suffix) := by
  have nonempty : base.units.isEmpty = false := by
    rw [List.isEmpty_eq_false_iff]
    intro empty
    exact label.nonempty (by rw [empty]; rfl)
  have normalized : asNormalizedName H.toUnicode ⟨base.units⟩ = .ok base := label.normalized
  unfold normalizePeerLookupName
  dsimp only
  rw [nfkcLower_published label valid, split_published valid]
  dsimp only
  rw [nonempty, valid, normalized]
  simp only [Bool.not_false, Bool.and_self, ↓reduceIte]
  rfl

theorem normalizePeerLookupName_label {name : JsString} (label : Label H name) :
    normalizePeerLookupName H name = .ok name := by
  have whole : normalizedName H name = .ok name := by
    unfold normalizedName
    rw [label.normalized]
    rfl
  unfold normalizePeerLookupName
  dsimp only
  rw [label.folded]
  cases split : splitAtLastHyphen name.units with
  | none => exact whole
  | some parts =>
    obtain ⟨base, suffix⟩ := parts
    dsimp only
    cases qualified : !base.isEmpty && isRuntimeNameSuffix suffix with
    | false => exact whole
    | true =>
      rw [Bool.and_eq_true] at qualified
      have same : name = published ⟨base⟩ suffix := by
        apply jsString_ext
        rw [published_units]
        exact (splitAtLastHyphen_some split).1
      have normalized := (Label.before_suffix (same ▸ label) qualified.2).normalized
      rw [if_pos rfl, normalized]
      dsimp only
      rw [if_pos rfl]
      exact congrArg Except.ok same.symm

end PublishedNames

section PlainHost

def isUpperLetter (u : UInt16) : Bool := 0x41 ≤ u && u ≤ 0x5a

def lowerUnit (u : UInt16) : UInt16 := if isUpperLetter u then u + 0x20 else u

theorem lowerUnit_idem (u : UInt16) : lowerUnit (lowerUnit u) = lowerUnit u := by
  unfold lowerUnit isUpperLetter
  simp only [Bool.and_eq_true, decide_eq_true_eq, UInt16.le_iff_toNat_le]
  split
  · rename_i upper
    rw [if_neg]
    rw [UInt16.toNat_add]
    simp at upper ⊢
    omega
  · rfl

theorem lowerUnit_lower {u : UInt16} (lower : isLowerAlphanumeric u = true) : lowerUnit u = u := by
  unfold lowerUnit isUpperLetter
  unfold isLowerAlphanumeric isDigit at lower
  simp only [Bool.and_eq_true, Bool.or_eq_true, decide_eq_true_eq, UInt16.le_iff_toNat_le] at lower ⊢
  rw [if_neg]
  simp at lower ⊢
  omega

/-- Letters and digits of ASCII. -/
def isPlainLetter (codePoint : JsString) : Bool :=
  match codePoint.units with
  | [u] => isLowerAlphanumeric u || isUpperLetter u
  | _ => false

theorem plain_noControl {u : UInt16} (plain : u = 0x2d ∨ isPlainLetter ⟨[u]⟩ = true) :
    ¬(u < 0x20 ∨ u = 0x7f) := by
  unfold isPlainLetter isLowerAlphanumeric isDigit isUpperLetter at plain
  simp only [Bool.and_eq_true, Bool.or_eq_true, decide_eq_true_eq, UInt16.le_iff_toNat_le,
    UInt16.lt_iff_toNat_lt, ← UInt16.toNat_inj] at plain ⊢
  simp at plain ⊢
  omega

theorem map_lowerUnit {units : List UInt16} (lowered : ∀ u ∈ units, lowerUnit u = u) :
    units.map lowerUnit = units := by
  induction units with
  | nil => rfl
  | cons u rest ih =>
    rw [List.map_cons, lowered u List.mem_cons_self,
      ih fun v member => lowered v (List.mem_cons_of_mem _ member)]

theorem plain_units {units : List UInt16}
    (letters : ∀ part ∈ codePoints units, part = hyphen ∨ isPlainLetter part = true) :
    ∀ u ∈ units, u = 0x2d ∨ isPlainLetter ⟨[u]⟩ = true := by
  have single : ∀ {u : UInt16} {part : JsString}, part = ⟨[u]⟩ →
      part = hyphen ∨ isPlainLetter part = true → u = 0x2d ∨ isPlainLetter ⟨[u]⟩ = true := by
    rintro u part rfl (same | plain)
    · exact .inl (List.cons.inj (JsString.mk.inj same)).1
    · exact .inr plain
  induction units using codePoints.induct with
  | case1 => exact nofun
  | case2 u =>
    intro v member
    rw [List.mem_singleton.mp member]
    exact single rfl (letters _ List.mem_cons_self)
  | case3 u v rest pair ih =>
    rw [codePoints, if_pos pair] at letters
    rcases letters _ List.mem_cons_self with same | plain
    · cases same
    · cases plain
  | case4 u v rest apart ih =>
    rw [codePoints, if_neg apart] at letters
    intro w member
    rcases List.mem_cons.mp member with rfl | member
    · exact single rfl (letters _ List.mem_cons_self)
    · exact ih (fun part member => letters part (List.mem_cons_of_mem _ member)) w member

theorem surrogate_notPlain {u : UInt16} (surrogate : (isHighSurrogate u || isLowSurrogate u) = true) :
    isPlainLetter ⟨[u]⟩ = false := by
  unfold isHighSurrogate isLowSurrogate at surrogate
  unfold isPlainLetter isLowerAlphanumeric isDigit isUpperLetter
  rw [Bool.eq_false_iff]
  simp only [Bool.and_eq_true, Bool.or_eq_true, decide_eq_true_eq, UInt16.le_iff_toNat_le, ne_eq]
    at surrogate ⊢
  simp at surrogate ⊢
  omega

/-- A host that knows ASCII, with the digests it is given. -/
def plainHost (sha256 : JsString → Vector UInt8 32) : NameHost where
  nfkcLower value := ⟨value.units.map lowerUnit⟩
  hasControl value := value.units.any fun u => u < 0x20 || u == 0x7f
  isLetterOrNumber := isPlainLetter
  runtimeNameSuffix runtimeId := suffixOfDigest (sha256 runtimeId)
  sha256 := sha256
  runtimeNameSuffix_eq _ := rfl
  nfkcLower_hyphen a b := by
    apply jsString_ext
    simp only [append_units, List.map_append]
    rfl
  nfkcLower_run value before run after occurs _ := by
    apply jsString_ext
    have units := congrArg JsString.units occurs
    simp only [append_units] at units
    have lowered : ∀ u ∈ run.units, lowerUnit u = u := by
      intro u member
      have written : u ∈ value.units.map lowerUnit := by
        rw [units]
        exact List.mem_append_left _ (List.mem_append_right _ member)
      obtain ⟨v, -, rfl⟩ := List.mem_map.mp written
      exact lowerUnit_idem v
    exact map_lowerUnit lowered
  nfkcLower_ascii value ascii := by
    apply jsString_ext
    exact map_lowerUnit fun u member => lowerUnit_lower (ascii u member)
  hyphen_notLetter := by decide
  surrogate_notLetter u surrogate := surrogate_notPlain surrogate
  letters_noControl value letters := by
    rw [List.any_eq_false]
    intro u member
    simpa using plain_noControl (plain_units letters u member)

end PlainHost

end PiToPi.Naming
