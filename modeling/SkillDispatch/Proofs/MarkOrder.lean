import Mathlib.Data.List.Chain
import SkillDispatch.Proofs.Decomposing
import SkillDispatch.Proofs.MaximalRuns

set_option autoImplicit false

namespace SkillDispatch

open Text Unicode

/-! ### Values of a list of characters -/

/-- The folded forms of the tokens in a list of characters. -/
def valuesOf (chars : List Char) : List String :=
  runValues (runs 0 chars)

theorem tokenValues_eq_valuesOf (text : String) : tokenValues text = valuesOf text.toList :=
  tokenValues_eq_runValues text

/-- A word is one token, or none if there is no letter or numeral in it. -/
theorem valuesOf_word {word : List Char} (token : ∀ c ∈ word, isTokenChar c = true) :
    valuesOf word = if word.any isAlphanumeric then [String.ofList (fold word)] else [] := by
  by_cases empty : word = []
  · rw [empty]
    rfl
  · rw [valuesOf, runs_word token empty, runValues, List.filter_cons, Run.isToken]
    split
    · rfl
    · rfl

theorem valuesOf_append {closed : List Char}
    (separates : ∀ c ∈ closed.getLast?, isTokenChar c = false) (rest : List Char) :
    valuesOf (closed ++ rest) = valuesOf closed ++ valuesOf rest := by
  rw [valuesOf, runs_append separates, runValues_append, runValues_runs (0 + byteLength closed)]
  rfl

theorem valuesOf_separator {c : Char} (separates : isTokenChar c = false) (first rest : List Char) :
    valuesOf (first ++ c :: rest) = valuesOf first ++ valuesOf rest := by
  rw [valuesOf, runs_separated separates, runValues_append, runValues_runs (0 + byteLength first + _)]
  rfl

/-- Words with the same letters have the same values in any text. -/
theorem valuesOf_congr (first second : List Char) (firstToken : ∀ c ∈ first, isTokenChar c = true)
    (secondToken : ∀ c ∈ second, isTokenChar c = true)
    (letters : ∀ rest, SameLetters (first ++ rest) (second ++ rest))
    (alphanumeric : first.any isAlphanumeric = second.any isAlphanumeric)
    (before after : List Char) :
    valuesOf (before ++ (first ++ after)) = valuesOf (before ++ (second ++ after)) := by
  obtain ⟨closed, front, isBefore, frontToken, separates⟩ := exists_word_suffix before
  -- A word around the two has the same letters with the one as with the other.
  have inWord : ∀ rest, (∀ c ∈ rest, isTokenChar c = true) →
      valuesOf (front ++ (first ++ rest)) = valuesOf (front ++ (second ++ rest)) := by
    intro rest token
    have word : ∀ {middle : List Char}, (∀ c ∈ middle, isTokenChar c = true) →
        ∀ c ∈ front ++ (middle ++ rest), isTokenChar c = true := fun middleToken =>
      List.forall_mem_append.2 ⟨frontToken, List.forall_mem_append.2 ⟨middleToken, token⟩⟩
    rw [valuesOf_word (word firstToken), valuesOf_word (word secondToken),
      ((letters rest).append_left front).fold_eq_fold]
    simp only [List.any_append, alphanumeric]
  rw [isBefore, List.append_assoc, List.append_assoc, valuesOf_append separates,
    valuesOf_append separates]
  congr 1
  rcases word_or_separator after with token | ⟨rest, c, more, isAfter, token, separator⟩
  · exact inWord after token
  · have regroup : ∀ middle : List Char,
        front ++ (middle ++ after) = (front ++ (middle ++ rest)) ++ c :: more := by
      intro middle
      rw [isAfter]
      simp only [List.append_assoc]
    rw [regroup, regroup, valuesOf_separator separator, valuesOf_separator separator,
      inWord rest token]

/-! ### Canonical order -/

/-- Two marks that both belong to tokens, or both separate them, may change places. -/
theorem valuesOf_swap {c d : Char} (first : combiningClass c ≠ 0) (second : combiningClass d ≠ 0)
    (alike : isTokenChar c = isTokenChar d) (before after : List Char) :
    valuesOf (before ++ c :: d :: after) = valuesOf (before ++ d :: c :: after) := by
  cases kind : isTokenChar c with
  | true =>
    have other : isTokenChar d = true := alike ▸ kind
    refine valuesOf_congr [c, d] [d, c] ?_ ?_
      (SameLetters.swap first second) ?_ before after
    · simp [kind, other]
    · simp [kind, other]
    · simp [Bool.or_comm]
  | false =>
    have other : isTokenChar d = false := alike ▸ kind
    have apart : ∀ {mark : Char}, isTokenChar mark = false → ∀ rest,
        valuesOf (mark :: rest) = valuesOf rest := fun separates rest =>
      valuesOf_separator separates [] rest
    rw [valuesOf_separator kind, valuesOf_separator other, apart kind, apart other]

def leadingMarks (chars : List Char) : List Char :=
  chars.takeWhile fun c => combiningClass c ≠ 0

/-- A text in which canonical order brings no mark past another one, if the one separates tokens and
the other belongs to them. -/
inductive Unmixed : List Char → Prop
  | nil : Unmixed []
  | cons {c : Char} {rest : List Char}
      (alike : ∀ d ∈ leadingMarks rest, combiningClass d < combiningClass c →
        isTokenChar d = isTokenChar c)
      (tail : Unmixed rest) : Unmixed (c :: rest)

theorem unmixed_cons_iff {c : Char} {rest : List Char} :
    Unmixed (c :: rest) ↔
      (∀ d ∈ leadingMarks rest, combiningClass d < combiningClass c →
        isTokenChar d = isTokenChar c) ∧ Unmixed rest := by
  constructor
  · rintro (_ | ⟨alike, tail⟩)
    exact ⟨alike, tail⟩
  · rintro ⟨alike, tail⟩
    exact .cons alike tail

instance Unmixed.decidable : DecidablePred Unmixed
  | [] => .isTrue .nil
  | c :: rest =>
    have : Decidable (∀ d ∈ leadingMarks rest, combiningClass d < combiningClass c →
        isTokenChar d = isTokenChar c) := List.decidableBAll _ _
    have := Unmixed.decidable rest
    decidable_of_iff' _ unmixed_cons_iff

theorem mem_leadingMarks_insertByClass {c d : Char} {chars : List Char} :
    d ∈ leadingMarks (insertByClass c chars) ↔ d ∈ leadingMarks (c :: chars) := by
  induction chars with
  | nil => rfl
  | cons e rest ih =>
    rw [insertByClass]
    split
    · rename_i passes
      have first : combiningClass c ≠ 0 := by omega
      have second : combiningClass e ≠ 0 := by omega
      simp only [leadingMarks, List.takeWhile_cons, decide_eq_true first, decide_eq_true second,
        if_true, List.mem_cons] at ih ⊢
      rw [ih]
      exact or_left_comm
    · rfl

theorem mem_leadingMarks_canonicalOrder {d : Char} {chars : List Char} :
    d ∈ leadingMarks (canonicalOrder chars) ↔ d ∈ leadingMarks chars := by
  induction chars with
  | nil => rfl
  | cons c rest ih =>
    rw [canonicalOrder_cons, mem_leadingMarks_insertByClass]
    simp only [leadingMarks, List.takeWhile_cons] at ih ⊢
    split
    · rw [List.mem_cons, List.mem_cons, ih]
    · rfl

/-- A mark that passes only marks of its own kind may be put into its place. -/
theorem valuesOf_insertByClass {c : Char} {chars : List Char}
    (alike : ∀ d ∈ leadingMarks chars, combiningClass d < combiningClass c →
      isTokenChar d = isTokenChar c) (before : List Char) :
    valuesOf (before ++ insertByClass c chars) = valuesOf (before ++ c :: chars) := by
  induction chars generalizing before with
  | nil => rfl
  | cons d rest ih =>
    rw [insertByClass]
    split
    · rename_i passes
      have isMark : combiningClass d ≠ 0 := by omega
      have block : leadingMarks (d :: rest) = d :: leadingMarks rest := by
        rw [leadingMarks, List.takeWhile_cons, if_pos (decide_eq_true isMark)]
        rfl
      rw [block] at alike
      obtain ⟨here, later⟩ := List.forall_mem_cons.1 alike
      have moved := ih later (before ++ [d])
      simp only [List.append_assoc, List.singleton_append] at moved
      rw [moved, valuesOf_swap isMark (by omega) (here passes.2)]
    · rfl

/-- Canonical order keeps the values, if it mixes no marks of different kinds. -/
theorem valuesOf_canonicalOrder {chars : List Char} (unmixed : Unmixed chars)
    (before : List Char) :
    valuesOf (before ++ canonicalOrder chars) = valuesOf (before ++ chars) := by
  induction unmixed generalizing before with
  | nil => rfl
  | @cons c rest alike _ ih =>
    have inPlace := ih (before ++ [c])
    simp only [List.append_assoc, List.singleton_append] at inPlace
    rw [canonicalOrder_cons, valuesOf_insertByClass, inPlace]
    exact fun d member => alike d (mem_leadingMarks_canonicalOrder.1 member)

/-! ### Texts in canonical order -/

/-- A text in which no mark is followed by one of lower class. -/
def Ordered (chars : List Char) : Prop :=
  chars.IsChain fun c d => ¬(0 < combiningClass d ∧ combiningClass d < combiningClass c)

theorem ordered_cons_iff {c : Char} {rest : List Char} :
    Ordered (c :: rest) ↔
      (∀ d ∈ rest.head?, ¬(0 < combiningClass d ∧ combiningClass d < combiningClass c)) ∧
        Ordered rest :=
  List.isChain_cons

theorem head_insertByClass {c d : Char} {chars : List Char}
    (first : d ∈ (insertByClass c chars).head?) : d = c ∨ d ∈ chars.head? := by
  cases chars with
  | nil => exact Or.inl (Option.some.inj first).symm
  | cons e rest =>
    rw [insertByClass] at first
    split at first
    · exact Or.inr first
    · exact Or.inl (Option.some.inj first).symm

theorem ordered_insertByClass (c : Char) {chars : List Char} (ordered : Ordered chars) :
    Ordered (insertByClass c chars) := by
  induction chars with
  | nil => exact List.isChain_singleton c
  | cons d rest ih =>
    obtain ⟨here, later⟩ := ordered_cons_iff.1 ordered
    rw [insertByClass]
    split
    · rename_i passes
      refine ordered_cons_iff.2 ⟨fun e first => ?_, ih later⟩
      rcases head_insertByClass first with same | next
      · subst same
        omega
      · exact here e next
    · rename_i stays
      refine ordered_cons_iff.2 ⟨?_, ordered⟩
      rintro e ⟨⟩
      exact stays

theorem ordered_canonicalOrder (chars : List Char) : Ordered (canonicalOrder chars) := by
  induction chars with
  | nil => exact List.isChain_nil
  | cons c rest ih => exact ordered_insertByClass c ih

theorem canonicalOrder_of_ordered {chars : List Char} (ordered : Ordered chars) :
    canonicalOrder chars = chars := by
  induction chars with
  | nil => rfl
  | cons c rest ih =>
    obtain ⟨here, later⟩ := ordered_cons_iff.1 ordered
    rw [canonicalOrder_cons, ih later]
    cases rest with
    | nil => rfl
    | cons d more =>
      rw [insertByClass]
      exact if_neg (here d rfl)

theorem class_le_of_mem_leadingMarks {c d : Char} {rest : List Char} (ordered : Ordered (c :: rest))
    (member : d ∈ leadingMarks rest) : combiningClass c ≤ combiningClass d := by
  induction rest generalizing c with
  | nil => cases member
  | cons e more ih =>
    obtain ⟨here, later⟩ := ordered_cons_iff.1 ordered
    rw [leadingMarks, List.takeWhile_cons] at member
    split at member
    · rename_i isMark
      have marks : combiningClass e ≠ 0 := of_decide_eq_true isMark
      have notLower := here e rfl
      have first : combiningClass c ≤ combiningClass e := by omega
      rcases List.mem_cons.1 member with same | next
      · exact same ▸ first
      · exact Nat.le_trans first (ih later next)
    · cases member

theorem unmixed_of_ordered {chars : List Char} (ordered : Ordered chars) : Unmixed chars := by
  induction chars with
  | nil => exact .nil
  | cons c rest ih =>
    refine .cons (fun d member lower => ?_) (ih (ordered_cons_iff.1 ordered).2)
    have bound := class_le_of_mem_leadingMarks ordered member
    omega

theorem mem_insertByClass {c d : Char} {chars : List Char} :
    d ∈ insertByClass c chars ↔ d ∈ c :: chars := by
  induction chars with
  | nil => rfl
  | cons e rest ih =>
    rw [insertByClass]
    split
    · rw [List.mem_cons, ih, List.mem_cons, List.mem_cons, List.mem_cons]
      exact or_left_comm
    · rfl

theorem mem_canonicalOrder {d : Char} {chars : List Char} :
    d ∈ canonicalOrder chars ↔ d ∈ chars := by
  induction chars with
  | nil => rfl
  | cons c rest ih =>
    rw [canonicalOrder_cons, mem_insertByClass, List.mem_cons, List.mem_cons, ih]

end SkillDispatch
