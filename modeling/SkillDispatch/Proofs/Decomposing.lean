import SkillDispatch.Proofs.Folding

set_option autoImplicit false

namespace SkillDispatch.Text

open Unicode

/-! ### What casing sees -/

/-- Casing looks through a character, or sees whether it is a cased letter. -/
theorem leansOnLetter_cons (c : Char) (chars : List Char) :
    leansOnLetter (c :: chars) = if isCaseIgnorable c then leansOnLetter chars else isCased c := by
  rw [leansOnLetter, List.dropWhile_cons]
  cases isCaseIgnorable c
  · rfl
  · rfl

/-- Of pieces that are cased alike, casing sees what it sees of any one that it sees. -/
theorem leansOnLetter_append {pieces : List Char} {cased : Bool}
    (alike : ∀ piece ∈ pieces, isCaseIgnorable piece = false → isCased piece = cased)
    (chars : List Char) :
    leansOnLetter (pieces ++ chars) =
      if pieces.all isCaseIgnorable then leansOnLetter chars else cased := by
  induction pieces with
  | nil => rfl
  | cons c rest ih =>
    obtain ⟨here, later⟩ := List.forall_mem_cons.1 alike
    rw [List.cons_append, leansOnLetter_cons, ih later, List.all_cons]
    cases seen : isCaseIgnorable c with
    | true => rfl
    | false => exact here seen

/-- Casing sees the same of a character and of its pieces, in any order. -/
theorem leansOnLetter_pieces {c : Char} {pieces : List Char} (splits : Splits c pieces)
    {others : List Char} (same : ∀ d, d ∈ others ↔ d ∈ pieces) (chars : List Char) :
    leansOnLetter (others ++ chars) = leansOnLetter (c :: chars) := by
  have all : others.all isCaseIgnorable = pieces.all isCaseIgnorable := by
    rw [Bool.eq_iff_iff, List.all_eq_true, List.all_eq_true]
    exact forall_congr' fun d => imp_congr_left (same d)
  rw [leansOnLetter_append (fun piece member => splits.cased piece ((same piece).1 member)), all,
    ← splits.ignorable, leansOnLetter_cons]

theorem leansOnLetter_swap {c d : Char} (first : combiningClass c ≠ 0)
    (second : combiningClass d ≠ 0) (chars : List Char) :
    leansOnLetter (c :: d :: chars) = leansOnLetter (d :: c :: chars) := by
  have uncased : ∀ mark ∈ [c, d], isCaseIgnorable mark = false → isCased mark = false := by
    simp only [List.forall_mem_cons]
    exact ⟨not_cased_of_class first, not_cased_of_class second, nofun⟩
  have swapped : ∀ mark ∈ [d, c], isCaseIgnorable mark = false → isCased mark = false :=
    fun mark member => uncased mark (List.mem_reverse.2 member)
  have before := leansOnLetter_append uncased chars
  have after := leansOnLetter_append swapped chars
  simp only [List.all_cons, List.all_nil, Bool.and_true] at before after
  rw [Bool.and_comm] at after
  exact before.trans after.symm

/-! ### Texts with the same letters -/

/-- Two texts that have the same letters behind any text, and of which casing sees the same. -/
structure SameLetters (first second : List Char) : Prop where
  leans : leansOnLetter first = leansOnLetter second
  letters : ∀ before, lettersAfter before first = lettersAfter before second

namespace SameLetters

variable {first second third : List Char}

theorem refl (chars : List Char) : SameLetters chars chars :=
  ⟨rfl, fun _ => rfl⟩

theorem trans (left : SameLetters first second) (right : SameLetters second third) :
    SameLetters first third :=
  ⟨left.leans.trans right.leans, fun before => (left.letters before).trans (right.letters before)⟩

theorem cons (same : SameLetters first second) (c : Char) :
    SameLetters (c :: first) (c :: second) where
  leans := by rw [leansOnLetter_cons, leansOnLetter_cons, same.leans]
  letters := by
    intro before
    rw [lettersAfter, lettersAfter, same.letters, smallSigma, smallSigma, same.leans]

theorem append_left (same : SameLetters first second) (front : List Char) :
    SameLetters (front ++ first) (front ++ second) := by
  induction front with
  | nil => exact same
  | cons c front ih => exact ih.cons c

theorem fold_eq_fold (same : SameLetters first second) : fold first = fold second := by
  rw [fold_eq, fold_eq, same.letters]

end SameLetters

/-- Of the text in front, only what casing sees of it counts. -/
theorem lettersAfter_congr {before other : List Char}
    (leans : leansOnLetter before = leansOnLetter other) (chars : List Char) :
    lettersAfter before chars = lettersAfter other chars := by
  induction chars generalizing before other with
  | nil => rfl
  | cons c after ih =>
    have further : leansOnLetter (c :: before) = leansOnLetter (c :: other) := by
      rw [leansOnLetter_cons, leansOnLetter_cons, leans]
    rw [lettersAfter, lettersAfter, ih further, smallSigma, smallSigma, leans]

theorem lettersAfter_append {pieces : List Char} (noSigma : 'Σ' ∉ pieces)
    (before chars : List Char) :
    lettersAfter before (pieces ++ chars) =
      pieces.flatMap bareLetters ++ lettersAfter (pieces.reverse ++ before) chars := by
  induction pieces generalizing before with
  | nil => rfl
  | cons c rest ih =>
    obtain ⟨notSigma, noneLater⟩ := not_or.1 (mt List.mem_cons.2 noSigma)
    rw [List.cons_append, lettersAfter, if_neg (Ne.symm notSigma), ih noneLater, List.flatMap_cons,
      List.append_assoc, List.reverse_cons, List.append_assoc]
    rfl

theorem SameLetters.decompose (c : Char) (chars : List Char) :
    SameLetters (Unicode.decompose c ++ chars) (c :: chars) := by
  have splits := decompose_splits c
  by_cases sigma : c = 'Σ'
  · have whole : Unicode.decompose 'Σ' = ['Σ'] := by decide +kernel
    rw [sigma, whole]
    exact .refl _
  refine ⟨leansOnLetter_pieces splits (fun d => Iff.rfl) chars, fun before => ?_⟩
  rw [lettersAfter_append (mt splits.sigma sigma), flatMap_bareLetters_decompose, lettersAfter,
    if_neg sigma]
  congr 1
  exact lettersAfter_congr (leansOnLetter_pieces splits (fun d => List.mem_reverse) before) chars

theorem SameLetters.flatMap_decompose (chars : List Char) :
    SameLetters (chars.flatMap Unicode.decompose) chars := by
  induction chars with
  | nil => exact .refl []
  | cons c rest ih => exact (ih.append_left (Unicode.decompose c)).trans (.decompose c rest)

theorem SameLetters.swap {c d : Char} (first : combiningClass c ≠ 0) (second : combiningClass d ≠ 0)
    (chars : List Char) : SameLetters (c :: d :: chars) (d :: c :: chars) := by
  have noLetters : ∀ {mark : Char}, combiningClass mark ≠ 0 → ∀ before rest,
      lettersAfter before (mark :: rest) = lettersAfter (mark :: before) rest := by
    intro mark moves before rest
    have isMark := isMark_of_class moves
    have notSigma : mark ≠ 'Σ' := by
      rintro rfl
      exact absurd isMark (by decide +kernel)
    rw [lettersAfter, if_neg notSigma, (bareLetters_eq_nil_iff mark).2 isMark]
    rfl
  refine ⟨leansOnLetter_swap first second chars, fun before => ?_⟩
  rw [noLetters first, noLetters second, noLetters second, noLetters first]
  exact lettersAfter_congr (leansOnLetter_swap second first before) chars

theorem SameLetters.insertByClass (c : Char) (chars : List Char) :
    SameLetters (Text.insertByClass c chars) (c :: chars) := by
  induction chars with
  | nil => exact .refl [c]
  | cons d rest ih =>
    rw [Text.insertByClass]
    split
    · rename_i passes
      exact (ih.cons d).trans (.swap (by omega) (by omega) rest)
    · exact .refl _

theorem SameLetters.canonicalOrder (chars : List Char) :
    SameLetters (Text.canonicalOrder chars) chars := by
  induction chars with
  | nil => exact .refl []
  | cons c rest ih => exact (SameLetters.insertByClass c _).trans (ih.cons c)

theorem fold_decomposed (chars : List Char) : fold (decomposed chars) = fold chars :=
  ((SameLetters.canonicalOrder _).trans (.flatMap_decompose chars)).fold_eq_fold

end SkillDispatch.Text

namespace SkillDispatch

open Text

def nfd (text : String) : String :=
  String.ofList (decomposed text.toList)

theorem normalize_nfd (word : String) : normalize (nfd word) = normalize word := by
  rw [normalize, normalize, nfd, String.toList_ofList, fold_decomposed]

end SkillDispatch
