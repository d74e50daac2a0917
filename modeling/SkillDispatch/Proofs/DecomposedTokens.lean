import SkillDispatch.Proofs.MarkOrder

set_option autoImplicit false

/- Tokens of decomposed texts. A mark that is no letter separates tokens once it stands alone: where
such a mark comes after the last letter of a token the token keeps its value, and where letters
follow it the token falls apart. -/
namespace SkillDispatch

open Text Unicode

/-! ### Letters and values -/

theorem any_alphanumeric_decompose (chars : List Char) :
    (chars.flatMap decompose).any isAlphanumeric = chars.any isAlphanumeric := by
  rw [List.any_flatMap]
  exact congrArg (chars.any ·) (funext fun c => (decompose_splits c).alphanumeric.symm)

theorem isAlphanumeric_of_separates {c : Char} (separates : isTokenChar c = false) :
    isAlphanumeric c = false := by
  rw [isTokenChar, Bool.or_eq_false_iff, Bool.or_eq_false_iff] at separates
  exact separates.1.1

/-- A text has no tokens exactly when it has no letter and no numeral. -/
theorem valuesOf_eq_nil_iff (chars : List Char) :
    valuesOf chars = [] ↔ chars.any isAlphanumeric = false := by
  induction chars using word_induction with
  | word chars token =>
    rw [valuesOf_word token]
    cases chars.any isAlphanumeric <;> simp
  | separator first c rest token separates ih =>
    rw [valuesOf_separator separates, List.append_eq_nil_iff, ih, valuesOf_word token,
      List.any_append, List.any_cons, isAlphanumeric_of_separates separates]
    cases first.any isAlphanumeric <;> simp

/-- The letters that are left of a text. -/
def letterCount (chars : List Char) : Nat :=
  (chars.flatMap bareLetters).length

theorem letterCount_append (first second : List Char) :
    letterCount (first ++ second) = letterCount first + letterCount second := by
  rw [letterCount, List.flatMap_append, List.length_append]
  rfl

theorem letterCount_decompose (chars : List Char) :
    letterCount (chars.flatMap decompose) = letterCount chars := by
  rw [letterCount, List.flatMap_assoc]
  exact congrArg (fun letters => (chars.flatMap letters).length)
    (funext flatMap_bareLetters_decompose)

theorem length_fold (chars : List Char) : (fold chars).length = letterCount chars := by
  have each : ∀ before, (lettersAfter before chars).length = letterCount chars := by
    induction chars with
    | nil => exact fun _ => rfl
    | cons c after ih =>
      intro before
      have here : (if c = 'Σ' then [smallSigma before after] else bareLetters c).length =
          letterCount [c] := by
        split
        · rename_i isSigma
          rw [isSigma]
          exact (show 1 = letterCount ['Σ'] by decide +kernel)
        · rw [letterCount, List.flatMap_singleton]
      rw [lettersAfter, List.length_append, ih, here, ← letterCount_append]
      rfl
  rw [fold_eq, List.length_map, each]

theorem length_le_of_mem_valuesOf {chars : List Char} {value : String}
    (member : value ∈ valuesOf chars) : value.toList.length ≤ letterCount chars := by
  induction chars using word_induction with
  | word chars token =>
    rw [valuesOf_word token] at member
    split at member
    · have length : value.toList.length = letterCount chars := by
        rw [List.mem_singleton.1 member, String.toList_ofList, length_fold]
      omega
    · cases member
  | separator first c rest token separates ih =>
    rw [valuesOf_separator separates, valuesOf_word token, List.mem_append] at member
    rw [letterCount_append, ← List.singleton_append, letterCount_append]
    rcases member with here | later
    · split at here
      · rw [List.mem_singleton.1 here, String.toList_ofList, length_fold]
        omega
      · cases here
    · have bound := ih later
      omega

/-- Token characters without a letter or numeral are apostrophes, which are letters of their own. -/
theorem letterCount_pos {chars : List Char} {c : Char} (member : c ∈ chars)
    (token : isTokenChar c = true) (none : chars.any isAlphanumeric = false) :
    0 < letterCount chars := by
  have notAlphanumeric : isAlphanumeric c = false := by
    rw [Bool.eq_false_iff]
    exact List.any_eq_false.1 none c member
  have unmarked : isMark c = false := by
    rw [isTokenChar, notAlphanumeric, Bool.false_or, Bool.or_eq_true, decide_eq_true_iff,
      decide_eq_true_iff] at token
    rcases token with rfl | rfl
    · decide +kernel
    · decide +kernel
  have some : bareLetters c ≠ [] := by
    rw [ne_eq, bareLetters_eq_nil_iff, unmarked]
    exact Bool.false_ne_true
  refine List.length_pos_iff.2 fun empty => some ?_
  exact List.flatMap_eq_nil_iff.1 empty c member

/-! ### Tokens that stay whole -/

/-- A word of which no token character comes after a mark that separates tokens, once it is
decomposed. -/
def StaysWhole (word : List Char) : Prop :=
  ∀ c ∈ (word.flatMap decompose).dropWhile isTokenChar, isTokenChar c = false

instance : DecidablePred StaysWhole :=
  fun _ => List.decidableBAll _ _

theorem valuesOf_separators {chars : List Char}
    (separate : ∀ c ∈ chars, isTokenChar c = false) (rest : List Char) :
    valuesOf (chars ++ rest) = valuesOf rest :=
  runValues_separators separate 0 rest

/-- Marks that separate tokens and that casing looks through change nothing at the end of a text. -/
theorem fold_append_marks {marks : List Char}
    (ignorable : ∀ c ∈ marks, isMark c = true ∧ isCaseIgnorable c = true) (chars : List Char) :
    fold (chars ++ marks) = fold chars := by
  have same : SameLetters marks [] := by
    constructor
    · have all : marks.all isCaseIgnorable = true :=
        List.all_eq_true.2 fun c member => (ignorable c member).2
      have seen : ∀ c ∈ marks, isCaseIgnorable c = false → isCased c = false := by
        intro c member notIgnorable
        rw [(ignorable c member).2] at notIgnorable
        cases notIgnorable
      have leans := leansOnLetter_append seen []
      rwa [List.append_nil, if_pos all] at leans
    · intro before
      rw [lettersAfter, lettersAfter_eq_nil_iff]
      exact fun c member => (ignorable c member).1
  have longer := same.append_left chars
  rw [List.append_nil] at longer
  exact longer.fold_eq_fold

/-- A word decomposes into token characters and what follows them. -/
theorem decompose_word (word : List Char) :
    ∃ first rest, word.flatMap decompose = first ++ rest ∧ (∀ c ∈ first, isTokenChar c = true) ∧
      (StaysWhole word ↔ ∀ c ∈ rest, isTokenChar c = false) ∧
      ∀ c ∈ rest.head?, isTokenChar c = false := by
  obtain ⟨first, rest, split, token, separates⟩ := exists_word_prefix (word.flatMap decompose)
  refine ⟨first, rest, split, token, ?_, separates⟩
  have dropped : rest.dropWhile isTokenChar = rest := by
    cases rest with
    | nil => rfl
    | cons c more =>
      rw [List.dropWhile_cons_of_neg]
      rw [separates c rfl]
      exact Bool.false_ne_true
  rw [StaysWhole, split, List.dropWhile_append_of_pos token, dropped]

theorem head_decompose {word : List Char} (token : ∀ c ∈ word, isTokenChar c = true) :
    ∀ c ∈ (word.flatMap decompose).head?, isTokenChar c = true := by
  cases word with
  | nil => exact nofun
  | cons letter others =>
    obtain ⟨first, rest, pieces, isToken⟩ :=
      (decompose_splits letter).first (token letter (List.mem_cons_self ..))
    rw [List.flatMap_cons, pieces]
    rintro c ⟨⟩
    exact isToken

theorem valuesOf_decompose_of_staysWhole {word : List Char}
    (token : ∀ c ∈ word, isTokenChar c = true) (whole : StaysWhole word) :
    valuesOf (word.flatMap decompose) = valuesOf word := by
  obtain ⟨first, rest, split, firstToken, stays, -⟩ := decompose_word word
  have separate := stays.1 whole
  have marks : ∀ c ∈ rest, isMark c = true ∧ isCaseIgnorable c = true := by
    intro c member
    have inPieces : c ∈ word.flatMap decompose := split ▸ List.mem_append_right first member
    obtain ⟨letter, inWord, isPiece⟩ := List.mem_flatMap.1 inPieces
    exact (decompose_splits letter).inside (token letter inWord) c isPiece (separate c member)
  have noneLater : rest.any isAlphanumeric = false := by
    rw [List.any_eq_false]
    intro c member
    rw [isAlphanumeric_of_separates (separate c member)]
    exact Bool.false_ne_true
  have values : valuesOf (first ++ rest) = valuesOf first := by
    cases rest with
    | nil => rw [List.append_nil]
    | cons c more =>
      have noMore : valuesOf more = [] := by
        rw [List.any_cons, Bool.or_eq_false_iff] at noneLater
        exact (valuesOf_eq_nil_iff more).2 noneLater.2
      rw [valuesOf_separator (separate c (List.mem_cons_self ..)), noMore, List.append_nil]
  have letters : fold first = fold word := by
    rw [← fold_append_marks marks, ← split, (SameLetters.flatMap_decompose word).fold_eq_fold]
  have alphanumeric : first.any isAlphanumeric = word.any isAlphanumeric := by
    rw [← any_alphanumeric_decompose word, split, List.any_append, noneLater, Bool.or_false]
  rw [split, values, valuesOf_word firstToken, valuesOf_word token, letters, alphanumeric]

/-- A word that keeps its one value stays whole: otherwise its letters are spread over two tokens, or
some of them, all apostrophes, are in none. -/
theorem staysWhole_of_valuesOf_decompose {word : List Char}
    (token : ∀ c ∈ word, isTokenChar c = true) (some : word.any isAlphanumeric = true)
    (same : valuesOf (word.flatMap decompose) = valuesOf word) : StaysWhole word := by
  obtain ⟨first, rest, split, firstToken, stays, separates⟩ := decompose_word word
  rw [stays]
  cases rest with
  | nil => exact nofun
  | cons c more =>
    have separator : isTokenChar c = false := separates c rfl
    refine List.forall_mem_cons.2 ⟨separator, fun d member => Bool.eq_false_iff.2 ?_⟩
    intro isToken
    have total : letterCount word = letterCount first + (letterCount [c] + letterCount more) := by
      rw [← letterCount_decompose, split, ← List.singleton_append, letterCount_append,
        letterCount_append]
    have length : (String.ofList (fold word)).toList.length = letterCount word := by
      rw [String.toList_ofList, length_fold]
    rw [split, valuesOf_separator separator, valuesOf_word token, if_pos some,
      List.append_eq_singleton_iff] at same
    rcases same with ⟨noneFirst, inRest⟩ | ⟨inFirst, noneRest⟩
    · have bound := length_le_of_mem_valuesOf (inRest ▸ List.mem_singleton.2 rfl)
      have head := head_decompose token
      rw [split] at head
      cases first with
      | nil =>
        rw [head c rfl] at separator
        cases separator
      | cons e others =>
        have letters := letterCount_pos (List.mem_cons_self ..) (head e rfl)
          ((valuesOf_eq_nil_iff _).1 noneFirst)
        omega
    · have bound := length_le_of_mem_valuesOf (inFirst ▸ List.mem_singleton.2 rfl)
      have letters := letterCount_pos member isToken ((valuesOf_eq_nil_iff more).1 noneRest)
      omega

/-- A word keeps its value in a decomposed text exactly when it has none or stays whole. -/
theorem valuesOf_decompose_word_iff {word : List Char} (token : ∀ c ∈ word, isTokenChar c = true) :
    valuesOf (word.flatMap decompose) = valuesOf word ↔
      (word.any isAlphanumeric = true → StaysWhole word) := by
  refine ⟨fun same some => staysWhole_of_valuesOf_decompose token some same, fun whole => ?_⟩
  cases some : word.any isAlphanumeric with
  | true => exact valuesOf_decompose_of_staysWhole token (whole some)
  | false =>
    rw [(valuesOf_eq_nil_iff word).2 some, valuesOf_eq_nil_iff, any_alphanumeric_decompose, some]

/-- To decompose a word leaves as many tokens or more. -/
theorem length_valuesOf_decompose_word {word : List Char}
    (token : ∀ c ∈ word, isTokenChar c = true) :
    (valuesOf word).length ≤ (valuesOf (word.flatMap decompose)).length := by
  rw [valuesOf_word token]
  split
  · rename_i some
    have found : valuesOf (word.flatMap decompose) ≠ [] := by
      rw [ne_eq, valuesOf_eq_nil_iff, any_alphanumeric_decompose, some]
      exact nofun
    exact List.length_pos_iff.2 found
  · exact Nat.zero_le _

theorem valuesOf_decompose_separator {c : Char} (separates : isTokenChar c = false)
    (first rest : List Char) :
    valuesOf ((first ++ c :: rest).flatMap decompose) =
      valuesOf (first.flatMap decompose) ++ valuesOf (rest.flatMap decompose) := by
  have splits := decompose_splits c
  obtain ⟨d, more, pieces⟩ := List.exists_cons_of_ne_nil splits.nonempty
  have separate := splits.outside separates
  rw [pieces] at separate
  obtain ⟨here, later⟩ := List.forall_mem_cons.1 separate
  rw [List.flatMap_append, List.flatMap_cons, pieces, List.cons_append, valuesOf_separator here,
    valuesOf_separators later]

theorem length_valuesOf_decompose (chars : List Char) :
    (valuesOf chars).length ≤ (valuesOf (chars.flatMap decompose)).length := by
  induction chars using word_induction with
  | word chars token => exact length_valuesOf_decompose_word token
  | separator first c rest token separates ih =>
    have here := length_valuesOf_decompose_word token
    rw [valuesOf_separator separates, valuesOf_decompose_separator separates, List.length_append,
      List.length_append]
    omega

/-- A decomposed text keeps its values exactly when every token of the text stays whole. -/
theorem valuesOf_decompose_iff (start : Nat) (chars : List Char) :
    valuesOf (chars.flatMap decompose) = valuesOf chars ↔
      ∀ run ∈ runs start chars, run.isToken = true → StaysWhole run.chars := by
  have word_iff : ∀ {word : List Char}, (∀ c ∈ word, isTokenChar c = true) → ∀ start,
      (valuesOf (word.flatMap decompose) = valuesOf word ↔
        ∀ run ∈ if word = [] then [] else [Run.mk start word],
          run.isToken = true → StaysWhole run.chars) := by
    intro word token start
    split
    · rename_i empty
      subst empty
      exact iff_of_true rfl nofun
    · rw [List.forall_mem_singleton]
      exact valuesOf_decompose_word_iff token
  induction chars using word_induction generalizing start with
  | word chars token =>
    rw [word_iff token start]
    split
    · rename_i empty
      rw [empty, runs]
    · rename_i nonempty
      rw [runs_word token nonempty]
  | separator first c rest token separates ih =>
    rw [runs_word_separator token separates, List.forall_mem_append, valuesOf_separator separates,
      valuesOf_decompose_separator separates]
    refine Iff.trans ?_ (and_congr (word_iff token start) (ih _))
    constructor
    · intro same
      -- Neither side lost a token, so what was equal together is equal piece by piece.
      have firstGrows := length_valuesOf_decompose_word token
      have restGrows := length_valuesOf_decompose rest
      have total := congrArg List.length same
      rw [List.length_append, List.length_append] at total
      exact List.append_inj same (by omega)
    · rintro ⟨firstSame, restSame⟩
      rw [firstSame, restSame]

end SkillDispatch
