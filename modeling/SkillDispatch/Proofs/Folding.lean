import SkillDispatch.Proofs.BareLetters

set_option autoImplicit false

namespace SkillDispatch.Text

open Unicode

/-- The letters of a text, where `before` is the text in front of it, last character first. -/
def lettersAfter (before : List Char) : List Char → List Char
  | [] => []
  | c :: after =>
    (if c = 'Σ' then [smallSigma before after] else bareLetters c) ++
      lettersAfter (c :: before) after

theorem smallSigma_bare (before after : List Char) : Bare (smallSigma before after) := by
  rw [smallSigma]
  split
  · exact ⟨by decide +kernel, by decide +kernel, by decide +kernel⟩
  · exact ⟨by decide +kernel, by decide +kernel, by decide +kernel⟩

theorem apostrophe_bare : Bare '\'' :=
  ⟨by decide +kernel, by decide +kernel, by decide +kernel⟩

/-- To put marks into order changes nothing once they are dropped. -/
theorem unmarked_insertByClass (c : Char) (chars : List Char) :
    (insertByClass c chars).filter (fun d => !isMark d) =
      (c :: chars).filter fun d => !isMark d := by
  induction chars with
  | nil => rfl
  | cons d rest ih =>
    rw [insertByClass]
    split
    · rename_i passes
      have first : isMark c = true := isMark_of_class (by omega)
      have second : isMark d = true := isMark_of_class (by omega)
      rw [List.filter_cons_of_neg (by simp [second]), ih, List.filter_cons_of_neg (by simp [first]),
        List.filter_cons_of_neg (by simp [first]), List.filter_cons_of_neg (by simp [second])]
    · rfl

theorem canonicalOrder_cons (c : Char) (chars : List Char) :
    canonicalOrder (c :: chars) = insertByClass c (canonicalOrder chars) := rfl

theorem unmarked_canonicalOrder (chars : List Char) :
    (canonicalOrder chars).filter (fun d => !isMark d) = chars.filter fun d => !isMark d := by
  induction chars with
  | nil => rfl
  | cons c rest ih =>
    rw [canonicalOrder_cons, unmarked_insertByClass, List.filter_cons, ih, List.filter_cons]

theorem unmarked_lowercaseAfter (before chars : List Char) :
    ((lowercaseAfter before chars).flatMap decompose).filter (fun d => !isMark d) =
      lettersAfter before chars := by
  induction chars generalizing before with
  | nil => rfl
  | cons c after ih =>
    rw [lowercaseAfter, List.flatMap_append, List.filter_append, ih, lettersAfter]
    congr 1
    split
    · have bare := smallSigma_bare before after
      rw [List.flatMap_singleton, bare.whole]
      simp [bare.unmarked]
    · rfl

theorem fold_eq (chars : List Char) :
    fold chars = (lettersAfter [] chars).map plainApostrophe := by
  rw [fold, decomposed, unmarked_canonicalOrder, lowercaseText, unmarked_lowercaseAfter]

theorem bare_of_mem_lettersAfter {before chars : List Char} {letter : Char}
    (member : letter ∈ lettersAfter before chars) : Bare letter := by
  induction chars generalizing before with
  | nil => cases member
  | cons c after ih =>
    rw [lettersAfter, List.mem_append] at member
    rcases member with here | later
    · split at here
      · rw [List.mem_singleton.1 here]
        exact smallSigma_bare before after
      · exact bare_of_mem_bareLetters here
    · exact ih later

theorem plainApostrophe_bare {c : Char} (bare : Bare c) : Bare (plainApostrophe c) := by
  rw [plainApostrophe]
  split
  · exact apostrophe_bare
  · exact bare

theorem plainApostrophe_plain (c : Char) :
    plainApostrophe (plainApostrophe c) = plainApostrophe c := by
  by_cases typographic : c = '’'
  · subst typographic
    rfl
  · have plain : plainApostrophe c = c := if_neg typographic
    rw [plain, plain]

/-- A folded text is made of bare letters, with plain apostrophes. -/
theorem mem_fold {chars : List Char} {c : Char} (member : c ∈ fold chars) :
    Bare c ∧ plainApostrophe c = c := by
  rw [fold_eq, List.mem_map] at member
  obtain ⟨letter, inLetters, rfl⟩ := member
  exact ⟨plainApostrophe_bare (bare_of_mem_lettersAfter inLetters), plainApostrophe_plain letter⟩

theorem lettersAfter_of_bare {chars : List Char} (bare : ∀ c ∈ chars, Bare c)
    (before : List Char) : lettersAfter before chars = chars := by
  induction chars generalizing before with
  | nil => rfl
  | cons c after ih =>
    obtain ⟨here, later⟩ := List.forall_mem_cons.1 bare
    have notSigma : c ≠ 'Σ' := by
      rintro rfl
      exact absurd here.small (by decide +kernel)
    rw [lettersAfter, if_neg notSigma, here.bareLetters_eq, ih later]
    rfl

theorem lettersAfter_eq_nil_iff (before chars : List Char) :
    lettersAfter before chars = [] ↔ ∀ c ∈ chars, isMark c = true := by
  induction chars generalizing before with
  | nil => simp [lettersAfter]
  | cons c after ih =>
    rw [lettersAfter, List.append_eq_nil_iff, ih, List.forall_mem_cons]
    refine and_congr_left fun _ => ?_
    split
    · rename_i sigma
      rw [sigma]
      exact iff_of_false (List.cons_ne_nil _ _) (by decide +kernel)
    · exact bareLetters_eq_nil_iff c

/-- Nothing is left of a text of marks, and of no other text. -/
theorem fold_eq_nil_iff (chars : List Char) : fold chars = [] ↔ ∀ c ∈ chars, isMark c = true := by
  rw [fold_eq, List.map_eq_nil_iff, lettersAfter_eq_nil_iff]

end SkillDispatch.Text

namespace SkillDispatch

open Text Unicode

theorem normalize_normalize (word : String) : normalize (normalize word) = normalize word := by
  have bare : ∀ c ∈ fold word.toList, Bare c := fun c member => (mem_fold member).1
  have plain : ∀ c ∈ fold word.toList, plainApostrophe c = c := fun c member => (mem_fold member).2
  rw [normalize, normalize, String.toList_ofList, fold_eq (fold _), lettersAfter_of_bare bare]
  congr 1
  exact (List.map_congr_left plain).trans (List.map_id' _)

end SkillDispatch
