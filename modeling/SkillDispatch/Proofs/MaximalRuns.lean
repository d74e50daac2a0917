import SkillDispatch.Proofs.TokenRuns

set_option autoImplicit false

/- Runs as the maximal stretches of token characters. A text is one word or begins with a word and a
separator, so what holds of the runs of a word holds of all runs by going from separator to
separator. -/
namespace SkillDispatch

open Text

/-- A stretch of token characters that cannot be made longer, with the text on both sides of it. -/
structure MaximalRun (chars before word after : List Char) : Prop where
  stands : chars = before ++ word ++ after
  nonempty : word ≠ []
  token : ∀ c ∈ word, isTokenChar c = true
  starts : ∀ c ∈ before.getLast?, isTokenChar c = false
  ends : ∀ c ∈ after.head?, isTokenChar c = false

/-- A text is all token characters, or has a first one that separates. -/
theorem word_or_separator (chars : List Char) :
    (∀ c ∈ chars, isTokenChar c = true) ∨
      ∃ word c rest, chars = word ++ c :: rest ∧ (∀ d ∈ word, isTokenChar d = true) ∧
        isTokenChar c = false := by
  induction chars with
  | nil => exact Or.inl nofun
  | cons c rest ih =>
    cases kind : isTokenChar c with
    | false => exact Or.inr ⟨[], c, rest, rfl, nofun, kind⟩
    | true =>
      rcases ih with all | ⟨word, d, more, split, token, separates⟩
      · exact Or.inl (List.forall_mem_cons.2 ⟨kind, all⟩)
      · exact Or.inr ⟨c :: word, d, more, by rw [split, List.cons_append],
          List.forall_mem_cons.2 ⟨kind, token⟩, separates⟩

/-- Induction from separator to separator. -/
theorem word_induction {motive : List Char → Prop}
    (word : ∀ chars, (∀ c ∈ chars, isTokenChar c = true) → motive chars)
    (separator : ∀ first c rest, (∀ d ∈ first, isTokenChar d = true) → isTokenChar c = false →
      motive rest → motive (first ++ c :: rest))
    (chars : List Char) : motive chars := by
  rcases word_or_separator chars with all | ⟨first, c, rest, split, token, separates⟩
  · exact word chars all
  · rw [split]
    exact separator first c rest token separates (word_induction word separator rest)
termination_by chars.length
decreasing_by rw [split, List.length_append, List.length_cons]; omega

theorem runs_word {word : List Char} (token : ∀ c ∈ word, isTokenChar c = true)
    (nonempty : word ≠ []) (start : Nat) : runs start word = [⟨start, word⟩] := by
  induction word generalizing start with
  | nil => exact absurd rfl nonempty
  | cons c rest ih =>
    obtain ⟨here, later⟩ := List.forall_mem_cons.1 token
    rw [runs, if_pos here]
    cases rest with
    | nil => rfl
    | cons d more =>
      rw [ih later (List.cons_ne_nil _ _)]
      exact if_pos rfl

/-- A word and a separator are one run, or none if the word is empty. -/
theorem runs_word_separator {word : List Char} (token : ∀ c ∈ word, isTokenChar c = true)
    {c : Char} (separates : isTokenChar c = false) (start : Nat) (rest : List Char) :
    runs start (word ++ c :: rest) =
      (if word = [] then [] else [⟨start, word⟩]) ++
        runs (start + byteLength word + c.utf8Size) rest := by
  rw [runs_separated separates]
  congr 1
  split
  · rename_i empty
    rw [empty]
    rfl
  · rename_i nonempty
    exact runs_word token nonempty start

theorem maximalRun_of_mem_runs {chars : List Char} {start : Nat} {run : Run}
    (member : run ∈ runs start chars) :
    ∃ before after, MaximalRun chars before run.chars after ∧
      run.start = start + byteLength before := by
  induction chars using word_induction generalizing start with
  | word chars token =>
    have nonempty : chars ≠ [] := by
      rintro rfl
      cases member
    rw [runs_word token nonempty, List.mem_singleton] at member
    subst member
    exact ⟨[], [], ⟨(List.append_nil _).symm, nonempty, token, nofun, nofun⟩, rfl⟩
  | separator first c rest token separates ih =>
    rw [runs_word_separator token separates, List.mem_append] at member
    rcases member with here | later
    · split at here
      · cases here
      · rename_i nonempty
        rw [List.mem_singleton] at here
        subst here
        refine ⟨[], c :: rest, ⟨rfl, nonempty, token, nofun, ?_⟩, rfl⟩
        rintro d ⟨⟩
        exact separates
    · obtain ⟨before, after, maximal, begins⟩ := ih later
      refine ⟨first ++ c :: before, after, ⟨?_, maximal.nonempty, maximal.token, ?_, maximal.ends⟩,
        ?_⟩
      · rw [maximal.stands]
        simp only [List.append_assoc, List.cons_append]
      · rw [List.getLast?_append, List.getLast?_cons]
        intro d last
        cases isLast : before.getLast? with
        | none =>
          rw [isLast] at last
          cases last
          exact separates
        | some other =>
          rw [isLast] at last
          cases last
          exact maximal.starts _ isLast
      · rw [begins, byteLength_append, byteLength_cons]
        omega

/-- A text that ends with a separator, or is empty, has its runs apart from what follows it. -/
theorem runs_append {closed : List Char} (separates : ∀ c ∈ closed.getLast?, isTokenChar c = false)
    (start : Nat) (rest : List Char) :
    runs start (closed ++ rest) = runs start closed ++ runs (start + byteLength closed) rest := by
  rcases List.eq_nil_or_concat closed with none | ⟨front, c, isFront⟩
  · subst none
    rfl
  · rw [List.concat_eq_append] at isFront
    subst isFront
    have last : isTokenChar c = false := separates c (by simp)
    rw [List.append_assoc, List.singleton_append, runs_separated last, runs_separated last, runs,
      List.append_nil, byteLength_append, byteLength_cons, byteLength_nil, Nat.add_zero,
      Nat.add_assoc]

theorem MaximalRun.mem_runs {chars before word after : List Char}
    (maximal : MaximalRun chars before word after) (start : Nat) :
    ⟨start + byteLength before, word⟩ ∈ runs start chars := by
  rw [maximal.stands, List.append_assoc, runs_append maximal.starts]
  apply List.mem_append_right
  cases isRest : after with
  | nil =>
    rw [List.append_nil, runs_word maximal.token maximal.nonempty]
    exact List.mem_singleton.2 rfl
  | cons c rest =>
    have separates := maximal.ends c (isRest ▸ rfl)
    rw [runs_word_separator maximal.token separates, if_neg maximal.nonempty]
    exact List.mem_cons_self ..

theorem runs_apart (start : Nat) (chars : List Char) :
    (runs start chars).Pairwise fun first second => first.span.stop < second.span.start := by
  induction chars using word_induction generalizing start with
  | word chars token =>
    by_cases nonempty : chars = []
    · rw [nonempty]
      exact List.Pairwise.nil
    · rw [runs_word token nonempty]
      exact List.pairwise_singleton _ _
  | separator first c rest token separates ih =>
    rw [runs_word_separator token separates]
    refine List.pairwise_append.2 ⟨?_, ih _, ?_⟩
    · split
      · exact List.Pairwise.nil
      · exact List.pairwise_singleton _ _
    · intro run here other later
      obtain ⟨before, after, -, begins⟩ := maximalRun_of_mem_runs later
      have width := c.utf8Size_pos
      split at here
      · cases here
      · rw [List.mem_singleton] at here
        subst here
        show start + byteLength first < other.start
        omega

theorem exists_word_prefix (chars : List Char) :
    ∃ word rest, chars = word ++ rest ∧ (∀ c ∈ word, isTokenChar c = true) ∧
      ∀ c ∈ rest.head?, isTokenChar c = false := by
  rcases word_or_separator chars with all | ⟨word, c, rest, split, token, separates⟩
  · exact ⟨chars, [], (List.append_nil _).symm, all, nofun⟩
  · refine ⟨word, c :: rest, split, token, ?_⟩
    rintro d ⟨⟩
    exact separates

theorem exists_word_suffix (chars : List Char) :
    ∃ rest word, chars = rest ++ word ∧ (∀ c ∈ word, isTokenChar c = true) ∧
      ∀ c ∈ rest.getLast?, isTokenChar c = false := by
  obtain ⟨word, rest, split, token, separates⟩ := exists_word_prefix chars.reverse
  refine ⟨rest.reverse, word.reverse, ?_, ?_, ?_⟩
  · rw [← List.reverse_append, ← split, List.reverse_reverse]
  · exact fun c member => token c (List.mem_reverse.1 member)
  · rw [List.getLast?_reverse]
    exact separates

theorem exists_maximalRun (before after : List Char) {c : Char} (token : isTokenChar c = true) :
    ∃ front first second rest, before = front ++ first ∧ after = second ++ rest ∧
      MaximalRun (before ++ c :: after) front (first ++ c :: second) rest := by
  obtain ⟨front, first, frontSplit, firstToken, starts⟩ := exists_word_suffix before
  obtain ⟨second, rest, restSplit, secondToken, ends⟩ := exists_word_prefix after
  refine ⟨front, first, second, rest, frontSplit, restSplit, ?_, ?_, ?_, starts, ends⟩
  · rw [frontSplit, restSplit]
    simp only [List.append_assoc, List.cons_append]
  · exact List.append_ne_nil_of_right_ne_nil _ (List.cons_ne_nil _ _)
  · exact List.forall_mem_append.2 ⟨firstToken, List.forall_mem_cons.2 ⟨token, secondToken⟩⟩

end SkillDispatch
