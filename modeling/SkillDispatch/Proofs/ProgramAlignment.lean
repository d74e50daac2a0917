import SkillDispatch.Proofs.BestAlignment
import SkillDispatch.Proofs.ProgramSearch

set_option autoImplicit false

namespace SkillDispatch

/-- Keeps the better one of an alignment and what is kept. -/
def Alignment.keep (kept : Option Alignment.Scored) (offered : Alignment.Scored) :
    Option Alignment.Scored :=
  if offered.score.isZero then kept
  else match kept with
    | none => some offered
    | some current => if offered.betterThan current then some offered else some current

theorem Alignment.best_eq_foldl (scored : List Alignment.Scored) :
    Alignment.best scored = scored.foldl Alignment.keep none :=
  rfl

namespace Alignment

variable {offered : Alignment.Scored}

theorem keep_of_isZero (zero : offered.score.isZero = true) (kept : Option Alignment.Scored) :
    keep kept offered = kept :=
  if_pos zero

theorem keep_none (nonZero : ¬offered.score.isZero = true) : keep none offered = some offered :=
  if_neg nonZero

theorem keep_some (nonZero : ¬offered.score.isZero = true) (current : Alignment.Scored) :
    keep (some current) offered =
      if offered.betterThan current then some offered else some current :=
  if_neg nonZero

end Alignment

namespace Program

variable {program : Program} {pattern : Pattern} {scorer : Scorer} {tokens : List Token}
  {slots : List String}

/-- An alignment of a program is one of its pattern, with the indices of the slots for their names. -/
structure Found.Names (slots : List String) (found : Found) (scored : Alignment.Scored) : Prop where
  score : found.score = scored.score
  literal : found.literal = scored.alignment.literal
  captures : List.Forall₂ (NamesSlot slots) found.captures scored.alignment.captures

/-- An alignment with literal tokens is considered without a crash, if it fits into the tokens. -/
theorem exists_consider (scorer : Scorer) {best : Option Found} {kept : Option Alignment.Scored}
    (same : Option.Rel (Found.Names slots) best kept) {tail : Tail} {suffix : Suffix}
    (names : tail.Names slots suffix) {total start literal : Nat} (positive : 0 < literal)
    (fits : literal + (start + suffix.gap) ≤ total) :
    ∃ result, consider scorer total start best (literal, tail) = .ok result ∧
      Option.Rel (Found.Names slots) result (Alignment.keep kept
        (Alignment.scoredBy scorer total ⟨literal, start + suffix.gap, suffix.captures⟩)) := by
  have literalFits : literal ≤ total := by omega
  have gapFits : start + suffix.gap ≤ total - literal := by omega
  let offered : Alignment.Scored :=
    Alignment.scoredBy scorer total ⟨literal, start + suffix.gap, suffix.captures⟩
  have isNames : Found.Names slots ⟨offered.score, literal, tail.captures⟩ offered :=
    ⟨rfl, rfl, names.captures⟩
  rw [consider, if_neg positive.ne', names.gap, Checked.minus_eq literalFits]
  dsimp only [Bind.bind, Except.bind]
  rw [Checked.minus_eq gapFits]
  dsimp only
  by_cases zero : offered.score.isZero = true
  · rw [Alignment.keep_of_isZero zero]
    exact ⟨best, if_pos zero, same⟩
  · cases same with
    | none =>
      rw [Alignment.keep_none zero]
      exact ⟨_, if_neg zero, .some isNames⟩
    | @some found current isFound =>
      rw [Alignment.keep_some zero]
      refine ⟨_, if_neg zero, ?_⟩
      have better : (found.score < offered.score || offered.score == found.score &&
          found.literal < literal) = offered.betterThan current := by
        rw [isFound.score, isFound.literal]
        rfl
      show Option.Rel _ (if (found.score < offered.score || offered.score == found.score &&
        found.literal < literal) = true then _ else _) _
      rw [better]
      split
      · exact .some isNames
      · exact .some isFound

/-- The alignments of a frontier from a start, if its first entry has some number of literal
tokens. -/
def alignmentsOf (start literal : Nat) (frontier : Frontier) : List Alignment :=
  (frontier.zipIdx literal).filterMap fun (kept, literal) =>
    kept.map fun suffix => ⟨literal, start + suffix.gap, suffix.captures⟩

theorem alignmentsOf_bare {frontier : Frontier} (bare : frontier.Bare) (start literal : Nat) :
    alignmentsOf start literal frontier = [] := by
  induction frontier generalizing literal with
  | nil => rfl
  | cons kept rest ih =>
    have here : kept = none := bare 0
    have later : Frontier.Bare rest := fun more => bare (more + 1)
    rw [alignmentsOf, List.zipIdx_cons, here]
    exact ih later (literal + 1)

theorem alignmentsOf_eq (start literal : Nat) (frontier : Frontier) :
    alignmentsOf start literal frontier =
      ((frontier.get? 0).map fun suffix =>
        (⟨literal, start + suffix.gap, suffix.captures⟩ : Alignment)).toList ++
          alignmentsOf start (literal + 1) frontier.tail := by
  cases frontier with
  | nil => rfl
  | cons kept rest => cases kept <;> rfl

theorem get?_tail (frontier : Frontier) (more : Nat) :
    Frontier.get? frontier.tail more = frontier.get? (more + 1) := by
  cases frontier <;> rfl

/-- The tails of a row are considered without a crash, one after the other, and so are the alignments
that a frontier keeps. -/
theorem exists_foldlM_consider {row : Row} {frontier : Frontier}
    (names : ∀ more, Option.Rel (Tail.Names slots) (row.get? more) (frontier.get? more))
    {total start literal : Nat} (positive : 0 < literal)
    (fits : ∀ more suffix, frontier.get? more = some suffix →
      literal + more + (start + suffix.gap) ≤ total)
    {best : Option Found} {kept : Option Alignment.Scored}
    (same : Option.Rel (Found.Names slots) best kept) :
    ∃ result, (Row.entriesFrom literal row).foldlM (consider scorer total start) best = .ok result ∧
      Option.Rel (Found.Names slots) result
        (((alignmentsOf start literal frontier).map (Alignment.scoredBy scorer total)).foldl
          Alignment.keep kept) := by
  induction row generalizing frontier literal best kept with
  | nil =>
    have bare : frontier.Bare := by
      intro more
      have nothing := names more
      rw [Row.get?_nil] at nothing
      cases isSuffix : frontier.get? more with
      | none => rfl
      | some suffix =>
        rw [isSuffix] at nothing
        cases nothing
    rw [alignmentsOf_bare bare]
    exact ⟨best, rfl, same⟩
  | cons tail row ih =>
    have laterNames : ∀ more,
        Option.Rel (Tail.Names slots) (Row.get? row more) (Frontier.get? frontier.tail more) := by
      intro more
      rw [get?_tail, ← Row.get?_cons_succ tail row more]
      exact names (more + 1)
    have laterFits : ∀ more suffix, Frontier.get? frontier.tail more = some suffix →
        literal + 1 + more + (start + suffix.gap) ≤ total := by
      intro more suffix isSuffix
      rw [get?_tail] at isSuffix
      have bound := fits (more + 1) suffix isSuffix
      omega
    have here := names 0
    rw [Row.get?_cons_zero] at here
    rw [alignmentsOf_eq, List.map_append, List.foldl_append]
    cases isSuffix : frontier.get? 0 with
    | none =>
      rw [isSuffix] at here
      cases here
      exact ih laterNames (Nat.succ_pos literal) laterFits same
    | some suffix =>
      rw [isSuffix] at here
      cases here with
      | some isName =>
        obtain ⟨between, isBetween, kept⟩ := exists_consider scorer same isName positive
          (fits 0 suffix isSuffix)
        obtain ⟨result, isResult, names⟩ :=
          ih laterNames (Nat.succ_pos literal) laterFits kept
        refine ⟨result, ?_, names⟩
        rw [Row.entriesFrom_some, List.foldlM_cons, isBetween]
        exact isResult

theorem ofFrontier_eq (start : Nat) (frontier : Frontier) :
    Alignment.ofFrontier start frontier = alignmentsOf start 1 frontier.tail := by
  cases frontier <;> rfl

/-- The tails of a state at the start of the program are considered without a crash. -/
theorem exists_foldlM_entries (scorer : Scorer) {row : Row} {start : Nat}
    (inside : start ≤ tokens.length) (solves : Solves program tokens pattern.parts start row)
    {best : Option Found} {kept : Option Alignment.Scored}
    (same : Option.Rel (Found.Names program.slots) best kept) :
    ∃ result, row.entries.foldlM (consider scorer tokens.length start) best = .ok result ∧
      Option.Rel (Found.Names program.slots) result
        (((pattern.candidatesFrom tokens start).map
          (Alignment.scoredBy scorer tokens.length)).foldl Alignment.keep kept) := by
  have within := Part.solveEach_within pattern.parts (Column.within_afterLastPart tokens.length)
    start inside
  cases row with
  | nil => cases solves.length
  | cons first row =>
    obtain ⟨result, isResult, names⟩ : ∃ result,
        (Row.entriesFrom 1 row).foldlM (consider scorer tokens.length start) best = .ok result ∧
          Option.Rel (Found.Names program.slots) result
            (((alignmentsOf start 1
              (Part.frontierAt tokens pattern.parts start).tail).map
                (Alignment.scoredBy scorer tokens.length)).foldl Alignment.keep kept) := by
      apply exists_foldlM_consider _ Nat.one_pos _ same
      · intro more
        rw [get?_tail, ← Row.get?_cons_succ first row more]
        exact solves.tails (more + 1)
      · intro more suffix isSuffix
        rw [get?_tail] at isSuffix
        have fits := (within (more + 1) suffix isSuffix).1
        omega
    rw [Pattern.candidatesFrom, ofFrontier_eq]
    refine ⟨result, ?_, names⟩
    cases first with
    | none => exact isResult
    | some tail => exact isResult

/-- From a start with too few tokens on there are no candidates. -/
theorem candidates_few (sound : program.Sound pattern) {fewest start count : Nat}
    (atStart : program.minimumTokens[0]? = some fewest) (inside : start + count = tokens.length + 1)
    (few : tokens.length - start < fewest) :
    (List.range' start count).flatMap (pattern.candidatesFrom tokens) = [] := by
  apply List.flatMap_eq_nil_iff.2
  intro later range
  have bounds := List.mem_range'_1.1 range
  have bare := sound.continues.frontierAt_bare sound.tabulates (Nat.le_of_lt_succ (by omega))
    atStart (show tokens.length - later < fewest by omega)
  rw [Pattern.candidatesFrom, ofFrontier_eq]
  apply alignmentsOf_bare
  intro more
  rw [get?_tail]
  exact bare (more + 1)

/-- Start by start, the search keeps what is kept of the candidates. -/
theorem alignFrom_yields (sound : program.Sound pattern) (scorer : Scorer) {depth : Nat}
    (deep : program.ops.length < depth) {start count : Nat} (inside : start + count = tokens.length + 1) {best : Option Found}
    {kept : Option Alignment.Scored} (same : Option.Rel (Found.Names program.slots) best kept)
    {memo : Memo} (valid : Memo.Valid program tokens memo) :
    Yields (program.alignFrom tokens scorer depth (List.range' start count) best) memo fun result _ =>
      Option.Rel (Found.Names program.slots) result
        ((((List.range' start count).flatMap (pattern.candidatesFrom tokens)).map
          (Alignment.scoredBy scorer tokens.length)).foldl Alignment.keep kept) := by
  obtain ⟨fewest, atStart⟩ : ∃ fewest, program.minimumTokens[0]? = some fewest := by
    have length := sound.tabulates.length
    exact ⟨_, List.getElem?_eq_getElem (by omega)⟩
  induction count generalizing start best kept memo with
  | zero => exact Yields.pure same
  | succ count ih =>
    have startInside : start ≤ tokens.length := by omega
    rw [List.range'_succ, alignFrom]
    apply Yields.bind_lift (Checked.minus_eq startInside)
    apply Yields.bind_lift (Checked.entry_eq atStart)
    split
    · rename_i few
      rw [← List.range'_succ, candidates_few sound atStart inside few]
      exact Yields.pure same
    · have search := finds sound.forward sound.tabulates sound.continues
        (Nat.lt_add_left 0 deep) start startInside
      apply Yields.bind (search memo valid)
      rintro row after ⟨solves, afterValid⟩
      obtain ⟨between, isBetween, names⟩ := exists_foldlM_entries scorer startInside solves same
      apply Yields.bind_lift isBetween
      rw [List.flatMap_cons, List.map_append, List.foldl_append]
      exact ih (by omega) names afterValid

/-- With deeper calls, a search that ends comes to the same. -/
theorem alignFrom_follows (program : Program) (tokens : List Token) (scorer : Scorer)
    {depth deeper : Nat} (le : depth ≤ deeper) (starts : List Nat) (best : Option Found) :
    (program.alignFrom tokens scorer deeper starts best).Follows
      (program.alignFrom tokens scorer depth starts best) := by
  induction starts generalizing best with
  | nil => exact .refl _
  | cons start later ih =>
    rw [alignFrom, alignFrom]
    apply Run.Follows.bind_right
    intro remaining
    apply Run.Follows.bind_right
    intro fewest
    split
    · exact .refl _
    · apply (tails_follows program tokens le 0 start).bind
      intro row
      apply Run.Follows.bind_right
      intro better
      exact ih better

theorem align_follows {depth deeper : Nat} (le : depth ≤ deeper)
    {outcome : Except Crash (Option Found)}
    (ends : program.align tokens scorer depth = some outcome) :
    program.align tokens scorer deeper = some outcome := by
  have unfolds : ∀ depth, program.align tokens scorer depth =
      ExceptT.map Prod.fst (program.alignFrom tokens scorer depth (List.range (tokens.length + 1))
        none (noMemo program tokens)) := fun _ => rfl
  rw [unfolds] at ends ⊢
  cases isRun : program.alignFrom tokens scorer depth (List.range (tokens.length + 1)) none
      (noMemo program tokens) with
  | none =>
    rw [isRun] at ends
    cases ends
  | some run =>
    rw [isRun] at ends
    rw [alignFrom_follows program tokens scorer le _ _ _ _ isRun]
    exact ends

/-- What a program comes to with some tokens. -/
structure AlignsTo (program : Program) (tokens : List Token) (scorer : Scorer)
    (result : Option Found) : Prop where
  /-- The search ends without a crash, if its calls may nest deeper than there are ops. -/
  ends : ∀ depth, program.ops.length < depth →
    program.align tokens scorer depth = some (.ok result)
  /-- Where it ends with less depth, it comes to the same. -/
  same : ∀ depth outcome, program.align tokens scorer depth = some outcome → outcome = .ok result

theorem AlignsTo.unique {first second : Option Found} (isFirst : program.AlignsTo tokens scorer first)
    (isSecond : program.AlignsTo tokens scorer second) : first = second :=
  Except.ok.inj (isSecond.same _ _ (isFirst.ends _ (Nat.lt_succ_self _)))

theorem AlignsTo.of_enough {result : Option Found}
    (ends : program.align tokens scorer (program.ops.length + 1) = some (.ok result)) :
    program.AlignsTo tokens scorer result where
  ends := by
    intro depth deep
    exact align_follows deep ends
  same := by
    intro depth outcome isOutcome
    rcases Nat.le_total depth (program.ops.length + 1) with shallow | deep
    · exact Option.some.inj ((align_follows shallow isOutcome).symm.trans ends)
    · exact Option.some.inj (isOutcome.symm.trans (align_follows deep ends))

/-- The search through the program of a pattern ends without a crash, with the best alignment of the
pattern. -/
theorem exists_alignsTo (sound : program.Sound pattern) (scorer : Scorer) (tokens : List Token) :
    ∃ result, program.AlignsTo tokens scorer result ∧
      Option.Rel (Found.Names program.slots) result (pattern.align scorer tokens) := by
  obtain ⟨result, after, isResult, names⟩ := alignFrom_yields sound scorer
    (Nat.lt_succ_self program.ops.length) (Nat.zero_add (tokens.length + 1)) .none
    (noMemo_valid program tokens)
  rw [← List.range_eq_range'] at isResult names
  refine ⟨result, .of_enough ?_, ?_⟩
  · show ExceptT.map Prod.fst (program.alignFrom tokens scorer (program.ops.length + 1)
      (List.range (tokens.length + 1)) none (noMemo program tokens)) = _
    rw [isResult]
    rfl
  · rw [Pattern.align, Alignment.best_eq_foldl]
    exact names

end Program

end SkillDispatch
