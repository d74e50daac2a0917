import SkillDispatch.Proofs.CheckedRuns
import SkillDispatch.Proofs.ProgramPruning
import SkillDispatch.Proofs.ProgramRows

set_option autoImplicit false

/- The search through a program finds what the parts of the pattern come to, and its calls never nest
deeper than the program is long: each state calls on states further on, and from any op on the parts
that are still to be matched are a finite tree. -/
namespace SkillDispatch.Program

variable {program : Program} {tokens : List Token} {search : Nat → Nat → Run Row}

/-- The row of a state keeps what the parts come to. -/
def Solves (program : Program) (tokens : List Token) (parts : List Part) (position : Nat)
    (row : Row) : Prop :=
  row.Shows program.slots tokens.length (Part.frontierAt tokens parts position)

/-- The table has a place for each state, and its rows are those of their states. -/
structure Memo.Valid (program : Program) (tokens : List Token) (memo : Memo) : Prop where
  length : memo.length = (program.ops.length + 1) * (tokens.length + 1)
  solves : ∀ pc position row, position ≤ tokens.length →
    memo[key tokens pc position]? = some (some row) →
    ∀ parts, Part.Continues program.ops program.slots pc parts →
      Solves program tokens parts position row

theorem key_lt {pc position : Nat} (opInside : pc ≤ program.ops.length)
    (inside : position ≤ tokens.length) :
    key tokens pc position < (program.ops.length + 1) * (tokens.length + 1) := by
  have rows : pc * (tokens.length + 1) ≤ program.ops.length * (tokens.length + 1) :=
    Nat.mul_le_mul_right _ opInside
  rw [key, Nat.add_mul, Nat.one_mul]
  omega

theorem key_injective {pc position otherPc other : Nat} (inside : position ≤ tokens.length)
    (otherInside : other ≤ tokens.length)
    (same : key tokens pc position = key tokens otherPc other) :
    pc = otherPc ∧ position = other := by
  have positive : 0 < tokens.length + 1 := Nat.succ_pos _
  have decode : ∀ pc position, position ≤ tokens.length →
      key tokens pc position / (tokens.length + 1) = pc ∧
        key tokens pc position % (tokens.length + 1) = position := by
    intro pc position inside
    have below : position < tokens.length + 1 := Nat.lt_succ_of_le inside
    rw [key, Nat.add_comm, Nat.add_mul_div_right _ _ positive, Nat.add_mul_mod_self_right,
      Nat.div_eq_of_lt below, Nat.mod_eq_of_lt below, Nat.zero_add]
    exact ⟨rfl, rfl⟩
  obtain ⟨isPc, isPosition⟩ := decode pc position inside
  obtain ⟨isOtherPc, isOther⟩ := decode otherPc other otherInside
  rw [same] at isPc isPosition
  exact ⟨isPc.symm.trans isOtherPc, isPosition.symm.trans isOther⟩

theorem Memo.Valid.set {memo : Memo} (valid : Memo.Valid program tokens memo) {pc position : Nat}
    {parts : List Part} (continues : Part.Continues program.ops program.slots pc parts)
    (inside : position ≤ tokens.length) {row : Row}
    (solves : Solves program tokens parts position row) :
    Memo.Valid program tokens (memo.set (key tokens pc position) (some row)) where
  length := by
    rw [List.length_set]
    exact valid.length
  solves := by
    intro otherPc other found otherInside atOther more otherContinues
    by_cases same : key tokens pc position = key tokens otherPc other
    · obtain ⟨rfl, rfl⟩ := key_injective inside otherInside same
      rw [List.getElem?_set_self (valid.length ▸ key_lt continues.le inside)] at atOther
      cases atOther
      cases continues.unique otherContinues
      exact solves
    · rw [List.getElem?_set_ne same] at atOther
      exact valid.solves otherPc other found otherInside atOther more otherContinues

theorem noMemo_valid (program : Program) (tokens : List Token) :
    Memo.Valid program tokens (noMemo program tokens) where
  length := List.length_replicate ..
  solves := by
    intro pc position row _ isRow
    rw [noMemo, List.getElem?_replicate] at isRow
    split at isRow <;> cases isRow

/-- From any valid table, a run comes to the row of a state and to a valid table. -/
def Finds (program : Program) (tokens : List Token) (parts : List Part) (position : Nat)
    (run : Run Row) : Prop :=
  ∀ memo, Memo.Valid program tokens memo →
    Yields run memo fun row after =>
      Solves program tokens parts position row ∧ Memo.Valid program tokens after

/-- A state that can be solved with calls up to a depth has a row with calls one deeper, and the row is
kept. -/
theorem finds_tails {depth pc position : Nat} {parts : List Part}
    (continues : Part.Continues program.ops program.slots pc parts)
    (inside : position ≤ tokens.length)
    (solved : Finds program tokens parts position
      (program.solve tokens (program.tails tokens depth) pc position)) :
    Finds program tokens parts position (program.tails tokens (depth + 1) pc position) := by
  intro memo valid
  have inMemo : key tokens pc position < memo.length := valid.length ▸ key_lt continues.le inside
  have atKey := List.getElem?_eq_getElem inMemo
  rw [tails]
  apply Yields.bind_get
  apply Yields.bind_lift (Checked.entry_eq atKey)
  cases isSolved : memo[key tokens pc position] with
  | some row =>
    rw [isSolved] at atKey
    exact Yields.pure ⟨valid.solves pc position row inside atKey parts continues, valid⟩
  | none =>
    apply Yields.bind (solved memo valid)
    rintro row after ⟨solves, afterValid⟩
    have inAfter : key tokens pc position < after.length :=
      afterValid.length ▸ key_lt continues.le inside
    apply Yields.bind_get
    apply Yields.bind_lift (Checked.withEntry_eq inAfter _)
    apply Yields.bind_set
    exact Yields.pure ⟨solves, afterValid.set continues inside solves⟩

/-- A state with too few tokens has an empty row; with enough of them, its op is matched. -/
theorem finds_solve {pc position fewest : Nat} {parts : List Part}
    (continues : Part.Continues program.ops program.slots pc parts)
    (tabulates : Op.TabulatesFrom program.ops 0 program.minimumTokens)
    (inside : position ≤ tokens.length) (atPc : program.minimumTokens[pc]? = some fewest)
    (enough : fewest ≤ tokens.length - position → Finds program tokens parts position
      (program.matchOp tokens search pc position (tokens.length - position))) :
    Finds program tokens parts position (program.solve tokens search pc position) := by
  intro memo valid
  rw [solve]
  apply Yields.bind_lift (Checked.minus_eq inside)
  apply Yields.bind_lift (Checked.entry_eq atPc)
  split
  · rename_i few
    have bare := continues.frontierAt_bare tabulates inside atPc few
    refine Yields.pure ⟨(Row.shows_empty _ _).congr ?_, valid⟩
    intro literal
    rw [bare literal, Frontier.get?_none]
  · rename_i many
    exact enough (Nat.le_of_not_lt many) memo valid

/-- A row that keeps what a frontier does, and a valid table. -/
def Keeps (program : Program) (tokens : List Token) (row : Row) (frontier : Frontier)
    (memo : Memo) : Prop :=
  row.Shows program.slots tokens.length frontier ∧ Memo.Valid program tokens memo

/-- A row has a place for everything that a later state comes to. -/
theorem exists_extend {rest : List Part} {position : Nat} {next : Row}
    (solves : Solves program tokens rest position next) (inside : position ≤ tokens.length)
    {step : Step} (literal : step.literal ≤ position) {offered : Frontier}
    (offers : ∀ literal, Option.Rel (Tail.Names program.slots) (Row.offeredAt next step literal)
      (offered.get? literal))
    {row : Row} {frontier : Frontier} (shows : row.Shows program.slots tokens.length frontier) :
    ∃ result, row.extend next step = .ok result ∧
      result.Shows program.slots tokens.length (frontier.merge offered) := by
  have within := Part.solveEach_within rest (Column.within_afterLastPart tokens.length) position
    inside
  refine shows.exists_extend solves ?_ offers
  intro literal suffix kept
  have fits := (within literal suffix kept).1
  omega

/-- A row is extended by what a later state comes to. -/
theorem yields_extend {run : Run Row} {rest : List Part} {position : Nat}
    (finds : Finds program tokens rest position run) (inside : position ≤ tokens.length)
    {step : Step} (literal : step.literal ≤ position) {offered : Frontier}
    (offers : ∀ next, Solves program tokens rest position next → ∀ literal,
      Option.Rel (Tail.Names program.slots) (Row.offeredAt next step literal)
        (offered.get? literal))
    {row : Row} {frontier : Frontier} {memo : Memo}
    (keeps : Keeps program tokens row frontier memo) :
    Yields (do let next ← run; row.extend next step) memo
      (Keeps program tokens · (frontier.merge offered)) := by
  apply Yields.bind (finds memo keeps.2)
  rintro next after ⟨solves, valid⟩
  obtain ⟨result, isResult, shows⟩ :=
    exists_extend solves inside literal (offers next solves) keeps.1
  exact Yields.lift isResult ⟨shows, valid⟩

/-- A loop over rows finds what it merges, one after the other. -/
theorem finds_foldlM {α : Type} {items : List α} {step : Row → α → Run Row}
    (track : Frontier → α → Frontier) {parts : List Part} {position : Nat}
    (each : ∀ item ∈ items, ∀ row frontier memo, Keeps program tokens row frontier memo →
      Yields (step row item) memo (Keeps program tokens · (track frontier item)))
    (same : ∀ literal, (Part.frontierAt tokens parts position).get? literal =
      (items.foldl track .none).get? literal) :
    Finds program tokens parts position (items.foldlM step (Row.empty tokens.length)) := by
  intro memo valid
  have loop : Yields (items.foldlM step (Row.empty tokens.length)) memo
      (Keeps program tokens · (items.foldl track .none)) :=
    Yields.foldlM each ⟨Row.shows_empty _ _, valid⟩
  refine loop.mono ?_
  intro row after keeps
  exact ⟨keeps.1.congr same, keeps.2⟩

variable {pc position : Nat} {rest : List Part}

/-- From an op on, a search finds the rest at every position. -/
def FindsLater (program : Program) (tokens : List Token) (search : Nat → Nat → Run Row)
    (parts : List Part) (pc : Nat) : Prop :=
  ∀ position ≤ tokens.length, Finds program tokens parts position (search pc position)

theorem finds_done (inside : position ≤ tokens.length) :
    Finds program tokens [] position
      (program.matchOp tokens search program.ops.length position (tokens.length - position)) := by
  intro memo valid
  have place : 0 < (Row.empty tokens.length).length := by
    rw [Row.empty, List.length_replicate]
    omega
  obtain ⟨row, isRow, offered⟩ := Row.exists_offer place ⟨tokens.length - position, []⟩
  rw [matchOp, List.getElem?_eq_none (Nat.le_refl _)]
  refine Yields.lift isRow ⟨⟨offered.length.trans (List.length_replicate ..), ?_⟩, valid⟩
  intro literal
  rw [Part.frontierAt_nil inside]
  cases literal with
  | zero =>
    rw [offered.here, Row.get?_empty]
    exact .some ⟨rfl, .nil⟩
  | succ literal =>
    rw [offered.others _ (Nat.succ_ne_zero literal), Row.get?_empty]
    exact .none

theorem finds_literal {phrases : List Phrase} (here : program.ops[pc]? = some (.literal phrases))
    (inside : position ≤ tokens.length) (later : FindsLater program tokens search rest (pc + 1)) :
    Finds program tokens (.literal phrases :: rest) position
      (program.matchOp tokens search pc position (tokens.length - position)) := by
  rw [matchOp, here]
  apply finds_foldlM fun frontier phrase =>
    if phrase.standsAt tokens position then
      frontier.merge ((Part.frontierAt tokens rest (position + phrase.tokens.length)).afterLiteral
        phrase.tokens.length)
    else frontier
  · intro phrase _ row frontier memo keeps
    split
    · rename_i stands
      have stop := Phrase.standsAt_le stands
      apply yields_extend (later _ stop) stop (Nat.le_add_left _ _) _ keeps
      intro next solves
      exact solves.offers_literal _
    · exact Yields.pure keeps
  · intro literal
    rw [Part.frontierAt_literal inside, Frontier.mergeAll, List.foldl_map, List.foldl_filter]

theorem finds_optional {stop : Nat} {body : List Part}
    (here : program.ops[pc]? = some (.optional stop)) (inside : position ≤ tokens.length)
    (taken : FindsLater program tokens search (body ++ rest) (pc + 1))
    (skipped : FindsLater program tokens search rest stop) :
    Finds program tokens (.optional body :: rest) position
      (program.matchOp tokens search pc position (tokens.length - position)) := by
  intro memo valid
  rw [matchOp, here]
  apply Yields.bind (taken _ inside memo valid)
  rintro takenRow between ⟨takenSolves, betweenValid⟩
  obtain ⟨row, isRow, shows⟩ := exists_extend takenSolves inside (Nat.zero_le _)
    takenSolves.offers_nothing (Row.shows_empty program.slots tokens.length)
  apply Yields.bind_lift isRow
  apply Yields.bind (skipped _ inside between betweenValid)
  rintro skippedRow after ⟨skippedSolves, afterValid⟩
  obtain ⟨result, isResult, resultShows⟩ := exists_extend skippedSolves inside (Nat.zero_le _)
    skippedSolves.offers_nothing shows
  refine Yields.lift isResult ⟨resultShows.congr ?_, afterValid⟩
  intro literal
  rw [Part.frontierAt_optional inside]
  rfl

/-- Longer captures than the loop tries leave too few tokens for the rest. -/
theorem finds_capture {slot fewest : Nat} {name : String}
    (here : program.ops[pc]? = some (.capture slot)) (inside : position ≤ tokens.length)
    (named : program.slots[slot]? = some name)
    (continues : Part.Continues program.ops program.slots (pc + 1) rest)
    (tabulates : Op.TabulatesFrom program.ops 0 program.minimumTokens)
    (atLater : program.minimumTokens[pc + 1]? = some fewest)
    (enough : 1 + fewest ≤ tokens.length - position)
    (later : FindsLater program tokens search rest (pc + 1)) :
    Finds program tokens (.capture name :: rest) position
      (program.matchOp tokens search pc position (tokens.length - position)) := by
  intro memo valid
  rw [matchOp, here]
  apply Yields.bind_lift (Checked.entry_eq atLater)
  apply Yields.bind_lift (Checked.minus_eq (Nat.le_trans (Nat.le_add_left ..) enough))
  refine finds_foldlM (fun frontier more => frontier.merge
    ((Part.frontierAt tokens rest (position + more + 1)).afterCapture name
      ⟨position, position + more + 1⟩)) ?_ ?_ memo valid
  · intro more range row frontier memo keeps
    have stop := List.mem_range.1 range
    apply yields_extend (later _ (by omega)) (by omega) (Nat.zero_le _) _ keeps
    intro next solves
    exact solves.offers_capture named _
  · intro literal
    rw [Part.frontierAt_capture inside, Frontier.get?_mergeAll_range (Nat.sub_le _ fewest),
      Frontier.mergeAll, List.foldl_map]
    intro more above below
    exact (continues.frontierAt_bare tabulates (by omega) atLater (by omega)).afterCapture _ _

theorem finds_wildcard {fewest : Nat} (here : program.ops[pc]? = some .wildcard)
    (inside : position ≤ tokens.length)
    (continues : Part.Continues program.ops program.slots (pc + 1) rest)
    (tabulates : Op.TabulatesFrom program.ops 0 program.minimumTokens)
    (atLater : program.minimumTokens[pc + 1]? = some fewest)
    (enough : fewest ≤ tokens.length - position)
    (later : FindsLater program tokens search rest (pc + 1)) :
    Finds program tokens (.wildcard :: rest) position
      (program.matchOp tokens search pc position (tokens.length - position)) := by
  intro memo valid
  rw [matchOp, here]
  apply Yields.bind_lift (Checked.entry_eq atLater)
  apply Yields.bind_lift (Checked.minus_eq enough)
  refine finds_foldlM (fun frontier width => frontier.merge
    ((Part.frontierAt tokens rest (position + width)).afterGap width)) ?_ ?_ memo valid
  · intro width range row frontier memo keeps
    have stop := List.mem_range.1 range
    apply yields_extend (later _ (by omega)) (by omega) (Nat.zero_le _) _ keeps
    intro next solves
    exact solves.offers_gap _
  · intro literal
    rw [Part.frontierAt_wildcard inside,
      Frontier.get?_mergeAll_range (Nat.add_le_add_right (Nat.sub_le _ fewest) 1),
      Frontier.mergeAll, List.foldl_map]
    intro width above below
    exact (continues.frontierAt_bare tabulates (by omega) atLater (by omega)).afterGap _

/-- There is an entry for every op from which parts are still to be matched, and one for the end. -/
theorem exists_minimumTokens (tabulates : Op.TabulatesFrom program.ops 0 program.minimumTokens)
    {parts : List Part} (continues : Part.Continues program.ops program.slots pc parts) :
    ∃ fewest, program.minimumTokens[pc]? = some fewest := by
  have length := tabulates.length
  have le := continues.le
  exact ⟨_, List.getElem?_eq_getElem (by omega)⟩

/-- An op is matched by a search that finds all later states. Jumps go forward, so it calls on no
others. -/
theorem finds_matchOp (forward : Op.Forward program.ops) {parts : List Part} {fewest : Nat}
    (tabulates : Op.TabulatesFrom program.ops 0 program.minimumTokens)
    (continues : Part.Continues program.ops program.slots pc parts)
    (later : ∀ laterPc laterParts, pc < laterPc →
      Part.Continues program.ops program.slots laterPc laterParts →
      FindsLater program tokens search laterParts laterPc)
    (inside : position ≤ tokens.length) (atPc : program.minimumTokens[pc]? = some fewest)
    (enough : fewest ≤ tokens.length - position) :
    Finds program tokens parts position
      (program.matchOp tokens search pc position (tokens.length - position)) := by
  cases continues with
  | done => exact finds_done inside
  | literal here after => exact finds_literal here inside (later _ _ (Nat.lt_succ_self _) after)
  | capture here named after =>
    obtain ⟨laterFewest, atLater, rfl⟩ :=
      Op.exists_of_fewest_capture (tabulates.fewest_of_getElem? here atPc)
    exact finds_capture here inside named after tabulates atLater enough
      (later _ _ (Nat.lt_succ_self _) after)
  | wildcard here after =>
    have atLater := Op.of_fewest_wildcard (tabulates.fewest_of_getElem? here atPc)
    exact finds_wildcard here inside after tabulates atLater enough
      (later _ _ (Nat.lt_succ_self _) after)
  | optional here taken skipped =>
    exact finds_optional here inside (later _ _ (Nat.lt_succ_self _) taken)
      (later _ _ (forward _ _ here).1 skipped)

/-- The search finds what is still to be matched from an op on, with calls that nest as deep as there
are ops left and the end. -/
theorem finds (forward : Op.Forward program.ops)
    (tabulates : Op.TabulatesFrom program.ops 0 program.minimumTokens) {depth : Nat}
    {parts : List Part} (continues : Part.Continues program.ops program.slots pc parts)
    (deep : program.ops.length < pc + depth) :
    FindsLater program tokens (program.tails tokens depth) parts pc := by
  induction depth generalizing pc parts with
  | zero => exact absurd continues.le (Nat.not_le_of_lt deep)
  | succ depth ih =>
    intro position inside
    obtain ⟨fewest, atPc⟩ := exists_minimumTokens tabulates continues
    apply finds_tails continues inside
    apply finds_solve continues tabulates inside atPc
    apply finds_matchOp forward tabulates continues _ inside atPc
    intro laterPc laterParts above laterContinues
    exact ih laterContinues (by omega)

section Depth

variable {other : Nat → Nat → Run Row}

/-- An op is matched the same by a search that goes further. -/
theorem matchOp_follows (program : Program) (tokens : List Token)
    (follows : ∀ pc position, (search pc position).Follows (other pc position))
    (pc position remaining : Nat) :
    (program.matchOp tokens search pc position remaining).Follows
      (program.matchOp tokens other pc position remaining) := by
  rw [matchOp, matchOp]
  cases program.ops[pc]? with
  | none => exact .refl _
  | some op =>
    cases op with
    | literal phrases =>
      apply Run.Follows.foldlM
      intro row phrase
      split
      · exact (follows _ _).bind_left _
      · exact .refl _
    | capture slot =>
      apply Run.Follows.bind_right
      intro later
      apply Run.Follows.bind_right
      intro longest
      apply Run.Follows.foldlM
      intro row more
      exact (follows _ _).bind_left _
    | wildcard =>
      apply Run.Follows.bind_right
      intro later
      apply Run.Follows.bind_right
      intro longest
      apply Run.Follows.foldlM
      intro row width
      exact (follows _ _).bind_left _
    | optional stop =>
      apply (follows _ _).bind
      intro taken
      apply Run.Follows.bind_right
      intro row
      exact (follows _ _).bind_left _

theorem solve_follows (program : Program) (tokens : List Token)
    (follows : ∀ pc position, (search pc position).Follows (other pc position))
    (pc position : Nat) :
    (program.solve tokens search pc position).Follows
      (program.solve tokens other pc position) := by
  rw [solve, solve]
  apply Run.Follows.bind_right
  intro remaining
  apply Run.Follows.bind_right
  intro fewest
  split
  · exact .refl _
  · exact matchOp_follows program tokens follows pc position remaining

/-- A state that is found with calls up to a depth is found the same with deeper ones. -/
theorem tails_follows (program : Program) (tokens : List Token) {depth deeper : Nat}
    (le : depth ≤ deeper) (pc position : Nat) :
    (program.tails tokens deeper pc position).Follows (program.tails tokens depth pc position) := by
  induction depth generalizing deeper pc position with
  | zero => exact .of_never _
  | succ depth ih =>
    cases deeper with
    | zero => omega
    | succ deeper =>
      rw [tails, tails]
      apply Run.Follows.bind_right
      intro memo
      apply Run.Follows.bind_right
      intro solved
      cases solved with
      | some row => exact .refl _
      | none =>
        apply Run.Follows.bind_left
        exact solve_follows program tokens (ih (Nat.le_of_succ_le_succ le)) pc position

end Depth

end SkillDispatch.Program
