import SkillDispatch.Program

set_option autoImplicit false

namespace SkillDispatch

variable {ops others : List Op} {slots names : List String}

/-- The ops from one place up to another are the given parts. -/
inductive Part.Spans (ops : List Op) (slots : List String) : Nat → List Part → Nat → Prop
  | nil (pc : Nat) : Spans ops slots pc [] pc
  | literal {pc stop : Nat} {phrases : List Phrase} {rest : List Part}
      (here : ops[pc]? = some (.literal phrases)) (tail : Spans ops slots (pc + 1) rest stop) :
      Spans ops slots pc (.literal phrases :: rest) stop
  | capture {pc stop slot : Nat} {name : String} {rest : List Part}
      (here : ops[pc]? = some (.capture slot)) (named : slots[slot]? = some name)
      (tail : Spans ops slots (pc + 1) rest stop) :
      Spans ops slots pc (.capture name :: rest) stop
  | wildcard {pc stop : Nat} {rest : List Part} (here : ops[pc]? = some .wildcard)
      (tail : Spans ops slots (pc + 1) rest stop) : Spans ops slots pc (.wildcard :: rest) stop
  | optional {pc after stop : Nat} {body rest : List Part}
      (here : ops[pc]? = some (.optional after)) (inner : Spans ops slots (pc + 1) body after)
      (tail : Spans ops slots after rest stop) :
      Spans ops slots pc (.optional body :: rest) stop

namespace Part.Spans

variable {pc stop : Nat} {parts : List Part}

theorem le (spans : Part.Spans ops slots pc parts stop) : pc ≤ stop := by
  induction spans with
  | nil pc => exact Nat.le_refl pc
  | literal _ _ ih => omega
  | capture _ _ _ ih => omega
  | wildcard _ _ ih => omega
  | optional _ _ _ innerIh ih => omega

/-- What stands before the parts and after them does not matter, and neither do later slots. -/
theorem frame (spans : Part.Spans ops slots pc parts stop)
    (same : ∀ index, pc ≤ index → index < stop → others[index]? = ops[index]?)
    (grown : slots <+: names) : Part.Spans others names pc parts stop := by
  induction spans with
  | nil pc => exact .nil pc
  | @literal pc stop _ _ here tail ih =>
    have below := tail.le
    refine .literal ((same pc (Nat.le_refl pc) (by omega)).trans here) (ih ?_)
    intro index above inside
    exact same index (by omega) inside
  | @capture pc stop slot name _ here named tail ih =>
    have below := tail.le
    have stillNamed : names[slot]? = some name := by
      obtain ⟨more, rfl⟩ := grown
      rw [List.getElem?_append_left (List.getElem?_eq_some_iff.1 named).1]
      exact named
    refine .capture ((same pc (Nat.le_refl pc) (by omega)).trans here) stillNamed (ih ?_)
    intro index above inside
    exact same index (by omega) inside
  | @wildcard pc stop _ here tail ih =>
    have below := tail.le
    refine .wildcard ((same pc (Nat.le_refl pc) (by omega)).trans here) (ih ?_)
    intro index above inside
    exact same index (by omega) inside
  | @optional pc after stop _ _ here inner tail innerIh ih =>
    have below := tail.le
    have bodyBelow := inner.le
    refine .optional ((same pc (Nat.le_refl pc) (by omega)).trans here) (innerIh ?_) (ih ?_)
    · intro index above inside
      exact same index (by omega) (by omega)
    · intro index above inside
      exact same index (by omega) inside

theorem jumps (spans : Part.Spans ops slots pc parts stop) {index target : Nat}
    (above : pc ≤ index) (inside : index < stop)
    (isJump : ops[index]? = some (.optional target)) : index < target ∧ target ≤ stop := by
  induction spans with
  | nil pc => omega
  | @literal pc _ _ _ here _ ih =>
    rcases Nat.eq_or_lt_of_le above with rfl | later
    · rw [here] at isJump
      cases isJump
    · exact ih later inside
  | @capture pc _ _ _ _ here _ _ ih =>
    rcases Nat.eq_or_lt_of_le above with rfl | later
    · rw [here] at isJump
      cases isJump
    · exact ih later inside
  | @wildcard pc _ _ here _ ih =>
    rcases Nat.eq_or_lt_of_le above with rfl | later
    · rw [here] at isJump
      cases isJump
    · exact ih later inside
  | @optional pc after stop _ _ here inner tail innerIh ih =>
    have below := tail.le
    rcases Nat.eq_or_lt_of_le above with rfl | later
    · rw [here] at isJump
      cases isJump
      exact ⟨inner.le, below⟩
    · by_cases inBody : index < after
      · have inner := innerIh later inBody
        omega
      · exact ih (by omega) inside

end Part.Spans

/-- What comes of laying out parts behind what is laid out already. -/
structure Part.LaidOut (parts : List Part) (draft filled : Draft) : Prop where
  grown : draft.ops <+: filled.ops
  slots : filled.slots = draft.slots ++ Part.slotsOf parts
  spans : Part.Spans filled.ops filled.slots draft.ops.length parts filled.ops.length

theorem getElem?_length_of_grown {α : Type} {items others : List α} {item : α}
    (isPrefix : items ++ [item] <+: others) : others[items.length]? = some item := by
  obtain ⟨more, rfl⟩ := isPrefix
  simp

theorem getElem?_of_grown {α : Type} {items others : List α} (isPrefix : items <+: others)
    {index : Nat} (inside : index < items.length) : others[index]? = items[index]? := by
  obtain ⟨more, rfl⟩ := isPrefix
  exact List.getElem?_append_left inside

theorem prefix_set {α : Type} {items others : List α} (isPrefix : items <+: others) (item : α) :
    items <+: others.set items.length item := by
  obtain ⟨more, rfl⟩ := isPrefix
  rw [List.set_append_right _ _ (Nat.le_refl _)]
  exact List.prefix_append _ _

/-- Parts are laid out without a crash, one after the other. -/
theorem Part.layOutEach_laidOut (parts : List Part) (draft : Draft) :
    ∃ filled, Part.layOutEach parts draft = .ok filled ∧ Part.LaidOut parts draft filled := by
  match parts with
  | [] =>
    refine ⟨draft, rfl, List.prefix_refl _, ?_, .nil _⟩
    rw [Part.slotsOf, List.append_nil]
  | .literal phrases :: rest =>
    obtain ⟨filled, isFilled, laidOut⟩ :=
      Part.layOutEach_laidOut rest (draft.push (.literal phrases))
    refine ⟨filled, isFilled, (List.prefix_append _ _).trans laidOut.grown, laidOut.slots, ?_⟩
    have spans := laidOut.spans
    rw [Draft.push, List.length_append] at spans
    exact .literal (getElem?_length_of_grown laidOut.grown) spans
  | .wildcard :: rest =>
    obtain ⟨filled, isFilled, laidOut⟩ := Part.layOutEach_laidOut rest (draft.push .wildcard)
    refine ⟨filled, isFilled, (List.prefix_append _ _).trans laidOut.grown, laidOut.slots, ?_⟩
    have spans := laidOut.spans
    rw [Draft.push, List.length_append] at spans
    exact .wildcard (getElem?_length_of_grown laidOut.grown) spans
  | .capture name :: rest =>
    obtain ⟨filled, isFilled, laidOut⟩ := Part.layOutEach_laidOut rest
      ((draft.push (.capture draft.slots.length)).pushSlot name)
    have names : filled.slots = draft.slots ++ name :: Part.slotsOf rest := by
      rw [laidOut.slots, Draft.pushSlot, List.append_assoc]
      rfl
    refine ⟨filled, isFilled, (List.prefix_append _ _).trans laidOut.grown, names, ?_⟩
    have spans := laidOut.spans
    rw [Draft.pushSlot, Draft.push, List.length_append] at spans
    refine .capture (getElem?_length_of_grown laidOut.grown) ?_ spans
    rw [names]
    simp
  | .optional body :: rest =>
    obtain ⟨inner, isInner, innerLaidOut⟩ :=
      Part.layOutEach_laidOut body (draft.push (.optional draft.ops.length))
    have inside : draft.ops.length < inner.ops.length := by
      have length := innerLaidOut.grown.length_le
      rw [Draft.push, List.length_append, List.length_singleton] at length
      omega
    let patched : Draft :=
      { inner with ops := inner.ops.set draft.ops.length (.optional inner.ops.length) }
    have isPatched : (Part.optional body).layOut draft = .ok patched := by
      simp only [Part.layOut, isInner, bind, Except.bind, Checked.withEntry_eq inside, pure,
        Except.pure, patched]
    have length : patched.ops.length = inner.ops.length := List.length_set ..
    obtain ⟨filled, isFilled, laidOut⟩ := Part.layOutEach_laidOut rest patched
    have atPatched : ∀ index < inner.ops.length, filled.ops[index]? = patched.ops[index]? := by
      intro index below
      exact getElem?_of_grown laidOut.grown (length ▸ below)
    refine ⟨filled, ?_, ?_, ?_, .optional ?_ ?_ (length ▸ laidOut.spans)⟩
    · rw [Part.layOutEach, isPatched]
      exact isFilled
    · have pushed := (List.prefix_append draft.ops _).trans innerLaidOut.grown
      exact (prefix_set pushed _).trans laidOut.grown
    · rw [laidOut.slots, Part.slotsOf, Part.slots, ← List.append_assoc]
      exact congrArg (· ++ Part.slotsOf rest) innerLaidOut.slots
    · rw [atPatched _ inside]
      exact List.getElem?_set_self inside
    · have spans := innerLaidOut.spans
      rw [Draft.push, List.length_append] at spans
      refine spans.frame ?_ ⟨_, laidOut.slots.symm⟩
      intro index above below
      rw [atPatched index below]
      exact List.getElem?_set_ne (Nat.ne_of_lt above)
termination_by sizeOf parts

/-- From an op on, these parts are still to be matched. Within a body, they are the rest of the body
and then what follows it. -/
inductive Part.Continues (ops : List Op) (slots : List String) : Nat → List Part → Prop
  | done : Continues ops slots ops.length []
  | literal {pc : Nat} {phrases : List Phrase} {rest : List Part}
      (here : ops[pc]? = some (.literal phrases)) (later : Continues ops slots (pc + 1) rest) :
      Continues ops slots pc (.literal phrases :: rest)
  | capture {pc slot : Nat} {name : String} {rest : List Part}
      (here : ops[pc]? = some (.capture slot)) (named : slots[slot]? = some name)
      (later : Continues ops slots (pc + 1) rest) :
      Continues ops slots pc (.capture name :: rest)
  | wildcard {pc : Nat} {rest : List Part} (here : ops[pc]? = some .wildcard)
      (later : Continues ops slots (pc + 1) rest) : Continues ops slots pc (.wildcard :: rest)
  | optional {pc stop : Nat} {body rest : List Part} (here : ops[pc]? = some (.optional stop))
      (taken : Continues ops slots (pc + 1) (body ++ rest))
      (skipped : Continues ops slots stop rest) :
      Continues ops slots pc (.optional body :: rest)

theorem Part.Spans.continues {pc stop : Nat} {parts rest : List Part}
    (spans : Part.Spans ops slots pc parts stop) (after : Part.Continues ops slots stop rest) :
    Part.Continues ops slots pc (parts ++ rest) := by
  induction spans generalizing rest with
  | nil pc => exact after
  | literal here _ ih => exact .literal here (ih after)
  | capture here named _ ih => exact .capture here named (ih after)
  | wildcard here _ ih => exact .wildcard here (ih after)
  | optional here _ _ innerIh ih => exact .optional here (innerIh (ih after)) (ih after)

namespace Part.Continues

variable {pc : Nat} {parts : List Part}

theorem le (continues : Part.Continues ops slots pc parts) : pc ≤ ops.length := by
  have inside : ∀ {pc : Nat} {op : Op}, ops[pc]? = some op → pc ≤ ops.length := by
    intro pc op here
    exact Nat.le_of_lt (List.getElem?_eq_some_iff.1 here).1
  cases continues with
  | done => exact Nat.le_refl _
  | literal here => exact inside here
  | capture here => exact inside here
  | wildcard here => exact inside here
  | optional here => exact inside here

/-- The ops say what is still to be matched. -/
theorem unique {more : List Part} (continues : Part.Continues ops slots pc parts)
    (other : Part.Continues ops slots pc more) : parts = more := by
  -- Only one rule fits the op at hand; the others are ruled out by what is looked up there.
  induction continues generalizing more with
  | done =>
    cases other with
    | done => rfl
    | _ => simp_all
  | literal here _ ih =>
    cases other with
    | literal same later =>
      cases here.symm.trans same
      rw [ih later]
    | _ => simp_all
  | capture here named _ ih =>
    cases other with
    | capture same sameName later =>
      cases here.symm.trans same
      cases named.symm.trans sameName
      rw [ih later]
    | _ => simp_all
  | wildcard here _ ih =>
    cases other with
    | wildcard same later => rw [ih later]
    | _ => simp_all
  | optional here _ _ takenIh skippedIh =>
    cases other with
    | optional same taken skipped =>
      cases here.symm.trans same
      cases skippedIh skipped
      rw [List.append_cancel_right (takenIh taken)]
    | _ => simp_all

end Part.Continues

/-- All jumps go forward and stay within the ops. -/
def Op.Forward (ops : List Op) : Prop :=
  ∀ pc stop, ops[pc]? = some (.optional stop) → pc < stop ∧ stop ≤ ops.length

/-- From one place on, a table says for each op the fewest tokens. After the last op there are
none. -/
structure Op.TabulatesFrom (ops : List Op) (start : Nat) (table : List Nat) : Prop where
  length : table.length = ops.length + 1
  last : table[ops.length]? = some 0
  fewest : ∀ pc op, start ≤ pc → ops[pc]? = some op →
    ∃ fewest, op.fewest table pc = .ok fewest ∧ table[pc]? = some fewest

theorem Op.fewest_congr {table other : List Nat} {pc : Nat} {op : Op}
    (forward : ∀ stop, op = .optional stop → pc < stop)
    (same : ∀ index, pc < index → other[index]? = table[index]?) :
    op.fewest other pc = op.fewest table pc := by
  have entries : ∀ index, pc < index → Checked.entry other index = Checked.entry table index := by
    intro index later
    rw [Checked.entry, Checked.entry, same index later]
  have next := entries (pc + 1) (Nat.lt_succ_self pc)
  cases op with
  | literal phrases => rw [Op.fewest, Op.fewest, next]
  | capture slot => rw [Op.fewest, Op.fewest, next]
  | wildcard => rw [Op.fewest, Op.fewest, next]
  | optional stop => rw [Op.fewest, Op.fewest, next, entries stop (forward stop rfl)]

/-- What an op takes is found if there are entries for all later ops. -/
theorem Op.exists_fewest {table : List Nat} {pc : Nat} {op : Op} (inside : pc + 1 < table.length)
    (jumps : ∀ stop, op = .optional stop → stop < table.length) :
    ∃ fewest, op.fewest table pc = .ok fewest := by
  have next := Checked.entry_eq (List.getElem?_eq_getElem inside)
  cases op with
  | literal phrases =>
    rw [Op.fewest, next]
    exact ⟨_, rfl⟩
  | capture slot =>
    rw [Op.fewest, next]
    exact ⟨_, rfl⟩
  | wildcard =>
    rw [Op.fewest, next]
    exact ⟨_, rfl⟩
  | optional stop =>
    rw [Op.fewest, next, Checked.entry_eq (List.getElem?_eq_getElem (jumps stop rfl))]
    exact ⟨_, rfl⟩

/-- One more entry, in front of those that are filled in. -/
theorem Op.TabulatesFrom.step {start : Nat} {table : List Nat}
    (tabulates : Op.TabulatesFrom ops (start + 1) table) (forward : Op.Forward ops)
    (inside : start < ops.length) :
    ∃ op fewest, Checked.entry ops start = .ok op ∧ op.fewest table start = .ok fewest ∧
      Op.TabulatesFrom ops start (table.set start fewest) := by
  have atStart := List.getElem?_eq_getElem inside
  have length := tabulates.length
  obtain ⟨fewest, isFewest⟩ : ∃ fewest, ops[start].fewest table start = .ok fewest := by
    apply Op.exists_fewest
    · omega
    · intro stop isJump
      have bound := (forward start stop (isJump ▸ atStart)).2
      omega
  refine ⟨ops[start], fewest, Checked.entry_eq atStart, isFewest, ?_, ?_, ?_⟩
  · rw [List.length_set]
    exact length
  · rw [List.getElem?_set_ne (Nat.ne_of_lt inside)]
    exact tabulates.last
  · intro pc op above here
    have unchanged : op.fewest (table.set start fewest) pc = op.fewest table pc := by
      apply Op.fewest_congr
      · intro stop isJump
        exact (forward pc stop (isJump ▸ here)).1
      · intro index later
        exact List.getElem?_set_ne (by omega)
    rw [unchanged]
    rcases Nat.eq_or_lt_of_le above with rfl | later
    · cases atStart.symm.trans here
      exact ⟨fewest, isFewest, List.getElem?_set_self (by omega)⟩
    · rw [List.getElem?_set_ne (Nat.ne_of_lt later)]
      exact tabulates.fewest pc op later here

/-- The table of a program with forward jumps is filled in without a crash. -/
theorem Op.minimumTokens_tabulates (forward : Op.Forward ops) :
    ∃ table, Op.minimumTokens ops = .ok table ∧ Op.TabulatesFrom ops 0 table := by
  -- The loop goes down from the last op; it has filled in the entries from `start` on.
  suffices loop : ∀ start table, start ≤ ops.length → Op.TabulatesFrom ops start table →
      ∃ filled, (List.range start).reverse.foldlM
        (fun table pc => do
          let op ← Checked.entry ops pc
          let fewest ← op.fewest table pc
          Checked.withEntry table pc fewest) table = .ok filled ∧
        Op.TabulatesFrom ops 0 filled by
    apply loop ops.length _ (Nat.le_refl _)
    refine ⟨List.length_replicate .., ?_, ?_⟩
    · rw [List.getElem?_replicate, if_pos (Nat.lt_succ_self _)]
    · intro pc op above here
      exact absurd (List.getElem?_eq_some_iff.1 here).1 (Nat.not_lt_of_le above)
  intro start
  induction start with
  | zero =>
    intro table _ tabulates
    exact ⟨table, rfl, tabulates⟩
  | succ start ih =>
    intro table inside tabulates
    obtain ⟨op, fewest, isOp, isFewest, next⟩ := tabulates.step forward inside
    obtain ⟨filled, isFilled, complete⟩ := ih _ (Nat.le_of_lt inside) next
    have inTable : start < table.length := by
      have length := tabulates.length
      omega
    refine ⟨filled, ?_, complete⟩
    rw [List.range_succ, List.reverse_append, List.reverse_singleton, List.singleton_append,
      List.foldlM_cons, isOp]
    dsimp only [bind, Except.bind]
    rw [isFewest]
    dsimp only
    rw [Checked.withEntry_eq inTable]
    exact isFilled

/-- What the search relies on in the program of a pattern. -/
structure Program.Sound (program : Program) (pattern : Pattern) : Prop where
  continues : Part.Continues program.ops program.slots 0 pattern.parts
  forward : Op.Forward program.ops
  tabulates : Op.TabulatesFrom program.ops 0 program.minimumTokens
  slots : program.slots = pattern.slots

theorem Pattern.exists_program (pattern : Pattern) :
    ∃ program, pattern.program = .ok program ∧ program.Sound pattern := by
  obtain ⟨draft, isDraft, laidOut⟩ := Part.layOutEach_laidOut pattern.parts .empty
  have spans : Part.Spans draft.ops draft.slots 0 pattern.parts draft.ops.length := laidOut.spans
  have forward : Op.Forward draft.ops := by
    intro pc stop isJump
    exact spans.jumps (Nat.zero_le pc) (List.getElem?_eq_some_iff.1 isJump).1 isJump
  obtain ⟨table, isTable, tabulates⟩ := Op.minimumTokens_tabulates forward
  refine ⟨⟨draft.ops, draft.slots, table⟩, ?_, ?_, forward, tabulates, laidOut.slots⟩
  · rw [Pattern.program, isDraft]
    dsimp only [bind, Except.bind]
    rw [isTable]
    rfl
  · have continues := spans.continues .done
    rw [List.append_nil] at continues
    exact continues

/-- The parts of a pattern are laid out over all of its program. -/
theorem Pattern.program_spans {pattern : Pattern} {program : Program}
    (isProgram : pattern.program = .ok program) :
    Part.Spans program.ops program.slots 0 pattern.parts program.ops.length := by
  obtain ⟨draft, isDraft, laidOut⟩ := Part.layOutEach_laidOut pattern.parts .empty
  rw [Pattern.program, isDraft] at isProgram
  dsimp only [bind, Except.bind] at isProgram
  cases isTable : Op.minimumTokens draft.ops with
  | error crash =>
    rw [isTable] at isProgram
    cases isProgram
  | ok table =>
    rw [isTable] at isProgram
    cases isProgram
    exact laidOut.spans

end SkillDispatch
