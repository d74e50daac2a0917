import SkillDispatch.Token

set_option autoImplicit false

namespace SkillDispatch

open Text

theorem Text.byteLength_eq_zero {chars : List Char} (empty : byteLength chars = 0) :
    chars = [] := by
  cases chars with
  | nil => rfl
  | cons c chars =>
    have positive := c.utf8Size_pos
    rw [byteLength_cons] at empty
    omega

theorem runs_stand {start : Nat} {chars : List Char} {run : Run} (member : run ∈ runs start chars) :
    ∃ before after, chars = before ++ run.chars ++ after ∧
      run.start = start + byteLength before := by
  induction chars generalizing start run with
  | nil => cases member
  | cons c chars ih =>
    have later : ∀ {other : Run}, other ∈ runs (start + c.utf8Size) chars →
        ∃ before after, c :: chars = before ++ other.chars ++ after ∧
          other.start = start + byteLength before := by
      intro other inRest
      obtain ⟨before, after, split, begins⟩ := ih inRest
      refine ⟨c :: before, after, ?_, ?_⟩
      · rw [split, List.cons_append, List.cons_append]
      · rw [begins, byteLength_cons, Nat.add_assoc]
    have alone : ∃ before after, c :: chars = before ++ [c] ++ after ∧
        start = start + byteLength before := ⟨[], chars, rfl, rfl⟩
    rw [runs] at member
    split at member
    · split at member
      · rw [List.mem_singleton] at member
        subst member
        exact alone
      · rename_i next others rest
        split at member
        · rename_i joined
          rcases List.mem_cons.1 member with first | inOthers
          · subst first
            obtain ⟨before, after, split, begins⟩ := ih (rest ▸ List.mem_cons_self ..)
            have none : before = [] := byteLength_eq_zero (by omega)
            subst none
            refine ⟨[], after, ?_, rfl⟩
            rw [split, List.nil_append, List.nil_append, List.cons_append]
          · exact later (rest ▸ List.mem_cons_of_mem _ inOthers)
        · rcases List.mem_cons.1 member with first | inRest
          · subst first
            exact alone
          · exact later (rest ▸ inRest)
    · exact later member

namespace Run

/-- A run with some bytes more in front of it. -/
def after (bytes : Nat) (run : Run) : Run :=
  ⟨bytes + run.start, run.chars⟩

def value (run : Run) : String :=
  String.ofList (fold run.chars)

end Run

/-- Every token is that of a run with a letter or a numeral in it. -/
theorem exists_run_of_mem_tokenize {text : String} {token : Token}
    (member : token ∈ tokenize text) :
    ∃ run ∈ runs 0 text.toList, run.isToken = true ∧ token = Token.ofRun token.position run := by
  rw [tokenize, List.mem_mapIdx] at member
  obtain ⟨index, inside, rfl⟩ := member
  obtain ⟨inRuns, isToken⟩ := List.mem_filter.1 (List.getElem_mem inside)
  exact ⟨_, inRuns, isToken, rfl⟩

theorem runs_after (bytes start : Nat) (chars : List Char) :
    runs (bytes + start) chars = (runs start chars).map (Run.after bytes) := by
  induction chars generalizing start with
  | nil => rfl
  | cons c chars ih =>
    have rest : runs (bytes + start + c.utf8Size) chars =
        (runs (start + c.utf8Size) chars).map (Run.after bytes) := by
      rw [Nat.add_assoc]
      exact ih (start + c.utf8Size)
    rw [runs, runs, rest]
    split
    · cases runs (start + c.utf8Size) chars with
      | nil => rfl
      | cons next others =>
        have joined : bytes + next.start = bytes + start + c.utf8Size ↔
            next.start = start + c.utf8Size := by omega
        simp only [List.map_cons, Run.after, joined]
        split
        · rfl
        · rfl
    · rfl

theorem runs_separated {c : Char} (separates : isTokenChar c = false) (start : Nat)
    (first second : List Char) :
    runs start (first ++ c :: second) =
      runs start first ++ runs (start + byteLength first + c.utf8Size) second := by
  induction first generalizing start with
  | nil =>
    have notToken : ¬isTokenChar c = true := Bool.not_eq_true _ ▸ separates
    rw [List.nil_append, runs]
    exact if_neg notToken
  | cons d first ih =>
    have position : start + byteLength (d :: first) + c.utf8Size =
        start + d.utf8Size + byteLength first + c.utf8Size := by
      rw [byteLength_cons, ← Nat.add_assoc]
    rw [position, List.cons_append, runs, runs, ih]
    by_cases token : isTokenChar d = true
    · rw [if_pos token, if_pos token]
      cases runs (start + d.utf8Size) first with
      | cons next others =>
        show (if next.start = _ then _ else _) = (if next.start = _ then _ else _) ++ _
        split
        · rfl
        · rfl
      | nil =>
        -- The first run after the separator starts too late for `d` to join it.
        cases later : runs (start + d.utf8Size + byteLength first + c.utf8Size) second with
        | nil => rfl
        | cons next others =>
          obtain ⟨before, behind, -, begins⟩ := runs_stand (later ▸ List.mem_cons_self ..)
          have width := c.utf8Size_pos
          have apart : next.start ≠ start + d.utf8Size := by omega
          show (if next.start = _ then _ else _) = _
          rw [if_neg apart]
          rfl
    · rw [if_neg token, if_neg token]

/-- The folded forms of the tokens among some runs. -/
def runValues (found : List Run) : List String :=
  (found.filter Run.isToken).map Run.value

theorem tokenValues_eq_runValues (text : String) :
    tokenValues text = runValues (runs 0 text.toList) := by
  apply List.ext_getElem
  · simp [tokenValues, tokenize, runValues]
  · intro index inside _
    simp only [tokenValues, tokenize, runValues, List.getElem_map, List.getElem_mapIdx]
    rfl

theorem runValues_append (first second : List Run) :
    runValues (first ++ second) = runValues first ++ runValues second := by
  rw [runValues, List.filter_append, List.map_append]
  rfl

theorem runValues_runs (start : Nat) (chars : List Char) :
    runValues (runs start chars) = runValues (runs 0 chars) := by
  have moved := runs_after start 0 chars
  rw [Nat.add_zero] at moved
  rw [moved, runValues, List.filter_map, List.map_map]
  rfl

theorem runValues_separators {separators : List Char}
    (separate : ∀ c ∈ separators, isTokenChar c = false) (start : Nat) (chars : List Char) :
    runValues (runs start (separators ++ chars)) = runValues (runs 0 chars) := by
  induction separators generalizing start with
  | nil => exact runValues_runs start chars
  | cons c more ih =>
    have head := separate c (List.mem_cons_self ..)
    have tail : ∀ other ∈ more, isTokenChar other = false :=
      fun other member => separate other (List.mem_cons_of_mem _ member)
    have apart := runs_separated head start [] (more ++ chars)
    rw [List.nil_append] at apart
    rw [List.cons_append, apart]
    exact ih tail _

/-- A text that stands between tokens: one character at least, and none of a token. -/
structure Separates (separator : String) : Prop where
  some : separator ≠ ""
  all : ∀ c ∈ separator.toList, isTokenChar c = false

theorem Separates.of_all {separator : String} (some : separator ≠ "")
    (all : (separator.toList.all fun c => !isTokenChar c) = true) : Separates separator := by
  refine ⟨some, fun c member => ?_⟩
  have separates := List.all_eq_true.1 all c member
  rwa [Bool.not_eq_true'] at separates

/-- Two texts with a separator between them have the tokens of the one and then those of the other. -/
theorem tokenValues_separated {separator : String} (separates : Separates separator)
    (first second : String) :
    tokenValues (first ++ separator ++ second) = tokenValues first ++ tokenValues second := by
  have all := separates.all
  simp only [tokenValues_eq_runValues, String.toList_append, List.append_assoc]
  cases chars : separator.toList with
  | nil => exact absurd (String.toList_inj.1 chars) separates.some
  | cons c more =>
    rw [chars] at all
    have head : isTokenChar c = false := all c (List.mem_cons_self ..)
    have tail : ∀ other ∈ more, isTokenChar other = false :=
      fun other member => all other (List.mem_cons_of_mem _ member)
    rw [List.cons_append, runs_separated head, runValues_append, runValues_separators tail]

end SkillDispatch
