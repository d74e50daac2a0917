import SkillDispatch.Proofs.TokenSpans
import SkillDispatch.Scanner

set_option autoImplicit false

namespace SkillDispatch

open Text Unicode

def tokensOf (found : List Run) : List Token :=
  (found.filter Run.isToken).mapIdx Token.ofRun

theorem tokensOf_concat (found : List Run) (run : Run) :
    tokensOf (found ++ [run]) =
      if run.isToken then tokensOf found ++ [Token.ofRun (tokensOf found).length run]
      else tokensOf found := by
  rw [tokensOf, List.filter_append]
  split
  · rename_i isToken
    rw [List.filter_cons_of_pos isToken, List.filter_nil, List.mapIdx_concat, tokensOf,
      List.length_mapIdx]
  · rename_i notToken
    rw [List.filter_cons_of_neg notToken, List.filter_nil, List.append_nil]
    rfl

/-! ### One pass -/

/-- What the scanner knows of the text that it has read. -/
structure Scanner.Reads (read : List Char) (scanner : Scanner) (closed word : List Char) : Prop where
  split : read = closed ++ word
  token : ∀ c ∈ word, isTokenChar c = true
  separates : ∀ c ∈ closed.getLast?, isTokenChar c = false
  tokens : scanner.tokens = tokensOf (runs 0 closed)
  opened : scanner.opened = if word = [] then none else some (byteLength closed)

theorem Scanner.push_eq {chars before word after : List Char}
    (stands : chars = before ++ word ++ after) (found : List Run) :
    push chars (tokensOf found) ⟨byteLength before, byteLength before + byteLength word⟩ =
      tokensOf (found ++ [⟨byteLength before, word⟩]) := by
  rw [push, stands, slice_append, tokensOf_concat]
  rfl

theorem runs_concat_separator {c : Char} (separates : isTokenChar c = false) (start : Nat)
    (chars : List Char) : runs start (chars ++ [c]) = runs start chars := by
  rw [runs_separated separates, runs, List.append_nil]

theorem Scanner.Reads.step {chars read rest closed word : List Char} {scanner : Scanner}
    (reads : scanner.Reads read closed word) (stands : chars = read ++ rest) (c : Char) :
    ∃ nowClosed nowWord,
      (scanner.step chars (byteLength read, c)).Reads (read ++ [c]) nowClosed nowWord := by
  obtain ⟨tokens, opened⟩ := scanner
  obtain ⟨rfl, token, separates, rfl, rfl⟩ := reads
  cases kind : isTokenChar c with
  | true =>
    -- The run goes on, or begins where the text before it is closed.
    refine ⟨closed, word ++ [c], List.append_assoc .., ?_, separates, ?_, ?_⟩
    · exact List.forall_mem_append.2 ⟨token, List.forall_mem_singleton.2 kind⟩
    · cases word <;> simp [Scanner.step, kind]
    · cases word <;> simp [Scanner.step, kind]
  | false =>
    refine ⟨closed ++ word ++ [c], [], (List.append_nil _).symm, nofun, ?_, ?_, ?_⟩
    · simpa using kind
    · rw [runs_concat_separator kind, runs_append separates]
      cases word with
      | nil => simp [Scanner.step, kind, runs]
      | cons d more =>
        rw [runs_word token (List.cons_ne_nil _ _), Nat.zero_add, ← push_eq stands]
        simp [Scanner.step, kind]
    · cases word <;> simp [Scanner.step, kind]

theorem Scanner.Reads.foldl {chars read rest : List Char} {scanner : Scanner}
    (stands : chars = read ++ rest) (reads : ∃ closed word, scanner.Reads read closed word) :
    ∃ closed word, ((charIndices (byteLength read) rest).foldl (Scanner.step chars) scanner).Reads
      chars closed word := by
  induction rest generalizing read scanner with
  | nil =>
    rw [stands, List.append_nil]
    exact reads
  | cons c rest ih =>
    obtain ⟨closed, word, known⟩ := reads
    have length : byteLength read + c.utf8Size = byteLength (read ++ [c]) := by
      rw [byteLength_append, byteLength_cons, byteLength_nil, Nat.add_zero]
    rw [charIndices, List.foldl_cons, length]
    exact ih (by rw [stands, List.append_assoc, List.singleton_append]) (known.step stands c)

/-- One pass finds the tokens of a text. -/
theorem scan_eq_tokenize (text : String) : scan text = tokenize text := by
  have start : Scanner.Reads [] ⟨[], none⟩ [] [] := ⟨rfl, nofun, nofun, rfl, rfl⟩
  obtain ⟨closed, word, known⟩ :=
    Scanner.Reads.foldl (show text.toList = [] ++ text.toList from rfl) ⟨_, _, start⟩
  obtain ⟨nowClosed, nowWord, done⟩ := known.step (List.append_nil _).symm ' '
  have separates : isTokenChar ' ' = false := by decide +kernel
  -- The separator at the end belongs to no word, so no run is open after it.
  have noWord : nowWord = [] := by
    rcases List.eq_nil_or_concat nowWord with none | ⟨front, c, isFront⟩
    · exact none
    · have split := done.split
      rw [isFront, List.concat_eq_append, ← List.append_assoc] at split
      have last := (List.append_inj' split rfl).2
      have token := done.token c (by rw [isFront, List.concat_eq_append]; simp)
      cases last
      rw [separates] at token
      cases token
  have split := done.split
  rw [noWord, List.append_nil] at split
  rw [scan, List.foldl_append]
  refine done.tokens.trans ?_
  rw [← split, runs_concat_separator separates]
  rfl

/-! ### The law -/

structure TokenLaw (text : String) (tokens : List Token) : Prop where
  /-- They take the maximal runs with a letter or a numeral in them, and no others. -/
  spans : ∀ span, span ∈ tokens.map Token.span ↔
    ∃ before word after, MaximalRun text.toList before word after ∧
      word.any isAlphanumeric = true ∧
      span = ⟨byteLength before, byteLength before + byteLength word⟩
  boundaries : ∀ token ∈ tokens,
    IsBoundary text.toList token.span.start ∧ IsBoundary text.toList token.span.stop
  surface : ∀ token ∈ tokens, token.surface = String.ofList (slice text.toList token.span)
  value : ∀ token ∈ tokens, token.value = normalize token.surface
  kind : ∀ token ∈ tokens, token.kind = Token.kindOf token.surface.toList
  position : ∀ (index : Nat) token, tokens[index]? = some token → token.position = index
  nonempty : ∀ token ∈ tokens, token.span.start < token.span.stop
  /-- They stand in order, and never next to each other. -/
  apart : tokens.Pairwise fun first second => first.span.stop < second.span.start
  /-- A letter or numeral stands in a token, and in no other. -/
  once : ∀ before c after, text.toList = before ++ c :: after → isAlphanumeric c = true →
    ∃ token ∈ tokens, token.span.start ≤ byteLength before ∧
      byteLength before + c.utf8Size ≤ token.span.stop ∧
      ∀ other ∈ tokens, other.span.start ≤ byteLength before →
        byteLength before < other.span.stop → other = token
  /-- One pass over the text finds them. -/
  scanned : scan text = tokens

theorem mem_spans_iff (text : String) (span : Span) :
    span ∈ (tokenize text).map Token.span ↔
      ∃ before word after, MaximalRun text.toList before word after ∧
        word.any isAlphanumeric = true ∧
        span = ⟨byteLength before, byteLength before + byteLength word⟩ := by
  have spans : (tokenize text).map Token.span =
      ((runs 0 text.toList).filter Run.isToken).map Run.span := by
    apply List.ext_getElem
    · simp [tokenize]
    · intro index inside _
      simp only [tokenize, List.getElem_map, List.getElem_mapIdx]
      rfl
  rw [spans, List.mem_map]
  constructor
  · rintro ⟨run, member, rfl⟩
    obtain ⟨inRuns, isToken⟩ := List.mem_filter.1 member
    obtain ⟨before, after, maximal, begins⟩ := maximalRun_of_mem_runs inRuns
    rw [Nat.zero_add] at begins
    exact ⟨before, run.chars, after, maximal, isToken, by rw [Run.span, begins]⟩
  · rintro ⟨before, word, after, maximal, isToken, rfl⟩
    have inRuns := maximal.mem_runs 0
    rw [Nat.zero_add] at inRuns
    exact ⟨_, List.mem_filter.2 ⟨inRuns, isToken⟩, rfl⟩

theorem exists_maximalRun_of_mem_tokenize {text : String} {token : Token}
    (member : token ∈ tokenize text) :
    ∃ before word after, MaximalRun text.toList before word after ∧
      token = Token.ofRun token.position ⟨byteLength before, word⟩ := by
  obtain ⟨⟨start, word⟩, inRuns, -, isToken⟩ := exists_run_of_mem_tokenize member
  obtain ⟨before, after, maximal, begins⟩ := maximalRun_of_mem_runs inRuns
  rw [Nat.zero_add] at begins
  cases begins
  exact ⟨before, word, after, maximal, isToken⟩

theorem tokenize_kind {text : String} {token : Token} (member : token ∈ tokenize text) :
    token.kind = Token.kindOf token.surface.toList := by
  obtain ⟨before, word, after, -, isToken⟩ := exists_maximalRun_of_mem_tokenize member
  rw [isToken]
  exact congrArg Token.kindOf String.toList_ofList.symm

theorem tokenize_position {text : String} {index : Nat} {token : Token}
    (at_ : (tokenize text)[index]? = some token) : token.position = index := by
  rw [tokenize, List.getElem?_mapIdx, Option.map_eq_some_iff] at at_
  obtain ⟨run, -, rfl⟩ := at_
  rfl

theorem tokenize_nonempty {text : String} {token : Token} (member : token ∈ tokenize text) :
    token.span.start < token.span.stop := by
  obtain ⟨before, word, after, maximal, isToken⟩ := exists_maximalRun_of_mem_tokenize member
  have length : byteLength word ≠ 0 := mt byteLength_eq_zero maximal.nonempty
  rw [isToken]
  show byteLength before < byteLength before + byteLength word
  omega

/-- Of things that stand apart and in order, one alone holds a byte. -/
theorem eq_of_common_byte {tokens : List Token}
    (apart : tokens.Pairwise fun first second => first.span.stop < second.span.start)
    {first second : Token} (firstMember : first ∈ tokens) (secondMember : second ∈ tokens)
    {byte : Nat} (inFirst : first.span.start ≤ byte ∧ byte < first.span.stop)
    (inSecond : second.span.start ≤ byte ∧ byte < second.span.stop) : first = second := by
  rw [List.pairwise_iff_getElem] at apart
  obtain ⟨early, earlyInside, rfl⟩ := List.getElem_of_mem firstMember
  obtain ⟨late, lateInside, rfl⟩ := List.getElem_of_mem secondMember
  rcases Nat.lt_trichotomy early late with before | same | behind
  · have follows := apart early late earlyInside lateInside before
    omega
  · subst same
    rfl
  · have follows := apart late early lateInside earlyInside behind
    omega

theorem exists_token_over {text : String} {before after : List Char} {c : Char}
    (stands : text.toList = before ++ c :: after) (alphanumeric : isAlphanumeric c = true) :
    ∃ token ∈ tokenize text, token.span.start ≤ byteLength before ∧
      byteLength before + c.utf8Size ≤ token.span.stop := by
  have token : isTokenChar c = true := by rw [isTokenChar, alphanumeric]; rfl
  obtain ⟨front, first, second, rest, isBefore, -, maximal⟩ := exists_maximalRun before after token
  rw [← stands] at maximal
  have letter : (first ++ c :: second).any isAlphanumeric = true := by
    rw [List.any_append, List.any_cons, alphanumeric, Bool.true_or, Bool.or_true]
  obtain ⟨token, member, isSpan⟩ :=
    List.mem_map.1 ((mem_spans_iff text _).2 ⟨_, _, _, maximal, letter, rfl⟩)
  refine ⟨token, member, ?_, ?_⟩
  · rw [isSpan, isBefore]
    simp only [byteLength_append]
    omega
  · rw [isSpan, isBefore]
    simp only [byteLength_append, byteLength_cons]
    omega

theorem tokenize_law (text : String) : TokenLaw text (tokenize text) where
  spans := mem_spans_iff text
  boundaries := fun token member =>
    ⟨(tokenize_boundaries member).1, (tokenize_boundaries member).2.1⟩
  surface := by
    intro token member
    obtain ⟨before, word, after, maximal, isToken⟩ := exists_maximalRun_of_mem_tokenize member
    rw [isToken, maximal.stands]
    exact congrArg String.ofList (slice_append before word after).symm
  value := by
    intro token member
    obtain ⟨before, word, after, -, isToken⟩ := exists_maximalRun_of_mem_tokenize member
    rw [isToken, normalize]
    exact congrArg (String.ofList ∘ fold) String.toList_ofList.symm
  kind := fun _ => tokenize_kind
  position := fun _ _ => tokenize_position
  nonempty := fun _ => tokenize_nonempty
  apart := tokenize_apart text
  once := by
    intro before c after stands alphanumeric
    obtain ⟨token, member, start, stop⟩ := exists_token_over stands alphanumeric
    have width := c.utf8Size_pos
    refine ⟨token, member, start, stop, fun other otherMember otherStart otherStop => ?_⟩
    exact eq_of_common_byte (tokenize_apart text) otherMember member ⟨otherStart, otherStop⟩
      ⟨start, by omega⟩
  scanned := scan_eq_tokenize text

-- The apostrophe that stands alone takes no position, and the dash takes three bytes.
example : (tokenize "' —'it’s'").map (fun token => (token.position, token.span)) =
    [(0, ⟨5, 13⟩)] := by decide +kernel

end SkillDispatch
