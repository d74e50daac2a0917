import SkillDispatch.Proofs.DoubleCounts
import SkillDispatch.Proofs.ExhaustiveSearch
import SkillDispatch.Proofs.TokenRuns

set_option autoImplicit false

namespace SkillDispatch

/-- What a piece of a sentence is there for. -/
inductive Piece.Role
  | literal
  | captured
  /-- For a wildcard, or in front of a sentence or behind it. -/
  | filler
  deriving DecidableEq

structure Piece where
  role : Piece.Role
  text : String

namespace Piece

def values (pieces : List Piece) : List String :=
  pieces.flatMap fun piece => tokenValues piece.text

def tokensAs (role : Role) (pieces : List Piece) : ℕ :=
  (values (pieces.filter (·.role = role))).length

def Fill (pieces : List Piece) : Prop :=
  ∀ piece ∈ pieces, piece.role = .filler

theorem values_cons (piece : Piece) (pieces : List Piece) :
    values (piece :: pieces) = tokenValues piece.text ++ values pieces := rfl

theorem values_append (first second : List Piece) :
    values (first ++ second) = values first ++ values second :=
  List.flatMap_append

theorem tokensAs_append (role : Role) (first second : List Piece) :
    tokensAs role (first ++ second) = tokensAs role first + tokensAs role second := by
  rw [tokensAs, List.filter_append, values_append, List.length_append]
  rfl

theorem Fill.tokensAs_filler {pieces : List Piece} (fill : Fill pieces) :
    tokensAs .filler pieces = (values pieces).length := by
  have all : pieces.filter (·.role = .filler) = pieces :=
    List.filter_eq_self.2 fun piece member => decide_eq_true (fill piece member)
  rw [tokensAs, all]

theorem Fill.tokensAs_literal {pieces : List Piece} (fill : Fill pieces) :
    tokensAs .literal pieces = 0 := by
  have none : pieces.filter (·.role = .literal) = [] := by
    refine List.filter_eq_nil_iff.2 fun piece member => ?_
    rw [fill piece member]
    decide
  rw [tokensAs, none]
  rfl

end Piece

/-- A piece for each element in turn: a word of a literal, text with a token for a capture, any filler
for a wildcard, and for an optional element those of its body or none. -/
inductive Element.Describes : List Element → List Piece → Prop
  | nil : Describes [] []
  | literal {element : Element} {rest : List Element} {word : String} {pieces : List Piece}
    (kind : element.kind = "literal") (member : word ∈ element.words)
    (tail : Describes rest pieces) : Describes (element :: rest) (⟨.literal, word⟩ :: pieces)
  | capture {element : Element} {rest : List Element} {text : String} {pieces : List Piece}
    (kind : element.kind = "capture") (some : tokenValues text ≠ [])
    (tail : Describes rest pieces) : Describes (element :: rest) (⟨.captured, text⟩ :: pieces)
  | wildcard {element : Element} {rest : List Element} {filler pieces : List Piece}
    (kind : element.kind = "wildcard") (fill : Piece.Fill filler) (tail : Describes rest pieces) :
    Describes (element :: rest) (filler ++ pieces)
  | taken {element : Element} {rest : List Element} {inner pieces : List Piece}
    (kind : element.kind = "optional") (body : Describes element.elements inner)
    (tail : Describes rest pieces) : Describes (element :: rest) (inner ++ pieces)
  | skipped {element : Element} {rest : List Element} {pieces : List Piece}
    (kind : element.kind = "optional") (tail : Describes rest pieces) :
    Describes (element :: rest) pieces

/-- Pieces for the elements of a definition, with filler in front and behind. -/
def PatternDefinition.Describes (definition : PatternDefinition) (pieces : List Piece) : Prop :=
  ∃ before inner behind, Piece.Fill before ∧ Piece.Fill behind ∧
    Element.Describes definition.elements inner ∧ pieces = before ++ inner ++ behind

/-- Texts in a row, with separators between them. -/
inductive Joined : List String → String → Prop
  | nil : Joined [] ""
  | single (text : String) : Joined [text] text
  | cons (text : String) {separator next sentence : String} {texts : List String}
    (separates : Separates separator) (tail : Joined (next :: texts) sentence) :
    Joined (text :: next :: texts) (text ++ separator ++ sentence)

theorem Joined.tokenValues_eq {pieces : List Piece} {sentence : String}
    (joined : Joined (pieces.map Piece.text) sentence) :
    tokenValues sentence = Piece.values pieces := by
  generalize texts_eq : pieces.map Piece.text = texts at joined
  induction joined generalizing pieces with
  | nil =>
    obtain rfl := List.map_eq_nil_iff.1 texts_eq
    rfl
  | single text =>
    obtain ⟨piece, rfl, rfl⟩ := List.map_eq_singleton_iff.1 texts_eq
    rw [Piece.values, List.flatMap_singleton]
  | cons text separates tail ih =>
    obtain ⟨piece, rest, rfl, rfl, rest_eq⟩ := List.map_eq_cons_iff.1 texts_eq
    rw [tokenValues_separated separates, ih rest_eq]
    rfl

/-- Elements that compile, whatever slots are in use before them. -/
def Element.Compilable (elements : List Element) : Prop :=
  ∃ taken parts after, Element.Compiles taken elements parts after

/-- What compilation has checked of an element, and of those that follow it. -/
structure Element.Checked (element : Element) (rest : List Element) : Prop where
  words : element.kind = "literal" → ∀ word ∈ element.words, tokenValues word ≠ []
  slot : element.kind = "capture" → ∃ slot, Element.slotName? element.name = some slot
  body : element.kind = "optional" → Element.Compilable element.elements
  rest : Element.Compilable rest

theorem Element.Compilable.checked {element : Element} {rest : List Element}
    (compilable : Element.Compilable (element :: rest)) : element.Checked rest := by
  have apart : ∀ {first second : String}, element.kind = first → element.kind = second →
      first = second := fun first second => first.symm.trans second
  obtain ⟨taken, parts, after, compiled⟩ := compilable
  cases compiled with
  | literal kind words tokens tail =>
    exact ⟨fun _ => tokens, fun other => absurd (apart kind other) (by decide),
      fun other => absurd (apart kind other) (by decide), _, _, _, tail⟩
  | capture kind named fresh tail =>
    exact ⟨fun other => absurd (apart kind other) (by decide), fun _ => ⟨_, named⟩,
      fun other => absurd (apart kind other) (by decide), _, _, _, tail⟩
  | wildcard kind tail =>
    exact ⟨fun other => absurd (apart kind other) (by decide),
      fun other => absurd (apart kind other) (by decide),
      fun other => absurd (apart kind other) (by decide), _, _, _, tail⟩
  | optional kind elements inner tail =>
    exact ⟨fun other => absurd (apart kind other) (by decide),
      fun other => absurd (apart kind other) (by decide), fun _ => ⟨_, _, _, inner⟩, _, _, _, tail⟩

theorem PatternDefinition.compilable {definition : PatternDefinition} {pattern : Pattern}
    (compiled : definition.compile = .ok pattern) : Element.Compilable definition.elements := by
  obtain ⟨-, after, parts⟩ := (definition.compile_eq_ok_iff pattern).1 compiled
  exact ⟨_, _, after, parts⟩

/-- A laying takes the tokens of some pieces, each in the role that its piece is there for. -/
structure Laying.Covers (laying : Laying) (start : ℕ) (pieces : List Piece) : Prop where
  stop : laying.stop = start + (Piece.values pieces).length
  literal : laying.literal = Piece.tokensAs .literal pieces
  gap : laying.gap = Piece.tokensAs .filler pieces

namespace Laying

theorem Covers.followedBy {head tail : Laying} {start : ℕ} {pieces others : List Piece}
    (first : head.Covers start pieces) (second : tail.Covers head.stop others) :
    (head.followedBy tail).Covers start (pieces ++ others) := by
  constructor
  · rw [Piece.values_append, List.length_append, ← Nat.add_assoc, ← first.stop]
    exact second.stop
  · rw [Piece.tokensAs_append, ← first.literal, ← second.literal]
    rfl
  · rw [Piece.tokensAs_append, ← first.gap, ← second.gap]
    rfl

theorem underLiteral_covers (start : ℕ) (word : String) :
    (underLiteral start (tokenValues word).length).Covers start [⟨.literal, word⟩] := by
  constructor
  · simp [underLiteral, Piece.values]
  · simp [underLiteral, Piece.tokensAs, Piece.values]
  · simp [underLiteral, Piece.tokensAs, Piece.values]

theorem underCapture_covers (slot : String) (start : ℕ) (text : String) :
    (underCapture slot start (start + (tokenValues text).length)).Covers start
      [⟨.captured, text⟩] := by
  constructor
  · simp [underCapture, Piece.values]
  · simp [underCapture, Piece.tokensAs, Piece.values]
  · simp [underCapture, Piece.tokensAs, Piece.values]

theorem underWildcard_covers (start : ℕ) {filler : List Piece} (fill : Piece.Fill filler) :
    (underWildcard start (start + (Piece.values filler).length)).Covers start filler := by
  constructor
  · rfl
  · rw [fill.tokensAs_literal]
    rfl
  · rw [fill.tokensAs_filler]
    exact Nat.add_sub_cancel_left _ _

end Laying

/-- Where the tokens of its pieces stand, a description is a way to lay the elements over them. -/
theorem Element.Describes.exists_laying {elements : List Element} {pieces : List Piece}
    (describes : Element.Describes elements pieces) (compilable : Element.Compilable elements)
    {tokens before behind : List String}
    (split : tokens = before ++ Piece.values pieces ++ behind) :
    ∃ laying, Element.Lays tokens elements before.length laying ∧
      laying.Covers before.length pieces := by
  -- Over the pieces that are left, behind all tokens of those that are done.
  induction describes generalizing before behind with
  | nil => exact ⟨.empty before.length, .nil _, rfl, rfl, rfl⟩
  | @literal element rest word pieces kind member tail ih =>
    rw [Piece.values_cons, ← List.append_assoc before] at split
    obtain ⟨laying, lays, covers⟩ := ih compilable.checked.rest split
    have stands : tokenValues word <+: tokens.drop before.length := by
      rw [split, List.append_assoc, List.append_assoc, List.drop_left]
      exact List.prefix_append _ _
    rw [List.length_append] at lays covers
    exact ⟨_, .literal kind member stands lays,
      (Laying.underLiteral_covers _ word).followedBy covers⟩
  | @capture element rest text pieces kind some tail ih =>
    obtain ⟨slot, named⟩ := compilable.checked.slot kind
    rw [Piece.values_cons, ← List.append_assoc before] at split
    obtain ⟨laying, lays, covers⟩ := ih compilable.checked.rest split
    have positive := List.length_pos_iff.2 some
    have length := congrArg List.length split
    simp only [List.length_append] at length lays covers
    exact ⟨_, .capture kind named (by omega) (by omega) lays,
      (Laying.underCapture_covers slot _ text).followedBy covers⟩
  | @wildcard element rest filler pieces kind fill tail ih =>
    rw [Piece.values_append, ← List.append_assoc before] at split
    obtain ⟨laying, lays, covers⟩ := ih compilable.checked.rest split
    have length := congrArg List.length split
    simp only [List.length_append] at length lays covers
    exact ⟨_, .wildcard kind (Nat.le_add_right _ _) (by omega) lays,
      (Laying.underWildcard_covers _ fill).followedBy covers⟩
  | @taken element rest inner pieces kind body tail bodyIh ih =>
    have bodySplit : tokens =
        before ++ Piece.values inner ++ (Piece.values pieces ++ behind) := by
      rw [split, Piece.values_append]
      simp only [List.append_assoc]
    rw [Piece.values_append, ← List.append_assoc before] at split
    obtain ⟨head, headLays, headCovers⟩ := bodyIh (compilable.checked.body kind) bodySplit
    obtain ⟨laying, lays, covers⟩ := ih compilable.checked.rest split
    rw [List.length_append, ← headCovers.stop] at lays covers
    exact ⟨_, .taken kind headLays lays, headCovers.followedBy covers⟩
  | skipped kind tail ih =>
    obtain ⟨laying, lays, covers⟩ := ih compilable.checked.rest split
    exact ⟨laying, .skipped kind lays, covers⟩

theorem Element.Describes.literal_some {elements : List Element} {pieces : List Piece}
    (describes : Element.Describes elements pieces) (compilable : Element.Compilable elements)
    {piece : Piece} (member : piece ∈ pieces) (literal : piece.role = .literal) :
    tokenValues piece.text ≠ [] := by
  induction describes with
  | nil => cases member
  | literal kind isWord tail ih =>
    rcases List.mem_cons.1 member with first | later
    · subst first
      exact compilable.checked.words kind _ isWord
    · exact ih compilable.checked.rest later
  | capture kind some tail ih =>
    rcases List.mem_cons.1 member with first | later
    · subst first
      exact some
    · exact ih compilable.checked.rest later
  | wildcard kind fill tail ih =>
    rcases List.mem_append.1 member with filler | later
    · rw [fill piece filler] at literal
      cases literal
    · exact ih compilable.checked.rest later
  | taken kind body tail bodyIh ih =>
    rcases List.mem_append.1 member with inner | later
    · exact bodyIh (compilable.checked.body kind) inner
    · exact ih compilable.checked.rest later
  | skipped kind tail ih => exact ih compilable.checked.rest member

namespace PatternDefinition

variable {definition : PatternDefinition} {pattern : Pattern} {pieces : List Piece}

/-- The tokens of a description have an alignment in which each has the role of its piece. -/
theorem Describes.exists_aligns (describes : definition.Describes pieces)
    (compiled : definition.compile = .ok pattern) :
    ∃ alignment, definition.Aligns (Piece.values pieces) alignment ∧
      alignment.literal = Piece.tokensAs .literal pieces ∧
      alignment.gap = Piece.tokensAs .filler pieces := by
  obtain ⟨before, inner, behind, fillBefore, fillBehind, describesInner, rfl⟩ := describes
  have split : Piece.values (before ++ inner ++ behind) =
      Piece.values before ++ Piece.values inner ++ Piece.values behind := by
    rw [Piece.values_append, Piece.values_append]
  obtain ⟨laying, lays, covers⟩ := describesInner.exists_laying (compilable compiled) split
  have length := congrArg List.length split
  simp only [List.length_append] at length
  refine ⟨_, ⟨(Piece.values before).length, laying, by omega, lays, rfl⟩, ?_, ?_⟩
  · rw [Piece.tokensAs_append, Piece.tokensAs_append, fillBefore.tokensAs_literal,
      fillBehind.tokensAs_literal, Nat.zero_add, Nat.add_zero]
    exact covers.literal
  · rw [Piece.tokensAs_append, Piece.tokensAs_append, fillBefore.tokensAs_filler,
      fillBehind.tokensAs_filler, ← covers.gap]
    show (Piece.values before).length + laying.gap + (_ - laying.stop) = _
    rw [covers.stop]
    omega

theorem Describes.literal_pos (describes : definition.Describes pieces)
    (compiled : definition.compile = .ok pattern)
    (literal : ∃ piece ∈ pieces, piece.role = .literal) : 0 < Piece.tokensAs .literal pieces := by
  obtain ⟨before, inner, behind, fillBefore, fillBehind, describesInner, rfl⟩ := describes
  obtain ⟨piece, member, isLiteral⟩ := literal
  have notFiller : ∀ {others : List Piece}, Piece.Fill others → piece ∉ others := by
    intro others fill among
    rw [fill piece among] at isLiteral
    cases isLiteral
  have inside : piece ∈ inner := by
    rcases List.mem_append.1 member with front | back
    · exact (List.mem_append.1 front).resolve_left (notFiller fillBefore)
    · exact absurd back (notFiller fillBehind)
  obtain ⟨value, rest, some⟩ :=
    List.exists_cons_of_ne_nil (describesInner.literal_some (compilable compiled) inside isLiteral)
  have among : value ∈ Piece.values
      ((before ++ inner ++ behind).filter (·.role = .literal)) := by
    refine List.mem_flatMap.2 ⟨piece, List.mem_filter.2 ⟨member, decide_eq_true isLiteral⟩, ?_⟩
    rw [some]
    exact List.mem_cons_self ..
  exact List.length_pos_of_mem among

end PatternDefinition

/-- The literal share of some number of tokens, and of no other number: counts past 2 ^ 1024 are no
finite doubles, so the literal share of all numbers of tokens does not prefer narrow gaps. -/
def shareAmong (count : ℕ) : Scorer := fun coverage =>
  if coverage.total = count then literalShare coverage else .zero

/-- Doubles are no obstacle to preferring narrow gaps, as long as counts have 64 bits. -/
theorem shareAmong_gapAverse {count : ℕ} (small : count < 2 ^ 64) : GapAverse (shareAmong count) := by
  intro narrow wide total literal gap
  rw [shareAmong, shareAmong, total, Confidence.lt_iff_rank, not_lt]
  by_cases counted : wide.total = count
  · rw [if_pos counted, if_pos counted]
    by_cases noLiteral : narrow.literal = 0
    · have wideNone : wide.literal = 0 := by omega
      rw [literalShare, literalShare, if_pos noLiteral, if_pos wideNone]
    · have bound : wide.literal + wide.gap < 2 ^ 64 := by
        rw [Coverage.total] at counted
        omega
      exact literalShare_rank_le (Nat.pos_of_ne_zero noLiteral) literal gap.le bound
  · rw [if_neg counted, if_neg counted]

/-- No alignment has a greater share of literal tokens than the one that is found. -/
theorem PatternDefinition.Aligns.exists_share {definition : PatternDefinition} {pattern : Pattern}
    (compiled : definition.compile = .ok pattern) {tokens : List Token} {alignment : Alignment}
    (aligns : definition.Aligns (tokens.map Token.value) alignment) (positive : 0 < alignment.literal)
    (small : tokens.length < 2 ^ 64) :
    ∃ found, pattern.align literalShare tokens = some found ∧
      (literalShare alignment.account).rank ≤ found.score.rank := by
  have total := aligns.total_account
  have bound : alignment.account.literal + alignment.account.gap < 2 ^ 64 := by
    rw [Coverage.total] at total
    omega
  have agree : ∀ coverage : Coverage, coverage.total = tokens.length →
      literalShare coverage = shareAmong tokens.length coverage := by
    intro coverage counted
    rw [shareAmong, if_pos counted]
  have nonZero : (shareAmong tokens.length alignment.account).isZero = false := by
    rw [← agree _ total]
    exact literalShare_isZero positive bound
  obtain ⟨found, isFound, notLess⟩ :=
    aligns.exists_align compiled (shareAmong_gapAverse small) positive nonZero
  rw [← Pattern.align_congr compiled agree] at isFound
  rw [← agree _ total, Confidence.lt_iff_rank, not_lt] at notLess
  exact ⟨found, isFound, notLess⟩

/-- The only pattern matched, with at least the share that some counts of tokens have. -/
structure Match.Attains (found : Match) (literal gap : ℕ) : Prop where
  isMatch : found.isMatch = true
  pattern : found.pattern = some 0
  share : literal.toFloat / (literal + gap).toFloat ≤ found.score.value
  certain : gap = 0 → found.score = .certain

/-- A score that is no smaller than a share attains it. -/
theorem Match.attains {coverage : Coverage} (positive : 0 < coverage.literal)
    (small : coverage.literal + coverage.gap < 2 ^ 64) {score : Confidence} {slots : Slots}
    (noLess : (literalShare coverage).rank ≤ score.rank) :
    Match.Attains ⟨score, some 0, slots⟩ coverage.literal coverage.gap := by
  have nonZero : score.isZero = false := by
    rw [Confidence.isZero_eq_false_iff]
    exact lt_of_lt_of_le
      ((Confidence.isZero_eq_false_iff _).1 (literalShare_isZero positive small)) noLess
  constructor
  · rw [Match.isMatch, nonZero]
    rfl
  · rfl
  · rw [← (literalShare_quotient coverage positive small).1, Double.le_iff]
    exact ⟨Confidence.value_isNumber _, Confidence.value_isNumber _, noLess⟩
  · intro noGap
    have all := literalShare_of_gap_eq_zero positive noGap (by omega)
    rw [all] at noLess
    exact Confidence.eq_of_rank_eq (le_antisymm (Confidence.rank_le_certain score) noLess) nonZero

/-- A sentence that a definition describes is recognized: the share of its literal tokens among those
and the filler is a lower bound of the score, and without filler the score is certain. The number of
tokens fits 64 bits. -/
theorem recognize_sentence {definition : PatternDefinition} {pattern : Pattern}
    (compiled : definition.compile = .ok pattern) {pieces : List Piece} {sentence : String}
    (describes : definition.Describes pieces) (joined : Joined (pieces.map Piece.text) sentence)
    (literal : ∃ piece ∈ pieces, piece.role = .literal)
    (small : (Utterance.ofText sentence).length < 2 ^ 64) :
    (recognize literalShare [pattern] (.ofText sentence)).Attains
      (Piece.tokensAs .literal pieces) (Piece.tokensAs .filler pieces) := by
  have values : (Utterance.ofText sentence).values = Piece.values pieces := joined.tokenValues_eq
  have length : (Piece.values pieces).length = (Utterance.ofText sentence).length := by
    rw [← values, Utterance.values, List.length_map]
    rfl
  obtain ⟨alignment, aligns, literal_eq, gap_eq⟩ := describes.exists_aligns compiled
  have positive : 0 < alignment.literal := by
    rw [literal_eq]
    exact describes.literal_pos compiled literal
  have total : alignment.literal + capturedTokens alignment.captures + alignment.gap =
      (Utterance.ofText sentence).length := aligns.conserves.trans length
  have tokens : (Utterance.ofText sentence).isEmpty = false := by
    rw [Utterance.isEmpty, List.isEmpty_eq_false_iff, ← List.length_pos_iff]
    show 0 < (Utterance.ofText sentence).length
    omega
  rw [← values] at aligns
  obtain ⟨found, isFound, noLess⟩ := aligns.exists_share compiled positive small
  rw [recognize_alone tokens isFound, ← literal_eq, ← gap_eq]
  have bound : alignment.literal + alignment.gap < 2 ^ 64 := by omega
  show Match.Attains _ alignment.account.literal alignment.account.gap
  exact Match.attains positive bound noLess

/-- A request for music at a later time, as it may be defined. -/
def playLater : PatternDefinition :=
  ⟨[.literal ["play", "put on"], .optional [.literal ["some"]], .capture "music", .wildcard,
    .literal ["later"]]⟩

/-- A request of that kind, without the optional element. -/
def jazzLater : List Piece :=
  [⟨.filler, "Hey"⟩, ⟨.literal, "put on"⟩, ⟨.captured, "Smooth Jazz"⟩, ⟨.filler, "maybe a bit"⟩,
    ⟨.literal, "later"⟩]

theorem playLater_describes : playLater.Describes jazzLater := by
  refine ⟨[⟨.filler, "Hey"⟩], [⟨.literal, "put on"⟩, ⟨.captured, "Smooth Jazz"⟩,
    ⟨.filler, "maybe a bit"⟩, ⟨.literal, "later"⟩], [], ?_, nofun, ?_, rfl⟩
  · exact List.forall_mem_singleton.2 rfl
  · have fill : Piece.Fill [⟨.filler, "maybe a bit"⟩] := List.forall_mem_singleton.2 rfl
    have last : Element.Describes [.literal ["later"]] [⟨.literal, "later"⟩] :=
      .literal rfl (List.mem_singleton_self _) .nil
    have music : tokenValues "Smooth Jazz" ≠ [] := by decide +kernel
    exact .literal rfl (List.mem_cons_of_mem _ (List.mem_singleton_self _))
      (.skipped rfl (.capture rfl music (.wildcard rfl fill last)))

theorem jazzLater_joined :
    Joined (jazzLater.map Piece.text) "Hey! put on: Smooth Jazz -- maybe a bit, later" := by
  have exclamation : Separates "! " := .of_all (by decide) (by decide +kernel)
  have colon : Separates ": " := .of_all (by decide) (by decide +kernel)
  have dashes : Separates " -- " := .of_all (by decide) (by decide +kernel)
  have comma : Separates ", " := .of_all (by decide) (by decide +kernel)
  exact .cons "Hey" exclamation (.cons "put on" colon (.cons "Smooth Jazz" dashes
    (.cons "maybe a bit" comma (.single "later"))))

/-- Three literal tokens and four of filler give at least three parts in seven. -/
theorem recognize_sentence_jazzLater :
    ∃ pattern, playLater.compile = .ok pattern ∧ playLater.Describes jazzLater ∧
      Joined (jazzLater.map Piece.text) "Hey! put on: Smooth Jazz -- maybe a bit, later" ∧
      (recognize literalShare [pattern]
        (.ofText "Hey! put on: Smooth Jazz -- maybe a bit, later")).Attains 3 4 := by
  obtain ⟨pattern, compiled⟩ : ∃ pattern, playLater.compile = .ok pattern := ⟨_, rfl⟩
  have literal : ∃ piece ∈ jazzLater, piece.role = .literal :=
    ⟨⟨.literal, "put on"⟩, .tail _ (.head _), rfl⟩
  have counts : Piece.tokensAs .literal jazzLater = 3 ∧ Piece.tokensAs .filler jazzLater = 4 := by
    decide +kernel
  have attains := recognize_sentence compiled playLater_describes jazzLater_joined literal
    (by decide +kernel)
  rw [counts.1, counts.2] at attains
  exact ⟨pattern, compiled, playLater_describes, jazzLater_joined, attains⟩

end SkillDispatch
