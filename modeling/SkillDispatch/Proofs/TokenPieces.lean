import SkillDispatch.Proofs.TokenLaw

set_option autoImplicit false

namespace SkillDispatch

open Text Unicode

/-- A token with some tokens and some bytes in front of its text. -/
def Token.after (tokens bytes : Nat) (token : Token) : Token :=
  { token with
    position := tokens + token.position
    span := ⟨bytes + token.span.start, bytes + token.span.stop⟩ }

theorem Token.ofRun_after (tokens bytes index : Nat) (run : Run) :
    Token.ofRun (index + tokens) (run.after bytes) = (Token.ofRun index run).after tokens bytes := by
  simp only [Token.ofRun, Token.after, Run.after, Run.span, Nat.add_comm index, Nat.add_assoc]

theorem length_tokensOf (found : List Run) :
    (tokensOf found).length = (found.filter Run.isToken).length := by
  rw [tokensOf, List.length_mapIdx]

/-- The tokens of later runs have the positions after those of earlier ones. -/
theorem tokensOf_append_after (first second : List Run) (bytes : Nat) :
    tokensOf (first ++ second.map (Run.after bytes)) =
      tokensOf first ++ (tokensOf second).map (Token.after (tokensOf first).length bytes) := by
  have sameLetters : Run.isToken ∘ Run.after bytes = Run.isToken := rfl
  rw [length_tokensOf]
  unfold tokensOf
  rw [List.filter_append, List.filter_map, sameLetters, List.mapIdx_append]
  congr 1
  apply List.ext_getElem?
  intro index
  rw [List.getElem?_mapIdx, List.getElem?_map, List.getElem?_map, List.getElem?_mapIdx,
    Option.map_map, Option.map_map]
  congr 1
  funext run
  exact Token.ofRun_after ..

/-! ### Seams -/

/-- No run goes over the seam between two texts: the one ends or the other begins with a character
that separates tokens, or there is nothing on one side. -/
def Parted (first second : List Char) : Prop :=
  (∀ c ∈ first.getLast?, isTokenChar c = false) ∨ ∀ c ∈ second.head?, isTokenChar c = false

theorem runs_parted {first second : List Char} (parted : Parted first second) (start : Nat) :
    runs start (first ++ second) =
      runs start first ++ runs (start + byteLength first) second := by
  rcases parted with ends | begins
  · exact runs_append ends start second
  · cases second with
    | nil => simp [runs]
    | cons c rest =>
      have separates : isTokenChar c = false := begins c rfl
      rw [runs_separated separates]
      simp [runs, separates]

/-- The tokens of texts put together are those of the one and then those of the other. -/
theorem tokensOf_parted {first second : List Char} (parted : Parted first second) :
    tokensOf (runs 0 (first ++ second)) = tokensOf (runs 0 first) ++
      (tokensOf (runs 0 second)).map
        (Token.after (tokensOf (runs 0 first)).length (byteLength first)) := by
  have moved := runs_after (byteLength first) 0 second
  rw [Nat.add_zero] at moved
  rw [runs_parted parted, Nat.zero_add, moved, tokensOf_append_after]

/-! ### The text before a token -/

namespace MaximalRun

variable {chars before word after : List Char}

theorem parted_before (maximal : MaximalRun chars before word after) (rest : List Char) :
    Parted before rest :=
  Or.inl maximal.starts

theorem parted_after (maximal : MaximalRun chars before word after) (front : List Char) :
    Parted front after :=
  Or.inr maximal.ends

/-- Up to the end of a maximal run there are the runs before it and the run itself. -/
theorem runs_upTo (maximal : MaximalRun chars before word after) :
    runs 0 (before ++ word) = runs 0 before ++ [⟨byteLength before, word⟩] := by
  rw [runs_parted (maximal.parted_before word), runs_word maximal.token maximal.nonempty,
    Nat.zero_add]

/-- A token among the runs of a text has the position that comes after the tokens before it. -/
theorem token_mem (maximal : MaximalRun chars before word after)
    (isToken : word.any isAlphanumeric = true) :
    Token.ofRun (tokensOf (runs 0 before)).length ⟨byteLength before, word⟩ ∈
      tokensOf (runs 0 chars) := by
  have run : Run.isToken ⟨byteLength before, word⟩ = true := isToken
  rw [maximal.stands, tokensOf_parted (maximal.parted_after _), maximal.runs_upTo, tokensOf_concat,
    if_pos run]
  simp

end MaximalRun

/-- Where the token with an index stands: as many tokens as its index come before it. -/
theorem exists_maximalRun_of_getElem? {text : String} {index : Nat} {token : Token}
    (at_ : (tokenize text)[index]? = some token) :
    ∃ before word after, MaximalRun text.toList before word after ∧
      token.span = ⟨byteLength before, byteLength before + byteLength word⟩ ∧
      (tokensOf (runs 0 before)).length = index ∧
      (tokensOf (runs 0 (before ++ word))).length = index + 1 := by
  have member := List.mem_of_getElem? at_
  obtain ⟨before, word, after, maximal, letter, isSpan⟩ :=
    (mem_spans_iff text token.span).1 (List.mem_map_of_mem member)
  have sameToken : Token.ofRun (tokensOf (runs 0 before)).length ⟨byteLength before, word⟩ =
      token := by
    -- Both hold the first byte of the run, and no two tokens share a byte.
    have nonempty := tokenize_nonempty member
    have same : Run.span ⟨byteLength before, word⟩ = token.span := isSpan.symm
    apply eq_of_common_byte (tokenize_apart text) (maximal.token_mem letter) member
    · show (Run.span _).start ≤ token.span.start ∧ token.span.start < (Run.span _).stop
      rw [same]
      omega
    · omega
  have count : (tokensOf (runs 0 before)).length = index := by
    rw [← tokenize_position at_, ← sameToken]
    rfl
  refine ⟨before, word, after, maximal, isSpan, count, ?_⟩
  have run : Run.isToken ⟨byteLength before, word⟩ = true := letter
  rw [maximal.runs_upTo, tokensOf_concat, if_pos run, List.length_append, count]
  rfl

end SkillDispatch
