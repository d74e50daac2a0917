import Mathlib.Data.String.Basic
import SkillDispatch.Proofs.Compilation
import SkillDispatch.Proofs.TokenPieces

set_option autoImplicit false

namespace SkillDispatch

open Text

theorem Text.byteLength_toList (text : String) : byteLength text.toList = text.utf8ByteSize := by
  have bytes : ∀ chars : List Char, byteLength chars = String.utf8Len chars := by
    intro chars
    induction chars with
    | nil => rfl
    | cons c rest ih => rw [byteLength_cons, String.utf8Len_cons, ih, Nat.add_comm]
  rw [bytes, ← String.utf8ByteSize_ofList, String.ofList_toList]

/-! ### Separators -/

theorem runs_separators {chars : List Char} (separate : ∀ c ∈ chars, isTokenChar c = false)
    (start : Nat) : runs start chars = [] := by
  induction chars generalizing start with
  | nil => rfl
  | cons c rest ih =>
    obtain ⟨here, later⟩ := List.forall_mem_cons.1 separate
    rw [runs, here, ih later]
    rfl

namespace Separates

variable {separator : String}

theorem tokensOf_eq (separates : Separates separator) :
    tokensOf (runs 0 separator.toList) = [] := by
  rw [runs_separators separates.all]
  rfl

theorem parted_before (separates : Separates separator) (chars : List Char) :
    Parted chars separator.toList :=
  Or.inr fun c first => separates.all c (List.mem_of_mem_head? first)

theorem parted_after (separates : Separates separator) (chars rest : List Char) :
    Parted (chars ++ separator.toList) rest := by
  have nonempty : separator.toList ≠ [] := mt String.toList_eq_nil_iff.1 separates.some
  refine Or.inl fun c last => ?_
  rw [List.getLast?_append_of_ne_nil _ nonempty] at last
  exact separates.all c (List.mem_of_mem_getLast? last)

theorem tokensOf_append (separates : Separates separator) (chars : List Char) :
    tokensOf (runs 0 (chars ++ separator.toList)) = tokensOf (runs 0 chars) := by
  rw [tokensOf_parted (separates.parted_before chars), separates.tokensOf_eq, List.map_nil,
    List.append_nil]

end Separates

/-- Two texts with a separator between them have the tokens of the one, and those of the other
further to the right: past the tokens of the one, and past the bytes of the one and of the separator.
One pass over the whole finds just these, and the second text makes the same phrase as alone. -/
theorem tokenize_separated {separator : String} (separates : Separates separator)
    (first second : String) :
    tokenize (first ++ separator ++ second) =
        tokenize first ++ (tokenize second).map
          (Token.after (tokenize first).length (first ++ separator).utf8ByteSize) ∧
      scan (first ++ separator ++ second) =
        scan first ++ (scan second).map
          (Token.after (scan first).length (first ++ separator).utf8ByteSize) ∧
      (Phrase.spelling second).tokens =
        (tokenValues (first ++ separator ++ second)).drop (tokenize first).length := by
  have tokens : tokenize (first ++ separator ++ second) =
      tokenize first ++ (tokenize second).map
        (Token.after (tokenize first).length (first ++ separator).utf8ByteSize) := by
    have whole := tokensOf_parted (separates.parted_after first.toList second.toList)
    rw [separates.tokensOf_append, ← String.toList_append, ← String.toList_append,
      byteLength_toList] at whole
    exact whole
  refine ⟨tokens, ?scanned, ?phrase⟩
  case scanned =>
    simp only [scan_eq_tokenize]
    exact tokens
  case phrase =>
    have values := tokenValues_separated separates first second
    have length : (tokenize first).length = (tokenValues first).length := by
      rw [tokenValues, List.length_map]
    rw [values, length, List.drop_left]
    rfl

theorem tokenize_separated_cafe :
    Separates " — " ∧
      tokenize "'Tis — café" = tokenize "'Tis" ++ (tokenize "café").map (Token.after 1 9) := by
  have separates : Separates " — " := .of_all (by decide) (by decide +kernel)
  refine ⟨separates, ?_⟩
  have whole := (tokenize_separated separates "'Tis" "café").1
  have length : (tokenize "'Tis").length = 1 := by decide +kernel
  have bytes : ("'Tis" ++ " — ").utf8ByteSize = 9 := by decide +kernel
  rw [length, bytes] at whole
  exact whole

end SkillDispatch
