import SkillDispatch.Unicode.CodeRange

set_option autoImplicit false

/- Sets of code points as numbers: bit `n` of the number says whether code point `n` belongs. What
holds of all characters of a table is then one equation between numbers, and a search through the
table is the test of one bit. -/
namespace SkillDispatch.Unicode

def spanBits (first last : Nat) : Nat :=
  ((1 <<< (last + 1 - first)) - 1) <<< first

theorem testBit_spanBits (first last code : Nat) :
    (spanBits first last).testBit code = (decide (first ≤ code) && decide (code ≤ last)) := by
  rw [spanBits, Nat.testBit_shiftLeft, Nat.one_shiftLeft, Nat.testBit_two_pow_sub_one]
  by_cases below : code < first
  · have notFirst : ¬first ≤ code := by omega
    simp [notFirst]
  · have width : code - first < last + 1 - first ↔ code ≤ last := by omega
    simp only [ge_iff_le, width]

def codeBits : List Nat → Nat
  | [] => 0
  | code :: rest => 1 <<< code ||| codeBits rest

theorem testBit_codeBits (codes : List Nat) (code : Nat) :
    (codeBits codes).testBit code = true ↔ code ∈ codes := by
  induction codes with
  | nil => simp [codeBits]
  | cons head rest ih =>
    have here : (1 <<< head).testBit code = true ↔ code = head := by
      rw [Nat.one_shiftLeft, Nat.testBit_two_pow, decide_eq_true_iff, eq_comm]
    rw [codeBits, Nat.testBit_or, Bool.or_eq_true, ih, here, List.mem_cons]

namespace CodeRanges

/-- The code points of a table of ranges. -/
def bits : CodeRanges → Nat
  | [] => 0
  | (first, last) :: rest => spanBits first last ||| bits rest

theorem testBit_bits (ranges : CodeRanges) (code : Nat) :
    ranges.bits.testBit code = true ↔ ∃ range ∈ ranges, range.1 ≤ code ∧ code ≤ range.2 := by
  induction ranges with
  | nil => simp [bits]
  | cons range rest ih =>
    obtain ⟨first, last⟩ := range
    rw [bits, Nat.testBit_or, Bool.or_eq_true, ih, testBit_spanBits]
    simp

/-- Whether the ranges begin at a code point or above it, ascend, and are apart from each other. -/
def apartFrom : Nat → CodeRanges → Bool
  | _, [] => true
  | low, (first, last) :: rest =>
    decide (low ≤ first) && decide (first ≤ last) && apartFrom (last + 1) rest

theorem apartFrom_cons {low first last : Nat} {rest : CodeRanges}
    (apart : apartFrom low ((first, last) :: rest) = true) :
    low ≤ first ∧ first ≤ last ∧ apartFrom (last + 1) rest = true := by
  rw [apartFrom, Bool.and_eq_true, Bool.and_eq_true, decide_eq_true_iff, decide_eq_true_iff]
    at apart
  exact ⟨apart.1.1, apart.1.2, apart.2⟩

theorem le_of_apartFrom {low : Nat} {ranges : CodeRanges} (apart : apartFrom low ranges = true) :
    ∀ range ∈ ranges, low ≤ range.1 := by
  induction ranges generalizing low with
  | nil => exact nofun
  | cons head rest ih =>
    obtain ⟨first, last⟩ := head
    obtain ⟨start, ordered, later⟩ := apartFrom_cons apart
    intro range member
    rcases List.mem_cons.1 member with rfl | inRest
    · exact start
    · have above := ih later range inRest
      omega

/-- In a table in order the search finds what is in the set. -/
theorem has_eq_testBit {low : Nat} {ranges : CodeRanges} (apart : apartFrom low ranges = true)
    (code : Nat) : ranges.has code = ranges.bits.testBit code := by
  induction ranges generalizing low with
  | nil => simp [has, bits]
  | cons range rest ih =>
    obtain ⟨first, last⟩ := range
    obtain ⟨-, ordered, later⟩ := apartFrom_cons apart
    rw [has, bits, Nat.testBit_or, testBit_spanBits, ih later]
    by_cases below : code < first
    · have notHere : ¬first ≤ code := by omega
      have notLater : (bits rest).testBit code = false := by
        rw [Bool.eq_false_iff, ne_eq, testBit_bits]
        rintro ⟨range, member, start, -⟩
        have above := le_of_apartFrom later range member
        omega
      rw [if_pos below, notLater, decide_eq_false notHere]
      rfl
    · have start : first ≤ code := by omega
      rw [if_neg below, decide_eq_true start, Bool.true_and]
      by_cases inside : code ≤ last
      · rw [if_pos inside, decide_eq_true inside, Bool.true_or]
      · rw [if_neg inside, decide_eq_false inside, Bool.false_or]

end CodeRanges

/-- A set that adds nothing to another is part of it. -/
theorem testBit_of_subset {first second code : Nat} (subset : first ||| second = second)
    (member : first.testBit code = true) : second.testBit code = true := by
  rw [← subset, Nat.testBit_or, member, Bool.true_or]

theorem testBit_of_disjoint {first second code : Nat} (disjoint : first &&& second = 0)
    (member : first.testBit code = true) : second.testBit code = false := by
  have both := Nat.testBit_and first second code
  rw [disjoint, Nat.zero_testBit, member, Bool.true_and] at both
  exact both.symm

end SkillDispatch.Unicode
