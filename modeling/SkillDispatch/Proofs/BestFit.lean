import SkillDispatch.Proofs.DoubleOrder
import SkillDispatch.Proofs.FirstBest
import SkillDispatch.Recognition

set_option autoImplicit false

namespace SkillDispatch

namespace Recognition

/-- The patterns that fit, each with its index, in their order. -/
def fits (scorer : Scorer) (tokens : List Token) : Nat → List Pattern → List Fit
  | _, [] => []
  | index, pattern :: rest =>
    ((pattern.align scorer tokens).map (Fit.mk index)).toList ++
      fits scorer tokens (index + 1) rest

def Fit.rank (fit : Fit) : ℤ ×ₗ ℤ ×ₗ ℤ :=
  fit.best.score.rank

/-- Whether a fit replaces the one that is kept. -/
def Fit.improves (offered : Fit) : Option Fit → Bool
  | none => true
  | some current => current.best.score < offered.best.score

theorem bestFit_cons_of_align {scorer : Scorer} {tokens : List Token} {pattern : Pattern}
    {found : Alignment.Scored} (aligned : pattern.align scorer tokens = some found) (index : Nat)
    (rest : List Pattern) (kept : Option Fit) :
    bestFit scorer tokens index (pattern :: rest) kept =
      if (Fit.mk index found).improves kept then
        if found.score == .certain then some ⟨index, found⟩
        else bestFit scorer tokens (index + 1) rest (some ⟨index, found⟩)
      else bestFit scorer tokens (index + 1) rest kept := by
  rw [bestFit, aligned]
  rfl

theorem argmax_offered (kept : Option Fit) (offered : Fit) :
    (kept.toList ++ [offered]).argmax Fit.rank =
      if offered.improves kept then some offered else kept := by
  cases kept with
  | none => rfl
  | some current =>
    show List.argmax Fit.rank [current, offered] = _
    rw [List.argmax_cons, List.argmax_singleton]
    simp only [Fit.improves, Fit.rank, decide_eq_true_iff, Confidence.lt_iff_rank]
    rfl

theorem argmax_certain (offered : Fit) (others : List Fit)
    (certain : (offered.best.score == .certain) = true) :
    (offered :: others).argmax Fit.rank = some offered := by
  refine (argmax_eq_some_split ..).2 ⟨[], others, rfl, nofun, ?_⟩
  intro other _
  rw [Fit.rank, Fit.rank, (Confidence.beq_iff_rank _ _).1 certain]
  exact Confidence.rank_le_certain _

variable {scorer : Scorer} {tokens : List Token}

/-- The search comes to the first best of the fit that is kept and of the fits to come. -/
theorem bestFit_eq_argmax (index : Nat) (patterns : List Pattern) (kept : Option Fit) :
    bestFit scorer tokens index patterns kept =
      (kept.toList ++ fits scorer tokens index patterns).argmax Fit.rank := by
  induction patterns generalizing index kept with
  | nil => cases kept <;> rfl
  | cons pattern rest ih =>
    cases aligned : pattern.align scorer tokens with
    | none =>
      rw [bestFit, fits, aligned]
      exact ih (index + 1) kept
    | some found =>
      let offered : Fit := ⟨index, found⟩
      have step := argmax_offered kept offered
      rw [bestFit_cons_of_align aligned, fits, aligned]
      show _ = (kept.toList ++ ([offered] ++ fits scorer tokens (index + 1) rest)).argmax Fit.rank
      rw [← List.append_assoc]
      by_cases improves : offered.improves kept = true
      · rw [if_pos improves] at step ⊢
        have onlyOffered : (kept.toList ++ [offered]).argmax Fit.rank = [offered].argmax Fit.rank :=
          step
        rw [argmax_append_congr onlyOffered rfl, List.singleton_append]
        by_cases certain : (found.score == .certain) = true
        · rw [if_pos certain, argmax_certain offered _ certain]
        · rw [if_neg certain, ih]
          rfl
      · rw [if_neg improves] at step ⊢
        have unchanged : kept.toList.argmax Fit.rank = kept := by cases kept <;> rfl
        rw [argmax_append_congr (step.trans unchanged.symm) rfl]
        exact ih (index + 1) kept

theorem mem_fits_iff (index : Nat) (patterns : List Pattern) (fit : Fit) :
    fit ∈ fits scorer tokens index patterns ↔ index ≤ fit.index ∧
      ∃ pattern, patterns[fit.index - index]? = some pattern ∧
        pattern.align scorer tokens = some fit.best := by
  induction patterns generalizing index with
  | nil => simp [fits]
  | cons pattern rest ih =>
    rw [fits, List.mem_append, ih]
    have here : fit ∈ ((pattern.align scorer tokens).map (Fit.mk index)).toList ↔
        fit.index = index ∧ pattern.align scorer tokens = some fit.best := by
      rw [Option.mem_toList, Option.map_eq_some_iff]
      constructor
      · rintro ⟨found, aligned, rfl⟩
        exact ⟨rfl, aligned⟩
      · rintro ⟨rfl, aligned⟩
        exact ⟨fit.best, aligned, rfl⟩
    rw [here]
    rcases Nat.lt_trichotomy fit.index index with less | same | more
    · constructor
      · rintro (⟨same, -⟩ | ⟨later, -⟩) <;> omega
      · rintro ⟨later, -⟩
        omega
    · subst same
      simp
    · rw [show fit.index - index = fit.index - (index + 1) + 1 by omega, List.getElem?_cons_succ]
      constructor
      · rintro (⟨same, -⟩ | ⟨-, later⟩)
        · omega
        · exact ⟨Nat.le_of_lt more, later⟩
      · rintro ⟨-, later⟩
        exact Or.inr ⟨more, later⟩

theorem fits_ascending (scorer : Scorer) (tokens : List Token) (index : Nat)
    (patterns : List Pattern) :
    (fits scorer tokens index patterns).Pairwise (·.index < ·.index) := by
  induction patterns generalizing index with
  | nil => exact List.Pairwise.nil
  | cons pattern rest ih =>
    rw [fits, List.pairwise_append]
    refine ⟨?_, ih (index + 1), ?_⟩
    · cases pattern.align scorer tokens <;> simp
    · intro first member second secondMember
      obtain ⟨found, -, rfl⟩ := Option.map_eq_some_iff.1 (Option.mem_toList.1 member)
      have later := ((mem_fits_iff ..).1 secondMember).1
      show index < second.index
      omega

theorem mem_fits_of_align {patterns : List Pattern} {index : Nat} {pattern : Pattern}
    (atIndex : patterns[index]? = some pattern) {found : Alignment.Scored}
    (aligned : pattern.align scorer tokens = some found) :
    ⟨index, found⟩ ∈ fits scorer tokens 0 patterns :=
  (mem_fits_iff ..).2 ⟨Nat.zero_le _, pattern, atIndex, aligned⟩

theorem rank_lt_of_argmax_fits {patterns : List Pattern} {best earlier : Fit}
    (isBest : (fits scorer tokens 0 patterns).argmax Fit.rank = some best)
    (member : earlier ∈ fits scorer tokens 0 patterns) (before : earlier.index < best.index) :
    earlier.rank < best.rank := by
  obtain ⟨first, last, split, worse, -⟩ := (argmax_eq_some_split ..).1 isBest
  have ascending := fits_ascending scorer tokens 0 patterns
  rw [split] at member ascending
  have later := (List.pairwise_cons.1 (List.pairwise_append.1 ascending).2.1).1
  rcases List.mem_append.1 member with inFirst | inRest
  · exact worse earlier inFirst
  · rcases List.mem_cons.1 inRest with same | inLast
    · rw [same] at before
      exact absurd before (Nat.lt_irrefl _)
    · exact absurd before (Nat.lt_asymm (later earlier inLast))

end Recognition

variable {scorer : Scorer} {patterns : List Pattern} {utterance : Utterance}

/-- Without a pattern in the result, no pattern of the list fits. -/
theorem recognize_none (noPattern : (recognize scorer patterns utterance).pattern = none) :
    recognize scorer patterns utterance = .none ∧
      (utterance.isEmpty = true ∨
        ∀ pattern ∈ patterns, pattern.align scorer utterance.tokens = none) := by
  rw [recognize] at noPattern ⊢
  split at noPattern
  · rename_i empty
    exact ⟨if_pos empty, Or.inl empty⟩
  · rename_i tokens
    rw [if_neg tokens]
    split at noPattern
    · cases noPattern
    · rename_i noFit
      refine ⟨rfl, Or.inr ?_⟩
      rw [Recognition.bestFit_eq_argmax, List.argmax_eq_none, List.append_eq_nil_iff] at noFit
      intro pattern member
      obtain ⟨index, atIndex⟩ := List.mem_iff_getElem?.1 member
      rw [Option.eq_none_iff_forall_ne_some]
      intro found aligned
      have fit := Recognition.mem_fits_of_align atIndex aligned
      rw [noFit.2] at fit
      cases fit

/-- A pattern in the result is the first one of those that fit best. -/
theorem recognize_some {index : Nat}
    (isPattern : (recognize scorer patterns utterance).pattern = some index) :
    ∃ pattern found, patterns[index]? = some pattern ∧
      pattern.align scorer utterance.tokens = some found ∧
      recognize scorer patterns utterance =
        ⟨found.score, some index, found.alignment.slots utterance⟩ ∧
      (∀ other ∈ patterns, ∀ otherFound, other.align scorer utterance.tokens = some otherFound →
        ¬found.score < otherFound.score) ∧
      ∀ earlier < index, ∀ other, patterns[earlier]? = some other → ∀ otherFound,
        other.align scorer utterance.tokens = some otherFound → otherFound.score < found.score := by
  rw [recognize] at isPattern ⊢
  split at isPattern
  · cases isPattern
  · rename_i tokens
    rw [if_neg tokens]
    split at isPattern
    · rename_i fit isFit
      rcases fit with ⟨index, found⟩
      cases isPattern
      rw [Recognition.bestFit_eq_argmax, Option.toList_none, List.nil_append] at isFit
      obtain ⟨-, pattern, atIndex, aligned⟩ :=
        (Recognition.mem_fits_iff ..).1 (List.argmax_mem isFit)
      refine ⟨pattern, found, atIndex, aligned, rfl, ?_, ?_⟩
      · intro other member otherFound otherAligned
        obtain ⟨otherIndex, atOther⟩ := List.mem_iff_getElem?.1 member
        have competes := Recognition.mem_fits_of_align atOther otherAligned
        have notBetter := List.le_of_mem_argmax competes isFit
        rw [Confidence.lt_iff_rank, not_lt]
        exact notBetter
      · intro earlier before other atOther otherFound otherAligned
        have competes := Recognition.mem_fits_of_align atOther otherAligned
        have below := Recognition.rank_lt_of_argmax_fits isFit competes before
        rw [Confidence.lt_iff_rank]
        exact below
    · cases isPattern

theorem recognize_alone {pattern : Pattern} (tokens : utterance.isEmpty = false)
    {found : Alignment.Scored} (aligned : pattern.align scorer utterance.tokens = some found) :
    recognize scorer [pattern] utterance =
      ⟨found.score, some 0, found.alignment.slots utterance⟩ := by
  have only : Recognition.fits scorer utterance.tokens 0 [pattern] = [⟨0, found⟩] := by
    rw [Recognition.fits, aligned]
    rfl
  rw [recognize, tokens, if_neg Bool.false_ne_true, Recognition.bestFit_eq_argmax, only]
  rfl

theorem recognize_alone_none {pattern : Pattern}
    (notAligned : pattern.align scorer utterance.tokens = none) :
    recognize scorer [pattern] utterance = .none := by
  have nothing : Recognition.fits scorer utterance.tokens 0 [pattern] = [] := by
    rw [Recognition.fits, notAligned]
    rfl
  rw [recognize, Recognition.bestFit_eq_argmax, nothing]
  split <;> rfl

end SkillDispatch
