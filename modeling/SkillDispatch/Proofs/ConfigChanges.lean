import SkillDispatch.Config
import SkillDispatch.Proofs.DoubleOrder
import SkillDispatch.Proofs.RecordDecoding

set_option autoImplicit false

namespace SkillDispatch.Config

open Json (Decoder Fault RecordDecoder)

/-! ### The unit interval -/

structure InUnit (value : Float) : Prop where
  isNumber : value.isNaN = false
  zero_le : 0.0 ≤ value
  le_one : value ≤ 1.0

theorem InUnit.of_le {value : Float} (zero_le : 0.0 ≤ value) (le_one : value ≤ 1.0) :
    InUnit value where
  isNumber := ((Double.le_iff _ _).1 zero_le).2.1
  zero_le := zero_le
  le_one := le_one

theorem default_inUnit : InUnit default.threshold :=
  .of_le (by decide) (by decide)

theorem InUnit.of_not_lt {value : Float} (isNumber : value.isNaN = false)
    (notBelow : ¬value < 0.0) (notAbove : ¬1.0 < value) : InUnit value := by
  apply InUnit.of_le
  · exact (Double.not_lt_iff isNumber (by decide)).1 notBelow
  · exact (Double.not_lt_iff (by decide) isNumber).1 notAbove

/-! ### The setters -/

theorem withThreshold_inUnit (config : Config) (value : Float) :
    InUnit (config.withThreshold value).threshold := by
  unfold withThreshold
  dsimp only
  split_ifs with notNumber below above
  · exact default_inUnit
  · exact .of_le (by decide) (by decide)
  · exact .of_le (by decide) (by decide)
  · exact .of_not_lt (Bool.eq_false_iff.2 notNumber) below above

theorem withThreshold_of_inUnit (config : Config) {value : Float} (inUnit : InUnit value) :
    (config.withThreshold value).threshold = value := by
  have notBelow : ¬value < 0.0 := (Double.not_lt_iff inUnit.isNumber (by decide)).2 inUnit.zero_le
  have notAbove : ¬1.0 < value := (Double.not_lt_iff (by decide) inUnit.isNumber).2 inUnit.le_one
  unfold withThreshold
  simp only [inUnit.isNumber, notBelow, notAbove, if_false, Bool.false_eq_true]

/-! ### The decoder -/

theorem unitInterval_ensures : unitInterval.Ensures InUnit := by
  intro source document value isValue
  unfold unitInterval at isValue
  cases isReal : Decoder.real source document with
  | error fault =>
    rw [isReal] at isValue
    cases isValue
  | ok threshold =>
    rw [isReal] at isValue
    dsimp only [bind, Except.bind] at isValue
    split at isValue
    · rename_i inside
      cases isValue
      exact .of_le inside.1 inside.2
    · cases isValue

theorem thresholdField_ensures :
    (RecordDecoder.optional "acceptance_threshold" default.threshold unitInterval).Ensures
      InUnit := by
  apply RecordDecoder.Ensures.field unitInterval_ensures
  intro value isDefault
  cases isDefault
  exact default_inUnit

theorem decoder_ensures : decoder.Ensures fun config => InUnit config.threshold := by
  have configOf : (Config.mk <$> RecordDecoder.optional "acceptance_threshold" default.threshold
      unitInterval).Ensures fun configOf => ∀ timeout, InUnit (configOf timeout).threshold :=
    thresholdField_ensures.map fun value inUnit timeout => inUnit
  unfold decoder
  apply RecordDecoder.Ensures.toDecoder
  refine configOf.seq (.trivial _) ?_
  intro configOf timeout inUnit _
  exact inUnit timeout

theorem ofText_inUnit {text : String} {config : Config} (made : ofText text = .ok config) :
    InUnit config.threshold :=
  decoder_ensures.ofText made

/-! ### Changes -/

inductive Change
  /-- Another one is decoded from a text. -/
  | text (text : String)
  /-- The threshold is set. -/
  | threshold (value : Float)
  /-- The timeout is set. -/
  | timeout (timeout : Duration)

/-- The configuration after a change. A text that none can be made of leaves it as it is. -/
def changed (config : Config) : Change → Config
  | .text text =>
    match ofText text with
    | .ok decoded => decoded
    | .error _ => config
  | .threshold value => config.withThreshold value
  | .timeout timeout => config.withTimeout timeout

theorem changed_of_ok (config : Config) {text : String} {decoded : Config}
    (made : ofText text = .ok decoded) : config.changed (.text text) = decoded := by
  simp only [changed, made]

theorem changed_of_error (config : Config) {text : String} {fault : Fault}
    (isFault : ofText text = .error fault) : config.changed (.text text) = config := by
  simp only [changed, isFault]

/-- The configuration that the default one has become after some changes. -/
def after (changes : List Change) : Config :=
  changes.foldl changed default

@[simp] theorem after_nil : after [] = default := rfl

@[simp] theorem after_append (changes : List Change) (change : Change) :
    after (changes ++ [change]) = (after changes).changed change := by
  simp [after]

theorem changed_inUnit {config : Config} (inUnit : InUnit config.threshold) (change : Change) :
    InUnit (config.changed change).threshold := by
  cases change with
  | text text =>
    cases made : ofText text with
    | ok decoded =>
      rw [changed_of_ok config made]
      exact ofText_inUnit made
    | error fault =>
      rw [changed_of_error config made]
      exact inUnit
  | threshold value => exact withThreshold_inUnit config value
  | timeout timeout => exact inUnit

theorem after_inUnit (changes : List Change) : InUnit (after changes).threshold := by
  induction changes using List.reverseRecOn with
  | nil =>
    rw [after_nil]
    exact default_inUnit
  | append_singleton earlier change ih =>
    rw [after_append]
    exact changed_inUnit ih change

/-- However often a configuration is decoded and set, its threshold is a number in the unit interval.
A text either gives the configuration that is decoded from it or changes nothing. Setting the
threshold leaves the timeout alone and takes a number in the unit interval as it is; setting the
timeout leaves the threshold alone. -/
theorem config_changes (changes : List Change) :
    InUnit (after changes).threshold ∧
      (∀ (text : String) (decoded : Config), ofText text = .ok decoded →
        after (changes ++ [Change.text text]) = decoded) ∧
      (∀ (text : String) (fault : Fault), ofText text = .error fault →
        after (changes ++ [Change.text text]) = after changes) ∧
      (∀ value : Float,
        (after (changes ++ [Change.threshold value])).timeout = (after changes).timeout) ∧
      (∀ value : Float, InUnit value →
        (after (changes ++ [Change.threshold value])).threshold = value) ∧
      (∀ timeout : Duration,
        (after (changes ++ [Change.timeout timeout])).threshold = (after changes).threshold ∧
          (after (changes ++ [Change.timeout timeout])).timeout = timeout) := by
  refine ⟨after_inUnit changes, ?decoded, ?failed, ?threshold, ?inside, ?timeout⟩
  case decoded =>
    intro text decoded made
    rw [after_append, changed_of_ok (after changes) made]
  case failed =>
    intro text fault isFault
    rw [after_append, changed_of_error (after changes) isFault]
  case threshold =>
    intro value
    simp [changed, withThreshold]
  case inside =>
    intro value inUnit
    rw [after_append]
    exact withThreshold_of_inUnit (after changes) inUnit
  case timeout =>
    intro timeout
    simp [changed, withTimeout]

-- A text with a threshold outside the unit interval is refused; the setter takes the nearer end.
example : (ofText "\x7b\"acceptance_threshold\": 1.5\x7d").isOk = false ∧
    (after [.threshold 1.5]).threshold = 1.0 := by
  constructor
  · decide +kernel
  · rfl

end SkillDispatch.Config
