import SkillDispatch.Proofs.ConfigChanges
import SkillDispatch.Proofs.JsonTexts
import SkillDispatch.Timespan

set_option autoImplicit false

namespace SkillDispatch.Config

open Json (Decoder Document Lexed Lexeme Reader RecordDecoder)

/-! ### What is written -/

/-- The document of a configuration, with these for its threshold and its milliseconds. -/
def documentOf (threshold millis : Document) : Document :=
  .object false (.cons (some "acceptance_threshold") threshold
    (.cons (some "processing_timeout_ms") millis .nil))

theorem document_toJson (config : Config) :
    Document.ofJson config.toJson = documentOf (.number (.real config.threshold))
      (.number (.whole (Int.ofNat (writtenMillis config.timeout)))) := by
  rfl

theorem unitInterval_of_real {source : Json.Source} {document : Document} {threshold : Float}
    (inUnit : InUnit threshold) (isReal : Decoder.real source document = .ok threshold) :
    unitInterval source document = .ok threshold := by
  unfold unitInterval
  rw [isReal]
  exact if_pos ⟨inUnit.zero_le, inUnit.le_one⟩

theorem writtenMillis_lt (timeout : Duration) : writtenMillis timeout < UInt64.size := by
  simp only [writtenMillis, UInt64.size]
  omega

theorem natural_writtenMillis (source : Json.Source) (timeout : Duration) :
    Decoder.natural source (.number (.whole (Int.ofNat (writtenMillis timeout)))) =
      .ok (writtenMillis timeout) :=
  if_pos ⟨Int.natCast_nonneg _, writtenMillis_lt timeout⟩

theorem decoder_documentOf {source : Json.Source} {threshold : Float} {number millis : Document}
    {count : Nat} (inUnit : InUnit threshold) (isReal : Decoder.real source number = .ok threshold)
    (isNatural : Decoder.natural source millis = .ok count) :
    decoder source (documentOf number millis) = .ok ⟨threshold, .ofMillis count⟩ := by
  have isThreshold := unitInterval_of_real inUnit isReal
  simp [decoder, documentOf, RecordDecoder.toDecoder, RecordDecoder.run, RecordDecoder.optional,
    RecordDecoder.field, RecordDecoder.both, Json.Fields.ofMembers, Json.Fields.find,
    Json.Fields.after, Json.Fields.ended, Seq.seq, Functor.map, Except.mapError, Except.map,
    isThreshold, isNatural]

theorem toList_toText (config : Config) :
    config.toText.toList = '\x7b' :: '"' :: ("acceptance_threshold".toList ++ '"' :: ':' ::
      ((Decimal.compact config.threshold).toList ++ ',' :: '"' ::
        ("processing_timeout_ms".toList ++ '"' :: ':' ::
          (Nat.toDigits 10 (writtenMillis config.timeout) ++ ['\x7d'])))) := by
  have front : "\x7b\"acceptance_threshold\":".toList =
      '\x7b' :: '"' :: ("acceptance_threshold".toList ++ ['"', ':']) := by simp
  have middle : ",\"processing_timeout_ms\":".toList =
      ',' :: '"' :: ("processing_timeout_ms".toList ++ ['"', ':']) := by simp
  have digits : (toString (writtenMillis config.timeout)).toList =
      Nat.toDigits 10 (writtenMillis config.timeout) := Nat.toList_repr
  have close : "\x7d".toList = ['\x7d'] := by simp
  unfold toText
  rw [String.toList_append, String.toList_append, String.toList_append, String.toList_append, front,
    middle, digits, close]
  simp only [List.append_assoc, List.cons_append, List.nil_append]

example : default.toText =
    "\x7b\"acceptance_threshold\":0.3,\"processing_timeout_ms\":10000\x7d" := by
  decide +kernel

def lexemesOf (threshold millis : Decimal.Literal) : List Lexeme :=
  [.openObject, .string (some "acceptance_threshold"), .colon, .number threshold, .comma,
    .string (some "processing_timeout_ms"), .colon, .number millis, .closeObject]

theorem lexed_toText {config : Config} {literal : Decimal.Literal}
    (lexed : Lexed (Decimal.compact config.threshold).toList [.number literal]) :
    Lexed config.toText.toList
      (lexemesOf literal ⟨false, Json.natDigits (writtenMillis config.timeout), [], none⟩) := by
  have thresholdName : ∀ c ∈ "acceptance_threshold".toList, Json.isPlain c = true := by
    simp [Json.isPlain]
  have timeoutName : ∀ c ∈ "processing_timeout_ms".toList, Json.isPlain c = true := by
    simp [Json.isPlain]
  have comma : ∀ rest, Json.EndsNumber (',' :: rest) := by
    rintro rest c ⟨⟩
    decide
  have brace : Json.EndsNumber ['\x7d'] := by
    rintro c ⟨⟩
    decide
  have close : Lexed ['\x7d'] [.closeObject] := .cons rfl rfl (.done rfl)
  have millis := Lexed.natural (writtenMillis config.timeout) brace close
  rw [toList_toText, lexemesOf]
  refine .cons rfl rfl (.cons rfl (Json.scan_name thresholdName _) (.cons rfl rfl ?_))
  refine lexed.number (comma _) (.cons rfl rfl ?_)
  exact .cons rfl (Json.scan_name timeoutName _) (.cons rfl rfl millis)

theorem lexemes_toText {config : Config} {literal : Decimal.Literal}
    (lexed : Lexed (Decimal.compact config.threshold).toList [.number literal]) :
    Json.lexemes config.toText.toList =
      lexemesOf literal ⟨false, Json.natDigits (writtenMillis config.timeout), [], none⟩ := by
  refine (lexed_toText lexed).lexemes_eq ?_
  rw [toList_toText]
  simp [lexemesOf]

theorem read_toText {config : Config} {literal : Decimal.Literal} {number : Json.Number}
    (lexed : Lexed (Decimal.compact config.threshold).toList [.number literal])
    (isNumber : Reader.standard.number? literal = some number) :
    Reader.standard.read config.toText = (documentOf (.number number)
      (.number (.whole (Int.ofNat (writtenMillis config.timeout)))), false) := by
  rw [Reader.read, lexemes_toText lexed]
  have notDeep : ¬Reader.standard.depth ≤ 0 := by decide
  have isMillis := Reader.number?_natDigits (writtenMillis_lt config.timeout)
  simp [lexemesOf, Reader.value, Reader.members, documentOf, isNumber, isMillis, notDeep]

/-! ### What is read -/

/-- The number in a text of a configuration is read as the threshold that it was written for. -/
def Carried (threshold : Float) : Prop :=
  Decoder.real.ofText (Decimal.compact threshold) = .ok threshold

instance (threshold : Float) : Decidable (Carried threshold) :=
  inferInstanceAs (Decidable (_ = _))

/-- What is left of a configuration that is written. -/
def inWrittenMillis (config : Config) : Config where
  threshold := config.threshold
  timeout := .ofMillis (writtenMillis config.timeout)

theorem ofJson_toJson {config : Config} (inUnit : InUnit config.threshold) :
    decoder.ofJson config.toJson = .ok config.inWrittenMillis := by
  rw [Decoder.ofJson, document_toJson]
  exact decoder_documentOf inUnit rfl (natural_writtenMillis .value config.timeout)

theorem ofText_toText {config : Config} (inUnit : InUnit config.threshold)
    (carried : Carried config.threshold) :
    ofText config.toText = .ok config.inWrittenMillis := by
  obtain ⟨literal, number, lexed, isNumber, isReal⟩ := Json.lexed_of_real carried
  refine Json.Decoder.ofText_eq_ok_iff.2 ⟨_, read_toText lexed isNumber, ?_⟩
  exact decoder_documentOf inUnit (isReal .text) (natural_writtenMillis .text config.timeout)

/-! ### Timeouts in milliseconds -/

variable {timeout : Duration} {millis : Nat}

theorem writtenMillis_of_lt (fits : timeout.millis < UInt64.size) :
    writtenMillis timeout = timeout.millis := by
  rw [writtenMillis]
  omega

theorem writtenMillis_of_le (tooLong : UInt64.size ≤ timeout.millis) :
    writtenMillis timeout = UInt64.size - 1 := by
  rw [writtenMillis]
  omega

theorem writtenMillis_ofMillis (fits : millis < UInt64.size) :
    writtenMillis (.ofMillis millis) = millis := by
  have full : (Duration.ofMillis millis).millis = millis :=
    Nat.mul_div_cancel millis (by decide)
  rw [writtenMillis_of_lt (by rwa [full]), full]

/-- A timeout comes back as it was, if it is whole milliseconds that fit. -/
theorem ofMillis_writtenMillis_eq_iff :
    .ofMillis (writtenMillis timeout) = timeout ↔
      ∃ millis < UInt64.size, timeout = .ofMillis millis := by
  constructor
  · intro same
    exact ⟨writtenMillis timeout, writtenMillis_lt timeout, same.symm⟩
  · rintro ⟨millis, fits, rfl⟩
    rw [writtenMillis_ofMillis fits]

theorem ofMillis_writtenMillis_le (timeout : Duration) :
    (Duration.ofMillis (writtenMillis timeout)).nanos ≤ timeout.nanos := by
  have full : timeout.millis * 1_000_000 ≤ timeout.nanos := Nat.div_mul_le_self ..
  have fewer : writtenMillis timeout ≤ timeout.millis := Nat.min_le_left ..
  exact (Nat.mul_le_mul_right 1_000_000 fewer).trans full

theorem ofMillis_shortMillis (span : Timespan) :
    (Timespan.ofMillis span.shortMillis).duration = .ofMillis (writtenMillis span.duration) := by
  rw [Timespan.ofMillis_duration, span.shortMillis_toNat]
  rfl

/-! ### Round trips -/

structure ReadBack (config back : Config) : Prop where
  /-- A JSON value is decoded without a fault. -/
  value : decoder.ofJson config.toJson = .ok back
  /-- So is a text, where the number in it carries the threshold. -/
  text : Carried config.threshold → ofText config.toText = .ok back
  threshold : back.threshold = config.threshold
  /-- Of the timeout, full milliseconds are left. -/
  truncated : config.timeout.millis < UInt64.size →
    back.timeout = .ofMillis config.timeout.millis
  /-- A timeout of too many milliseconds becomes the longest that can be written. -/
  saturated : UInt64.size ≤ config.timeout.millis → back.timeout = .ofMillis (UInt64.size - 1)
  unchanged_iff : back.timeout = config.timeout ↔
    ∃ millis < UInt64.size, config.timeout = .ofMillis millis
  not_longer : back.timeout.nanos ≤ config.timeout.nanos
  /-- Machine words for the timeout are written as its milliseconds and read as what is left, and they
  are the same words again where the timeout is the same. -/
  words : ∀ span : Timespan, span.duration = config.timeout →
    span.shortMillis.toNat = writtenMillis config.timeout ∧
      (Timespan.ofMillis span.shortMillis).duration = back.timeout ∧
      (Timespan.ofMillis span.shortMillis = span ↔ back.timeout = config.timeout)

theorem readBack_inWrittenMillis {config : Config} (inUnit : InUnit config.threshold) :
    config.ReadBack config.inWrittenMillis where
  value := ofJson_toJson inUnit
  text := ofText_toText inUnit
  threshold := rfl
  truncated fits := by rw [inWrittenMillis, writtenMillis_of_lt fits]
  saturated tooLong := by rw [inWrittenMillis, writtenMillis_of_le tooLong]
  unchanged_iff := ofMillis_writtenMillis_eq_iff
  not_longer := ofMillis_writtenMillis_le config.timeout
  words span isTimeout := by
    have written := span.shortMillis_toNat
    have read := ofMillis_shortMillis span
    rw [isTimeout] at written read
    refine ⟨written, read, fun same => ?_, fun same => ?_⟩
    · rw [same] at read
      exact read.symm.trans isTimeout
    · exact Timespan.duration_injective (read.trans (same.trans isTimeout.symm))

theorem inWrittenMillis_inWrittenMillis (config : Config) :
    config.inWrittenMillis.inWrittenMillis = config.inWrittenMillis := by
  rw [inWrittenMillis, inWrittenMillis, writtenMillis_ofMillis (writtenMillis_lt config.timeout)]

/-- A configuration whose threshold is in the unit interval is read back with the same threshold and
with the full milliseconds of its timeout, or as many as fit. What was read back once is read back as
it is. -/
theorem config_readBack {config : Config} (inUnit : InUnit config.threshold) :
    ∃ back, config.ReadBack back ∧ back.ReadBack back := by
  refine ⟨config.inWrittenMillis, readBack_inWrittenMillis inUnit, ?again⟩
  case again =>
    have again := readBack_inWrittenMillis (show InUnit config.inWrittenMillis.threshold from inUnit)
    rwa [inWrittenMillis_inWrittenMillis] at again

/-- A timeout of one and a half seconds, and less than a millisecond. -/
def shortPause : Config := ⟨0.3, .ofSeconds 1 500_700_000⟩

theorem shortPause_carried : Carried shortPause.threshold := by
  decide +kernel

theorem config_readBack_shortPause :
    InUnit shortPause.threshold ∧ Carried shortPause.threshold ∧
      ∃ back, (shortPause.ReadBack back ∧ back.ReadBack back) ∧
        ofText shortPause.toText = .ok back ∧ back.timeout = .ofMillis 1500 ∧
        back.timeout ≠ shortPause.timeout := by
  have inUnit : InUnit shortPause.threshold := .of_le (by decide) (by decide)
  obtain ⟨back, first, again⟩ := config_readBack inUnit
  have fits : shortPause.timeout.millis < UInt64.size := by decide
  refine ⟨inUnit, shortPause_carried, back, ⟨first, again⟩, first.text shortPause_carried,
    first.truncated fits, ?_⟩
  rw [first.truncated fits]
  decide

end SkillDispatch.Config
