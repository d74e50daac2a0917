import SkillDispatch.Duration
import SkillDispatch.Json.Decoder

set_option autoImplicit false

namespace SkillDispatch

open Json (Decoder Fault RecordDecoder)

/-- When a match is accepted, and how long the accepted skill may work. -/
structure Config where
  /-- A match must score above this. -/
  threshold : Float
  /-- A skill must be done after this time. -/
  timeout : Duration

namespace Config

def default : Config := ⟨0.3, .ofSeconds 10 0⟩

instance : Inhabited Config := ⟨default⟩

instance : BEq Config :=
  ⟨fun first second => first.threshold == second.threshold && first.timeout == second.timeout⟩

/-- Sets the threshold. A number outside the unit interval goes to its nearer end, and NaN gives the
default. -/
def withThreshold (config : Config) (threshold : Float) : Config where
  threshold :=
    if threshold.isNaN then default.threshold
    else if threshold < 0.0 then 0.0
    else if 1.0 < threshold then 1.0
    else threshold
  timeout := config.timeout

def withTimeout (config : Config) (timeout : Duration) : Config where
  threshold := config.threshold
  timeout := timeout

/-- The milliseconds that a timeout is written as: full ones, as many as fit 64 bits. -/
def writtenMillis (timeout : Duration) : Nat :=
  min timeout.millis (UInt64.size - 1)

def toJson (config : Config) : Json :=
  .ofFields [("acceptance_threshold", .number (.real config.threshold)),
    ("processing_timeout_ms", .number (.whole (Int.ofNat (writtenMillis config.timeout))))]

def toText (config : Config) : String :=
  "\x7b\"acceptance_threshold\":" ++ Decimal.compact config.threshold ++
    ",\"processing_timeout_ms\":" ++ toString (writtenMillis config.timeout) ++ "\x7d"

def unitInterval : Decoder Float := fun source document => do
  let threshold ← Decoder.real source document
  if 0.0 ≤ threshold ∧ threshold ≤ 1.0 then return threshold
  .error (.mismatch (.refused
    ("acceptance_threshold " ++ Decimal.positional threshold ++ " is outside [0, 1]")))

/-- Decodes a configuration. What is missing has its default. -/
def decoder : Decoder Config :=
  RecordDecoder.toDecoder "DispatchConfig" <|
    Config.mk <$> .optional "acceptance_threshold" default.threshold unitInterval
      <*> .optional "processing_timeout_ms" default.timeout
        fun source document => (Decoder.natural source document).map Duration.ofMillis

def ofText (text : String) : Except Fault Config :=
  decoder.ofText text

end Config

end SkillDispatch
