import SkillDispatch.Alignment
import SkillDispatch.Alignment.Frontier
import SkillDispatch.Checked
import SkillDispatch.Confidence
import SkillDispatch.Config
import SkillDispatch.Context
import SkillDispatch.Coverage
import SkillDispatch.Decimal.Binary
import SkillDispatch.Decimal.Fixed
import SkillDispatch.Decimal.Literal
import SkillDispatch.Decimal.Shortest
import SkillDispatch.Definition
import SkillDispatch.Definition.Json
import SkillDispatch.Dispatcher
import SkillDispatch.Duration
import SkillDispatch.Json
import SkillDispatch.Json.Decoder
import SkillDispatch.Json.Document
import SkillDispatch.Json.Fault
import SkillDispatch.Json.Lexeme
import SkillDispatch.Match
import SkillDispatch.Pattern
import SkillDispatch.Pattern.Compile
import SkillDispatch.Preferences
import SkillDispatch.Program
import SkillDispatch.Program.Recognition
import SkillDispatch.Program.Search
import SkillDispatch.Program.Slots
import SkillDispatch.Program.Text
import SkillDispatch.Proofs.Assembly
import SkillDispatch.Proofs.BareLetters
import SkillDispatch.Proofs.BestAlignment
import SkillDispatch.Proofs.BestFit
import SkillDispatch.Proofs.CallTrace
import SkillDispatch.Proofs.Candidates
import SkillDispatch.Proofs.CanonicalForms
import SkillDispatch.Proofs.Captures
import SkillDispatch.Proofs.CharacterPieces
import SkillDispatch.Proofs.CharacterSets
import SkillDispatch.Proofs.CheckedRuns
import SkillDispatch.Proofs.CodeSets
import SkillDispatch.Proofs.Compilation
import SkillDispatch.Proofs.ConfigChanges
import SkillDispatch.Proofs.ConfigRoundTrip
import SkillDispatch.Proofs.Deadlines
import SkillDispatch.Proofs.DecomposedTokens
import SkillDispatch.Proofs.Decomposing
import SkillDispatch.Proofs.DispatchLaw
import SkillDispatch.Proofs.DoubleCounts
import SkillDispatch.Proofs.DoubleOrder
import SkillDispatch.Proofs.DoubleRounding
import SkillDispatch.Proofs.EarlyStop
import SkillDispatch.Proofs.EmptyTokens
import SkillDispatch.Proofs.ExactRecognition
import SkillDispatch.Proofs.ExhaustiveSearch
import SkillDispatch.Proofs.Expansion
import SkillDispatch.Proofs.FallbackLaw
import SkillDispatch.Proofs.FirstBest
import SkillDispatch.Proofs.FirstOccurrences
import SkillDispatch.Proofs.FoldedTokens
import SkillDispatch.Proofs.Folding
import SkillDispatch.Proofs.FrontierBounds
import SkillDispatch.Proofs.FrontierSearch
import SkillDispatch.Proofs.JsonRoundTrip
import SkillDispatch.Proofs.JsonTexts
import SkillDispatch.Proofs.Laying
import SkillDispatch.Proofs.LiteralShare
import SkillDispatch.Proofs.MarkOrder
import SkillDispatch.Proofs.MaximalRuns
import SkillDispatch.Proofs.ProgramAlignment
import SkillDispatch.Proofs.ProgramLayout
import SkillDispatch.Proofs.ProgramPruning
import SkillDispatch.Proofs.ProgramRecognition
import SkillDispatch.Proofs.ProgramRows
import SkillDispatch.Proofs.ProgramSafety
import SkillDispatch.Proofs.ProgramSearch
import SkillDispatch.Proofs.ProgramText
import SkillDispatch.Proofs.Races
import SkillDispatch.Proofs.RecordDecoding
import SkillDispatch.Proofs.Registration
import SkillDispatch.Proofs.Respelling
import SkillDispatch.Proofs.RosterRuns
import SkillDispatch.Proofs.SearchOrder
import SkillDispatch.Proofs.SelectionLaw
import SkillDispatch.Proofs.Sentences
import SkillDispatch.Proofs.SeparatedTexts
import SkillDispatch.Proofs.Soundness
import SkillDispatch.Proofs.Spelling
import SkillDispatch.Proofs.StagePath
import SkillDispatch.Proofs.TieBreak
import SkillDispatch.Proofs.TokenKinds
import SkillDispatch.Proofs.TokenLaw
import SkillDispatch.Proofs.TokenPieces
import SkillDispatch.Proofs.TokenRanges
import SkillDispatch.Proofs.TokenRuns
import SkillDispatch.Proofs.TokenSpans
import SkillDispatch.Proofs.Verdict
import SkillDispatch.Proofs.WildcardLaw
import SkillDispatch.Recognition
import SkillDispatch.Rendered
import SkillDispatch.Roster
import SkillDispatch.Scanner
import SkillDispatch.Section
import SkillDispatch.Section.Registry
import SkillDispatch.Selection
import SkillDispatch.Skill
import SkillDispatch.Skill.Chain
import SkillDispatch.Skill.Error
import SkillDispatch.Skill.Future
import SkillDispatch.Skill.PausedClock
import SkillDispatch.Skill.Registry
import SkillDispatch.Skill.Script
import SkillDispatch.Skill.Settings
import SkillDispatch.Skill.Work
import SkillDispatch.Slot
import SkillDispatch.Text.Folded
import SkillDispatch.Text.NameMap
import SkillDispatch.Text.Quoted
import SkillDispatch.Text.Span
import SkillDispatch.Timespan
import SkillDispatch.Token
import SkillDispatch.Unicode.Alphabetic
import SkillDispatch.Unicode.Blank
import SkillDispatch.Unicode.Cased
import SkillDispatch.Unicode.CodeRange
import SkillDispatch.Unicode.Decomposition
import SkillDispatch.Unicode.Digit
import SkillDispatch.Unicode.Lowercase
import SkillDispatch.Unicode.Mark
import SkillDispatch.Unicode.Printable
import SkillDispatch.Utterance
