import SkillDispatch.Program.Text
import SkillDispatch.Proofs.ProgramLayout
import SkillDispatch.Proofs.Verdict

set_option autoImplicit false

namespace SkillDispatch

open Text

/-! ### From programs to parts -/

/-- Texts one after the other, each with a space in front of it; the first of a row has none. -/
def spaced (first : Bool) : List String → String
  | [] => ""
  | text :: rest => (if first then "" else " ") ++ (text ++ spaced false rest)

theorem spaced_eq_intercalate (texts : List String) : spaced true texts = " ".intercalate texts := by
  have later : ∀ (text : String) (rest : List String),
      " ".intercalate (text :: rest) = text ++ spaced false rest := by
    intro text rest
    induction rest generalizing text with
    | nil => simp [spaced]
    | cons next rest ih => simp [String.intercalate_cons_cons, spaced, ih, String.append_assoc]
  cases texts with
  | nil => simp [spaced]
  | cons text rest => simp [later, spaced]

namespace Program

variable {program : Program} {pc stop steps : Nat}

theorem write_done (first : Bool) (written : String) (done : stop ≤ pc) :
    program.write (steps + 1) pc stop first written = some (.ok written) := by
  rw [write, if_neg (Nat.not_lt_of_le done)]
  rfl

/-- What is written already ends with a space, if more than the first op is to come. -/
theorem written_spaced (first : Bool) (written text : String) (rest : List String) :
    (if first then written else written ++ " ") ++ text ++ spaced false rest =
      written ++ spaced first (text :: rest) := by
  cases first <;> simp [spaced, String.append_assoc]

theorem write_literal {phrases : List Phrase} (here : program.ops[pc]? = some (.literal phrases))
    (inside : pc < stop) (first : Bool) (written : String) :
    program.write (steps + 1) pc stop first written =
      program.write steps (pc + 1) stop false
        ((if first then written else written ++ " ") ++ Phrase.describe phrases) := by
  rw [write, if_pos inside, Checked.entry_eq here]
  rfl

theorem write_capture {slot : Nat} {name : String} (here : program.ops[pc]? = some (.capture slot))
    (named : program.slots[slot]? = some name) (inside : pc < stop) (first : Bool)
    (written : String) :
    program.write (steps + 1) pc stop first written =
      program.write steps (pc + 1) stop false
        ((if first then written else written ++ " ") ++ ("<" ++ name ++ ">")) := by
  rw [write, if_pos inside, Checked.entry_eq here]
  show ExceptT.bind (liftM (Checked.entry program.slots slot) : Writing) _ = _
  rw [Checked.entry_eq named]
  rfl

theorem write_wildcard (here : program.ops[pc]? = some .wildcard) (inside : pc < stop)
    (first : Bool) (written : String) :
    program.write (steps + 1) pc stop first written =
      program.write steps (pc + 1) stop false
        ((if first then written else written ++ " ") ++ "*") := by
  rw [write, if_pos inside, Checked.entry_eq here]
  rfl

theorem write_optional {after : Nat} {body : String}
    (here : program.ops[pc]? = some (.optional after)) (inside : pc < stop) (first : Bool)
    (written : String)
    (isBody : program.write steps (pc + 1) after true
      ((if first then written else written ++ " ") ++ "[") = some (.ok body)) :
    program.write (steps + 1) pc stop first written =
      program.write steps after stop false (body ++ "]") := by
  rw [write, if_pos inside, Checked.entry_eq here]
  show ExceptT.bind (program.write steps (pc + 1) after true _) _ = _
  rw [ExceptT.bind, isBody]
  rfl

/-- The ops of some parts are written as the texts of the parts. A body ends behind the place where it
begins, so no more ops follow each other than there are places up to the end. -/
theorem write_spans {parts : List Part}
    (spans : Part.Spans program.ops program.slots pc parts stop) (enough : stop ≤ pc + steps)
    (first : Bool) (written : String) :
    program.write (steps + 1) pc stop first written =
      some (.ok (written ++ spaced first (Part.describeEach parts))) := by
  have oneLess : ∀ {pc stop steps : Nat}, pc + 1 ≤ stop → stop ≤ pc + steps →
      ∃ fewer, steps = fewer + 1 ∧ stop ≤ pc + 1 + fewer := by
    intro pc stop steps inside enough
    exact ⟨steps - 1, by omega, by omega⟩
  induction spans generalizing steps first written with
  | nil pc =>
    rw [write_done first written (Nat.le_refl pc), Part.describeEach, spaced, String.append_empty]
  | literal here tail ih =>
    obtain ⟨fewer, rfl, left⟩ := oneLess tail.le enough
    rw [write_literal here tail.le, ih left, written_spaced, Part.describeEach, Part.describe]
  | capture here named tail ih =>
    obtain ⟨fewer, rfl, left⟩ := oneLess tail.le enough
    rw [write_capture here named tail.le, ih left, written_spaced, Part.describeEach, Part.describe]
  | wildcard here tail ih =>
    obtain ⟨fewer, rfl, left⟩ := oneLess tail.le enough
    rw [write_wildcard here tail.le, ih left, written_spaced, Part.describeEach, Part.describe]
  | @optional pc after stop body rest here inner tail innerIh ih =>
    have begins := inner.le
    obtain ⟨fewer, rfl, left⟩ := oneLess (Nat.le_trans begins tail.le) enough
    have enoughInside : after ≤ pc + 1 + fewer := Nat.le_trans tail.le left
    have isBody := innerIh enoughInside true
      ((if first then written else written ++ " ") ++ "[")
    rw [write_optional here (Nat.le_trans begins tail.le) first written isBody, ih (by omega),
      spaced_eq_intercalate, Part.describeEach, ← written_spaced, Part.describe]
    simp only [String.append_assoc]

/-- The text of a program is that of its pattern, if there are more steps than ops. -/
theorem describe_eq {pattern : Pattern} (isProgram : pattern.program = .ok program)
    (enough : program.ops.length < steps) :
    program.describe steps = some (.ok (toString pattern)) := by
  obtain ⟨fewer, rfl⟩ : ∃ fewer, steps = fewer + 1 := ⟨steps - 1, by omega⟩
  have spans := Pattern.program_spans isProgram
  rw [describe, write_spans spans (by omega), spaced_eq_intercalate, String.empty_append]
  rfl

end Program

/-! ### From parts to definitions -/

/-- Alternatives: one alone, or several with bars between them in parentheses. -/
def alternatives : List String → String
  | [text] => text
  | texts => "(" ++ "|".intercalate texts ++ ")"

mutual

def Element.rendering : Element → String
  | ⟨kind, words, name, elements⟩ =>
    if kind = "literal" then alternatives (words.map trimmed)
    else if kind = "capture" then "<" ++ trimmed (name.getD "") ++ ">"
    else if kind = "optional" then "[" ++ " ".intercalate (Element.renderingEach elements) ++ "]"
    else "*"

def Element.renderingEach : List Element → List String
  | [] => []
  | element :: rest => element.rendering :: Element.renderingEach rest

end

/-- The text of a pattern by its definition: its elements, with single spaces between them. -/
def PatternDefinition.rendering (definition : PatternDefinition) : String :=
  " ".intercalate (Element.renderingEach definition.elements)

theorem Phrase.describe_spelling (words : List String) :
    Phrase.describe (words.map Phrase.spelling) = alternatives (words.map trimmed) := by
  match words with
  | [] => rfl
  | [word] => rfl
  | first :: second :: rest =>
    simp [Phrase.describe, alternatives, Phrase.spelling, Function.comp_def]

namespace Element

variable {element : Element}

theorem rendering_of_literal (kind : element.kind = "literal") :
    element.rendering = alternatives (element.words.map trimmed) := by
  rcases element with ⟨_, words, name, elements⟩
  subst kind
  simp [Element.rendering]

theorem rendering_of_capture (kind : element.kind = "capture") {slot : String}
    (named : Element.slotName? element.name = some slot) :
    element.rendering = "<" ++ slot ++ ">" := by
  rcases element with ⟨_, words, name, elements⟩
  subst kind
  obtain ⟨text, rfl, rfl⟩ :=
    Option.map_eq_some_iff.1 ((Element.slotName?_eq_some_iff name slot).1 named).1
  simp [Element.rendering]

theorem rendering_of_wildcard (kind : element.kind = "wildcard") : element.rendering = "*" := by
  rcases element with ⟨_, words, name, elements⟩
  subst kind
  simp [Element.rendering]

theorem rendering_of_optional (kind : element.kind = "optional") :
    element.rendering = "[" ++ " ".intercalate (renderingEach element.elements) ++ "]" := by
  rcases element with ⟨_, words, name, elements⟩
  subst kind
  simp [Element.rendering]

/-- The parts that elements make have the texts of the elements. -/
theorem Compiles.describeEach_eq {taken : List String} {elements : List Element}
    {parts : List Part} {after : List String} (compiled : Compiles taken elements parts after) :
    Part.describeEach parts = renderingEach elements := by
  induction compiled with
  | nil taken => rfl
  | literal kind words tokens tail ih =>
    rw [Part.describeEach, renderingEach, ih, Part.describe, Phrase.describe_spelling,
      rendering_of_literal kind]
  | capture kind named fresh tail ih =>
    rw [Part.describeEach, renderingEach, ih, Part.describe, rendering_of_capture kind named]
  | wildcard kind tail ih =>
    rw [Part.describeEach, renderingEach, ih, Part.describe, rendering_of_wildcard kind]
  | optional kind elements inner tail innerIh ih =>
    rw [Part.describeEach, renderingEach, ih, Part.describe, innerIh, rendering_of_optional kind]

end Element

/-- A pattern that compilation made has the text of its definition. -/
theorem PatternDefinition.toString_eq {definition : PatternDefinition} {pattern : Pattern}
    (compiled : definition.compile = .ok pattern) : toString pattern = definition.rendering := by
  obtain ⟨-, after, parts⟩ := (definition.compile_eq_ok_iff pattern).1 compiled
  exact congrArg (String.intercalate " ") parts.describeEach_eq

/-- A pattern that compilation made has the text of its definition, and so has its program, written
without a crash from op to op. -/
theorem compiled_text {definition : PatternDefinition} {pattern : Pattern}
    (compiled : definition.compile = .ok pattern) :
    toString pattern = definition.rendering ∧
      ∃ program, pattern.program = .ok program ∧
        ∀ steps, program.ops.length < steps →
          program.describe steps = some (.ok definition.rendering) := by
  have text := definition.toString_eq compiled
  obtain ⟨program, isProgram, -⟩ := pattern.exists_program
  refine ⟨text, program, isProgram, ?_⟩
  intro steps enough
  rw [program.describe_eq isProgram enough, text]

/-- A song, perhaps with its album and the artist of that, and perhaps anything more: bodies end where
other bodies end, begin or hold nothing but another one. -/
def playAlbum : PatternDefinition :=
  ⟨[.literal ["play", " put on "], .capture " song ",
    .optional [.literal ["from"], .capture "album", .optional [.literal ["by"], .capture "artist"]],
    .optional [.optional [.wildcard]]]⟩

def playAlbumPattern : Pattern :=
  ⟨[.literal [⟨"play", ["play"]⟩, ⟨"put on", ["put", "on"]⟩], .capture "song",
    .optional [.literal [⟨"from", ["from"]⟩], .capture "album",
      .optional [.literal [⟨"by", ["by"]⟩], .capture "artist"]],
    .optional [.optional [.wildcard]]]⟩

/-- White space at the ends of words and names is not shown, and each body is closed where it ends. -/
theorem compiled_text_playAlbum :
    playAlbum.compile = .ok playAlbumPattern ∧
      playAlbum.rendering = "(play|put on) <song> [from <album> [by <artist>]] [[*]]" ∧
      toString playAlbumPattern = playAlbum.rendering ∧
      ∃ program, playAlbumPattern.program = .ok program ∧
        ∀ steps, program.ops.length < steps →
          program.describe steps = some (.ok playAlbum.rendering) := by
  have compiled : playAlbum.compile = .ok playAlbumPattern := by rfl
  exact ⟨compiled, by decide +kernel, compiled_text compiled⟩

end SkillDispatch
