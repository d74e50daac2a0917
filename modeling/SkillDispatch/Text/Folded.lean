import SkillDispatch.Unicode.Alphabetic
import SkillDispatch.Unicode.Cased
import SkillDispatch.Unicode.Decomposition
import SkillDispatch.Unicode.Lowercase
import SkillDispatch.Unicode.Mark

set_option autoImplicit false

namespace SkillDispatch.Text

open Unicode

/-- Whether the first character that casing does not look through is a cased letter. -/
def leansOnLetter (chars : List Char) : Bool :=
  match chars.dropWhile isCaseIgnorable with
  | [] => false
  | c :: _ => isCased c

/-- Capital sigma ends a word when a letter stands before it and none after it. Such a sigma has a
small form of its own. -/
def smallSigma (before after : List Char) : Char :=
  if leansOnLetter before && !leansOnLetter after then 'ς' else 'σ'

/-- The lowercase of `chars`, where `before` is the text in front of them, last character first. -/
def lowercaseAfter (before : List Char) : List Char → List Char
  | [] => []
  | c :: after =>
    (if c = 'Σ' then [smallSigma before after] else lowercase c) ++
      lowercaseAfter (c :: before) after

def lowercaseText (chars : List Char) : List Char :=
  lowercaseAfter [] chars

/-- Puts a character before a text in canonical order: it moves past the marks of lower class that
follow it, and a character of class zero stays where it is. -/
def insertByClass (c : Char) : List Char → List Char
  | [] => [c]
  | d :: rest =>
    if 0 < combiningClass d ∧ combiningClass d < combiningClass c then d :: insertByClass c rest
    else c :: d :: rest

/-- Sorts each run of marks by class; marks of one class keep their order. -/
def canonicalOrder (chars : List Char) : List Char :=
  chars.foldr insertByClass []

def decomposed (chars : List Char) : List Char :=
  canonicalOrder (chars.flatMap decompose)

/-- The typographic apostrophe is written as the plain one. -/
def plainApostrophe (c : Char) : Char :=
  if c = '’' then '\'' else c

/-- The form of a word in which it is compared. -/
def fold (chars : List Char) : List Char :=
  ((decomposed (lowercaseText chars)).filter fun c => !isMark c).map plainApostrophe

end SkillDispatch.Text
