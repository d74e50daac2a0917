import SkillDispatch.Unicode.CodeRange

set_option autoImplicit false

namespace SkillDispatch.Unicode

/-- The code points with the property White_Space. -/
def blankRanges : CodeRanges :=
  [(0x9, 0xD), (0x20, 0x20), (0x85, 0x85), (0xA0, 0xA0), (0x1680, 0x1680), (0x2000, 0x200A),
   (0x2028, 0x2029), (0x202F, 0x202F), (0x205F, 0x205F), (0x3000, 0x3000)]

/-- A space, tab, line end or other white space. -/
def isBlank (c : Char) : Bool :=
  blankRanges.has c.toNat

def trimBlanks (chars : List Char) : List Char :=
  ((chars.dropWhile isBlank).reverse.dropWhile isBlank).reverse

end SkillDispatch.Unicode
