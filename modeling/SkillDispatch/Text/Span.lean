set_option autoImplicit false

namespace SkillDispatch.Text

/-- The positions from `start` on, up to `stop` and without it: bytes of a text, or tokens of an
utterance. -/
structure Span where
  start : Nat
  stop : Nat
  deriving DecidableEq

def byteLength (chars : List Char) : Nat :=
  chars.foldr (fun c bytes => c.utf8Size + bytes) 0

@[simp] theorem byteLength_nil : byteLength [] = 0 := rfl

@[simp] theorem byteLength_cons (c : Char) (chars : List Char) :
    byteLength (c :: chars) = c.utf8Size + byteLength chars := rfl

@[simp] theorem byteLength_append (first second : List Char) :
    byteLength (first ++ second) = byteLength first + byteLength second := by
  induction first with
  | nil => simp
  | cons c rest ih =>
    rw [List.cons_append, byteLength_cons, byteLength_cons, ih, Nat.add_assoc]

/-- The text without its first bytes. A character that is cut goes whole. -/
def dropBytes : Nat → List Char → List Char
  | _, [] => []
  | bytes, c :: chars => if bytes = 0 then c :: chars else dropBytes (bytes - c.utf8Size) chars

/-- The first bytes of the text. A character that is cut stays whole. -/
def takeBytes : Nat → List Char → List Char
  | _, [] => []
  | bytes, c :: chars => if bytes = 0 then [] else c :: takeBytes (bytes - c.utf8Size) chars

def slice (chars : List Char) (span : Span) : List Char :=
  takeBytes (span.stop - span.start) (dropBytes span.start chars)

theorem dropBytes_byteLength (first second : List Char) :
    dropBytes (byteLength first) (first ++ second) = second := by
  induction first with
  | nil => cases second <;> simp [dropBytes]
  | cons c first ih =>
    have positive := c.utf8Size_pos
    rw [List.cons_append, dropBytes, byteLength_cons, if_neg (by omega),
      show c.utf8Size + byteLength first - c.utf8Size = byteLength first by omega, ih]

theorem takeBytes_byteLength (first second : List Char) :
    takeBytes (byteLength first) (first ++ second) = first := by
  induction first with
  | nil => cases second <;> simp [takeBytes]
  | cons c first ih =>
    have positive := c.utf8Size_pos
    rw [List.cons_append, takeBytes, byteLength_cons, if_neg (by omega),
      show c.utf8Size + byteLength first - c.utf8Size = byteLength first by omega, ih]

/-- A span between two characters cuts out what stands between them. -/
theorem slice_append (before between after : List Char) :
    slice (before ++ between ++ after)
      ⟨byteLength before, byteLength before + byteLength between⟩ = between := by
  rw [slice, List.append_assoc, dropBytes_byteLength,
    show byteLength before + byteLength between - byteLength before = byteLength between by omega,
    takeBytes_byteLength]

end SkillDispatch.Text
