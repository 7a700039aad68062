/-! Places in a text, counted in bytes of its UTF-8 form.
A place in front of a character is the number of bytes of the characters before it, so that a
text can be cut there.
-/

namespace StoryAtlas.Text

/-- The number of bytes of the UTF-8 form. -/
def byteLength : List Char → Nat
  | [] => 0
  | c :: rest => c.utf8Size + byteLength rest

@[simp]
theorem byteLength_nil : byteLength [] = 0 := rfl

@[simp]
theorem byteLength_cons (c : Char) (rest : List Char)
    : byteLength (c :: rest) = c.utf8Size + byteLength rest := rfl

@[simp]
theorem byteLength_append (left right : List Char)
    : byteLength (left ++ right) = byteLength left + byteLength right := by
  induction left with
  | nil => simp
  | cons c rest ih => simp [ih, Nat.add_assoc]

/-- The offsets at which the characters behind an offset begin. -/
def charOffsets (offset : Nat) : List Char → List Nat
  | [] => []
  | c :: rest => offset :: charOffsets (offset + c.utf8Size) rest

/-- The characters in front of an offset, which lies between two of them. -/
def charsBefore : Nat → List Char → List Char
  | _, [] => []
  | offset, c :: rest =>
      if offset < c.utf8Size then [] else c :: charsBefore (offset - c.utf8Size) rest

end StoryAtlas.Text
