/-!
Positions in a text that are counted in bytes. A character takes one to four of them, so a position may
lie inside a character; there the text cannot be cut.
-/

namespace Switchboard.Text

def byteCount : List Char → Nat
  | [] => 0
  | c :: rest => c.utf8Size + byteCount rest

/-- The text after its first `n` bytes; none if they do not end with a character. -/
def dropBytes? (n : Nat) : List Char → Option (List Char)
  | [] => if n = 0 then some [] else none
  | c :: rest =>
    if n = 0 then some (c :: rest)
    else if n < c.utf8Size then none
    else dropBytes? (n - c.utf8Size) rest

/-- The first `n` bytes of a text; none if they do not end with a character. -/
def takeBytes? (n : Nat) : List Char → Option (List Char)
  | [] => if n = 0 then some [] else none
  | c :: rest =>
    if n = 0 then some []
    else if n < c.utf8Size then none
    else (takeBytes? (n - c.utf8Size) rest).map (c :: ·)

def slice? (text : List Char) (first last : Nat) : Option (List Char) :=
  (dropBytes? first text).bind (takeBytes? (last - first))

theorem dropBytes?_append (before after : List Char) :
    dropBytes? (byteCount before) (before ++ after) = some after := by
  induction before with
  | nil => cases after <;> simp [byteCount, dropBytes?]
  | cons c rest ih =>
    have hne : c.utf8Size ≠ 0 := Nat.ne_of_gt c.utf8Size_pos
    simp [byteCount, dropBytes?, hne, ih]

theorem takeBytes?_append (before after : List Char) :
    takeBytes? (byteCount before) (before ++ after) = some before := by
  induction before with
  | nil => cases after <;> simp [byteCount, takeBytes?]
  | cons c rest ih =>
    have hne : c.utf8Size ≠ 0 := Nat.ne_of_gt c.utf8Size_pos
    simp [byteCount, takeBytes?, hne, ih]

end Switchboard.Text
