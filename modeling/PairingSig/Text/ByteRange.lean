/-!
# Ranges of bytes

Parts of a text by their places among its UTF-8 bytes. A place within a character begins no part.
-/

namespace PairingSig.Text

/-- The characters of a text, each with the number of bytes before it, where `place` bytes come
before the first one. -/
def placed (place : Nat) : List Char → List (Char × Nat)
  | [] => []
  | c :: cs => (c, place) :: placed (place + c.utf8Size) cs

/-- A text without its first bytes. -/
def dropBytes? : Nat → List Char → Option (List Char)
  | 0, cs => some cs
  | _ + 1, [] => none
  | n + 1, c :: cs =>
    if c.utf8Size ≤ n + 1 then dropBytes? (n + 1 - c.utf8Size) cs else none

/-- The first bytes of a text. -/
def takeBytes? : Nat → List Char → Option (List Char)
  | 0, _ => some []
  | _ + 1, [] => none
  | n + 1, c :: cs =>
    if c.utf8Size ≤ n + 1 then (takeBytes? (n + 1 - c.utf8Size) cs).map (c :: ·) else none

/-- The part of a text from one place to another. -/
def byteRange? (first last : Nat) (cs : List Char) : Option (List Char) :=
  (dropBytes? first cs).bind (takeBytes? (last - first))

end PairingSig.Text
