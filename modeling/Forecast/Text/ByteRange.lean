/-!
# Parts of texts by bytes

Positions in a text are counted in bytes of its UTF-8 encoding.  A position inside a character cuts
nothing out.
-/

namespace Forecast.ByteRange

/-- What follows a position. -/
def from? : Nat → List Char → Option (List Char)
  | 0, chars => some chars
  | _ + 1, [] => none
  | position + 1, char :: rest =>
      if char.utf8Size ≤ position + 1 then from? (position + 1 - char.utf8Size) rest else none

/-- What stands before a position. -/
def upTo? : Nat → List Char → Option (List Char)
  | 0, _ => some []
  | _ + 1, [] => none
  | position + 1, char :: rest =>
      if char.utf8Size ≤ position + 1 then
        (upTo? (position + 1 - char.utf8Size) rest).map (char :: ·)
      else none

/-- What stands between two positions. -/
def between? (start stop : Nat) (chars : List Char) : Option (List Char) :=
  (from? start chars).bind (upTo? (stop - start))

end Forecast.ByteRange
