import QueryPack.Text.Wide
import QueryPack.Text.ZeroWidth

namespace QueryPack.Text

/-!
# Terminal columns

How many columns a text takes when a terminal shows it: wide characters take
two, marks and controls none, everything else one. Every character counts for
itself, also where a terminal might join several into one picture.
-/

/-- Whether a code point lies in one of some closed ranges. -/
def inRanges (ranges : Array (Nat × Nat)) (codePoint : Nat) : Bool :=
  ranges.any fun (first, last) => first ≤ codePoint && codePoint ≤ last

/-- The columns that a character takes. -/
def charColumns (character : Char) : Nat :=
  if ' ' ≤ character && character ≤ '~' then
    1
  else if inRanges zeroWidthRanges character.toNat then
    0
  else if inRanges wideRanges character.toNat then
    2
  else
    1

/-- The columns that a line of text takes. -/
def columns (line : String) : Nat :=
  line.toList.foldl (fun total character => total + charColumns character) 0

/-- A line filled up with blanks to a number of columns. -/
def padTo (width : Nat) (line : String) : String :=
  line ++ String.ofList (List.replicate (width - columns line) ' ')

end QueryPack.Text
