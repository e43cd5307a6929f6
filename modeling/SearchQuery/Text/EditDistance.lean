/-!
# Edit distance

The least number of insertions, deletions and substitutions of single characters that turn one text
into another. It is computed row by row: the entry for a place in the second text is the distance
from the part of the first text read so far to the part of the second before that place. Two rows
are kept, and each character of the first text writes its row over the older of the two.
-/

namespace SearchQuery.Text

/-- The rows that are kept, with an entry for each place in a text of `n` characters. -/
structure DistanceRows (n : Nat) where
  /-- The row of the part that has been read. -/
  last : Vector Nat (n + 1)
  /-- The row to write over. -/
  spare : Vector Nat (n + 1)

/-- What `row` holds once the entries up to place `k` are written for a character `c` of the first
text, with which `count` have been read. The row before that character is `last`. -/
def writeRow (text : Array Char) (c : Char) (count : Nat) (last row : Vector Nat (text.size + 1)) :
    (k : Nat) → k ≤ text.size → Vector Nat (text.size + 1)
  | 0, _ => row.set 0 count
  | k + 1, h =>
    let written := writeRow text c count last row k (Nat.le_of_succ_le h)
    let cost := if c = text[k] then 0 else 1
    written.set (k + 1) (min (min (last[k + 1] + 1) (written[k] + 1)) (last[k] + cost))

/-- The rows after one more character of the first text, which stands at an index. -/
def DistanceRows.advance (text : Array Char) (rows : DistanceRows text.size) :
    Char × Nat → DistanceRows text.size
  | (c, index) =>
    { last := writeRow text c (index + 1) rows.last rows.spare text.size (Nat.le_refl _)
      spare := rows.last }

/-- The edit distance between two texts. -/
def editDistance (s t : String) : Nat :=
  let read := s.toList
  let text := t.toList.toArray
  if read.isEmpty then text.size
  else if text.isEmpty then read.length
  else
    let start : DistanceRows text.size := ⟨Vector.range (text.size + 1), Vector.replicate _ 0⟩
    (read.zipIdx.foldl (DistanceRows.advance text) start).last[text.size]

end SearchQuery.Text
