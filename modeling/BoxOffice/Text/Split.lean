/-!
# Cutting a text at a mark

`cutAt` cuts at the first mark, `splitOn` at every mark. A text without the mark stays in one piece.
-/

namespace BoxOffice.Text

/-- What stands before the first mark, and what stands behind it. -/
def cutAt (mark : Char) (cs : List Char) : List Char × List Char :=
  (cs.takeWhile (· ≠ mark), (cs.dropWhile (· ≠ mark)).drop 1)

/-- The pieces between marks. -/
def splitOn (mark : Char) : List Char → List (List Char)
  | [] => [[]]
  | c :: cs =>
    if c = mark then [] :: splitOn mark cs
    else
      match splitOn mark cs with
      | [] => [[c]]
      | piece :: pieces => (c :: piece) :: pieces

end BoxOffice.Text
