/-!
# Edit distance

The least number of single-character insertions, deletions and substitutions that turn one text into
another. `editDistance` computes it row by row: the row of a prefix of the first text holds the
distances from that prefix to every prefix of the second one, and the row of one character more is
read off the row before it (`nextRow`). The recursion that the rows tabulate is `distanceRec`.

Texts are lists of characters, so a character counts once whatever its encoded length.
-/

namespace GraphQLCheck

namespace EditDistance

/-- The rest of the row for one more character `a` of the first text. The distances of the row
before stand in `row`, the one above the entry last written in `diagonal`, and that entry in `left`.
-/
def nextCells (a : Char) : List Char → (diagonal left : Nat) → (row : List Nat) → List Nat
  | b :: bs, diagonal, left, above :: row =>
    let cell := min (diagonal + if a = b then 0 else 1) (min (left + 1) (above + 1))
    cell :: nextCells a bs above cell row
  | _, _, _, _ => []

/-- The row for one more character `a` of the first text, from the row before it. -/
def nextRow (a : Char) (bs : List Char) : List Nat → List Nat
  | [] => []
  | above :: row => (above + 1) :: nextCells a bs above (above + 1) row

/-- The row of the empty text: a prefix of length `n` is `n` insertions away. -/
def firstRow (bs : List Char) : List Nat := List.range (bs.length + 1)

/-- The distance by recursion on both texts, without a table. -/
def distanceRec : List Char → List Char → Nat
  | [], bs => bs.length
  | as, [] => as.length
  | a :: as, b :: bs =>
    min (distanceRec as bs + if a = b then 0 else 1)
      (min (distanceRec (a :: as) bs + 1) (distanceRec as (b :: bs) + 1))

@[simp] theorem length_nextCells (a : Char) (bs : List Char) (diagonal left : Nat)
    (row : List Nat) : (nextCells a bs diagonal left row).length = min bs.length row.length := by
  induction bs generalizing diagonal left row with
  | nil => simp [nextCells]
  | cons b bs ih => cases row <;> simp [nextCells, ih, Nat.succ_min_succ]

end EditDistance

/-- The least number of single-character edits between two texts. -/
def editDistance (source target : List Char) : Nat :=
  let row := source.foldl (fun row a ↦ EditDistance.nextRow a target row)
    (EditDistance.firstRow target)
  row.getLastD 0

end GraphQLCheck
