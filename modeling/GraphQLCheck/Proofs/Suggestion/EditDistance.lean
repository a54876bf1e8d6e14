import GraphQLCheck.Suggestion.EditDistance
import Mathlib.Data.List.Infix
import Mathlib.Order.Bounds.Defs

/-!
# The edit distance is the least number of edits

An **edit** inserts one character, deletes one or puts another one in its place, anywhere in a text
(`Edit`), and `Edits n` says that `n` of them lead from one text to another. The distance that the
table computes is the least number of edits that do (`isLeast_editDistance`).

There are two steps. The recursion `distanceRec` is the least number of edits
(`isLeast_distanceRec`): it says itself which edits to make, and no edit brings a text nearer to
another one by more than one (`distanceRec_le_of_edit`). And the table is the recursion
(`editDistance_eq_distanceRec`). The recursion takes the texts apart from the front while the table
goes on at the end, and here the first step helps with the second: edits can be made in the mirror
as well, so the least number of them is the same for reversed texts (`distanceRec_reverse`), and the
recursion holds at the end of the texts too (`distanceRec_concat`).
-/

namespace GraphQLCheck

/-! ### Edits -/

/-- One character of a text is inserted, deleted, or replaced. -/
inductive Edit : List Char → List Char → Prop
  /-- A character is put somewhere. -/
  | insert (before after : List Char) (c : Char) : Edit (before ++ after) (before ++ c :: after)
  /-- A character is taken away. -/
  | delete (before after : List Char) (c : Char) : Edit (before ++ c :: after) (before ++ after)
  /-- A character is put in the place of another one. -/
  | substitute (before after : List Char) (c d : Char) :
    Edit (before ++ c :: after) (before ++ d :: after)

/-- A number of edits, one after the other, lead from one text to another. -/
inductive Edits : Nat → List Char → List Char → Prop
  /-- No edit is made. -/
  | refl (as : List Char) : Edits 0 as as
  /-- One edit is made before the others. -/
  | step {n : Nat} {as bs cs : List Char} : Edit as bs → Edits n bs cs → Edits (n + 1) as cs

namespace Edit

variable {as bs : List Char}

theorem cons (c : Char) (h : Edit as bs) : Edit (c :: as) (c :: bs) := by
  cases h with
  | insert before after d => exact insert (c :: before) after d
  | delete before after d => exact delete (c :: before) after d
  | substitute before after d e => exact substitute (c :: before) after d e

/-- In the mirror an edit is an edit of the same kind. -/
theorem reverse (h : Edit as bs) : Edit as.reverse bs.reverse := by
  cases h with
  | insert before after c => simpa using insert after.reverse before.reverse c
  | delete before after c => simpa using delete after.reverse before.reverse c
  | substitute before after c d => simpa using substitute after.reverse before.reverse c d

end Edit

namespace Edits

variable {n : Nat} {as bs : List Char}

theorem cons (c : Char) (h : Edits n as bs) : Edits n (c :: as) (c :: bs) := by
  induction h with
  | refl as => exact refl (c :: as)
  | step hedit _ ih => exact step (hedit.cons c) ih

theorem reverse (h : Edits n as bs) : Edits n as.reverse bs.reverse := by
  induction h with
  | refl as => exact refl as.reverse
  | step hedit _ ih => exact step hedit.reverse ih

/-- A text is written from nothing by as many insertions as it has characters. -/
theorem of_nil (bs : List Char) : Edits bs.length [] bs := by
  induction bs with
  | nil => exact refl []
  | cons b bs ih => exact step (.insert [] [] b) (ih.cons b)

/-- A text is cleared by as many deletions as it has characters. -/
theorem to_nil (as : List Char) : Edits as.length as [] := by
  induction as with
  | nil => exact refl []
  | cons a as ih => exact step (.delete [] as a) ih

/-- Texts that no edit is needed between are equal. -/
theorem zero_iff : Edits 0 as bs ↔ as = bs := by
  constructor
  · intro h
    cases h
    rfl
  · rintro rfl
    exact refl as

end Edits

namespace EditDistance

/-! ### The recursion is the least number of edits -/

@[simp] theorem distanceRec_nil_left (bs : List Char) : distanceRec [] bs = bs.length := by
  rw [distanceRec]

@[simp] theorem distanceRec_nil_right (as : List Char) : distanceRec as [] = as.length := by
  cases as with
  | nil => rw [distanceRec]
  | cons a as =>
    rw [distanceRec]
    exact List.cons_ne_nil a as

theorem distanceRec_cons_cons (a b : Char) (as bs : List Char) :
    distanceRec (a :: as) (b :: bs) =
      min (distanceRec as bs + if a = b then 0 else 1)
        (min (distanceRec (a :: as) bs + 1) (distanceRec as (b :: bs) + 1)) := by
  rw [distanceRec]

/-- The recursion says which edits to make. -/
theorem edits_distanceRec (as bs : List Char) : Edits (distanceRec as bs) as bs := by
  induction as, bs using distanceRec.induct with
  | case1 bs =>
    rw [distanceRec_nil_left]
    exact .of_nil bs
  | case2 as _ =>
    rw [distanceRec_nil_right]
    exact .to_nil as
  | case3 a as b bs ihboth ihinsert ihdelete =>
    -- each of the three ways to go on makes its own first edit
    have hboth : Edits (distanceRec as bs + if a = b then 0 else 1) (a :: as) (b :: bs) := by
      split
      · rename_i heq
        exact heq ▸ ihboth.cons a
      · exact .step (.substitute [] as a b) (ihboth.cons b)
    have hinsert : Edits (distanceRec (a :: as) bs + 1) (a :: as) (b :: bs) :=
      .step (.insert [] (a :: as) b) (ihinsert.cons b)
    have hdelete : Edits (distanceRec as (b :: bs) + 1) (a :: as) (b :: bs) :=
      .step (.delete [] as a) ihdelete
    have hmin : distanceRec (a :: as) (b :: bs) = distanceRec as bs + (if a = b then 0 else 1) ∨
        distanceRec (a :: as) (b :: bs) = distanceRec (a :: as) bs + 1 ∨
        distanceRec (a :: as) (b :: bs) = distanceRec as (b :: bs) + 1 := by
      rw [distanceRec_cons_cons]
      omega
    rcases hmin with h | h | h
    · exact h ▸ hboth
    · exact h ▸ hinsert
    · exact h ▸ hdelete

theorem distanceRec_cons_left_le (a : Char) (as bs : List Char) :
    distanceRec (a :: as) bs ≤ distanceRec as bs + 1 := by
  cases bs with
  | nil => simp
  | cons b bs =>
    rw [distanceRec_cons_cons]
    omega

theorem distanceRec_cons_right_le (as : List Char) (b : Char) (bs : List Char) :
    distanceRec as (b :: bs) ≤ distanceRec as bs + 1 := by
  cases as with
  | nil => simp
  | cons a as =>
    rw [distanceRec_cons_cons]
    omega

/-- A text is at no distance from itself. -/
theorem distanceRec_self (as : List Char) : distanceRec as as = 0 := by
  induction as with
  | nil => simp
  | cons a as ih =>
    rw [distanceRec_cons_cons, ih]
    simp

/-- A text is nearer than with one more character in front by at most one. -/
theorem distanceRec_le_cons_left (a : Char) (as cs : List Char) :
    distanceRec as cs ≤ distanceRec (a :: as) cs + 1 := by
  induction cs with
  | nil =>
    simp only [distanceRec_nil_right, List.length_cons]
    omega
  | cons c cs ih =>
    have hright := distanceRec_cons_right_le as c cs
    rw [distanceRec_cons_cons a c]
    omega

theorem distanceRec_le_substitute (a b : Char) (as cs : List Char) :
    distanceRec (a :: as) cs ≤ distanceRec (b :: as) cs + 1 := by
  induction cs with
  | nil => simp
  | cons c cs ih =>
    rw [distanceRec_cons_cons a c, distanceRec_cons_cons b c]
    split <;> split <;> omega

/-- What one edit can gain does not depend on what stands before it. -/
theorem distanceRec_append_le {as bs : List Char}
    (h : ∀ cs, distanceRec as cs ≤ distanceRec bs cs + 1) (before cs : List Char) :
    distanceRec (before ++ as) cs ≤ distanceRec (before ++ bs) cs + 1 := by
  induction before generalizing cs with
  | nil => exact h cs
  | cons a before ih =>
    simp only [List.cons_append]
    induction cs with
    | nil => simpa using ih []
    | cons c cs ihcs =>
      have hboth := ih cs
      have hdelete := ih (c :: cs)
      rw [distanceRec_cons_cons, distanceRec_cons_cons]
      omega

/-- **One edit.** No edit brings a text nearer to another one by more than one. -/
theorem distanceRec_le_of_edit {as bs : List Char} (h : Edit as bs) (cs : List Char) :
    distanceRec as cs ≤ distanceRec bs cs + 1 := by
  cases h with
  | insert before after c =>
    exact distanceRec_append_le (distanceRec_le_cons_left c after) before cs
  | delete before after c =>
    exact distanceRec_append_le (distanceRec_cons_left_le c after) before cs
  | substitute before after c d =>
    exact distanceRec_append_le (distanceRec_le_substitute c d after) before cs

/-- **All edits.** From one text to another there are at least as many edits as the recursion says.
-/
theorem distanceRec_le_of_edits {n : Nat} {as bs : List Char} (h : Edits n as bs) :
    distanceRec as bs ≤ n := by
  induction h with
  | refl as => exact (distanceRec_self as).le
  | @step n as bs cs hedit _ ih =>
    have hstep : distanceRec as cs ≤ distanceRec bs cs + 1 := distanceRec_le_of_edit hedit cs
    omega

theorem isLeast_distanceRec (as bs : List Char) :
    IsLeast {n | Edits n as bs} (distanceRec as bs) :=
  ⟨edits_distanceRec as bs, fun _ h ↦ distanceRec_le_of_edits h⟩

/-! ### The recursion from the end -/

theorem distanceRec_reverse_le (as bs : List Char) :
    distanceRec as.reverse bs.reverse ≤ distanceRec as bs :=
  distanceRec_le_of_edits (edits_distanceRec as bs).reverse

/-- Reversed texts are at the same distance. -/
theorem distanceRec_reverse (as bs : List Char) :
    distanceRec as.reverse bs.reverse = distanceRec as bs := by
  refine le_antisymm (distanceRec_reverse_le as bs) ?_
  simpa using distanceRec_reverse_le as.reverse bs.reverse

/-- The recursion holds at the end of the texts as it does at the front. -/
theorem distanceRec_concat (as bs : List Char) (a b : Char) :
    distanceRec (as ++ [a]) (bs ++ [b]) =
      min (distanceRec as bs + if a = b then 0 else 1)
        (min (distanceRec (as ++ [a]) bs + 1) (distanceRec as (bs ++ [b]) + 1)) := by
  have hfront := distanceRec_cons_cons a b as.reverse bs.reverse
  rw [← List.reverse_concat, ← List.reverse_concat] at hfront
  simpa only [distanceRec_reverse] using hfront

/-! ### The table is the recursion -/

/-- The row of a text holds the distances from it to every prefix of the other one. -/
def row (as bs : List Char) : List Nat := bs.inits.map (distanceRec as)

theorem inits_eq_cons_tail (bs : List Char) : bs.inits = [] :: bs.inits.tail := by
  cases bs <;> rfl

theorem row_eq_cons (as bs : List Char) :
    row as bs = as.length :: bs.inits.tail.map (distanceRec as) := by
  rw [row, inits_eq_cons_tail, List.map_cons, distanceRec_nil_right]
  rfl

/-- The rest of a row, where `read` is what has been read of the second text and `bs` is left of it.
By induction on what is left. -/
theorem nextCells_eq (a : Char) (as read bs : List Char) :
    nextCells a bs (distanceRec as read) (distanceRec (as ++ [a]) read)
        (bs.inits.tail.map fun r ↦ distanceRec as (read ++ r)) =
      bs.inits.tail.map fun r ↦ distanceRec (as ++ [a]) (read ++ r) := by
  induction bs generalizing read with
  | nil => rfl
  | cons b bs ih =>
    have htail : (b :: bs).inits.tail = [b] :: bs.inits.tail.map (b :: ·) := by
      rw [List.inits_cons, List.tail_cons, inits_eq_cons_tail bs]
      rfl
    have hrest := ih (read ++ [b])
    simp only [List.append_assoc, List.singleton_append] at hrest
    rw [htail, List.map_cons, List.map_cons, List.map_map, List.map_map, nextCells,
      ← distanceRec_concat]
    exact congrArg _ hrest

/-- **One row.** The table goes from the row of a text to that of the text with one character more.
-/
theorem nextRow_row (a : Char) (as bs : List Char) :
    nextRow a bs (row as bs) = row (as ++ [a]) bs := by
  have hcells := nextCells_eq a as [] bs
  simp only [distanceRec_nil_right, List.length_append, List.length_singleton,
    List.nil_append] at hcells
  rw [row_eq_cons, row_eq_cons, nextRow, hcells, List.length_append, List.length_singleton]

/-- The first row is that of the empty text. -/
theorem firstRow_eq_row (bs : List Char) : firstRow bs = row [] bs := by
  induction bs with
  | nil => simp [firstRow, row]
  | cons b bs ih =>
    rw [firstRow, row] at ih
    rw [firstRow, row, List.length_cons, List.range_succ_eq_map, ih, List.inits_cons]
    simp

/-- **The whole table.** -/
theorem foldl_nextRow (source as bs : List Char) :
    source.foldl (fun row a ↦ nextRow a bs row) (row as bs) = row (as ++ source) bs := by
  induction source generalizing as with
  | nil => rw [List.foldl_nil, List.append_nil]
  | cons a source ih =>
    rw [List.foldl_cons, nextRow_row, ih, List.append_assoc, List.singleton_append]

/-- A row ends with the distance to the whole second text. -/
theorem getLastD_row (as bs : List Char) : (row as bs).getLastD 0 = distanceRec as bs := by
  have hlast : bs.inits.getLast? = some bs := by
    induction bs with
    | nil => rfl
    | cons b bs ih =>
      rw [List.inits_cons, List.getLast?_cons, List.getLast?_map, ih]
      rfl
  rw [row, List.getLastD_eq_getLast?, List.getLast?_map, hlast]
  rfl

end EditDistance

open EditDistance in
theorem editDistance_eq_distanceRec (source target : List Char) :
    editDistance source target = distanceRec source target := by
  rw [editDistance, firstRow_eq_row]
  show (source.foldl (fun row a ↦ nextRow a target row) (row [] target)).getLastD 0 = _
  rw [foldl_nextRow, List.nil_append, getLastD_row]

/-- **The edit distance.** What the table computes is the least number of insertions, deletions and
substitutions of single characters that turn one text into the other. -/
theorem isLeast_editDistance (source target : List Char) :
    IsLeast {n | Edits n source target} (editDistance source target) := by
  rw [editDistance_eq_distanceRec]
  exact EditDistance.isLeast_distanceRec source target

end GraphQLCheck
