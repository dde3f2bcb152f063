/-!
# Cutting texts

A text is cut at every occurrence of a separator, at its first or at its last one. Cutting at
every occurrence keeps empty pieces, so joining the pieces again gives the text back
(`join_pieces`, `join_blocks`).
-/

namespace MailMerge.Text

/-- Puts one more item in front of the first piece. -/
def extendFirst {α : Type} (a : α) : List (List α) → List (List α)
  | [] => [[a]]
  | p :: ps => (a :: p) :: ps

/-- The pieces between the occurrences of `sep`; there is always at least one. -/
def pieces {α : Type} [DecidableEq α] (sep : α) : List α → List (List α)
  | [] => [[]]
  | a :: rest => if a = sep then [] :: pieces sep rest else extendFirst a (pieces sep rest)

/-- The pieces between pairs of line ends, the pairs read from the left. -/
def blocks : List Char → List (List Char)
  | [] => [[]]
  | '\n' :: '\n' :: rest => [] :: blocks rest
  | c :: rest => extendFirst c (blocks rest)

/-- The pieces with `sep` between any two of them. -/
def join {α : Type} (sep : List α) : List (List α) → List α
  | [] => []
  | [p] => p
  | p :: q :: ps => p ++ sep ++ join sep (q :: ps)

/-- What stands before and after the first `sep`. -/
def cutFirst {α : Type} [DecidableEq α] (sep : α) : List α → Option (List α × List α)
  | [] => none
  | a :: rest =>
    if a = sep then some ([], rest)
    else (cutFirst sep rest).map fun (before, after) => (a :: before, after)

/-- What stands before and after the last `sep`. -/
def cutLast {α : Type} [DecidableEq α] (sep : α) (xs : List α) : Option (List α × List α) :=
  (cutFirst sep xs.reverse).map fun (after, before) => (before.reverse, after.reverse)

/-- What follows `front` in a list that begins with it. -/
def after? {α : Type} [DecidableEq α] : List α → List α → Option (List α)
  | [], rest => some rest
  | _ :: _, [] => none
  | a :: front, b :: rest => if a = b then after? front rest else none

/-- The texts with `sep` between any two of them. -/
def joinTexts (sep : String) (texts : List String) : String :=
  String.ofList (join sep.toList (texts.map String.toList))

theorem pieces_ne_nil {α : Type} [DecidableEq α] (sep : α) (xs : List α) : pieces sep xs ≠ [] := by
  induction xs with
  | nil => simp [pieces]
  | cons a rest ih =>
    rw [pieces]
    split
    · simp
    · cases h : pieces sep rest <;> simp [extendFirst]

theorem join_cons_of_ne_nil {α : Type} (sep p : List α) {ps : List (List α)} (h : ps ≠ []) :
    join sep (p :: ps) = p ++ sep ++ join sep ps := by
  cases ps with
  | nil => exact absurd rfl h
  | cons q qs => rw [join]

theorem join_extendFirst {α : Type} (sep : List α) (a : α) {ps : List (List α)} (h : ps ≠ []) :
    join sep (extendFirst a ps) = a :: join sep ps := by
  cases ps with
  | nil => exact absurd rfl h
  | cons p qs => cases qs <;> simp [extendFirst, join]

theorem join_pieces {α : Type} [DecidableEq α] (sep : α) (xs : List α) :
    join [sep] (pieces sep xs) = xs := by
  induction xs with
  | nil => simp [pieces, join]
  | cons a rest ih =>
    rw [pieces]
    split
    · next h => rw [join_cons_of_ne_nil _ _ (pieces_ne_nil sep rest), ih, h]; simp
    · rw [join_extendFirst _ _ (pieces_ne_nil sep rest), ih]

theorem blocks_ne_nil (cs : List Char) : blocks cs ≠ [] := by
  fun_induction blocks cs with
  | case1 => simp
  | case2 => simp
  | case3 c rest _ ih => cases h : blocks rest <;> simp [extendFirst]

theorem join_blocks (cs : List Char) : join ['\n', '\n'] (blocks cs) = cs := by
  fun_induction blocks cs with
  | case1 => simp [join]
  | case2 rest ih => rw [join_cons_of_ne_nil _ _ (blocks_ne_nil rest), ih]; simp
  | case3 c rest _ ih => rw [join_extendFirst _ _ (blocks_ne_nil rest), ih]

end MailMerge.Text
