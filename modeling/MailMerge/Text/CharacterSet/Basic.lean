/-!
# Character sets

Large sets give a character by its row and its column.
-/

namespace MailMerge

/-- Characters in numbered rows. U+FFFD stands where a row has no character. -/
structure CharacterSet where
  rows : List (Nat × String)
  deriving DecidableEq, Repr

namespace CharacterSet

/-- The character in a row and a column, where columns are counted from zero. -/
def char? (s : CharacterSet) (row column : Nat) : Option Char :=
  match s.rows.find? fun r => r.1 = row with
  | none => none
  | some (_, cs) => cs.toList[column]?.filter (· ≠ '\uFFFD')

end CharacterSet

end MailMerge
