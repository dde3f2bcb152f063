/-!
# Names

The documents of a batch are named after a value of their row. Characters outside letters,
digits, underscore and hyphen become underscores; a name that an earlier document has gets the
least free number behind it.
-/

namespace MailMerge.Naming

def isSafe (c : Char) : Bool :=
  ('A' ≤ c && c ≤ 'Z') || ('a' ≤ c && c ≤ 'z') || ('0' ≤ c && c ≤ '9') || c == '_' || c == '-'

/-- The text with every character that may not stand in a file name replaced. -/
def safe (raw : String) : String :=
  String.ofList (raw.toList.map fun c => if isSafe c then c else '_')

/-- The first number from `n` on whose candidate is not taken; gives up after `fuel` steps. -/
def search (taken : List String) (candidate : Nat → String) (fuel n : Nat) : Nat :=
  match fuel with
  | 0 => n
  | fuel + 1 =>
    if taken.contains (candidate n) then search taken candidate fuel (n + 1) else n

/-- The first number from `n` on whose candidate is not taken. Of more candidates than there are
taken names one is free, so the search finds it. -/
def firstFree (taken : List String) (candidate : Nat → String) (n : Nat) : Nat :=
  search taken candidate taken.length n

/-- The `n`-th name for a base: the first has no number. -/
def numbered (base extension : String) (n : Nat) : String :=
  if n ≤ 1 then base ++ "." ++ extension
  else base ++ "_" ++ toString n ++ "." ++ extension

def allocate (taken : List String) (base extension : String) : String :=
  numbered base extension (firstFree taken (numbered base extension) 1)

/-- Names for bases in a row, none of them taken and no two equal. -/
def allocateAll (taken : List String) (extension : String) : List String → List String
  | [] => []
  | base :: rest =>
    let name := allocate taken base extension
    name :: allocateAll (name :: taken) extension rest

end MailMerge.Naming
