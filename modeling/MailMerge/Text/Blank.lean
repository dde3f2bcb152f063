/-!
# White space

`isBlank` is the White_Space property of Unicode. Trimming takes blank characters off the two
ends of a text and nothing else.
-/

namespace MailMerge.Text

/-- The White_Space property of Unicode. -/
def isBlank (c : Char) : Bool :=
  let n := c.toNat
  (9 ≤ n && n ≤ 13) || n == 32 || n == 0x85 || n == 0xA0 || n == 0x1680 ||
    (0x2000 ≤ n && n ≤ 0x200A) || n == 0x2028 || n == 0x2029 || n == 0x202F || n == 0x205F ||
    n == 0x3000

def trimStart (cs : List Char) : List Char :=
  cs.dropWhile isBlank

def trimEnd (cs : List Char) : List Char :=
  (cs.reverse.dropWhile isBlank).reverse

def trim (cs : List Char) : List Char :=
  trimEnd (trimStart cs)

/-- The text without blank characters at its ends. -/
def trimmed (s : String) : String :=
  String.ofList (trim s.toList)

/-- A text of blank characters only, the empty text included. -/
def isBlankText (s : String) : Bool :=
  s.toList.all isBlank

end MailMerge.Text
