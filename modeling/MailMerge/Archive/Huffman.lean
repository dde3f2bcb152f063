import MailMerge.Archive.BitStream

/-!
# Prefix codes

A canonical prefix code is given by the lengths of its words: words of one length are consecutive
numbers in the order of their symbols, and a longer word comes after all shorter ones.
-/

namespace MailMerge.Archive

/-- How many words have each length from one on, and the symbols in the order of their words. -/
structure PrefixCode where
  counts : List Nat
  symbols : List Nat
  deriving DecidableEq, Repr

namespace PrefixCode

/-- The code with these word lengths up to `longest`, where zero stands for no word. -/
def canonical (longest : Nat) (lengths : List Nat) : PrefixCode :=
  let numbered := lengths.zipIdx
  let groups := (List.range longest).map fun i =>
    (numbered.filter fun p => p.1 == i + 1).map Prod.snd
  ⟨groups.map List.length, groups.flatten⟩

/-- The room that is left among words of growing length, none if there are too many words. -/
def room? (left : Nat) : List Nat → Option Nat
  | [] => some left
  | count :: rest => if 2 * left < count then none else room? (2 * left - count) rest

/-- The code with these word lengths of up to fifteen bits. A code that leaves room must have a
single word of one bit, where `lonely` allows that, or no word at all. -/
def ofLengths? (lonely : Bool) (lengths : List Nat) : Option PrefixCode :=
  let code := canonical 15 lengths
  match room? 1 code.counts with
  | none => none
  | some 0 => some code
  | some _ => if lonely && code.symbols.length ≤ 1 then some code else none

/-- Reads one more bit of a word: `code` is the word so far, `first` the first word of its length
and `before` the number of shorter words. -/
def readFrom (symbols : List Nat) (code first before : Nat) :
    List Nat → BitStream → Option (Option Nat × BitStream)
  | [], s => some (none, s)
  | count :: counts, s =>
    match s.bit? with
    | none => none
    | some (b, s) =>
      let code := 2 * code + b.toNat
      let first := 2 * first
      if code < first + count then some (symbols[before + (code - first)]?, s)
      else readFrom symbols code (first + count) (before + count) counts s

/-- The symbol whose word comes next; the inner none is a word that the code does not have, the
outer one the end of the stream. -/
def read? (c : PrefixCode) (s : BitStream) : Option (Option Nat × BitStream) :=
  readFrom c.symbols 0 0 0 c.counts s

end PrefixCode

end MailMerge.Archive
