import MailMerge.Text.CharacterSet.Big5
import MailMerge.Text.CharacterSet.GuoBiao
import MailMerge.Text.CharacterSet.Jis
import MailMerge.Text.CharacterSet.JisSupplement
import MailMerge.Text.CharacterSet.Wansung
import MailMerge.Text.Utf8

/-!
# Encodings of several bytes

The encodings of the large character sets: ASCII bytes stand for themselves, and a character of
the set for two bytes, three or four. What is left beside the rows of a set often holds the
characters of a range that are not in the set, in the order of their numbers. One encoding switches
between sets by escapes.
-/

namespace MailMerge.MultiByte

/-- The place of a byte in the ranges of bytes that are allowed, both ends included. -/
def placeIn? (b : UInt8) : List (UInt8 × UInt8) → Option Nat
  | [] => none
  | (low, high) :: ranges =>
    if low ≤ b && b ≤ high then some (b.toNat - low.toNat)
    else (placeIn? b ranges).map (high.toNat + 1 - low.toNat + ·)

/-- Reads bytes alone where `single` has a character for them, and in pairs elsewhere. -/
def decodePairs? (single : UInt8 → Option Char) (pair : UInt8 → UInt8 → Option Char) :
    Bytes → Option (List Char)
  | [] => some []
  | a :: rest =>
    match single a with
    | some c => (decodePairs? single pair rest).map (c :: ·)
    | none =>
      match rest with
      | [] => none
      | b :: rest =>
        match pair a b with
        | some c => (decodePairs? single pair rest).map (c :: ·)
        | none => none

def ascii? (b : UInt8) : Option Char :=
  if b < 128 then some (Char.ofNat b.toNat) else none

/-- A narrow syllable sign, counted from zero. -/
def narrow (n : Nat) : Char :=
  Char.ofNat (0xFF61 + n)

/-- A character for private use, counted from zero. -/
def privateChar (n : Nat) : Char :=
  Char.ofNat (0xE000 + n)

/-- Bytes that stand alone where Japanese pairs have no marks of their own. -/
def shiftedSingle? (b : UInt8) : Option Char :=
  if b ≤ 128 then some (Char.ofNat b.toNat)
  else if 0xA1 ≤ b && b ≤ 0xDF then some (narrow (b.toNat - 0xA1))
  else none

/-- Two rows of Japanese characters for each first byte, and private ones where the set has no
rows. -/
def shiftedPair? (a b : UInt8) : Option Char := do
  let line ← placeIn? a [(0x81, 0x9F), (0xE0, 0xFC)]
  let column ← placeIn? b [(0x40, 0x7E), (0x80, 0xFC)]
  let n := 188 * line + column
  if 8836 ≤ n && n ≤ 10715 then return privateChar (n - 8836)
  else CharacterSet.jis.char? (n / 94 + 1) (n % 94)

def shiftJis? (bytes : Bytes) : Option (List Char) :=
  decodePairs? shiftedSingle? shiftedPair? bytes

/-- The character of a row and a column that are both given by bytes from `base` on. -/
def rowChar? (s : CharacterSet) (base : Nat) (a b : UInt8) : Option Char :=
  if base < a.toNat && a.toNat ≤ base + 94 && base < b.toNat && b.toNat ≤ base + 94 then
    s.char? (a.toNat - base) (b.toNat - base - 1)
  else none

def eucJpPair? (a b : UInt8) : Option Char :=
  if a = 0x8E then
    if 0xA1 ≤ b && b ≤ 0xDF then some (narrow (b.toNat - 0xA1)) else none
  else rowChar? .jis 0xA0 a b

/-- Reads ASCII bytes alone, the rows of the supplement behind a byte 8F, and pairs elsewhere. -/
def eucJp? : Bytes → Option (List Char)
  | [] => some []
  | a :: rest =>
    match ascii? a with
    | some c => (eucJp? rest).map (c :: ·)
    | none =>
      match rest with
      | [] => none
      | b :: rest =>
        if a = 0x8F then
          match rest with
          | [] => none
          | c :: rest =>
            match rowChar? .jisSupplement 0xA0 b c with
            | some x => (eucJp? rest).map (x :: ·)
            | none => none
        else
          match eucJpPair? a b with
          | some x => (eucJp? rest).map (x :: ·)
          | none => none

/-- The characters from `low` to `high` that are in none of the rows from `first` to `last`. -/
def others (s : CharacterSet) (first last low high : Nat) : Array Char :=
  let taken := (s.rows.filter fun r => first ≤ r.1 && r.1 ≤ last).flatMap fun r => r.2.toList
  let marks := taken.foldl
    (fun m c => if low ≤ c.toNat then m.setIfInBounds (c.toNat - low) true else m)
    (Array.replicate (high + 1 - low) false)
  ((marks.toList.zipIdx.filter fun p => !p.1).map fun p => Char.ofNat (low + p.2)).toArray

/-- The syllables beside the rows. -/
def otherSyllables : Array Char :=
  others .wansung 16 40 0xAC00 0xD7A3

def eucKrPair? (a b : UInt8) : Option Char :=
  if 0xA1 ≤ a && 0xA1 ≤ b then rowChar? .wansung 0xA0 a b
  else do
    let column ← placeIn? b [(0x41, 0x5A), (0x61, 0x7A), (0x81, 0xFE)]
    if a < 0x81 then none
    else if a < 0xA1 then otherSyllables[178 * (a.toNat - 0x81) + column]?
    else otherSyllables[178 * 32 + 84 * (a.toNat - 0xA1) + column]?

def eucKr? (bytes : Bytes) : Option (List Char) :=
  decodePairs? ascii? eucKrPair? bytes

/-- The pairs of bytes that stand for a letter and a mark upon it. -/
def markedLetters : List ((UInt8 × UInt8) × List Char) :=
  [((0x88, 0x62), ['Ê', '\u0304']), ((0x88, 0x64), ['Ê', '\u030C']),
    ((0x88, 0xA3), ['ê', '\u0304']), ((0x88, 0xA5), ['ê', '\u030C'])]

def big5Pair? (a b : UInt8) : Option (List Char) :=
  (markedLetters.lookup (a, b)).or do
    let column ← placeIn? b [(0x40, 0x7E), (0xA1, 0xFE)]
    let c ← CharacterSet.big5.char? (a.toNat - 0x80) column
    return [c]

def big5? : Bytes → Option (List Char)
  | [] => some []
  | a :: rest =>
    match ascii? a with
    | some c => (big5? rest).map (c :: ·)
    | none =>
      match rest with
      | [] => none
      | b :: rest =>
        match big5Pair? a b with
        | some cs => (big5? rest).map (cs ++ ·)
        | none => none

/-- The ideographs beside the rows. -/
def otherIdeographs : Array Char :=
  others .guoBiao 16 87 0x4E00 0x9FA5 ++ CharacterSet.guoBiaoLast.toArray

/-- The pairs of a first byte from A1 on and a second one from A1 on: the rows, and private ones in
the rows that the set does not have. -/
def guoBiaoRow? (a b : UInt8) : Option Char :=
  let row := a.toNat - 0xA0
  let column := b.toNat - 0xA1
  if 10 ≤ row && row ≤ 15 then some (privateChar (94 * (row - 10) + column))
  else if 88 ≤ row then some (privateChar (94 * (row - 82) + column))
  else rowChar? .guoBiao 0xA0 a b

/-- The pairs beside the rows: ideographs, private characters, symbols, and ideographs again. -/
def guoBiaoBeside? (a b : UInt8) : Option Char := do
  let column ← placeIn? b [(0x40, 0x7E), (0x80, 0xFE)]
  let n := a.toNat
  if n < 0x81 then none
  else if n < 0xA1 then otherIdeographs[190 * (n - 0x81) + column]?
  else if n < 0xA8 then return privateChar (0x4C6 + 96 * (n - 0xA1) + column)
  else
    let c ←
      if n < 0xAA then CharacterSet.guoBiaoSymbols[96 * (n - 0xA8) + column]?
      else otherIdeographs[190 * 32 + 96 * (n - 0xAA) + column]?
    if c = '\uFFFD' then none else return c

/-- The private characters that fill what the rows and the symbols beside them leave open: the
first byte, the second bytes from one to another, and the number of the first character. -/
def privateCells : List (UInt8 × UInt8 × UInt8 × Nat) :=
  [(0xA2, 0xAB, 0xB0, 0xE766), (0xA2, 0xE4, 0xE4, 0xE76D), (0xA2, 0xEF, 0xF0, 0xE76E),
    (0xA2, 0xFD, 0xFE, 0xE770), (0xA4, 0xF4, 0xFE, 0xE772), (0xA5, 0xF7, 0xFE, 0xE77D),
    (0xA6, 0xB9, 0xC0, 0xE785), (0xA6, 0xF6, 0xFE, 0xE797), (0xA7, 0xC2, 0xD0, 0xE7A0),
    (0xA7, 0xF2, 0xFE, 0xE7AF), (0xA8, 0x96, 0xA0, 0xE7BC), (0xA8, 0xC1, 0xC4, 0xE7C9),
    (0xA8, 0xEA, 0xFE, 0xE7CD), (0xA9, 0x58, 0x58, 0xE7E2), (0xA9, 0x5B, 0x5B, 0xE7E3),
    (0xA9, 0x5D, 0x5F, 0xE7E4), (0xA9, 0x97, 0xA3, 0xE7F4), (0xA9, 0xF0, 0xFE, 0xE801),
    (0xD7, 0xFA, 0xFE, 0xE810), (0xFE, 0x51, 0x53, 0xE816), (0xFE, 0x6C, 0x6C, 0xE831),
    (0xFE, 0x76, 0x76, 0xE83B), (0xFE, 0x91, 0x91, 0xE855)]

/-- The private character that a pair of bytes stands for. -/
def privateCell? (a b : UInt8) : Option Char :=
  (privateCells.find? fun cell => cell.1 = a && cell.2.1 ≤ b && b ≤ cell.2.2.1).map fun cell =>
    Char.ofNat (cell.2.2.2 + (b.toNat - cell.2.1.toNat))

def guoBiaoPair? (a b : UInt8) : Option Char :=
  if a = 0xA3 && b = 0xA0 then some '\u3000'
  else if a = 0xFF || b = 0xFF then none
  else
    (privateCell? a b).or <|
      if 0xA1 ≤ a && 0xA1 ≤ b then guoBiaoRow? a b else guoBiaoBeside? a b

/-- The characters below U+10000 that no pair of bytes stands for, in stretches of their order: the
place where a stretch begins, and the number of the character there. -/
def stretches : List (Nat × Nat) :=
  [(0, 0x0080), (36, 0x00A5), (38, 0x00A9), (45, 0x00B2), (50, 0x00B8), (81, 0x00D8), (89, 0x00E2),
    (95, 0x00EB), (96, 0x00EE), (100, 0x00F4), (103, 0x00F8), (104, 0x00FB), (105, 0x00FD),
    (109, 0x0102), (126, 0x0114), (133, 0x011C), (148, 0x012C), (172, 0x0145), (175, 0x0149),
    (179, 0x014E), (208, 0x016C), (306, 0x01CF), (307, 0x01D1), (308, 0x01D3), (309, 0x01D5),
    (310, 0x01D7), (311, 0x01D9), (312, 0x01DB), (313, 0x01DD), (341, 0x01FA), (428, 0x0252),
    (443, 0x0262), (544, 0x02C8), (545, 0x02CC), (558, 0x02DA), (741, 0x03A2), (742, 0x03AA),
    (749, 0x03C2), (750, 0x03CA), (805, 0x0402), (819, 0x0450), (820, 0x0452), (7922, 0x2011),
    (7924, 0x2017), (7925, 0x201A), (7927, 0x201E), (7934, 0x2027), (7943, 0x2031), (7944, 0x2034),
    (7945, 0x2036), (7950, 0x203C), (8062, 0x20AD), (8148, 0x2104), (8149, 0x2106), (8152, 0x210A),
    (8164, 0x2117), (8174, 0x2122), (8236, 0x216C), (8240, 0x217A), (8262, 0x2194), (8264, 0x219A),
    (8374, 0x2209), (8380, 0x2210), (8381, 0x2212), (8384, 0x2216), (8388, 0x221B), (8390, 0x2221),
    (8392, 0x2224), (8393, 0x2226), (8394, 0x222C), (8396, 0x222F), (8401, 0x2238), (8406, 0x223E),
    (8416, 0x2249), (8419, 0x224D), (8424, 0x2253), (8437, 0x2262), (8439, 0x2268), (8445, 0x2270),
    (8482, 0x2296), (8485, 0x229A), (8496, 0x22A6), (8521, 0x22C0), (8603, 0x2313), (8936, 0x246A),
    (8946, 0x249C), (9046, 0x254C), (9050, 0x2574), (9063, 0x2590), (9066, 0x2596), (9076, 0x25A2),
    (9092, 0x25B4), (9100, 0x25BE), (9108, 0x25C8), (9111, 0x25CC), (9113, 0x25D0), (9131, 0x25E6),
    (9162, 0x2607), (9164, 0x260A), (9218, 0x2641), (9219, 0x2643), (11329, 0x2E82),
    (11331, 0x2E85), (11334, 0x2E89), (11336, 0x2E8D), (11346, 0x2E98), (11361, 0x2EA8),
    (11363, 0x2EAB), (11366, 0x2EAF), (11370, 0x2EB4), (11372, 0x2EB8), (11375, 0x2EBC),
    (11389, 0x2ECB), (11682, 0x2FFC), (11686, 0x3004), (11687, 0x3018), (11692, 0x301F),
    (11694, 0x302A), (11714, 0x303F), (11716, 0x3094), (11723, 0x309F), (11725, 0x30F7),
    (11730, 0x30FF), (11736, 0x312A), (11982, 0x322A), (11989, 0x3232), (12102, 0x32A4),
    (12336, 0x3390), (12348, 0x339F), (12350, 0x33A2), (12384, 0x33C5), (12393, 0x33CF),
    (12395, 0x33D3), (12397, 0x33D6), (12510, 0x3448), (12553, 0x3474), (12851, 0x359F),
    (12962, 0x360F), (12973, 0x361B), (13738, 0x3919), (13823, 0x396F), (13919, 0x39D1),
    (13933, 0x39E0), (14080, 0x3A74), (14298, 0x3B4F), (14585, 0x3C6F), (14698, 0x3CE1),
    (15583, 0x4057), (15847, 0x4160), (16318, 0x4338), (16434, 0x43AD), (16438, 0x43B2),
    (16481, 0x43DE), (16729, 0x44D7), (17102, 0x464D), (17122, 0x4662), (17315, 0x4724),
    (17320, 0x472A), (17402, 0x477D), (17418, 0x478E), (17859, 0x4948), (17909, 0x497B),
    (17911, 0x497E), (17915, 0x4984), (17916, 0x4987), (17936, 0x499C), (17939, 0x49A0),
    (17961, 0x49B8), (18664, 0x4C78), (18703, 0x4CA4), (18814, 0x4D1A), (18962, 0x4DAF),
    (19043, 0x9FA6), (33469, 0xE76C), (33470, 0xE7C8), (33471, 0xE7E7), (33484, 0xE815),
    (33485, 0xE819), (33490, 0xE81F), (33497, 0xE827), (33501, 0xE82D), (33505, 0xE833),
    (33513, 0xE83C), (33520, 0xE844), (33536, 0xE856), (33550, 0xE865), (37845, 0xF92D),
    (37921, 0xF97A), (37948, 0xF996), (38029, 0xF9E8), (38038, 0xF9F2), (38064, 0xFA10),
    (38065, 0xFA12), (38066, 0xFA15), (38069, 0xFA19), (38075, 0xFA22), (38076, 0xFA25),
    (38078, 0xFA2A), (39108, 0xFE32), (39109, 0xFE45), (39113, 0xFE53), (39114, 0xFE58),
    (39115, 0xFE67), (39116, 0xFE6C), (39265, 0xFF5F), (39394, 0xFFE6)]

/-- The character of a place in the order of all that are given by four bytes. -/
def placedChar? (n : Nat) : Option Char :=
  if n = 7457 then some '\uE7C7'
  else if 189000 ≤ n then
    let code := 0x10000 + (n - 189000)
    if code < 0x110000 then some (Char.ofNat code) else none
  else if 39419 < n then none
  else
    ((stretches.takeWhile fun s => s.1 ≤ n).getLast?).map fun s => Char.ofNat (s.2 + (n - s.1))

def isDigitByte (b : UInt8) : Bool :=
  0x30 ≤ b && b ≤ 0x39

/-- The character of four bytes, of which the second and the fourth are digits. -/
def four? (a b c d : UInt8) : Option Char :=
  if 0x81 ≤ a && a ≤ 0xFE && 0x81 ≤ c && c ≤ 0xFE && isDigitByte d then
    placedChar? (((a.toNat - 0x81) * 10 + (b.toNat - 0x30)) * 1260 + (c.toNat - 0x81) * 10 +
      (d.toNat - 0x30))
  else none

def guoBiao? : Bytes → Option (List Char)
  | [] => some []
  | a :: rest =>
    if a ≤ 0x80 then
      (guoBiao? rest).map ((if a = 0x80 then '€' else Char.ofNat a.toNat) :: ·)
    else
      match rest with
      | [] => none
      | b :: rest =>
        if isDigitByte b then
          match rest with
          | c :: d :: rest =>
            match four? a b c d with
            | some x => (guoBiao? rest).map (x :: ·)
            | none => none
          | _ => none
        else
          match guoBiaoPair? a b with
          | some x => (guoBiao? rest).map (x :: ·)
          | none => none

/-- The sets that escapes switch between. -/
inductive Mode where
  | ascii
  | roman
  | narrow
  | pairs
  deriving DecidableEq, Repr

/-- The set that two bytes of an escape name. -/
def Mode.ofEscape? (a b : UInt8) : Option Mode :=
  if a = 0x28 then
    if b = 0x42 then some ascii else if b = 0x4A then some roman
    else if b = 0x49 then some narrow else none
  else if a = 0x24 then if b = 0x40 || b = 0x42 then some pairs else none
  else none

/-- A byte that stands alone in a set. -/
def Mode.single? (m : Mode) (b : UInt8) : Option Char :=
  match m with
  | narrow => if 0x21 ≤ b && b ≤ 0x5F then some (MultiByte.narrow (b.toNat - 0x21)) else none
  | pairs => none
  | m =>
    if b = 0x0E || b = 0x0F || 128 ≤ b then none
    else if m = roman && b = 0x5C then some '¥'
    else if m = roman && b = 0x7E then some '‾'
    else some (Char.ofNat b.toNat)

/-- Reads text with escapes. An escape right behind another one is refused. -/
def switching? (m : Mode) (escaped : Bool) : Bytes → Option (List Char)
  | [] => some []
  | 0x1B :: rest =>
    match rest with
    | a :: b :: rest =>
      match Mode.ofEscape? a b with
      | some m => if escaped then none else switching? m true rest
      | none => none
    | _ => none
  | a :: rest =>
    if m = .pairs then
      match rest with
      | b :: rest =>
        match rowChar? .jis 0x20 a b with
        | some c => (switching? m false rest).map (c :: ·)
        | none => none
      | [] => none
    else
      match m.single? a with
      | some c => (switching? m false rest).map (c :: ·)
      | none => none

def iso2022Jp? (bytes : Bytes) : Option (List Char) :=
  switching? .ascii false bytes

end MailMerge.MultiByte
