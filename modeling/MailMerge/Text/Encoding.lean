import MailMerge.Text.CodePage
import MailMerge.Text.MultiByte

/-!
# Text encodings

The encodings that a document may declare by one of their labels, and the text that bytes stand
for in each of them. Bytes that stand for no text are refused, never replaced.
-/

namespace MailMerge

inductive Encoding where
  | utf8
  | utf16 (bigEndian : Bool)
  | page (p : CodePage)
  /-- Bytes from 128 on stand for private characters. -/
  | privateUse
  | guoBiao
  | big5
  | eucJp
  | iso2022Jp
  | shiftJis
  | eucKr
  /-- An encoding that is known and never read. -/
  | refused
  deriving DecidableEq, Repr

namespace Encoding

/-- The labels of each encoding that has some. -/
def labels : List (Encoding × List String) :=
  [(utf8, ["unicode-1-1-utf-8", "unicode11utf8", "unicode20utf8", "utf-8", "utf8",
      "x-unicode20utf8"]),
    (utf16 true, ["unicodefffe", "utf-16be"]),
    (utf16 false, ["csunicode", "iso-10646-ucs-2", "ucs-2", "unicode", "unicodefeff", "utf-16",
      "utf-16le"]),
    (page .ibm866, ["866", "cp866", "csibm866", "ibm866"]),
    (page .latin2, ["csisolatin2", "iso-8859-2", "iso-ir-101", "iso8859-2", "iso88592",
      "iso_8859-2", "iso_8859-2:1987", "l2", "latin2"]),
    (page .latin3, ["csisolatin3", "iso-8859-3", "iso-ir-109", "iso8859-3", "iso88593",
      "iso_8859-3", "iso_8859-3:1988", "l3", "latin3"]),
    (page .latin4, ["csisolatin4", "iso-8859-4", "iso-ir-110", "iso8859-4", "iso88594",
      "iso_8859-4", "iso_8859-4:1988", "l4", "latin4"]),
    (page .cyrillic, ["csisolatincyrillic", "cyrillic", "iso-8859-5", "iso-ir-144", "iso8859-5",
      "iso88595", "iso_8859-5", "iso_8859-5:1988"]),
    (page .arabic, ["arabic", "asmo-708", "csiso88596e", "csiso88596i", "csisolatinarabic",
      "ecma-114", "iso-8859-6", "iso-8859-6-e", "iso-8859-6-i", "iso-ir-127", "iso8859-6",
      "iso88596", "iso_8859-6", "iso_8859-6:1987"]),
    (page .greek, ["csisolatingreek", "ecma-118", "elot_928", "greek", "greek8", "iso-8859-7",
      "iso-ir-126", "iso8859-7", "iso88597", "iso_8859-7", "iso_8859-7:1987", "sun_eu_greek"]),
    (page .hebrew, ["csiso88598e", "csisolatinhebrew", "hebrew", "iso-8859-8", "iso-8859-8-e",
      "iso-ir-138", "iso8859-8", "iso88598", "iso_8859-8", "iso_8859-8:1988", "visual",
      "csiso88598i", "iso-8859-8-i", "logical"]),
    (page .latin6, ["csisolatin6", "iso-8859-10", "iso-ir-157", "iso8859-10", "iso885910", "l6",
      "latin6"]),
    (page .latin7, ["iso-8859-13", "iso8859-13", "iso885913"]),
    (page .latin8, ["iso-8859-14", "iso8859-14", "iso885914"]),
    (page .latin9, ["csisolatin9", "iso-8859-15", "iso8859-15", "iso885915", "iso_8859-15", "l9"]),
    (page .latin10, ["iso-8859-16"]),
    (page .koi8R, ["cskoi8r", "koi", "koi8", "koi8-r", "koi8_r"]),
    (page .koi8U, ["koi8-ru", "koi8-u"]),
    (page .macRoman, ["csmacintosh", "mac", "macintosh", "x-mac-roman"]),
    (page .macCyrillic, ["x-mac-cyrillic", "x-mac-ukrainian"]),
    (page .windows874, ["dos-874", "iso-8859-11", "iso8859-11", "iso885911", "tis-620",
      "windows-874"]),
    (page .windows1250, ["cp1250", "windows-1250", "x-cp1250"]),
    (page .windows1251, ["cp1251", "windows-1251", "x-cp1251"]),
    (page .windows1252, ["ansi_x3.4-1968", "ascii", "cp1252", "cp819", "csisolatin1", "ibm819",
      "iso-8859-1", "iso-ir-100", "iso8859-1", "iso88591", "iso_8859-1", "iso_8859-1:1987", "l1",
      "latin1", "us-ascii", "windows-1252", "x-cp1252"]),
    (page .windows1253, ["cp1253", "windows-1253", "x-cp1253"]),
    (page .windows1254, ["cp1254", "csisolatin5", "iso-8859-9", "iso-ir-148", "iso8859-9",
      "iso88599", "iso_8859-9", "iso_8859-9:1989", "l5", "latin5", "windows-1254", "x-cp1254"]),
    (page .windows1255, ["cp1255", "windows-1255", "x-cp1255"]),
    (page .windows1256, ["cp1256", "windows-1256", "x-cp1256"]),
    (page .windows1257, ["cp1257", "windows-1257", "x-cp1257"]),
    (page .windows1258, ["cp1258", "windows-1258", "x-cp1258"]),
    (privateUse, ["x-user-defined"]),
    (guoBiao, ["chinese", "csgb2312", "csiso58gb231280", "gb2312", "gb_2312", "gb_2312-80", "gbk",
      "iso-ir-58", "x-gbk", "gb18030"]),
    (big5, ["big5", "big5-hkscs", "cn-big5", "csbig5", "x-x-big5"]),
    (eucJp, ["cseucpkdfmtjapanese", "euc-jp", "x-euc-jp"]),
    (iso2022Jp, ["csiso2022jp", "iso-2022-jp"]),
    (shiftJis, ["csshiftjis", "ms932", "ms_kanji", "shift-jis", "shift_jis", "sjis", "windows-31j",
      "x-sjis"]),
    (eucKr, ["cseuckr", "csksc56011987", "euc-kr", "iso-ir-149", "korean", "ks_c_5601-1987",
      "ks_c_5601-1989", "ksc5601", "ksc_5601", "windows-949"]),
    (refused, ["csiso2022kr", "hz-gb-2312", "iso-2022-cn", "iso-2022-cn-ext", "iso-2022-kr",
      "replacement"])]

def isLabelSpace (b : UInt8) : Bool :=
  b == 9 || b == 10 || b == 12 || b == 13 || b == 32

/-- The encoding with a label; case and blanks around the label do not matter. -/
def ofLabel? (label : Bytes) : Option Encoding :=
  let trimmed := ((label.dropWhile isLabelSpace).reverse.dropWhile isLabelSpace).reverse
  let name := trimmed.map fun b => (Char.ofNat b.toNat).toLower
  (labels.find? fun entry => entry.2.any fun l => l.toList = name).map Prod.fst

/-- The encoding that bytes give away at their beginning, and how many bytes do only that. -/
def detect? : Bytes → Option (Encoding × Nat)
  | 0xFE :: 0xFF :: _ => some (utf16 true, 2)
  | 0xFF :: 0xFE :: _ => some (utf16 false, 2)
  | 0xEF :: 0xBB :: 0xBF :: _ => some (utf8, 3)
  | 0x00 :: 0x3C :: 0x00 :: 0x3F :: _ => some (utf16 true, 0)
  | 0x3C :: 0x00 :: 0x3F :: 0x00 :: _ => some (utf16 false, 0)
  | _ => none

/-- The numbers of 16 bits that bytes stand for, none for an odd count of bytes. -/
def units? (bigEndian : Bool) : Bytes → Option (List Nat)
  | [] => some []
  | [_] => none
  | a :: b :: rest =>
    let unit := if bigEndian then 256 * a.toNat + b.toNat else a.toNat + 256 * b.toNat
    (units? bigEndian rest).map (unit :: ·)

def isHigh (unit : Nat) : Bool :=
  0xD800 ≤ unit && unit < 0xDC00

def isLow (unit : Nat) : Bool :=
  0xDC00 ≤ unit && unit < 0xE000

/-- The characters of 16-bit units; a half of a pair without the other half has none. -/
def pairUp? : List Nat → Option (List Char)
  | [] => some []
  | a :: rest =>
    if isLow a then none
    else if isHigh a then
      match rest with
      | b :: more =>
        if isLow b then
          (pairUp? more).map (Char.ofNat (0x10000 + 1024 * (a - 0xD800) + (b - 0xDC00)) :: ·)
        else none
      | [] => none
    else (pairUp? rest).map (Char.ofNat a :: ·)

/-- The text that bytes stand for. -/
def decode? (e : Encoding) (bytes : Bytes) : Option (List Char) :=
  match e with
  | utf8 =>
    match Utf8.decode bytes with
    | .ok s => some s.toList
    | .error _ => none
  | utf16 bigEndian => (units? bigEndian bytes).bind pairUp?
  | page p => bytes.mapM p.char?
  | privateUse =>
    some (bytes.map fun b => Char.ofNat (if b < 128 then b.toNat else 0xF700 + b.toNat))
  | guoBiao => MultiByte.guoBiao? bytes
  | big5 => MultiByte.big5? bytes
  | eucJp => MultiByte.eucJp? bytes
  | iso2022Jp => MultiByte.iso2022Jp? bytes
  | shiftJis => MultiByte.shiftJis? bytes
  | eucKr => MultiByte.eucKr? bytes
  | refused => if bytes.isEmpty then some [] else none

end Encoding

end MailMerge
