import CypherText.Failure
import CypherText.Number.Numeral

/-!
# Encodings of texts

An encoding tells which character the first bytes of a byte string stand for, or how many of
them stand for none. Decoding a byte string reads one character after the other; what becomes of
bytes that stand for none is the choice of the caller.
-/

namespace CypherText

/-- The order of the bytes of a number. -/
inductive ByteOrder where
  | little
  | big
  deriving DecidableEq, Repr

/-- A way in which bytes stand for texts. Where an encoding has no byte order, a mark at the
start of the bytes gives it, and it is the little one where there is no mark. -/
inductive Encoding where
  | ascii
  /-- One byte for each of the first 256 code points, but for those bytes that stand for another
  character or for none. -/
  | latin (changes : List (Nat × Option Char))
  | utf8
  /-- As `utf8`, but without the mark that may stand at the start. -/
  | markedUtf8
  | utf16 (order : Option ByteOrder)
  | utf32 (order : Option ByteOrder)
  deriving DecidableEq, Repr

namespace Encoding

/-! ## Names -/

/-- The changes with which Western European texts are written under Windows. -/
def windowsChanges : List (Nat × Option Char) :=
  [(0x80, some '\u20AC'), (0x81, none), (0x82, some '\u201A'), (0x83, some '\u0192'),
    (0x84, some '\u201E'), (0x85, some '\u2026'), (0x86, some '\u2020'), (0x87, some '\u2021'),
    (0x88, some '\u02C6'), (0x89, some '\u2030'), (0x8A, some '\u0160'), (0x8B, some '\u2039'),
    (0x8C, some '\u0152'), (0x8D, none), (0x8E, some '\u017D'), (0x8F, none), (0x90, none),
    (0x91, some '\u2018'), (0x92, some '\u2019'), (0x93, some '\u201C'), (0x94, some '\u201D'),
    (0x95, some '\u2022'), (0x96, some '\u2013'), (0x97, some '\u2014'), (0x98, some '\u02DC'),
    (0x99, some '\u2122'), (0x9A, some '\u0161'), (0x9B, some '\u203A'), (0x9C, some '\u0153'),
    (0x9D, none), (0x9E, some '\u017E'), (0x9F, some '\u0178')]

/-- The changes of the Latin alphabet that has the euro. -/
def euroChanges : List (Nat × Option Char) :=
  [(0xA4, some '\u20AC'), (0xA6, some '\u0160'), (0xA8, some '\u0161'), (0xB4, some '\u017D'),
    (0xB8, some '\u017E'), (0xBC, some '\u0152'), (0xBD, some '\u0153'), (0xBE, some '\u0178')]

/-- Whether a character belongs to a word of the name of an encoding. -/
def isWordChar (c : Char) : Bool :=
  c.isAlphanum || c = '.'

/-- The name in lower case, with a low line between its words. -/
def plainName (name : String) : String :=
  let runs := name.toList.splitBy fun c d => isWordChar c == isWordChar d
  let words := runs.filter fun run => run.head?.any isWordChar
  "_".intercalate (words.map fun word => String.ofList (word.map Char.toLower))

/-- The names of the encodings. -/
def names : List (Encoding × List String) :=
  [(.ascii, ["ascii", "us_ascii", "646", "ansi_x3.4_1968", "ansi_x3_4_1968", "ansi_x3.4_1986",
      "cp367", "csascii", "ibm367", "iso646_us", "iso_646.irv_1991", "iso_ir_6", "us"]),
    (.latin [], ["latin_1", "latin1", "latin", "l1", "8859", "iso8859", "iso8859_1", "iso_8859_1",
      "iso_8859_1_1987", "iso_ir_100", "cp819", "csisolatin1", "ibm819"]),
    (.latin windowsChanges, ["cp1252", "1252", "windows_1252"]),
    (.latin euroChanges, ["iso8859_15", "iso_8859_15", "latin9", "l9"]),
    (.utf8, ["utf_8", "utf8", "utf", "u8", "utf8_ucs2", "utf8_ucs4", "cp65001"]),
    (.markedUtf8, ["utf_8_sig"]),
    (.utf16 none, ["utf_16", "utf16", "u16"]),
    (.utf16 (some .little), ["utf_16_le", "utf_16le", "unicodelittleunmarked"]),
    (.utf16 (some .big), ["utf_16_be", "utf_16be", "unicodebigunmarked"]),
    (.utf32 none, ["utf_32", "utf32", "u32"]),
    (.utf32 (some .little), ["utf_32_le", "utf_32le"]),
    (.utf32 (some .big), ["utf_32_be", "utf_32be"])]

/-- The encoding of the given name. -/
def ofName? (name : String) : Option Encoding :=
  (names.find? fun entry => entry.2.contains (plainName name)).map Prod.fst

/-! ## Single characters -/

/-- What the start of a byte string stands for. -/
inductive Reading where
  /-- A character, and the number of bytes that stand for it. -/
  | char (c : Char) (size : Nat)
  /-- Nothing, and the number of bytes that are refused together. -/
  | flaw (size : Nat)
  deriving Repr

/-- The number that bytes stand for, the highest one first. -/
def number (bytes : List UInt8) : Nat :=
  bytes.foldl (fun n byte => n * 256 + byte.toNat) 0

/-- The number that bytes in the given order stand for. -/
def ordered (order : ByteOrder) (bytes : List UInt8) : Nat :=
  match order with
  | .little => number bytes.reverse
  | .big => number bytes

/-- Whether a code point is one half of a pair in UTF-16. -/
def isHalf (code : Nat) : Bool :=
  0xD800 ≤ code && code < 0xE000

/-- The number of bytes that follow the first byte of a character in UTF-8, and the range of the
second byte. -/
def shape? (first : Nat) : Option (Nat × Nat × Nat) :=
  if 0xC2 ≤ first ∧ first < 0xE0 then some (1, 0x80, 0xBF)
  else if first = 0xE0 then some (2, 0xA0, 0xBF)
  else if first = 0xED then some (2, 0x80, 0x9F)
  else if 0xE1 ≤ first ∧ first < 0xF0 then some (2, 0x80, 0xBF)
  else if first = 0xF0 then some (3, 0x90, 0xBF)
  else if first = 0xF4 then some (3, 0x80, 0x8F)
  else if 0xF1 ≤ first ∧ first < 0xF4 then some (3, 0x80, 0xBF)
  else none

/-- The bytes, of which there may be `count`, that continue a character in UTF-8. -/
def continuation (low high : Nat) : Nat → List UInt8 → List UInt8
  | 0, _ => []
  | _ + 1, [] => []
  | count + 1, byte :: rest =>
    if low ≤ byte.toNat ∧ byte.toNat ≤ high then byte :: continuation 0x80 0xBF count rest
    else []

/-- Reads a character in UTF-8. A first byte that lacks some of the bytes that should follow is
refused together with those that do. -/
def readUtf8 (first : UInt8) (rest : List UInt8) : Reading :=
  if first.toNat < 0x80 then .char (Char.ofNat first.toNat) 1
  else
    match shape? first.toNat with
    | none => .flaw 1
    | some (count, low, high) =>
      let more := continuation low high count rest
      if more.length = count then
        let start := first.toNat % Nat.pow 2 (6 - count)
        let code := more.foldl (fun n byte => n * 64 + byte.toNat % 64) start
        .char (Char.ofNat code) (count + 1)
      else
        .flaw (more.length + 1)

/-- Reads a character in UTF-16. -/
def readUtf16 (order : ByteOrder) (bytes : List UInt8) : Reading :=
  let unit := ordered order (bytes.take 2)
  let next := ordered order ((bytes.drop 2).take 2)
  if bytes.length < 2 then .flaw bytes.length
  else if !isHalf unit then .char (Char.ofNat unit) 2
  else if 0xDC00 ≤ unit then .flaw 2
  else if bytes.length < 4 then .flaw bytes.length
  else if 0xDC00 ≤ next ∧ next < 0xE000 then
    .char (Char.ofNat (0x10000 + (unit - 0xD800) * 0x400 + (next - 0xDC00))) 4
  else .flaw 2

/-- Reads a character in UTF-32. -/
def readUtf32 (order : ByteOrder) (bytes : List UInt8) : Reading :=
  let code := ordered order (bytes.take 4)
  if bytes.length < 4 then .flaw bytes.length
  else if isHalf code ∨ 0x110000 ≤ code then .flaw 4
  else .char (Char.ofNat code) 4

/-- Reads a byte that stands for its own code point unless the changes say otherwise. -/
def readLatin (changes : List (Nat × Option Char)) (first : UInt8) : Reading :=
  match changes.lookup first.toNat with
  | none => .char (Char.ofNat first.toNat) 1
  | some (some c) => .char c 1
  | some none => .flaw 1

/-- Reads the first character of a byte string that is not empty. -/
def read (encoding : Encoding) (first : UInt8) (rest : List UInt8) : Reading :=
  match encoding with
  | ascii => if first.toNat < 0x80 then .char (Char.ofNat first.toNat) 1 else .flaw 1
  | latin changes => readLatin changes first
  | utf8 => readUtf8 first rest
  | markedUtf8 => readUtf8 first rest
  | utf16 order => readUtf16 (order.getD .little) (first :: rest)
  | utf32 order => readUtf32 (order.getD .little) (first :: rest)

/-- The bytes behind the mark at their start, and the encoding with the order that it gives. -/
def withoutMark (encoding : Encoding) (bytes : List UInt8) : Encoding × List UInt8 :=
  match encoding, bytes with
  | markedUtf8, 0xEF :: 0xBB :: 0xBF :: rest => (utf8, rest)
  | utf16 none, 0xFF :: 0xFE :: rest => (utf16 (some .little), rest)
  | utf16 none, 0xFE :: 0xFF :: rest => (utf16 (some .big), rest)
  | utf32 none, 0xFF :: 0xFE :: 0 :: 0 :: rest => (utf32 (some .little), rest)
  | utf32 none, 0 :: 0 :: 0xFE :: 0xFF :: rest => (utf32 (some .big), rest)
  | encoding, bytes => (encoding, bytes)

/-! ## Whole texts -/

/-- What becomes of bytes that stand for no character. -/
inductive Repair where
  | refuse
  | ignore
  /-- The replacement character takes their place. -/
  | replace
  /-- Their hexadecimal codes take their place. -/
  | escape
  deriving DecidableEq, Repr

namespace Repair

/-- The repairs that have a name, and why those that are none for decoding fail. -/
def named : List (String × Except Failure Repair) :=
  [("strict", .ok refuse), ("ignore", .ok ignore), ("replace", .ok replace),
    ("backslashreplace", .ok escape), ("surrogateescape", .ok refuse),
    ("surrogatepass", .ok refuse), ("xmlcharrefreplace", .error .meaningless),
    ("namereplace", .error .meaningless)]

/-- The repair of the given name. -/
def ofName (name : String) : Except Failure Repair :=
  (named.lookup name).getD (.error (.unknownEncoding name))

/-- The hexadecimal code of a byte. -/
def byteCode (byte : UInt8) : List Char :=
  '\\' :: 'x' :: Numeral.hexPadded 2 byte.toNat

/-- What takes the place of refused bytes. -/
def apply (repair : Repair) (bytes : List UInt8) : Except Failure (List Char) :=
  match repair with
  | refuse => .error .undecodableBytes
  | ignore => .ok []
  | replace => .ok ['\uFFFD']
  | escape => .ok (bytes.flatMap byteCode)

end Repair

/-- The characters that bytes stand for. The name of the repair only matters where one is
needed; `left` is a bound on the number of characters. -/
def decodeFrom (encoding : Encoding) (repairName : String) : Nat → List UInt8 →
    Except Failure (List Char)
  | 0, _ => .ok []
  | _ + 1, [] => .ok []
  | left + 1, first :: rest =>
    match encoding.read first rest with
    | .char c size => do
      let chars ← decodeFrom encoding repairName left (rest.drop (size - 1))
      return c :: chars
    | .flaw size => do
      let place ← (← Repair.ofName repairName).apply ((first :: rest).take size)
      let chars ← decodeFrom encoding repairName left (rest.drop (size - 1))
      return place ++ chars

/-- The text that bytes stand for. -/
def decode (encoding : Encoding) (repairName : String) (bytes : List UInt8) :
    Except Failure String :=
  let (actual, content) := encoding.withoutMark bytes
  String.ofList <$> decodeFrom actual repairName content.length content

end Encoding

end CypherText
