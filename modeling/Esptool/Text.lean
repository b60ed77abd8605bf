import Mathlib.Tactic

/-!
# Text helpers

Character classes, trimming and integer parsing of the utility library.
Texts are lists of characters; every test of the parsers is on ASCII
characters, so working on characters and on UTF-8 bytes is the same for them.
For `toUtf8` and `toUtf16` it is not: here they go between UTF-16 and
characters, and bytes that are no UTF-8 do not occur.
-/

namespace Esptool.Text

def hexValue (value : Char) : Option ℕ :=
  if '0' ≤ value ∧ value ≤ '9' then some (value.toNat - '0'.toNat)
  else if 'a' ≤ value ∧ value ≤ 'f' then
    some (value.toNat - 'a'.toNat + 10)
  else if 'A' ≤ value ∧ value ≤ 'F' then
    some (value.toNat - 'A'.toNat + 10)
  else none

def isSpace (value : Char) : Bool :=
  value == ' ' || value == '\t' || value == '\r' || value == '\n' ||
    value == '\x0c' || value == '\x0b'

def foldAscii (value : Char) : Char :=
  if 'A' ≤ value ∧ value ≤ 'Z' then
    Char.ofNat (value.toNat - 'A'.toNat + 'a'.toNat)
  else value

def trim (value : List Char) : List Char :=
  ((value.dropWhile isSpace).reverse.dropWhile isSpace).reverse

def equalsIgnoreCase (left right : List Char) : Bool :=
  left.map foldAscii == right.map foldAscii

/-- The digit loop, with the source's overflow test before every step. -/
def accumulateDigits (basis : ℕ) : ℕ → List Char → Option ℕ
  | accumulator, [] => some accumulator
  | accumulator, c :: rest =>
      match hexValue c with
      | none => none
      | some digit =>
          if digit > (if basis = 16 then 15 else 9) then none
          else if accumulator > (2 ^ 64 - 1 - digit) / basis then none
          else accumulateDigits basis (accumulator * basis + digit) rest

def parseUnsigned (value : List Char) : Option ℕ :=
  match trim value with
  | [] => none
  | '0' :: x :: d :: rest =>
      if x = 'x' ∨ x = 'X' then accumulateDigits 16 0 (d :: rest)
      else accumulateDigits 10 0 ('0' :: x :: d :: rest)
  | digits => accumulateDigits 10 0 digits

/-- `std::from_chars` into a 64-bit unsigned integer, accepted only when the
whole text is consumed: decimal digits without sign or white space. -/
def fromChars (value : List Char) : Option ℕ :=
  if value ≠ [] ∧ value.all Char.isDigit then
    let numeric :=
      value.foldl (fun n c => n * 10 + (c.toNat - '0'.toNat)) 0
    if numeric < 2 ^ 64 then some numeric else none
  else none

/-- A wide literal. -/
def wide (text : String) : List UInt16 :=
  text.toList.map fun c => UInt16.ofNat c.toNat

def isHighSurrogate (unit : UInt16) : Bool :=
  decide (0xD800 ≤ unit ∧ unit < 0xDC00)

def isLowSurrogate (unit : UInt16) : Bool :=
  decide (0xDC00 ≤ unit ∧ unit < 0xE000)

def kReplacement : Char := '\uFFFD'

/-- The conversion of UTF-16 units, with the high surrogate read last; a
surrogate without its other half is replaced. -/
def decodeUtf16 : Option UInt16 → List UInt16 → List Char
  | none, [] => []
  | some _, [] => [kReplacement]
  | none, unit :: rest =>
      if isHighSurrogate unit then decodeUtf16 (some unit) rest
      else if isLowSurrogate unit then kReplacement :: decodeUtf16 none rest
      else Char.ofNat unit.toNat :: decodeUtf16 none rest
  | some high, unit :: rest =>
      if isLowSurrogate unit then
        Char.ofNat (0x10000 + (high.toNat - 0xD800) * 0x400 +
          (unit.toNat - 0xDC00)) :: decodeUtf16 none rest
      else if isHighSurrogate unit then
        kReplacement :: decodeUtf16 (some unit) rest
      else
        kReplacement :: Char.ofNat unit.toNat :: decodeUtf16 none rest

def toUtf8 (value : List UInt16) : List Char := decodeUtf16 none value

def toLowerAscii (value : String) : String :=
  String.ofList (value.toList.map foldAscii)

/-- The trimmed fields between separators, without the empty ones. -/
def split (value : List Char) (separator : Char) : List (List Char) :=
  ((value.splitOn separator).map trim).filter fun field => !field.isEmpty

def kGuidOctets : ℕ := 16

/-- The sixteen octets of a GUID in the order of its hex pairs. -/
def parseGuid (value : List Char) : Option (Vector UInt8 16) :=
  let trimmed := trim value
  let body :=
    if 2 ≤ trimmed.length ∧ trimmed.head? = some '\x7b' ∧
        trimmed.getLast? = some '\x7d' then
      (trimmed.drop 1).dropLast
    else trimmed
  let compact := body.filter fun character => character != '-'
  match compact.mapM hexValue with
  | none => none
  | some digits =>
      if digits.length ≠ kGuidOctets * 2 then none
      else
        some (Vector.ofFn fun index =>
          UInt8.ofNat (16 * digits.getD (index * 2) 0 +
            digits.getD (index * 2 + 1) 0))

end Esptool.Text
