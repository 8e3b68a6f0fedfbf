import HeaderBidding.Json.Basic
import HeaderBidding.Decimal.Binary

/-!
# Reading JSON text

A reader for JSON text that reports the first fault at the place where a reader going left to
right meets it. Places are byte offsets; `Located.position` turns one into the line and column
that messages show (the column counts the bytes before the offset on its line).

Some faults are found on the byte that is next to be read (an unexpected character, the end of
the text); they are reported one byte further on, as the column of that byte counted from one.
Others are found after a byte has been taken (a wrong letter in `null`, a bad escape) and are
reported at the offset reached.

Numbers follow these rules:

- a numeral without fraction or exponent is an integer when its value fits: `0 … 2⁶⁴ - 1`, or
  `-2⁶³ … -1`; `-0` and integers beyond the ranges are floats;
- a numeral with a fraction or exponent is read as its significand (the first nineteen or twenty
  digits, as many as fit in 64 bits) rounded once to binary64, then multiplied or divided by the
  binary64 nearest to the power of ten, in binary64 arithmetic; a product that overflows is the
  fault `numberOutOfRange`.

Objects and arrays may nest 127 deep.
-/

namespace HeaderBidding.Json

/-- The faults of JSON text. -/
inductive Fault where
  | eofWhileParsingList
  | eofWhileParsingObject
  | eofWhileParsingString
  | eofWhileParsingValue
  | expectedColon
  | expectedListCommaOrEnd
  | expectedObjectCommaOrEnd
  | expectedSomeIdent
  | expectedSomeValue
  | invalidEscape
  | invalidNumber
  | numberOutOfRange
  | controlCharacterWhileParsingString
  | keyMustBeAString
  | loneLeadingSurrogateInHexEscape
  | trailingComma
  | trailingCharacters
  | unexpectedEndOfHexEscape
  | recursionLimitExceeded
  deriving Repr, DecidableEq

/-- The wording of a fault. -/
def Fault.message : Fault → String
  | .eofWhileParsingList => "EOF while parsing a list"
  | .eofWhileParsingObject => "EOF while parsing an object"
  | .eofWhileParsingString => "EOF while parsing a string"
  | .eofWhileParsingValue => "EOF while parsing a value"
  | .expectedColon => "expected `:`"
  | .expectedListCommaOrEnd => "expected `,` or `]`"
  | .expectedObjectCommaOrEnd => "expected `,` or `\x7d`"
  | .expectedSomeIdent => "expected ident"
  | .expectedSomeValue => "expected value"
  | .invalidEscape => "invalid escape"
  | .invalidNumber => "invalid number"
  | .numberOutOfRange => "number out of range"
  | .controlCharacterWhileParsingString =>
    "control character (\\u0000-\\u001F) found while parsing a string"
  | .keyMustBeAString => "key must be a string"
  | .loneLeadingSurrogateInHexEscape => "lone leading surrogate in hex escape"
  | .trailingComma => "trailing comma"
  | .trailingCharacters => "trailing characters"
  | .unexpectedEndOfHexEscape => "unexpected end of hex escape"
  | .recursionLimitExceeded => "recursion limit exceeded"

/-- Whether a fault is one of running out of text. -/
def Fault.isEof : Fault → Bool
  | .eofWhileParsingList | .eofWhileParsingObject | .eofWhileParsingString
  | .eofWhileParsingValue => true
  | _ => false

/-- A step from a document into one of its parts: a member by its key, or an item by its
index. -/
inductive Segment where
  | key (name : String)
  | index (i : Nat)
  deriving Repr, DecidableEq

/-- A fault, the byte offset it is reported at, and the path of members and items that leads
from the document read to the value in which it was met. -/
structure Located where
  fault : Fault
  offset : Nat
  path : List Segment
  deriving Repr

/-- A fault met inside a part, seen from the whole. -/
def Located.under (seg : Segment) (l : Located) : Located :=
  { l with path := seg :: l.path }

/-- Line (from one) and column of a byte offset. -/
def position (src : ByteArray) (offset : Nat) : Nat × Nat :=
  let before := (src.toList.take offset)
  let line := 1 + before.count 10
  let column := (before.reverse.takeWhile (· != 10)).length
  (line, column)

/-- What a reader step gives: a result and the offset after it, or a located fault. -/
abbrev Step (α : Type) := Except Located (α × Nat)

/-- The byte at an offset, if any. -/
def byteAt (src : ByteArray) (i : Nat) : Option UInt8 :=
  src[i]?

/-- A fault reported on the byte next to be read. -/
def peekFault (src : ByteArray) (f : Fault) (i : Nat) : Located :=
  ⟨f, min src.size (i + 1), []⟩

/-- Whether a byte is a blank between tokens. -/
def isSpace (b : UInt8) : Bool :=
  b == 32 || b == 10 || b == 9 || b == 13

/-- The offset of the first non-blank byte at or after `i`. -/
def skipSpace (src : ByteArray) (i : Nat) : Nat :=
  if h : i < src.size then
    if isSpace src[i] then skipSpace src (i + 1) else i
  else i
termination_by src.size - i

/-- Whether a byte is an ASCII digit. -/
def isDigitByte (b : UInt8) : Bool :=
  48 ≤ b && b ≤ 57

/-- The value of an ASCII digit. -/
def digitOf (b : UInt8) : Nat :=
  b.toNat - 48

/-- Reads the rest of a literal word; `i` is just after its first letter. -/
def readWord (src : ByteArray) : List UInt8 → Nat → Except Located Nat
  | [], i => .ok i
  | b :: rest, i =>
    match byteAt src i with
    | none => .error ⟨.eofWhileParsingValue, i, []⟩
    | some c => if c == b then readWord src rest (i + 1) else .error ⟨.expectedSomeIdent, i + 1, []⟩

/-! ### Numbers -/

/-- The largest 64-bit unsigned value. -/
def u64Max : Nat := Nat.pow 2 64 - 1

/-- Whether `sig * 10 + d` would pass the 64-bit unsigned range. -/
def overflows (sig d : Nat) : Bool :=
  sig ≥ u64Max / 10 && (sig > u64Max / 10 || d > u64Max % 10)

/-- The binary64 nearest to `10 ^ k`. -/
def powTen (k : Nat) : Float :=
  Decimal.nearest false (Nat.pow 10 k) 1

/-- `significand · 10 ^ exp` in binary64 arithmetic (see the module note); `none` when the
product overflows. -/
def scaleSignificand (significand : Nat) (exp : Int) : Nat → Float → Option Float
  | 0, f => some f
  | fuel + 1, f =>
    if exp.natAbs ≤ 308 then
      if 0 ≤ exp then
        let g := f * powTen exp.toNat
        if Decimal.isFinite g then some g else none
      else some (f / powTen exp.natAbs)
    else if f == 0.0 then some f
    else if 0 ≤ exp then none
    else scaleSignificand significand (exp + 308) fuel (f / powTen 308)

/-- The float of a significand and a decimal exponent, with the sign; `none` on overflow. -/
def floatOfParts (neg : Bool) (significand : Nat) (exp : Int) : Option Float :=
  let f := (UInt64.ofNat significand).toFloat
  (scaleSignificand significand exp 8 f).map fun g => if neg then -g else g

/-- Skips digits, giving the offset after them and how many there were. -/
def skipDigits (src : ByteArray) (i : Nat) (count : Nat) : Nat × Nat :=
  if h : i < src.size then
    if isDigitByte src[i] then skipDigits src (i + 1) (count + 1) else (i, count)
  else (i, count)
termination_by src.size - i

/-- The value of exponent digits starting at offset `pos`, or the offset just after the digit
that takes it past `2³¹ - 1`. -/
def exponentValue : List UInt8 → Nat → Nat → Sum Nat Nat
  | [], acc, _ => .inl acc
  | d :: rest, acc, pos =>
    let next := acc * 10 + digitOf d
    if next > 2147483647 then .inr (pos + 1) else exponentValue rest next (pos + 1)

/-- Reads the exponent; `i` is at the `e`. -/
def readExponent (src : ByteArray) (neg : Bool) (sig : Nat) (start : Int) (i : Nat) :
    Step Float :=
  let j := i + 1
  let (expNeg, j) :=
    match byteAt src j with
    | some 43 => (false, j + 1)
    | some 45 => (true, j + 1)
    | _ => (false, j)
  match byteAt src j with
  | none => .error ⟨.eofWhileParsingValue, j, []⟩
  | some b =>
    if !isDigitByte b then .error ⟨.invalidNumber, j + 1, []⟩
    else
      let (k, _) := skipDigits src (j + 1) 0
      match exponentValue (src.extract j k).toList 0 j with
      | .inr past =>
        if sig ≠ 0 ∧ !expNeg then .error ⟨.numberOutOfRange, past, []⟩
        else .ok (if neg then -0.0 else 0.0, k)
      | .inl e =>
        let total : Int := if expNeg then start - e else start + e
        match floatOfParts neg sig total with
        | some f => .ok (f, k)
        | none => .error ⟨.numberOutOfRange, k, []⟩

/-- Reads fraction digits into the significand; `i` is at the `.`. -/
def readFraction (src : ByteArray) (neg : Bool) (sig : Nat) (start : Int) (i : Nat) :
    Step Float :=
  let (k, count) := skipDigits src (i + 1) 0
  if count = 0 then
    match byteAt src k with
    | some _ => .error (peekFault src .invalidNumber k)
    | none => .error (peekFault src .eofWhileParsingValue k)
  else
    -- digits beyond what fits in the significand are dropped
    let digits := (src.extract (i + 1) k).toList
    let (sig, used) := digits.foldl
      (fun (acc : Nat × Nat) d =>
        if acc.2 = 0 ∧ !overflows acc.1 (digitOf d) then (acc.1 * 10 + digitOf d, 0)
        else (acc.1, acc.2 + 1)) (sig, 0)
    let kept := count - used
    let exp := start - kept
    match byteAt src k with
    | some 101 | some 69 => readExponent src neg sig exp k
    | _ =>
      match floatOfParts neg sig exp with
      | some f => .ok (f, k)
      | none => .error ⟨.numberOutOfRange, k, []⟩

/-- After the integer digits: a fraction, an exponent, or the end of an integer. -/
def finishNumber (src : ByteArray) (neg : Bool) (sig : Nat) (i : Nat) : Step Json :=
  match byteAt src i with
  | some 46 => (readFraction src neg sig 0 i).map fun (f, k) => (.float f, k)
  | some 101 | some 69 => (readExponent src neg sig 0 i).map fun (f, k) => (.float f, k)
  | _ =>
    if !neg then .ok (.int sig, i)
    else if 1 ≤ sig ∧ sig ≤ Nat.pow 2 63 then .ok (.int (-(sig : Int)), i)
    else .ok (.float (-(UInt64.ofNat sig).toFloat), i)

/-- An integer too long for 64 bits: the extra digits raise the exponent. -/
def readLongInteger (src : ByteArray) (neg : Bool) (sig : Nat) (i : Nat) : Step Json :=
  let (k, extra) := skipDigits src i 0
  match byteAt src k with
  | some 46 => (readFraction src neg sig extra k).map fun (f, k) => (.float f, k)
  | some 101 | some 69 => (readExponent src neg sig extra k).map fun (f, k) => (.float f, k)
  | _ =>
    match floatOfParts neg sig extra with
    | some f => .ok (.float f, k)
    | none => .error ⟨.numberOutOfRange, k, []⟩

/-- Accumulates integer digits. -/
def readIntegerDigits (src : ByteArray) (neg : Bool) (sig : Nat) (i : Nat) : Step Json :=
  if h : i < src.size then
    let b := src[i]
    if isDigitByte b then
      if overflows sig (digitOf b) then readLongInteger src neg sig i
      else readIntegerDigits src neg (sig * 10 + digitOf b) (i + 1)
    else finishNumber src neg sig i
  else finishNumber src neg sig i
termination_by src.size - i

/-- Reads a number whose first digit is at `i` (after any minus sign). -/
def readNumber (src : ByteArray) (neg : Bool) (i : Nat) : Step Json :=
  match byteAt src i with
  | none => .error ⟨.eofWhileParsingValue, i, []⟩
  | some 48 =>
    match byteAt src (i + 1) with
    | some b => if isDigitByte b then .error (peekFault src .invalidNumber (i + 1))
                else finishNumber src neg 0 (i + 1)
    | none => finishNumber src neg 0 (i + 1)
  | some b =>
    if isDigitByte b then readIntegerDigits src neg (digitOf b) (i + 1)
    else .error ⟨.invalidNumber, i + 1, []⟩

/-! ### Strings -/

/-- The value of four hex digits. -/
def hexValue (bs : List UInt8) : Option Nat :=
  bs.foldlM (fun acc b =>
    if 48 ≤ b && b ≤ 57 then some (acc * 16 + (b.toNat - 48))
    else if 97 ≤ b && b ≤ 102 then some (acc * 16 + (b.toNat - 87))
    else if 65 ≤ b && b ≤ 70 then some (acc * 16 + (b.toNat - 55))
    else none) 0

/-- Reads the four hex digits of a `\u` escape at `i`. -/
def readHex4 (src : ByteArray) (i : Nat) : Step Nat :=
  if i + 4 ≤ src.size then
    match hexValue (src.extract i (i + 4)).toList with
    | some n => .ok (n, i + 4)
    | none => .error ⟨.invalidEscape, i + 4, []⟩
  else .error ⟨.eofWhileParsingString, src.size, []⟩

/-- The UTF-8 bytes of a code point below `U+110000` outside the surrogates. -/
def codePointBytes (n : Nat) : ByteArray :=
  (String.singleton (Char.ofNat n)).toUTF8

/-- Reads a `\u` escape (after the `u`), pairing surrogates. -/
def readUnicodeEscape (src : ByteArray) (i : Nat) : Except Located (ByteArray × Nat) := do
  let (n, j) ← readHex4 src i
  if 0xDC00 ≤ n ∧ n ≤ 0xDFFF then throw ⟨.loneLeadingSurrogateInHexEscape, j, []⟩
  if n < 0xD800 ∨ n > 0xDBFF then return (codePointBytes n, j)
  match byteAt src j with
  | none => throw ⟨.eofWhileParsingString, src.size, []⟩
  | some 92 =>
    match byteAt src (j + 1) with
    | none => throw ⟨.eofWhileParsingString, src.size, []⟩
    | some 117 =>
      let (n2, k) ← readHex4 src (j + 2)
      if n2 < 0xDC00 ∨ n2 > 0xDFFF then throw ⟨.loneLeadingSurrogateInHexEscape, k, []⟩
      return (codePointBytes (((n - 0xD800) * 1024 + (n2 - 0xDC00)) + 0x10000), k)
    | some _ => throw ⟨.unexpectedEndOfHexEscape, j + 2, []⟩
  | some _ => throw ⟨.unexpectedEndOfHexEscape, j + 1, []⟩

/-- Reads one escape (after the backslash). -/
def readEscape (src : ByteArray) (i : Nat) : Step ByteArray :=
  match byteAt src i with
  | none => .error ⟨.eofWhileParsingString, src.size, []⟩
  | some b =>
    if b == 34 then .ok (ByteArray.mk #[34], i + 1)
    else if b == 92 then .ok (ByteArray.mk #[92], i + 1)
    else if b == 47 then .ok (ByteArray.mk #[47], i + 1)
    else if b == 98 then .ok (ByteArray.mk #[8], i + 1)
    else if b == 102 then .ok (ByteArray.mk #[12], i + 1)
    else if b == 110 then .ok (ByteArray.mk #[10], i + 1)
    else if b == 114 then .ok (ByteArray.mk #[13], i + 1)
    else if b == 116 then .ok (ByteArray.mk #[9], i + 1)
    else if b == 117 then readUnicodeEscape src (i + 1)
    else .error ⟨.invalidEscape, i + 1, []⟩

/-- Reads string content into `acc` up to the closing quote; `i` is inside the string. -/
def readStringBytes (src : ByteArray) (acc : ByteArray) (i : Nat) : Step ByteArray :=
  if h : i < src.size then
    let b := src[i]
    if b == 34 then .ok (acc, i + 1)
    else if b == 92 then
      match readEscape src (i + 1) with
      | .ok (bs, j) =>
        if i < j then readStringBytes src (acc ++ bs) j else .error ⟨.invalidEscape, j, []⟩
      | .error e => .error e
    else if b < 32 then .error ⟨.controlCharacterWhileParsingString, i + 1, []⟩
    else readStringBytes src (acc.push b) (i + 1)
  else .error ⟨.eofWhileParsingString, src.size, []⟩
termination_by src.size - i

/-- Reads a string whose opening quote is just before `i`. -/
def readString (src : ByteArray) (i : Nat) : Except Located (String × Nat) := do
  let (bs, j) ← readStringBytes src ByteArray.empty i
  return ((String.fromUTF8? bs).getD "", j)

/-! ### Values -/

/-- The remaining nesting allowance at the top of a document. -/
def depthLimit : Nat := 128

mutual
/-- Reads a value at `i` (blanks first). `depth` is the nesting allowance left. -/
def readValue (src : ByteArray) : Nat → Nat → Nat → Step Json
  | 0, _, i => .error ⟨.recursionLimitExceeded, i, []⟩
  | fuel + 1, depth, i =>
    let i := skipSpace src i
    match byteAt src i with
    | none => .error (peekFault src .eofWhileParsingValue i)
    | some b =>
      if b == 110 then (readWord src [117, 108, 108] (i + 1)).map fun j => (.null, j)
      else if b == 116 then (readWord src [114, 117, 101] (i + 1)).map fun j => (.bool true, j)
      else if b == 102 then
        (readWord src [97, 108, 115, 101] (i + 1)).map fun j => (.bool false, j)
      else if b == 45 then readNumber src true (i + 1)
      else if isDigitByte b then readNumber src false i
      else if b == 34 then (readString src (i + 1)).map fun (s, j) => (.str s, j)
      else if b == 91 then
        if depth ≤ 1 then .error (peekFault src .recursionLimitExceeded i)
        else readItems src fuel (depth - 1) (i + 1) true []
      else if b == 123 then
        if depth ≤ 1 then .error (peekFault src .recursionLimitExceeded i)
        else readMembers src fuel (depth - 1) (i + 1) true []
      else .error (peekFault src .expectedSomeValue i)

/-- Reads array items after `[` (or after an item), up to and including `]`. -/
def readItems (src : ByteArray) : Nat → Nat → Nat → Bool → List Json → Step Json
  | 0, _, i, _, _ => .error ⟨.recursionLimitExceeded, i, []⟩
  | fuel + 1, depth, i, first, acc =>
    let i := skipSpace src i
    match byteAt src i with
    | none => .error (peekFault src .eofWhileParsingList i)
    | some 93 => .ok (.arr acc.reverse, i + 1)
    | some b =>
      let start : Except Located Nat :=
        if first then .ok i
        else if b == 44 then
          let j := skipSpace src (i + 1)
          match byteAt src j with
          | some 93 => .error (peekFault src .trailingComma j)
          | some _ => .ok j
          | none => .error (peekFault src .eofWhileParsingValue j)
        else .error (peekFault src .expectedListCommaOrEnd i)
      match start with
      | .error e => .error e
      | .ok j =>
        match readValue src fuel depth j with
        | .ok (v, k) => readItems src fuel depth k false (v :: acc)
        | .error e => .error (e.under (.index acc.length))

/-- Reads object members after `{` (or after a member), up to and including `}`. -/
def readMembers (src : ByteArray) : Nat → Nat → Nat → Bool → List (String × Json) → Step Json
  | 0, _, i, _, _ => .error ⟨.recursionLimitExceeded, i, []⟩
  | fuel + 1, depth, i, first, acc =>
    let i := skipSpace src i
    match byteAt src i with
    | none => .error (peekFault src .eofWhileParsingObject i)
    | some 125 => .ok (.obj acc.reverse, i + 1)
    | some b =>
      let keyStart : Except Located Nat :=
        if first then
          if b == 34 then .ok i else .error (peekFault src .keyMustBeAString i)
        else if b == 44 then
          let j := skipSpace src (i + 1)
          match byteAt src j with
          | some 34 => .ok j
          | some 125 => .error (peekFault src .trailingComma j)
          | some _ => .error (peekFault src .keyMustBeAString j)
          | none => .error (peekFault src .eofWhileParsingValue j)
        else .error (peekFault src .expectedObjectCommaOrEnd i)
      match keyStart with
      | .error e => .error e
      | .ok j =>
        match readString src (j + 1) with
        | .error e => .error e
        | .ok (key, k) =>
          let k := skipSpace src k
          match byteAt src k with
          | some 58 =>
            match readValue src fuel depth (k + 1) with
            | .ok (v, m) => readMembers src fuel depth m false ((key, v) :: acc)
            | .error e => .error (e.under (.key key))
          | some _ => .error (peekFault src .expectedColon k)
          | none => .error (peekFault src .eofWhileParsingObject k)
end

/-- Reading allowance for a text: more steps than it has bytes. -/
def fuelFor (src : ByteArray) : Nat := 2 * src.size + 8

/-- Reads a whole text as one document, members in the order written; only blanks may follow. -/
def readDocument (src : ByteArray) : Except Located Json := do
  let (v, i) ← readValue src (fuelFor src) depthLimit 0
  let j := skipSpace src i
  if j < src.size then throw (peekFault src .trailingCharacters j)
  return v

/-- The message of a located fault: its wording, then the line and column. -/
def Located.message (src : ByteArray) (l : Located) : String :=
  let (line, column) := position src l.offset
  l.fault.message ++ " at line " ++ toString line ++ " column " ++ toString column

/-- Reads a text as a value (objects sorted, last member of a key kept). -/
def parse (text : String) : Except String Json :=
  let src := text.toUTF8
  match readDocument src with
  | .ok v => .ok v.normalize
  | .error l => .error (l.message src)

end HeaderBidding.Json
