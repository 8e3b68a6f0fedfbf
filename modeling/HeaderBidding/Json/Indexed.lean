import HeaderBidding.Json.Read
import HeaderBidding.Decimal.Read
import HeaderBidding.Text.Quoted

/-!
# Reading JSON text through its structural index

A second JSON reader, which reads a text in two passes and names its faults differently.

The first pass finds the *structurals* of the text: the brackets, braces, colons and commas
outside strings, the quotes that open strings, and the first byte of every other token (a byte
that is not blank and follows a blank, a structural, a closing quote, or the start). A text that
ends inside a string, or whose strings hold a raw control byte (below `0x20`), is refused
(`malformed`), and one without structurals is empty (`eof`).

The second pass builds the document from the structurals in order. A fault is reported at the
structural where it was met, with the byte there shown as a character (NUL past the end);
running out of structurals is reported at the last one read, and structurals left over after
the document at the document's last one (`tapeError`). Numbers are read on their own terms:

- `-`, then `0` or a digit run, then an optional fraction and exponent, each with at least one
  digit;
- an integer of at most eighteen digits must be followed by a blank, a structural or the end,
  and is exact; a longer one is gathered digit by digit into 64 bits, refused at the first
  digit that overflows, and, when negative, refused past `2⁶³` at the byte after it;
- other numerals gather all their digits modulo `2⁶⁴` and take as power of ten their exponent
  less their fraction digits, wrapped to 32 bits; the value is rounded once to the nearest
  binary64 and refused, at the numeral's first byte, when that is infinite. An exponent digit
  met when the exponent already passes `2³²` is refused. Numerals of fewer than nineteen digits
  must be followed by a blank, a structural or the end;
- a numeral of nineteen digits or more that starts in the first 64 bytes, and whose digits
  gathered modulo `2⁶⁴` end with both top bits set, is instead rounded from its exact digits
  and exponent.

Escapes in strings are counted from the first byte after the opening quote: a fault of a `\u`
escape is reported at its backslash with `u` shown; an unknown escape with the escaped byte
shown, at its backslash when it is the first escape of the string and otherwise at the start of
the 32-byte window that holds it, the windows stepping from the end of the previous escape. A `\u` escape of a leading
surrogate takes a following `\u` escape of four hex digits as its partner when that is at least
`DC00` (and is refused below), combining them as `(hi - D800) << 10 | (lo - DC00)` above
`0x10000`; without such a partner it stands for NUL. A trailing surrogate alone is refused.
-/

namespace HeaderBidding.Json

/-- The faults of the two-pass reader, and of reading its documents by a schema. -/
inductive IndexFault where
  | eof
  | malformed
  | expectedNull
  | expectedTrue
  | expectedFalse
  | expectedObjectContent
  | expectedObjectKey
  | expectedObjectColon
  | expectedArrayContent
  | tapeError
  | invalidNumber
  | invalidEscape
  | invalidUnicodeCodepoint
  | expectedMap
  | expectedArray
  | expectedSigned
  | expectedUnsigned
  | expectedString
  | expectedBoolean
  | expectedFloat
  /-- A refusal worded by the schema. -/
  | refused (msg : String)

/-- The name of a fault. -/
def IndexFault.name : IndexFault → String
  | .eof => "Eof"
  | .malformed => "Syntax"
  | .expectedNull => "ExpectedNull"
  | .expectedTrue => "ExpectedTrue"
  | .expectedFalse => "ExpectedFalse"
  | .expectedObjectContent => "ExpectedObjectContent"
  | .expectedObjectKey => "ExpectedObjectKey"
  | .expectedObjectColon => "ExpectedObjectColon"
  | .expectedArrayContent => "ExpectedArrayContent"
  | .tapeError => "InternalError(TapeError)"
  | .invalidNumber => "InvalidNumber"
  | .invalidEscape => "InvalidEscape"
  | .invalidUnicodeCodepoint => "InvalidUnicodeCodepoint"
  | .expectedMap => "ExpectedMap"
  | .expectedArray => "ExpectedArray"
  | .expectedSigned => "ExpectedSigned"
  | .expectedUnsigned => "ExpectedUnsigned"
  | .expectedString => "ExpectedString"
  | .expectedBoolean => "ExpectedBoolean"
  | .expectedFloat => "ExpectedFloat"
  | .refused msg => "Serde(" ++ Text.quote msg ++ ")"

/-- A fault with the offset and byte it is reported at. Faults of reading by a schema are
reported at offset `0` without a byte. -/
structure IndexError where
  fault : IndexFault
  index : Nat
  char : Option Char

/-- The wording of a fault: its name and place, and the byte as a character when there is
one. -/
def IndexError.message (e : IndexError) : String :=
  let shown := match e.char with
    | some c => " ('" ++ c.toString ++ "')"
    | none => ""
  e.fault.name ++ " at character " ++ toString e.index ++ shown

/-- A fault found while reading by a schema. -/
def IndexError.general (f : IndexFault) : IndexError :=
  ⟨f, 0, none⟩

/-- A fault at offset `p` of a text, with the byte there (NUL past the end). -/
def IndexError.at (src : ByteArray) (f : IndexFault) (p : Nat) : IndexError :=
  ⟨f, p, some (Char.ofNat ((byteAt src p).map UInt8.toNat |>.getD 0))⟩

/-! ### The first pass -/

/-- Whether a byte is a bracket, a brace, a colon or a comma. -/
def isStructuralByte (b : UInt8) : Bool :=
  b == 123 || b == 125 || b == 91 || b == 93 || b == 58 || b == 44

/-- What the first pass finds: the structurals in order, whether the text ends inside a
string, and whether a string holds a raw control byte. -/
structure Scan where
  found : List Nat
  unclosed : Bool
  rawControl : Bool

/-- The structurals from offset `i` on, in reverse order after `acc`. `inString` and `escaped`
say where a string stands; `afterBreak` whether the previous byte ends a token; `control`
whether a raw control byte was met inside a string. -/
def structuralsFrom (src : ByteArray) (i : Nat) (inString escaped afterBreak control : Bool)
    (acc : List Nat) : Scan :=
  if h : i < src.size then
    let b := src[i]
    if inString then
      let control := control || b < 32
      if escaped then structuralsFrom src (i + 1) true false false control acc
      else if b == 92 then structuralsFrom src (i + 1) true true false control acc
      else if b == 34 then structuralsFrom src (i + 1) false false true control acc
      else structuralsFrom src (i + 1) true false false control acc
    else if b == 34 then structuralsFrom src (i + 1) true false false control (i :: acc)
    else if isStructuralByte b then structuralsFrom src (i + 1) false false true control (i :: acc)
    else if isSpace b then structuralsFrom src (i + 1) false false true control acc
    else
      structuralsFrom src (i + 1) false false false control (if afterBreak then i :: acc else acc)
  else ⟨acc.reverse, inString, control⟩
termination_by src.size - i

/-- The structurals of a text, in order. -/
def structurals (src : ByteArray) : Except IndexError (Array Nat) :=
  let scan := structuralsFrom src 0 false false true false []
  if scan.unclosed || scan.rawControl then .error (.general .malformed)
  else if scan.found.isEmpty then .error (.general .eof)
  else .ok scan.found.toArray

/-! ### Numbers -/

/-- Whether a byte may follow a token: a blank, a structural, or the end. -/
def endsToken (src : ByteArray) (p : Nat) : Bool :=
  match byteAt src p with
  | none => true
  | some b => isSpace b || isStructuralByte b

/-- The value of the digits from `p` to `q`. -/
def digitValue (src : ByteArray) (p q : Nat) : Nat :=
  (src.extract p q).toList.foldl (fun acc b => acc * 10 + digitOf b) 0

/-- The value of the digits from `p` to `q` gathered modulo `2 ^ 64`, after `acc`. -/
def wrappedDigits (src : ByteArray) (p q acc : Nat) : Nat :=
  (src.extract p q).toList.foldl (fun acc b => (acc * 10 + digitOf b) % Nat.pow 2 64) acc

/-- Gathers the digits from `p` on into `acc` while the value stays within 64 bits; gives the
offset after them and the value, or the offset of the digit that would overflow. -/
def checkedDigits (src : ByteArray) (p acc : Nat) : Except Nat (Nat × Nat) :=
  if h : p < src.size then
    if isDigitByte src[p] then
      let v := acc * 10 + digitOf src[p]
      if v > u64Max then .error p else checkedDigits src (p + 1) v
    else .ok (p, acc)
  else .ok (p, acc)
termination_by src.size - p

/-- Gathers exponent digits from `p` on into `acc`; gives the offset after them and the value,
or the offset of a digit met when the value already passes `2 ^ 32`. -/
def exponentDigits (src : ByteArray) (p acc : Nat) : Except Nat (Nat × Nat) :=
  if h : p < src.size then
    if isDigitByte src[p] then
      if acc > Nat.pow 2 32 then .error p else exponentDigits src (p + 1) (acc * 10 + digitOf src[p])
    else .ok (p, acc)
  else .ok (p, acc)
termination_by src.size - p

/-- An exponent wrapped to the signed 32-bit range. -/
def wrapExponent (e : Int) : Int :=
  let m := e % Int.pow 2 32
  if m ≥ Int.pow 2 31 then m - Int.pow 2 32 else m

/-- The fewest digits that make a numeral long. -/
def longDigits : Nat := 19

/-- The size of the leading block of a text, within which a long fraction may be read exactly. -/
def leadingBlock : Nat := 64

/-- Whether a long fractional numeral starting at `p` is read from its exact digits rather than
from their 64-bit accumulation `wrapped`: it starts in the leading block and the accumulation
ends with both top bits set. -/
def readsExactly (p wrapped : Nat) : Bool :=
  p < leadingBlock && 3 * Nat.pow 2 62 ≤ wrapped

/-- Reads an integer numeral of `longDigits` digits or more starting at `q` (after the sign);
`p` is the numeral's first byte. -/
def longInteger (src : ByteArray) (neg : Bool) (q : Nat) : Except IndexError Json :=
  match checkedDigits src q 0 with
  | .error bad => .error (.at src .invalidNumber bad)
  | .ok (r, n) =>
    if neg then
      if n ≤ Nat.pow 2 63 then .ok (.int (-(n : Int))) else .error (.at src .invalidNumber r)
    else .ok (.int n)

/-- Reads a numeral whose first byte (a digit or `-`) is at `p`. -/
def readIndexedNumber (src : ByteArray) (p : Nat) : Except IndexError Json := do
  let neg := byteAt src p == some 45
  let q := if neg then p + 1 else p
  let r ← match byteAt src q with
    | some 48 =>
      if (byteAt src (q + 1)).any isDigitByte then .error (.at src .invalidNumber (q + 1))
      else .ok (q + 1)
    | some b =>
      if isDigitByte b then .ok (skipDigits src (q + 1) 0).1
      else .error (.at src .invalidNumber q)
    | none => .error (.at src .invalidNumber q)
  let hasFraction := byteAt src r = some 46
  let fracEnd ← if hasFraction then
      let s := (skipDigits src (r + 1) 0).1
      if s = r + 1 then .error (.at src .invalidNumber s) else .ok s
    else .ok r
  let fracDigits := if hasFraction then fracEnd - (r + 1) else 0
  let hasExponent := byteAt src fracEnd = some 101 || byteAt src fracEnd = some 69
  let (exp, stop) ← if hasExponent then
      let (expNeg, digitsAt) :=
        match byteAt src (fracEnd + 1) with
        | some 45 => (true, fracEnd + 2)
        | some 43 => (false, fracEnd + 2)
        | _ => (false, fracEnd + 1)
      if !(byteAt src digitsAt).any isDigitByte then .error (.at src .invalidNumber digitsAt)
      else
        match exponentDigits src digitsAt 0 with
        | .error bad => .error (.at src .invalidNumber bad)
        | .ok (e, v) => .ok ((if expNeg then -(v : Int) else v), e)
    else .ok (0, fracEnd)
  let digits := (r - q) + fracDigits
  if !hasFraction && !hasExponent then
    if longDigits ≤ digits then longInteger src neg q
    else if !endsToken src r then .error (.at src .invalidNumber r)
    else
      let n := digitValue src q r
      .ok (.int (if neg then -(n : Int) else n))
  else if digits < longDigits && !endsToken src stop then .error (.at src .invalidNumber stop)
  else
    let mantissa := wrappedDigits src (r + 1) fracEnd (wrappedDigits src q r 0)
    let f :=
      if longDigits ≤ digits && readsExactly p mantissa then
        let exact := digitValue src q r * Nat.pow 10 fracDigits + digitValue src (r + 1) fracEnd
        Decimal.scaleDecimal neg exact (exp - fracDigits)
      else Decimal.scaleDecimal neg mantissa (wrapExponent (exp - fracDigits))
    if Decimal.isFinite f then .ok (.float f) else .error (.at src .invalidNumber p)

/-! ### Strings -/

/-- The byte a one-letter escape stands for. -/
def letterEscape (b : UInt8) : Option UInt8 :=
  if b == 34 then some 34
  else if b == 92 then some 92
  else if b == 47 then some 47
  else if b == 98 then some 8
  else if b == 102 then some 12
  else if b == 110 then some 10
  else if b == 114 then some 13
  else if b == 116 then some 9
  else none

/-- The value of the four hex digits at `i`, if they are hex digits. -/
def hex4At (src : ByteArray) (i : Nat) : Option Nat :=
  if i + 4 ≤ src.size then hexValue (src.extract i (i + 4)).toList else none

/-- The partner of a leading surrogate whose escape starts at `i`: the value of a `\u` escape
right after it. -/
def partnerAt (src : ByteArray) (i : Nat) : Option Nat :=
  if byteAt src (i + 6) = some 92 ∧ byteAt src (i + 7) = some 117 then hex4At src (i + 8)
  else none

/-- Decodes string content from `i` up to the closing quote into `acc`; `start` is the offset
after the opening quote, from which escape faults are counted, and `resume` the offset after the
last escape read, counted from `start`. A `\u` escape is refused at its backslash; another
escape is refused at the start of the 32-byte window, stepped from `resume`, that holds it. -/
def indexedStringBytes (src : ByteArray) (start : Nat) (resume : Option Nat) (acc : ByteArray)
    (i : Nat) : Except IndexError (ByteArray × Nat) :=
  if h : i < src.size then
    let b := src[i]
    if b == 34 then .ok (acc, i + 1)
    else if b == 92 then
      let pos := i - start
      let window := match resume with
        | some r => pos - (pos - r) % 32
        | none => pos
      match byteAt src (i + 1) with
      | some 117 =>
        let refuse : Except IndexError (ByteArray × Nat) :=
          .error ⟨.invalidUnicodeCodepoint, pos, some 'u'⟩
        match hex4At src (i + 2) with
        | none => refuse
        | some cp =>
          if 0xDC00 ≤ cp ∧ cp ≤ 0xDFFF then refuse
          else if 0xD800 ≤ cp ∧ cp < 0xDC00 then
            match partnerAt src i with
            | some lo =>
              if lo < 0xDC00 then refuse
              else
                let n := ((cp - 0xD800) <<< 10 ||| (lo - 0xDC00)) + 0x10000
                indexedStringBytes src start (some (pos + 12)) (acc ++ codePointBytes n) (i + 12)
            | none => indexedStringBytes src start (some (pos + 6)) (acc.push 0) (i + 6)
          else indexedStringBytes src start (some (pos + 6)) (acc ++ codePointBytes cp) (i + 6)
      | some e =>
        match letterEscape e with
        | some v => indexedStringBytes src start (some (pos + 2)) (acc.push v) (i + 2)
        | none => .error ⟨.invalidEscape, window, some (Char.ofNat e.toNat)⟩
      | none => .error (.general .malformed)
    else indexedStringBytes src start resume (acc.push b) (i + 1)
  else .error (.general .malformed)
termination_by src.size - i

/-- Reads a string whose opening quote is at `p`. -/
def readIndexedString (src : ByteArray) (p : Nat) : Except IndexError String :=
  (indexedStringBytes src (p + 1) none ByteArray.empty (p + 1)).map fun (bs, _) =>
    (String.fromUTF8? bs).getD ""

/-! ### The second pass -/

/-- Whether the word at `p` is `w` and ends a token there. -/
def wordAt (src : ByteArray) (p : Nat) (w : List UInt8) : Bool :=
  (src.extract p (p + w.length)).toList == w && endsToken src (p + w.length)

/-- Cursor over the structurals: the position of the next one to read. -/
abbrev Cursor := Nat

/-- The fault of running out of structurals, at the last one read (before `k`). -/
def outOfStructurals (src : ByteArray) (structs : Array Nat) (k : Cursor) : IndexError :=
  .at src .malformed (structs.getD (k - 1) 0)

/-- The offset and byte of the structural at `k`. -/
def structuralAt (src : ByteArray) (structs : Array Nat) (k : Cursor) : Option (Nat × UInt8) :=
  structs[k]? >>= fun p => (byteAt src p).map fun b => (p, b)

mutual
/-- Reads the value whose first structural is at `k`; gives it and the cursor after it. -/
def indexedValue (src : ByteArray) (structs : Array Nat) :
    Nat → Cursor → Except IndexError (Json × Cursor)
  | 0, k => .error (outOfStructurals src structs k)
  | fuel + 1, k =>
    match structuralAt src structs k with
    | none => .error (outOfStructurals src structs k)
    | some (p, b) =>
      if b == 123 then indexedMembers src structs fuel (k + 1) true []
      else if b == 91 then indexedItems src structs fuel (k + 1) true []
      else if b == 34 then (readIndexedString src p).map fun s => (.str s, k + 1)
      else if b == 116 then
        if wordAt src p [116, 114, 117, 101] then .ok (.bool true, k + 1)
        else .error (.at src .expectedTrue p)
      else if b == 102 then
        if wordAt src p [102, 97, 108, 115, 101] then .ok (.bool false, k + 1)
        else .error (.at src .expectedFalse p)
      else if b == 110 then
        if wordAt src p [110, 117, 108, 108] then .ok (.null, k + 1)
        else .error (.at src .expectedNull p)
      else if b == 45 || isDigitByte b then
        (readIndexedNumber src p).map fun n => (n, k + 1)
      else .error (.at src .tapeError p)

/-- Reads the members of an object after its opening brace (or after a member). -/
def indexedMembers (src : ByteArray) (structs : Array Nat) :
    Nat → Cursor → Bool → List (String × Json) → Except IndexError (Json × Cursor)
  | 0, k, _, _ => .error (outOfStructurals src structs k)
  | fuel + 1, k, first, acc =>
    let member (k : Cursor) : Except IndexError (Json × Cursor) :=
      match structuralAt src structs k with
      | none => .error (outOfStructurals src structs k)
      | some (p, b) =>
        if b != 34 then
          .error (.at src (if first then .expectedObjectContent else .expectedObjectKey) p)
        else
          match readIndexedString src p with
          | .error e => .error e
          | .ok key =>
            match structuralAt src structs (k + 1) with
            | none => .error (outOfStructurals src structs (k + 1))
            | some (q, c) =>
              if c != 58 then .error (.at src .expectedObjectColon q)
              else
                match indexedValue src structs fuel (k + 2) with
                | .error e => .error e
                | .ok (v, m) => indexedMembers src structs fuel m false (acc ++ [(key, v)])
    match structuralAt src structs k with
    | none => .error (outOfStructurals src structs k)
    | some (p, b) =>
      if b == 125 then .ok (.obj acc, k + 1)
      else if first then member k
      else if b == 44 then member (k + 1)
      else .error (.at src .expectedObjectContent p)

/-- Reads the items of an array after its opening bracket (or after an item). -/
def indexedItems (src : ByteArray) (structs : Array Nat) :
    Nat → Cursor → Bool → List Json → Except IndexError (Json × Cursor)
  | 0, k, _, _ => .error (outOfStructurals src structs k)
  | fuel + 1, k, first, acc =>
    let item (k : Cursor) : Except IndexError (Json × Cursor) :=
      match indexedValue src structs fuel k with
      | .error e => .error e
      | .ok (v, m) => indexedItems src structs fuel m false (acc ++ [v])
    match structuralAt src structs k with
    | none => .error (outOfStructurals src structs k)
    | some (p, b) =>
      if b == 93 then .ok (.arr acc, k + 1)
      else if first then item k
      else if b == 44 then item (k + 1)
      else .error (.at src .expectedArrayContent p)
end

/-- Reads a whole text in two passes, members in the order written; structurals left over
after the document are refused. -/
def readIndexed (src : ByteArray) : Except IndexError Json := do
  let structs ← structurals src
  let (v, k) ← indexedValue src structs (2 * structs.size + 4) 0
  if k < structs.size then throw (.at src .tapeError (structs.getD (k - 1) 0))
  else return v

end HeaderBidding.Json
