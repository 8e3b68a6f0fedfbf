import HeaderBidding.Json.Read

/-!
# Skipping a JSON value

`skipValue` passes over one value without building it, the way a reader does for a member that
no field takes. It checks less than `readValue` and in its own order:

- nesting is not limited;
- a number is checked for its form only (its size does not matter), and running out of text
  inside it is `invalidNumber`;
- a string is checked for its escapes and control characters only: a `\u` escape may be any
  four hex digits, and a control character is reported where it stands;
- after a comma inside an array, a closing bracket is a missing value (`expectedSomeValue`).

The open arrays and objects are kept as a stack, innermost first (`true` for an array).
-/

namespace HeaderBidding.Json

/-! ### Numbers -/

/-- Skips digits from `i`. -/
def skipDigitRun (src : ByteArray) (i : Nat) : Nat :=
  (skipDigits src i 0).1

/-- Skips an exponent; `i` is at the `e`. -/
def skipExponent (src : ByteArray) (i : Nat) : Except Located Nat :=
  let j := match byteAt src (i + 1) with
    | some 43 | some 45 => i + 2
    | _ => i + 1
  match byteAt src j with
  | none => .error ⟨.invalidNumber, j, []⟩
  | some b =>
    if isDigitByte b then .ok (skipDigitRun src (j + 1)) else .error ⟨.invalidNumber, j + 1, []⟩

/-- Skips a fraction and what follows it; `i` is at the `.`. -/
def skipFraction (src : ByteArray) (i : Nat) : Except Located Nat :=
  let j := skipDigitRun src (i + 1)
  if j = i + 1 then .error (peekFault src .invalidNumber j)
  else
    match byteAt src j with
    | some 101 | some 69 => skipExponent src j
    | _ => .ok j

/-- Skips a number whose first digit is at `i` (after any minus sign). -/
def skipNumber (src : ByteArray) (i : Nat) : Except Located Nat :=
  let afterInteger : Except Located Nat :=
    match byteAt src i with
    | none => .error ⟨.invalidNumber, i, []⟩
    | some 48 =>
      match byteAt src (i + 1) with
      | some b =>
        if isDigitByte b then .error (peekFault src .invalidNumber (i + 1)) else .ok (i + 1)
      | none => .ok (i + 1)
    | some b =>
      if isDigitByte b then .ok (skipDigitRun src (i + 1)) else .error ⟨.invalidNumber, i + 1, []⟩
  match afterInteger with
  | .error e => .error e
  | .ok j =>
    match byteAt src j with
    | some 46 => skipFraction src j
    | some 101 | some 69 => skipExponent src j
    | _ => .ok j

/-! ### Strings -/

/-- Skips string content up to and including the closing quote; `i` is inside the string. -/
def skipStringBody (src : ByteArray) (i : Nat) : Except Located Nat :=
  if h : i < src.size then
    let b := src[i]
    if b == 34 then .ok (i + 1)
    else if b == 92 then
      match byteAt src (i + 1) with
      | none => .error ⟨.eofWhileParsingString, src.size, []⟩
      | some e =>
        if e == 117 then
          match readHex4 src (i + 2) with
          | .ok (_, j) => if i < j then skipStringBody src j else .error ⟨.invalidEscape, j, []⟩
          | .error l => .error l
        else if e == 34 || e == 92 || e == 47 || e == 98 || e == 102 || e == 110 || e == 114 ||
            e == 116 then skipStringBody src (i + 2)
        else .error ⟨.invalidEscape, i + 2, []⟩
    else if b < 32 then .error ⟨.controlCharacterWhileParsingString, i, []⟩
    else skipStringBody src (i + 1)
  else .error ⟨.eofWhileParsingString, src.size, []⟩
termination_by src.size - i

/-! ### Values -/

/-- The fault of a missing comma or closing bracket in an open array or object. -/
def commaOrEnd (array : Bool) : Fault :=
  if array then .expectedListCommaOrEnd else .expectedObjectCommaOrEnd

/-- The fault of running out of text in an open array or object. -/
def eofIn (array : Bool) : Fault :=
  if array then .eofWhileParsingList else .eofWhileParsingObject

/-- Skips a member's key and colon; `i` is where the key should start. -/
def skipKey (src : ByteArray) (i : Nat) : Except Located Nat :=
  let i := skipSpace src i
  match byteAt src i with
  | some 34 =>
    match skipStringBody src (i + 1) with
    | .error l => .error l
    | .ok j =>
      let j := skipSpace src j
      match byteAt src j with
      | some 58 => .ok (j + 1)
      | some _ => .error (peekFault src .expectedColon j)
      | none => .error (peekFault src .eofWhileParsingObject j)
  | some _ => .error (peekFault src .keyMustBeAString i)
  | none => .error (peekFault src .eofWhileParsingObject i)

mutual
/-- Skips a value at `i` inside the open arrays and objects `stack`, then the brackets that
close after it. -/
def skipFrom (src : ByteArray) : Nat → Nat → List Bool → Except Located Nat
  | 0, i, _ => .error (peekFault src .recursionLimitExceeded i)
  | fuel + 1, i, stack =>
    let i := skipSpace src i
    let scalar (r : Except Located Nat) : Except Located Nat :=
      match r with
      | .error l => .error l
      | .ok j => if stack.isEmpty then .ok j else closeFrom src fuel j stack true
    match byteAt src i with
    | none => .error (peekFault src .eofWhileParsingValue i)
    | some 110 => scalar (readWord src [117, 108, 108] (i + 1))
    | some 116 => scalar (readWord src [114, 117, 101] (i + 1))
    | some 102 => scalar (readWord src [97, 108, 115, 101] (i + 1))
    | some 45 => scalar (skipNumber src (i + 1))
    | some 34 => scalar (skipStringBody src (i + 1))
    | some 91 => closeFrom src fuel (i + 1) (true :: stack) false
    | some 123 => closeFrom src fuel (i + 1) (false :: stack) false
    | some b =>
      if isDigitByte b then scalar (skipNumber src i)
      else .error (peekFault src .expectedSomeValue i)

/-- After a value or an opening bracket at `i`: closes what closes there, then goes on to the
next value. `afterValue` tells whether a comma may come. -/
def closeFrom (src : ByteArray) : Nat → Nat → List Bool → Bool → Except Located Nat
  | 0, i, _, _ => .error (peekFault src .recursionLimitExceeded i)
  | _ + 1, i, [], _ => .ok i
  | fuel + 1, i, array :: outer, afterValue =>
    let i := skipSpace src i
    let next (j : Nat) : Except Located Nat :=
      if array then skipFrom src fuel j (array :: outer)
      else
        match skipKey src j with
        | .ok k => skipFrom src fuel k (array :: outer)
        | .error l => .error l
    match byteAt src i with
    | none => .error (peekFault src (eofIn array) i)
    | some b =>
      if b == 44 && afterValue then next (i + 1)
      else if (b == 93 && array) || (b == 125 && !array) then
        if outer.isEmpty then .ok (i + 1) else closeFrom src fuel (i + 1) outer true
      else if afterValue then .error (peekFault src (commaOrEnd array) i)
      else next i
end

/-- Skips one value at `i`, giving the offset after it. -/
def skipValue (src : ByteArray) (i : Nat) : Except Located Nat :=
  skipFrom src (2 * src.size + 8) i []

end HeaderBidding.Json
