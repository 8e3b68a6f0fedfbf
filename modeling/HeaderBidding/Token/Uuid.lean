/-!
# Identifiers of 128 bits

A token is a 128-bit identifier written in the hyphenated form `8-4-4-4-12` of lowercase hex
digits. Reading accepts four forms, hex digits in either case:

- simple: 32 hex digits;
- hyphenated: the groups `8-4-4-4-12`;
- braced: a hyphenated form between `{` and `}`;
- URN: a hyphenated form after `urn:uuid:`, the prefix in any case.

A text of none of these forms is refused with the first cause found, in this order: a length
above 45 bytes (no form is that long), a character that is neither a hex digit nor `-` (with its
byte offset in the text), a wrong length (for a text with no hyphen), a wrong number of groups,
a group of the wrong length. The length given for a last group that is too long counts from the
start of that group to the end of the whole text, a closing brace included.
-/

namespace HeaderBidding.Token

/-- A 128-bit identifier. -/
structure Uuid where
  value : Nat
  deriving DecidableEq, Repr

/-- Why a text is not an identifier. -/
inductive UuidError where
  | badChar (c : Char) (offset : Nat)
  | badLength (len : Nat)
  | groupCount (count : Nat)
  | groupLength (group len : Nat)
  deriving DecidableEq, Repr

/-- The wording of a refusal. -/
def UuidError.message : UuidError → String
  | .badChar c offset => "invalid character: found `" ++ c.toString ++ "` at " ++ toString offset
  | .badLength len => "invalid length: found " ++ toString len
  | .groupCount count => "invalid group count: expected 5, found " ++ toString count
  | .groupLength group len =>
    "invalid group length in group " ++ toString group ++ ": expected " ++
      toString ([8, 4, 4, 4, 12].getD group 0) ++ ", found " ++ toString len

/-- The value of a hex digit. -/
def hexDigit? (c : Char) : Option Nat :=
  if '0' ≤ c ∧ c ≤ '9' then some (c.toNat - '0'.toNat)
  else if 'a' ≤ c ∧ c ≤ 'f' then some (c.toNat - 'a'.toNat + 10)
  else if 'A' ≤ c ∧ c ≤ 'F' then some (c.toNat - 'A'.toNat + 10)
  else none

/-- The value of a run of hex digits. -/
def hexValue? (cs : List Char) : Option Nat :=
  cs.foldlM (fun acc c => (hexDigit? c).map (acc * 16 + ·)) 0

/-- The value of 32 hex digits in hyphenated groups `8-4-4-4-12`. -/
def hyphenated? (cs : List Char) : Option Nat :=
  if cs.length = 36 ∧ cs[8]? = some '-' ∧ cs[13]? = some '-' ∧ cs[18]? = some '-' ∧
      cs[23]? = some '-' then
    hexValue? (cs.filter (· ≠ '-')) |>.filter fun _ => (cs.filter (· ≠ '-')).length = 32
  else none

/-- Whether a text starts with the URN prefix `urn:uuid:`, in any case. -/
def hasUrnPrefix (cs : List Char) : Bool :=
  (cs.take 9).map Char.toLower = "urn:uuid:".toList

/-- The hyphenated body of a braced or URN form, with its offset in the text; the whole text
otherwise. The flag tells whether the text may be the simple form. -/
def body (cs : List Char) : List Char × Nat × Bool :=
  if cs.head? = some '{' ∧ cs.getLast? = some '}' ∧ cs.length ≥ 2 then
    ((cs.drop 1).dropLast, 1, false)
  else if hasUrnPrefix cs then (cs.drop 9, 9, false)
  else (cs, 0, true)

/-- Offsets (within the body, in bytes) and characters of a body. -/
def withOffsets : List Char → Nat → List (Nat × Char)
  | [], _ => []
  | c :: rest, pos => (pos, c) :: withOffsets rest (pos + c.utf8Size)

/-- The first cause of refusal of a text that is no identifier. -/
def diagnose (text : String) : UuidError :=
  if text.utf8ByteSize > 45 then .badLength text.utf8ByteSize else
  let cs := text.toList
  let (inner, offset, simple) := body cs
  let indexed := withOffsets inner 0
  match indexed.find? fun (_, c) => c ≠ '-' ∧ (hexDigit? c).isNone with
  | some (pos, c) => .badChar c (pos + offset)
  | none =>
    let hyphens := (indexed.filter fun (_, c) => c = '-').map (·.1)
    if hyphens.isEmpty ∧ simple then .badLength text.utf8ByteSize
    else if hyphens.length ≠ 4 then .groupCount (hyphens.length + 1)
    else
      let ends := [8, 13, 18, 23]
      let starts := [0, 9, 14, 19, 24]
      match ((hyphens.zip ends).zip (List.range 4)).find? fun ((h, e), _) => h ≠ e with
      | some ((h, _), g) => .groupLength g (h - starts.getD g 0)
      | none => .groupLength 4 (text.utf8ByteSize - 24)

/-- Reads an identifier in any of the four forms. -/
def Uuid.parse (text : String) : Except UuidError Uuid :=
  let cs := text.toList
  let value? : Option Nat :=
    if cs.length = 32 then hexValue? cs
    else if cs.length = 36 then hyphenated? cs
    else if cs.length = 38 ∧ cs.head? = some '{' ∧ cs.getLast? = some '}' then
      hyphenated? ((cs.drop 1).dropLast)
    else if cs.length = 45 ∧ hasUrnPrefix cs then hyphenated? (cs.drop 9)
    else none
  match value? with
  | some v => .ok ⟨v⟩
  | none => .error (diagnose text)

/-- `n` hex digits of a value, lowercase, with leading zeros. -/
def hexDigits (n : Nat) (v : Nat) : String :=
  String.ofList ((List.range n).reverse.map fun i => Nat.digitChar ((v / Nat.pow 16 i) % 16))

/-- The hyphenated lowercase form. -/
def Uuid.render (u : Uuid) : String :=
  let h := hexDigits 32 u.value
  let cs := h.toList
  String.ofList (cs.take 8) ++ "-" ++ String.ofList ((cs.drop 8).take 4) ++ "-" ++
    String.ofList ((cs.drop 12).take 4) ++ "-" ++ String.ofList ((cs.drop 16).take 4) ++ "-" ++
    String.ofList (cs.drop 20)

/-- The simple form: 32 lowercase hex digits. -/
def Uuid.renderSimple (u : Uuid) : String :=
  hexDigits 32 u.value

end HeaderBidding.Token
