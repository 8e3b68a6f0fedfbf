import HeaderBidding.Json.Basic
import HeaderBidding.Decimal.Text

/-!
# Writing JSON

The compact text of a document: no blanks, members in the order held, integers in full,
floats by `Decimal.Notation.json` (a float without digits, a NaN or an infinity, is written
`null`), and strings with `"` and `\` escaped, the controls `\b`, `\f`, `\n`, `\r`, `\t` by
letter and the other controls below `U+0020` as `\u00XX` in lowercase hex. All other characters,
`U+007F` and non-ASCII ones included, are written as they are.
-/

namespace HeaderBidding.Json

/-- The characters that stand for one character inside a JSON string. -/
def escapeChar (c : Char) : List Char :=
  if c = '"' then ['\\', '"']
  else if c = '\\' then ['\\', '\\']
  else if c = '\x08' then ['\\', 'b']
  else if c = '\x0c' then ['\\', 'f']
  else if c = '\n' then ['\\', 'n']
  else if c = '\r' then ['\\', 'r']
  else if c = '\t' then ['\\', 't']
  else if c.toNat < 0x20 then
    let hex := Nat.toDigits 16 c.toNat
    ['\\', 'u', '0', '0'] ++ List.replicate (2 - hex.length) '0' ++ hex
  else [c]

/-- A string literal. -/
def quoteString (s : String) : String :=
  String.ofList ('"' :: s.toList.flatMap escapeChar ++ ['"'])

/-- A float as a JSON number, or `null` when it has no digits. -/
def floatText (f : Float) : String :=
  if Decimal.isFinite f then Decimal.Notation.json.render f else "null"

mutual
/-- The compact text of a document. -/
def compact : Json → String
  | .null => "null"
  | .bool b => if b then "true" else "false"
  | .int i => toString i
  | .float f => floatText f
  | .str s => quoteString s
  | .arr items => "[" ++ compactItems items ++ "]"
  | .obj members => "\x7b" ++ compactMembers members ++ "\x7d"

/-- Items separated by commas. -/
def compactItems : List Json → String
  | [] => ""
  | [j] => compact j
  | j :: rest => compact j ++ "," ++ compactItems rest

/-- Members `"key":value` separated by commas. -/
def compactMembers : List (String × Json) → String
  | [] => ""
  | [(k, v)] => quoteString k ++ ":" ++ compact v
  | (k, v) :: rest => quoteString k ++ ":" ++ compact v ++ "," ++ compactMembers rest
end

example : compact (.obj [("a", .arr [.int 1, .null, .str "x\n"])]) =
    "\x7b\"a\":[1,null,\"x\\n\"]\x7d" := by decide +kernel

end HeaderBidding.Json
