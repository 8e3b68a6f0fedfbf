import HeaderBidding.Text.Printable

/-!
# Quoted text

A string written between double quotes so that every character can be seen: the quote and the
backslash get a backslash, tab, carriage return, line feed and NUL their letter escapes, and a
character that does not print on its own is written `\u{hex}` with lowercase hex digits and no
leading zeros. Everything else is written as it is.

Which characters do not print on their own is said by `Text.Printable`.
-/

namespace HeaderBidding.Text

/-- The characters that stand for one character inside quotes. -/
def quoteChar (c : Char) : List Char :=
  if c = '"' then ['\\', '"']
  else if c = '\\' then ['\\', '\\']
  else if c = '\t' then ['\\', 't']
  else if c = '\r' then ['\\', 'r']
  else if c = '\n' then ['\\', 'n']
  else if c = '\x00' then ['\\', '0']
  else if isHidden c then ['\\', 'u', '\x7b'] ++ Nat.toDigits 16 c.toNat ++ ['\x7d']
  else [c]

/-- A string between double quotes, each character written by `quoteChar`. -/
def quote (s : String) : String :=
  String.ofList ('"' :: s.toList.flatMap quoteChar ++ ['"'])

example : quote "a\"b\\c\n\x07\t" = "\"a\\\"b\\\\c\\n\\u\x7b7\x7d\\t\"" := by decide +kernel

end HeaderBidding.Text
