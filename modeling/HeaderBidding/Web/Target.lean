import HeaderBidding.Web.Form

/-!
# Normal form of web addresses

A web address is called in its normal form. The text is first cleaned: leading and trailing
controls and spaces are dropped, and tabs and line breaks removed anywhere. Up to the end of the
host and port (`scheme://authority`) the address stays as it is; then:

- the path is cut into segments at `/` and `\`; a segment `.` is dropped and a segment `..`
  drops the segment before it (either also when written with `%2e`), and when such a segment is
  the last one the path ends with `/`; an empty path is `/`;
- characters are percent-encoded from their UTF-8 bytes: in the path controls, non-ASCII
  characters, space and ``"#<>?`{}``; in the query (after `?`) controls, non-ASCII characters,
  space and `"#<>'`; in the fragment (after `#`) controls, non-ASCII characters, space and
  ``"<>` ``.

A query added to an address goes after any query it has, joined by `&` unless that query is
empty, and before its fragment.
-/

namespace HeaderBidding.Web

/-- Whether a character is written percent-encoded in a path. -/
def pathEscapes (c : Char) : Bool :=
  c.toNat < 32 || c.toNat > 126 || " \"#<>?`\x7b\x7d".contains c

/-- Whether a character is written percent-encoded in a query. -/
def queryEscapes (c : Char) : Bool :=
  c.toNat < 32 || c.toNat > 126 || " \"#<>'".contains c

/-- Whether a character is written percent-encoded in a fragment. -/
def fragmentEscapes (c : Char) : Bool :=
  c.toNat < 32 || c.toNat > 126 || " \"<>`".contains c

/-- A text with the characters `escapes` picks percent-encoded. -/
def percentEncode (escapes : Char → Bool) (s : List Char) : String :=
  String.join (s.map fun c =>
    if escapes c then
      String.join (c.toString.toUTF8.toList.map fun b =>
        String.ofList ['%', hexUpper (b.toNat / 16), hexUpper (b.toNat % 16)])
    else c.toString)

/-- Whether a path segment stands for the current directory. -/
def isSingleDot (seg : List Char) : Bool :=
  let s := (String.ofList seg).toLower
  s == "." || s == "%2e"

/-- Whether a path segment stands for the parent directory. -/
def isDoubleDot (seg : List Char) : Bool :=
  let s := (String.ofList seg).toLower
  s == ".." || s == ".%2e" || s == "%2e." || s == "%2e%2e"

/-- Splits a text at every character that `sep` picks. -/
def splitWhere (sep : Char → Bool) (cs : List Char) : List (List Char) :=
  let step (acc : List (List Char) × List Char) (c : Char) : List (List Char) × List Char :=
    if sep c then (acc.1 ++ [acc.2], []) else (acc.1, acc.2 ++ [c])
  let (done, last) := cs.foldl step ([], [])
  done ++ [last]

/-- The segments of a path once dot segments are resolved. -/
def resolveSegments (segs : List (List Char)) : List String :=
  let n := segs.length
  let step (acc : List String × Nat) (seg : List Char) : List String × Nat :=
    let (path, i) := acc
    let isLast := i + 1 = n
    if isDoubleDot seg then (path.dropLast ++ (if isLast then [""] else []), i + 1)
    else if isSingleDot seg then (path ++ (if isLast then [""] else []), i + 1)
    else (path ++ [percentEncode pathEscapes seg], i + 1)
  (segs.foldl step ([], 0)).1

/-- The normal form of a path (without query or fragment). -/
def normalPath (path : List Char) : String :=
  let isSep (c : Char) : Bool := c = '/' || c = '\\'
  let rest := match path with
    | c :: more => if isSep c then more else path
    | [] => []
  "/" ++ "/".intercalate (resolveSegments (splitWhere isSep rest))

/-- The normal form of what follows the authority: path, query and fragment. -/
def normalTarget (target : List Char) : String :=
  let path := target.takeWhile fun c => c ≠ '?' && c ≠ '#'
  let after := target.drop path.length
  let (query, fragment) := match after with
    | '?' :: more =>
      let q := more.takeWhile (· ≠ '#')
      (some q, match more.drop q.length with
        | '#' :: f => some f
        | _ => none)
    | '#' :: f => (none, some f)
    | _ => (none, none)
  normalPath path ++
    (match query with
     | some q => "?" ++ percentEncode queryEscapes q
     | none => "") ++
    (match fragment with
     | some f => "#" ++ percentEncode fragmentEscapes f
     | none => "")

/-- Whether a character is dropped from the ends of an address. -/
def isEdgeBlank (c : Char) : Bool :=
  c.toNat ≤ 32

/-- A cleaned address cut into its `scheme://authority` part and the target after it; a text of
another shape is all target. -/
def splitAddress (url : String) : String × String :=
  let cs := (url.toList.dropWhile isEdgeBlank).reverse.dropWhile isEdgeBlank |>.reverse
  let cs := cs.filter fun c => c ≠ '\t' && c ≠ '\n' && c ≠ '\r'
  let scheme := cs.takeWhile (· ≠ ':')
  match cs.drop scheme.length with
  | ':' :: '/' :: '/' :: more =>
    let authority := more.takeWhile fun c => c ≠ '/' && c ≠ '\\' && c ≠ '?' && c ≠ '#'
    (String.ofList (scheme ++ [':', '/', '/'] ++ authority),
      String.ofList (more.drop authority.length))
  | _ => ("", String.ofList cs)

/-- An address with a query added: after the query it has, if any (joined by `&` unless that
query is empty), and before its fragment. -/
def withQuery (url : String) (query : String) : String :=
  let cs := url.toList
  let before := cs.takeWhile (· ≠ '#')
  let fragment := String.ofList (cs.drop before.length)
  let sep := if !before.contains '?' then "?"
    else if before.getLast? = some '?' then "" else "&"
  String.ofList before ++ sep ++ query ++ fragment

end HeaderBidding.Web
