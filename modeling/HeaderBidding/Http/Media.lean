/-!
# Media types

A media type names a kind of content: `type/subtype`, an optional structured-syntax suffix after
the last `+` of the subtype (`application/vnd.api+json` has the suffix `json`), then parameters
`;name=value`, where a value is a token or a quoted string. Names compare without regard to
case. A header value with a character outside visible ASCII (tabs apart) is not read at all.

`MediaType.parse?` reads a header value by that grammar; `MediaType.isJson` says whether content
of the type is JSON: the type is `application` and either the subtype or the suffix is `json`.
-/

namespace HeaderBidding.Http

/-- A media type's type, subtype and suffix, in lower case. -/
structure MediaType where
  type : String
  subtype : String
  suffix : Option String
  deriving DecidableEq, Repr

namespace MediaType

/-- The symbols allowed in a token besides letters and digits. -/
def tokenSymbols : List Char :=
  "!#$%&'*+-.^_`|~".toList

/-- Whether a character may stand in a token. -/
def isTokenChar (c : Char) : Bool :=
  (c.isAlphanum && c.toNat < 128) || tokenSymbols.contains c

/-- Whether a character may stand inside a quoted parameter value. -/
def isQuotedChar (c : Char) : Bool :=
  c.toNat > 31 && c.toNat ≠ 127

/-- The rest of a parameter list after a quoted value has closed: blanks, then the end or a
`;` that starts the next parameter. -/
def afterQuoted : List Char → Option (List Char)
  | [] => some []
  | ';' :: rest => some rest
  | ' ' :: rest => afterQuoted rest
  | _ :: _ => none

/-- The rest of a quoted value up to and after its closing quote. A quote right after the
opening one is part of the value, so the value is never empty. -/
def quotedValue (first : Bool) : List Char → Option (List Char)
  | [] => none
  | '"' :: rest => if first then quotedValue false rest else afterQuoted rest
  | c :: rest => if isQuotedChar c then quotedValue false rest else none

/-- The rest of a token value after its end: the end of the text, or a `;`. -/
def tokenValue (first : Bool) : List Char → Option (List Char)
  | [] => some []
  | ';' :: rest => if first then none else some rest
  | c :: rest => if isTokenChar c then tokenValue false rest else none

/-- The rest of a parameter's name after its `=`; the name may not be empty. -/
def paramName (first : Bool) : List Char → Option (List Char)
  | [] => none
  | '=' :: rest => if first then none else some rest
  | c :: rest => if isTokenChar c then paramName false rest else none

/-- Whether a parameter list is well formed. A blank may stand before a parameter's name. -/
def paramsOk (cs : List Char) : Bool :=
  go cs.length cs
where
  /-- Reads the parameters; `fuel` bounds the number of parameters. -/
  go : Nat → List Char → Bool
  | _, [] => true
  | 0, _ => false
  | fuel + 1, ' ' :: rest => go fuel rest
  | fuel + 1, cs =>
    match paramName true cs with
    | none => false
    | some ('"' :: rest) =>
      match quotedValue true rest with
      | some after => decide (after.length < cs.length) && go fuel after
      | none => false
    | some rest =>
      match tokenValue true rest with
      | some after => decide (after.length < cs.length) && go fuel after
      | none => false

/-- Splits a subtype at its last `+`, if one stands after its first character. -/
def splitSuffix (sub : List Char) : List Char × Option (List Char) :=
  match sub with
  | [] => ([], none)
  | c :: rest =>
    let pluses := (List.range rest.length).filter fun i => rest[i]? = some '+'
    match pluses.getLast? with
    | some i => (c :: rest.take i, some (rest.drop (i + 1)))
    | none => (sub, none)

/-- Reads a media type. -/
def parse? (text : String) : Option MediaType :=
  let cs := text.toList
  let type := cs.takeWhile isTokenChar
  match cs.drop type.length with
  | '/' :: rest =>
    if type.isEmpty then none
    else
      let sub := rest.takeWhile isTokenChar
      let after := rest.drop sub.length
      let paramsFine : Bool :=
        match after with
        | [] => true
        | ';' :: params => !sub.isEmpty && paramsOk params
        | _ => false
      if !paramsFine then none
      else
        let (subtype, suffix) := splitSuffix sub
        let lower (l : List Char) : String := String.ofList (l.map Char.toLower)
        some ⟨lower type, lower subtype, suffix.map lower⟩
  | _ => none

/-- Whether content of the type is JSON. -/
def isJson (m : MediaType) : Bool :=
  m.type == "application" && (m.subtype == "json" || m.suffix == some "json")

end MediaType

/-- Whether a header value is readable text: visible ASCII characters, spaces and tabs. -/
def isVisibleText (text : String) : Bool :=
  text.all fun c => (32 ≤ c.toNat && c.toNat < 127) || c = '\t'

/-- Whether a content-type header says the content is JSON; a header value that is not readable
text says nothing. -/
def isJsonContent (header : Option String) : Bool :=
  match header.filter isVisibleText |>.bind MediaType.parse? with
  | some m => m.isJson
  | none => false

end HeaderBidding.Http
