import HeaderBidding.Schema.Value
import HeaderBidding.Json.Skip

/-!
# Reading JSON text by a schema

`Schema.readText` reads a text by a schema in one pass, left to right, and reports the first
fault or refusal where that pass meets it. It differs from reading the text into a value and
then the value by the schema (`Schema.read`) in three ways:

- members are met in the order written, so a refusal of an early member wins over a later one;
- members that no field takes are skipped by `Json.skipValue`, with its own checks;
- unions are read by keeping a part of the text whole (`Json.readValue`) and reading that part
  afterwards (`Schema.readHeld`).

A refusal is placed at the offset the pass had reached when the refusal was found, at the end
of the innermost scalar, array or object read by the text reader around it. A refusal found by
a record or list after one of its members failed without a place is placed after the closing
bracket if that comes next (or after a comma that comes next, for a list). A refusal found
after the outermost value was read, such as a union that no alternative fits at the top, has
no place.

Every fault also carries the path of members and items from the top to the value being read.
-/

namespace HeaderBidding

namespace Schema

open Json

/-- What went wrong: a fault of the text, or a value that the schema refuses. -/
inductive Problem where
  | malformed (f : Fault)
  | data (e : DecodeError)

/-- A fault or refusal of reading a text by a schema, with the offset it is placed at (if any),
the offset reached when it was found, and the path to the value being read. -/
structure TextError where
  problem : Problem
  offset : Option Nat
  stop : Nat
  path : List Segment

namespace TextError

/-- A located fault of the text. -/
def ofLocated (l : Located) : TextError :=
  ⟨.malformed l.fault, some l.offset, l.offset, l.path⟩

/-- A refusal found at offset `k`, not yet placed. -/
def refusal (e : DecodeError) (k : Nat) : TextError :=
  ⟨.data e, none, k, []⟩

/-- A refusal placed at offset `k`. -/
def placed (e : DecodeError) (k : Nat) : TextError :=
  ⟨.data e, some k, k, []⟩

/-- Places a refusal that has no place yet. -/
def fixAt (k : Nat) (e : TextError) : TextError :=
  match e.offset with
  | some _ => e
  | none => { e with offset := some k }

/-- A fault met inside a part, seen from the whole. -/
def under (seg : Segment) (e : TextError) : TextError :=
  { e with path := seg :: e.path }

end TextError

/-- Reading result: a canonical document and the offset after it. -/
abbrev TextStep := Except TextError (Json × Nat)

/-- Lifts a located reading step. -/
def lift {α : Type} : Except Located α → Except TextError α
  | .ok a => .ok a
  | .error l => .error (.ofLocated l)

/-- The refusal of the value at `j` for a reader expecting `expected`: a scalar is read first
and the refusal placed after it; an array or object is refused where it opens. -/
def invalidAt (src : ByteArray) (j : Nat) (expected : String) : TextError :=
  let refuse (r : Except Located (Json × Nat)) : TextError :=
    match r with
    | .ok (v, k) => .placed (.invalidType (.ofJson v) expected) k
    | .error l => .ofLocated l
  match byteAt src j with
  | some 110 => refuse ((readWord src [117, 108, 108] (j + 1)).map fun k => (.null, k))
  | some 116 => refuse ((readWord src [114, 117, 101] (j + 1)).map fun k => (.bool true, k))
  | some 102 => refuse ((readWord src [97, 108, 115, 101] (j + 1)).map fun k => (.bool false, k))
  | some 45 => refuse (readNumber src true (j + 1))
  | some 34 => refuse ((readString src (j + 1)).map fun (s, k) => (.str s, k))
  | some 91 => .placed (.invalidType .seq expected) j
  | some 123 => .placed (.invalidType .map expected) j
  | some b =>
    if isDigitByte b then refuse (readNumber src false j)
    else .ofLocated (peekFault src .expectedSomeValue j)
  | none => .ofLocated (peekFault src .expectedSomeValue j)

/-- The fault of a value missing at the end of the text. -/
def eofValue (src : ByteArray) (j : Nat) : TextError :=
  .ofLocated (peekFault src .eofWhileParsingValue j)

/-- The fault of nesting too deep, at an opening bracket at `j`. -/
def tooDeep (src : ByteArray) (j : Nat) : TextError :=
  .ofLocated (peekFault src .recursionLimitExceeded j)

/-- Where an object whose reading failed at `k` is left: after its closing brace if that comes
next. -/
def closeObject (src : ByteArray) (k : Nat) : Nat :=
  let k := skipSpace src k
  if byteAt src k = some 125 then k + 1 else k

/-- Where an array whose reading failed at `k` is left: after its closing bracket, or after a
comma and the blanks behind it, if one of those comes next. -/
def closeArray (src : ByteArray) (k : Nat) : Nat :=
  let k := skipSpace src k
  match byteAt src k with
  | some 93 => k + 1
  | some 44 => skipSpace src (k + 1)
  | _ => k

/-- The end of an array whose items were all taken, at `k`: its closing bracket, or the fault
of what stands there instead. -/
def endArray (src : ByteArray) (k : Nat) : Except Located Nat :=
  let k := skipSpace src k
  match byteAt src k with
  | some 93 => .ok (k + 1)
  | some 44 =>
    let j := skipSpace src (k + 1)
    if byteAt src j = some 93 then .error (peekFault src .trailingComma j)
    else .error (peekFault src .trailingCharacters j)
  | some _ => .error (peekFault src .trailingCharacters k)
  | none => .error (peekFault src .eofWhileParsingList k)

/-- The next key of an object at `i`: the closing brace's offset (`inl`), or the key and the
offset after it (`inr`). `first` tells whether no member was read yet. -/
def nextKey (src : ByteArray) (i : Nat) (first : Bool) : Except Located (Sum Nat (String × Nat)) :=
  let i := skipSpace src i
  match byteAt src i with
  | none => .error (peekFault src .eofWhileParsingObject i)
  | some 125 => .ok (.inl i)
  | some b =>
    let start : Except Located Nat :=
      if first then .ok i
      else if b == 44 then .ok (skipSpace src (i + 1))
      else .error (peekFault src .expectedObjectCommaOrEnd i)
    match start with
    | .error l => .error l
    | .ok j =>
      match byteAt src j with
      | some 34 => (readString src (j + 1)).map .inr
      | some 125 => .error (peekFault src .trailingComma j)
      | some _ => .error (peekFault src .keyMustBeAString j)
      | none => .error (peekFault src .eofWhileParsingValue j)

/-- The colon after a key, at or after `k`; gives the offset after it. -/
def colonAt (src : ByteArray) (k : Nat) : Except Located Nat :=
  let k := skipSpace src k
  match byteAt src k with
  | some 58 => .ok (k + 1)
  | some _ => .error (peekFault src .expectedColon k)
  | none => .error (peekFault src .eofWhileParsingObject k)

/-- The next item of an array at `i`: the closing bracket's offset (`inl`), or the offset where
the item starts (`inr`). -/
def nextItem (src : ByteArray) (i : Nat) (first : Bool) : Except Located (Sum Nat Nat) :=
  let i := skipSpace src i
  match byteAt src i with
  | none => .error (peekFault src .eofWhileParsingList i)
  | some 93 => .ok (.inl i)
  | some b =>
    if first then .ok (.inr i)
    else if b == 44 then
      let j := skipSpace src (i + 1)
      match byteAt src j with
      | some 93 => .error (peekFault src .trailingComma j)
      | some _ => .ok (.inr j)
      | none => .error (peekFault src .eofWhileParsingValue j)
    else .error (peekFault src .expectedListCommaOrEnd i)

/-- Reads a variant name at `i`. -/
def readVariant (src : ByteArray) (variants : List (String × Schema)) (i : Nat) :
    Except TextError ((String × Schema) × Nat) :=
  let j := skipSpace src i
  match byteAt src j with
  | none => .error (eofValue src j)
  | some 34 =>
    match readString src (j + 1) with
    | .error l => .error (.ofLocated l)
    | .ok (name, k) =>
      match variants.find? (·.1 == name) with
      | some found => .ok (found, k)
      | none => .error (.placed (.unknownVariant name (variants.map (·.1))) k)
  | some _ => .error (invalidAt src j "variant identifier")

/-- Reads a value at `i` as a part kept whole, with `depth` nesting left. -/
def readPart (src : ByteArray) (depth i : Nat) : Except TextError (Json × Nat) :=
  lift (readValue src (fuelFor src) depth i)

/-- Skips the value of a member that no field takes; `k` is after the key. -/
def skipMember (src : ByteArray) (key : String) (k : Nat) : Except TextError Nat :=
  match colonAt src k with
  | .error l => .error (.ofLocated l)
  | .ok m =>
    match skipValue src m with
    | .error l => .error ((TextError.ofLocated l).under (.key key))
    | .ok n => .ok n

/-- Reads a held part by a schema; a refusal is found at `k`, without a place. -/
def heldAt (s : Schema) (part : Json) (k : Nat) : Except TextError Json :=
  match readHeld s part with
  | .ok d => .ok d
  | .error e => .error (.refusal e k)

/-- A member of an adjacently tagged object: the tag (`true`) or the content (`false`), with the
offset after its key; or the closing brace's offset. -/
abbrev Relevant := Sum Nat (Bool × Nat)

mutual
/-- Reads a value at `i` by a schema, with `depth` nesting left. -/
def readBy (src : ByteArray) : Nat → Schema → Nat → Nat → TextStep
  | 0, _, _, i => .error (tooDeep src i)
  | fuel + 1, s, depth, i =>
    let j := skipSpace src i
    match s with
    | .string =>
      match byteAt src j with
      | none => .error (eofValue src j)
      | some 34 => lift ((readString src (j + 1)).map fun (t, k) => (.str t, k))
      | some _ => .error (invalidAt src j "a string")
    | .boolean =>
      match byteAt src j with
      | none => .error (eofValue src j)
      | some 116 => lift ((readWord src [114, 117, 101] (j + 1)).map fun k => (.bool true, k))
      | some 102 =>
        lift ((readWord src [97, 108, 115, 101] (j + 1)).map fun k => (.bool false, k))
      | some _ => .error (invalidAt src j "a boolean")
    | .integer kind =>
      let check (r : Except Located (Json × Nat)) : TextStep :=
        match r with
        | .error l => .error (.ofLocated l)
        | .ok (.int n, k) =>
          if kind.holds n then .ok (.int n, k)
          else .error (.placed (.invalidValue (.ofInt n) kind.name) k)
        | .ok (v, k) => .error (.placed (.invalidType (.ofJson v) kind.name) k)
      match byteAt src j with
      | none => .error (eofValue src j)
      | some 45 => check (readNumber src true (j + 1))
      | some b =>
        if isDigitByte b then check (readNumber src false j)
        else .error (invalidAt src j kind.name)
    | .float =>
      let toFloat (r : Except Located (Json × Nat)) : TextStep :=
        match r with
        | .error l => .error (.ofLocated l)
        | .ok (v, k) => .ok (.float ((Json.asFloat v).getD 0), k)
      match byteAt src j with
      | none => .error (eofValue src j)
      | some 45 => toFloat (readNumber src true (j + 1))
      | some b =>
        if isDigitByte b then toFloat (readNumber src false j)
        else .error (invalidAt src j "f64")
    | .optional inner =>
      match byteAt src j with
      | some 110 => lift ((readWord src [117, 108, 108] (j + 1)).map fun k => (.null, k))
      | _ => readBy src fuel inner depth j
    | .list item =>
      match byteAt src j with
      | none => .error (eofValue src j)
      | some 91 =>
        if depth ≤ 1 then .error (tooDeep src j)
        else
          match readItems src fuel item (depth - 1) (j + 1) true [] with
          | .error e => .error (e.fixAt (closeArray src e.stop))
          | .ok (items, k) => .ok (.arr items, k + 1)
      | some _ => .error (invalidAt src j "a sequence")
    | .record name fields =>
      match byteAt src j with
      | none => .error (eofValue src j)
      | some 123 =>
        if depth ≤ 1 then .error (tooDeep src j)
        else
          match readFields src fuel fields (depth - 1) (j + 1) true [] with
          | .error e => .error (e.fixAt (closeObject src e.stop))
          | .ok (found, k) =>
            match assemble fields found with
            | .ok members => .ok (.obj members, k + 1)
            | .error d => .error (.placed d (k + 1))
      | some 91 =>
        if depth ≤ 1 then .error (tooDeep src j)
        else
          match readPositional src fuel name fields.length fields (depth - 1) (j + 1) 0 true []
          with
          | .error e => .error (e.fixAt (closeArray src e.stop))
          | .ok (found, k) =>
            match lift (endArray src k) with
            | .error e => .error e
            | .ok n =>
              match assemble fields found with
              | .ok members => .ok (.obj members, n)
              | .error d => .error (.placed d n)
      | some _ => .error (invalidAt src j ("struct " ++ name))
    | .tagged name tag variants =>
      match byteAt src j with
      | none => .error (eofValue src j)
      | some 123 =>
        if depth ≤ 1 then .error (tooDeep src j)
        else
          match readTagged src fuel tag variants (depth - 1) (j + 1) true none [] with
          | .error e => .error (e.fixAt (closeObject src e.stop))
          | .ok (none, _, k) => .error (.placed (.missingField tag) (k + 1))
          | .ok (some (v, vs), rest, k) =>
            (heldAt vs (.obj rest) (k + 1)).map fun body => (withTag tag v body, k + 1)
      | some 91 =>
        if depth ≤ 1 then .error (tooDeep src j)
        else
          let opened : Except TextError ((String × Schema) × List Json × Nat) :=
            match lift (nextItem src (j + 1) true) with
            | .error e => .error e
            | .ok (.inl k) => .error (.refusal (.missingField tag) k)
            | .ok (.inr k) =>
              match readVariant src variants k with
              | .error e => .error (e.under (.index 0))
              | .ok (found, m) =>
                match readParts src fuel (depth - 1) m 1 [] with
                | .error e => .error e
                | .ok (rest, n) => .ok (found, rest, n)
          match opened with
          | .error e => .error (e.fixAt (closeArray src e.stop))
          | .ok ((v, vs), rest, n) =>
            (heldAt vs (.arr rest) (n + 1)).map fun body => (withTag tag v body, n + 1)
      | some _ => .error (invalidAt src j ("internally tagged enum " ++ name))
    | .adjacent name tag content variants =>
      let expected := "adjacently tagged enum " ++ name
      match byteAt src j with
      | none => .error (eofValue src j)
      | some 123 =>
        if depth ≤ 1 then .error (tooDeep src j)
        else
          match readAdjacent src fuel tag content variants (depth - 1) (j + 1) with
          | .error e => .error (e.fixAt (closeObject src e.stop))
          | .ok (d, k) => .ok (d, k + 1)
      | some 91 =>
        if depth ≤ 1 then .error (tooDeep src j)
        else
          let pair : Except TextError (Json × Nat) :=
            match lift (nextItem src (j + 1) true) with
            | .error e => .error e
            | .ok (.inl k) => .error (.refusal (.invalidLength 0 expected) k)
            | .ok (.inr k) =>
              match readVariant src variants k with
              | .error e => .error (e.under (.index 0))
              | .ok ((v, vs), m) =>
                match lift (nextItem src m false) with
                | .error e => .error e
                | .ok (.inl n) => .error (.refusal (.invalidLength 1 expected) n)
                | .ok (.inr n) =>
                  match readBy src fuel vs (depth - 1) n with
                  | .error e => .error (e.under (.index 1))
                  | .ok (body, p) => .ok (.obj [(tag, .str v), (content, body)], p)
          match pair with
          | .error e => .error (e.fixAt (closeArray src e.stop))
          | .ok (d, p) => (lift (endArray src p)).map fun n => (d, n)
      | some _ => .error (invalidAt src j expected)
    | .untagged name alternatives =>
      match readPart src depth j with
      | .error e => .error e
      | .ok (part, k) =>
        match firstFit depthAllowance .content name alternatives part with
        | .ok d => .ok (d, k)
        | .error e => .error (.refusal e k)
    | .lenient =>
      match byteAt src j with
      | some 110 => lift ((readWord src [117, 108, 108] (j + 1)).map fun k => (.int 0, k))
      | _ => (readPart src depth j).map fun (part, k) => (.int (lenientValue part), k)
    | .code name codes =>
      match readBy src fuel (.integer .u8) depth j with
      | .error e => .error e
      | .ok (.int n, k) =>
        if codes.contains n.toNat then .ok (.int n, k)
        else .error (.refusal (badCode name n.toNat) k)
      | .ok other => .ok other
    | .uuid =>
      match byteAt src j with
      | none => .error (eofValue src j)
      | some 34 =>
        match readString src (j + 1) with
        | .error l => .error (.ofLocated l)
        | .ok (t, k) =>
          match Token.Uuid.parse t with
          | .ok u => .ok (.str u.render, k)
          | .error e => .error (.placed (.custom ("UUID parsing failed: " ++ e.message)) k)
      | some _ => .error (invalidAt src j "a UUID string")
    | .any => (readPart src depth j).map fun (part, k) => (part.normalize, k)

/-- Reads the items of a list after `[` (or after an item) up to its closing bracket, whose
offset is given. -/
def readItems (src : ByteArray) : Nat → Schema → Nat → Nat → Bool → List Json →
    Except TextError (List Json × Nat)
  | 0, _, _, i, _, _ => .error (tooDeep src i)
  | fuel + 1, item, depth, i, first, acc =>
    match lift (nextItem src i first) with
    | .error e => .error e
    | .ok (.inl k) => .ok (acc, k)
    | .ok (.inr k) =>
      match readBy src fuel item depth k with
      | .error e => .error (e.under (.index acc.length))
      | .ok (v, n) => readItems src fuel item depth n false (acc ++ [v])

/-- Reads the rest of an array as parts kept whole, numbering them from `index`. -/
def readParts (src : ByteArray) : Nat → Nat → Nat → Nat → List Json →
    Except TextError (List Json × Nat)
  | 0, _, i, _, _ => .error (tooDeep src i)
  | fuel + 1, depth, i, index, acc =>
    match lift (nextItem src i false) with
    | .error e => .error e
    | .ok (.inl k) => .ok (acc, k)
    | .ok (.inr k) =>
      match readPart src depth k with
      | .error e => .error (e.under (.index index))
      | .ok (v, n) => readParts src fuel depth n (index + 1) (acc ++ [v])

/-- Reads the members of a record after `{` (or after a member) up to its closing brace, whose
offset is given, with the fields found so far. -/
def readFields (src : ByteArray) : Nat → List (String × Schema × FieldRule) → Nat → Nat → Bool →
    List (String × Json) → Except TextError (List (String × Json) × Nat)
  | 0, _, _, i, _, _ => .error (tooDeep src i)
  | fuel + 1, fields, depth, i, first, found =>
    match lift (nextKey src i first) with
    | .error e => .error e
    | .ok (.inl k) => .ok (found, k)
    | .ok (.inr (key, k)) =>
      match fields.find? (·.1 == key) with
      | some (_, fs, _) =>
        if found.any (·.1 == key) then .error (.refusal (.duplicateField key) k)
        else
          match lift (colonAt src k) with
          | .error e => .error e
          | .ok m =>
            match readBy src fuel fs depth m with
            | .error e => .error (e.under (.key key))
            | .ok (v, n) => readFields src fuel fields depth n false (found ++ [(key, v)])
      | none =>
        match skipMember src key k with
        | .error e => .error e
        | .ok n => readFields src fuel fields depth n false found

/-- Reads the items of a record written as an array, one per field in order; a missing item
takes the field's fallback or is refused. Gives the offset after the last item read. -/
def readPositional (src : ByteArray) : Nat → String → Nat → List (String × Schema × FieldRule) →
    Nat → Nat → Nat → Bool → List (String × Json) → Except TextError (List (String × Json) × Nat)
  | 0, _, _, _, _, i, _, _, _ => .error (tooDeep src i)
  | _ + 1, _, _, [], _, i, _, _, found => .ok (found, i)
  | fuel + 1, name, count, (key, s, rule) :: rest, depth, i, index, first, found =>
    match lift (nextItem src i first) with
    | .error e => .error e
    | .ok (.inl k) =>
      match rule with
      | .fallback d =>
        readPositional src fuel name count rest depth k (index + 1) first (found ++ [(key, d)])
      | _ =>
        .error (.refusal (.invalidLength index
          ("struct " ++ name ++ " with " ++ toString count ++ " elements")) k)
    | .ok (.inr k) =>
      match readBy src fuel s depth k with
      | .error e => .error (e.under (.index index))
      | .ok (v, n) =>
        readPositional src fuel name count rest depth n (index + 1) false (found ++ [(key, v)])

/-- Reads the members of an internally tagged object after `{` up to its closing brace: the
variant the tag names, and the other members kept whole in order. -/
def readTagged (src : ByteArray) : Nat → String → List (String × Schema) → Nat → Nat → Bool →
    Option (String × Schema) → List (String × Json) →
    Except TextError (Option (String × Schema) × List (String × Json) × Nat)
  | 0, _, _, _, i, _, _, _ => .error (tooDeep src i)
  | fuel + 1, tag, variants, depth, i, first, chosen, rest =>
    match lift (nextKey src i first) with
    | .error e => .error e
    | .ok (.inl k) => .ok (chosen, rest, k)
    | .ok (.inr (key, k)) =>
      match lift (colonAt src k) with
      | .error e =>
        if key == tag && chosen.isSome then .error (.refusal (.duplicateField tag) k)
        else .error e
      | .ok m =>
        if key == tag then
          if chosen.isSome then .error (.refusal (.duplicateField tag) k)
          else
            match readVariant src variants m with
            | .error e => .error (e.under (.key tag))
            | .ok (found, n) => readTagged src fuel tag variants depth n false (some found) rest
        else
          match readPart src depth m with
          | .error e => .error (e.under (.key key))
          | .ok (v, n) => readTagged src fuel tag variants depth n false chosen (rest ++ [(key, v)])

/-- The next member of an adjacently tagged object that is its tag or its content; other
members are skipped. -/
def nextRelevant (src : ByteArray) : Nat → String → String → Nat → Bool →
    Except TextError Relevant
  | 0, _, _, i, _ => .error (tooDeep src i)
  | fuel + 1, tag, content, i, first =>
    match lift (nextKey src i first) with
    | .error e => .error e
    | .ok (.inl k) => .ok (.inl k)
    | .ok (.inr (key, k)) =>
      if key == tag then .ok (.inr (true, k))
      else if key == content then .ok (.inr (false, k))
      else
        match skipMember src key k with
        | .error e => .error e
        | .ok n => nextRelevant src fuel tag content n false

/-- Reads the members of an adjacently tagged object after `{` up to its closing brace, whose
offset is given. -/
def readAdjacent (src : ByteArray) : Nat → String → String → List (String × Schema) → Nat →
    Nat → Except TextError (Json × Nat)
  | 0, _, _, _, _, i => .error (tooDeep src i)
  | fuel + 1, tag, content, variants, depth, i =>
    let relevant (k : Nat) : Except TextError Relevant := nextRelevant src fuel tag content k false
    let finish (d : Json) (k : Nat) : Except TextError (Json × Nat) :=
      match relevant k with
      | .error e => .error e
      | .ok (.inl n) => .ok (d, n)
      | .ok (.inr (true, n)) => .error (.refusal (.duplicateField tag) n)
      | .ok (.inr (false, n)) => .error (.refusal (.duplicateField content) n)
    match nextRelevant src fuel tag content i true with
    | .error e => .error e
    | .ok (.inl k) => .error (.refusal (.missingField tag) k)
    | .ok (.inr (true, k)) =>
      match lift (colonAt src k) with
      | .error e => .error e
      | .ok m =>
        match readVariant src variants m with
        | .error e => .error (e.under (.key tag))
        | .ok ((v, vs), n) =>
          match relevant n with
          | .error e => .error e
          | .ok (.inl p) => .error (.refusal (.missingField content) p)
          | .ok (.inr (true, p)) => .error (.refusal (.duplicateField tag) p)
          | .ok (.inr (false, p)) =>
            match lift (colonAt src p) with
            | .error e => .error e
            | .ok q =>
              match readBy src fuel vs depth q with
              | .error e => .error (e.under (.key content))
              | .ok (body, r) => finish (.obj [(tag, .str v), (content, body)]) r
    | .ok (.inr (false, k)) =>
      match lift (colonAt src k) with
      | .error e => .error e
      | .ok m =>
        match readPart src depth m with
        | .error e => .error (e.under (.key content))
        | .ok (part, n) =>
          match relevant n with
          | .error e => .error e
          | .ok (.inl p) => .error (.refusal (.missingField tag) p)
          | .ok (.inr (false, p)) => .error (.refusal (.duplicateField content) p)
          | .ok (.inr (true, p)) =>
            match lift (colonAt src p) with
            | .error e => .error e
            | .ok q =>
              match readVariant src variants q with
              | .error e => .error (e.under (.key tag))
              | .ok ((v, vs), r) =>
                match heldAt vs part r with
                | .error e => .error e
                | .ok body => finish (.obj [(tag, .str v), (content, body)]) r
end

/-- Reading allowance for a text by a schema. -/
def textFuel (src : ByteArray) : Nat :=
  4 * src.size + 64

/-- Reads a whole text by a schema; only blanks may follow the value. -/
def readBytes (s : Schema) (src : ByteArray) : Except TextError Json :=
  match readBy src (textFuel src) s depthLimit 0 with
  | .error e => .error e
  | .ok (v, i) =>
    let j := skipSpace src i
    if j < src.size then .error (.ofLocated (peekFault src .trailingCharacters j)) else .ok v

/-- Reads a whole text by a schema. -/
def readText (s : Schema) (text : String) : Except TextError Json :=
  readBytes s text.toUTF8

/-- The message of a fault or refusal of a text: its wording, then the line and column when it
has a place. -/
def TextError.message (src : ByteArray) (e : TextError) : String :=
  let wording := match e.problem with
    | .malformed f => f.message
    | .data d => d.message
  match e.offset with
  | none => wording
  | some k =>
    let (line, column) := position src k
    wording ++ " at line " ++ toString line ++ " column " ++ toString column

end Schema

end HeaderBidding
