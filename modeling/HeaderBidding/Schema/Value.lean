import HeaderBidding.Schema.Basic
import HeaderBidding.Decimal.Read
import HeaderBidding.Text.Blank
import HeaderBidding.Token.Uuid

/-!
# Reading a document by a schema

`Schema.decode` reads a document that is already held (a value, or a part of a text kept whole
for a union) by a schema, giving its canonical document or the first refusal met. Members are
visited in the order held, so for a value (keys sorted) the first refusal is that of the first
key in order; missing fields are checked after all members, in declaration order.

The reading depth is bounded by a fuel argument; `Schema.read` gives enough for every schema of
this library.
-/

namespace HeaderBidding

/-- A lenient integer: integers within 64 bits as they are, other numbers and numeric texts
(trimmed) truncated toward zero and clamped into 64 bits (a NaN is `0`), anything else `0`. -/
def lenientValue : Json → Int
  | .int i => if IntKind.i64.holds i then i else Decimal.truncInt64 (Decimal.ofInt i)
  | .float f => Decimal.truncInt64 f
  | .str s =>
    match Decimal.readFloat? (Text.trimBlank s) with
    | some f => Decimal.truncInt64 f
    | none => 0
  | _ => 0

namespace Schema

/-- Whether a schema is optional. -/
def isOptional : Schema → Bool
  | .optional _ => true
  | _ => false

/-- The canonical value of a missing field, `none` when it is left out, or the refusal. -/
def missingValue (key : String) (s : Schema) (rule : FieldRule) :
    Except DecodeError (Option Json) :=
  match rule with
  | .fallback j => .ok (some j)
  | .omitted => .ok none
  | .required => if s.isOptional then .ok (some .null) else .error (.missingField key)

/-- The canonical members of a record from the fields found (by key); `omitted` fields that are
absent or `null` are left out. -/
def assemble (fields : List (String × Schema × FieldRule)) (found : List (String × Json)) :
    Except DecodeError (List (String × Json)) :=
  fields.foldlM (fun acc (key, s, rule) =>
    match found.find? (·.1 == key) with
    | some (_, v) =>
      match rule, v with
      | .omitted, .null => .ok acc
      | _, _ => .ok (acc ++ [(key, v)])
    | none =>
      match missingValue key s rule with
      | .ok (some v) => .ok (acc ++ [(key, v)])
      | .ok none => .ok acc
      | .error e => .error e) []

/-- The refusal of a variant name that is not a string. -/
def variantNotString (j : Json) : DecodeError :=
  .invalidType (.ofJson j) "variant identifier"

/-- Checks a variant name against the variants. -/
def checkVariant (variants : List (String × Schema)) (j : Json) :
    Except DecodeError (String × Schema) :=
  match j with
  | .str v =>
    match variants.find? (·.1 == v) with
    | some found => .ok found
    | none => .error (.unknownVariant v (variants.map (·.1)))
  | _ => .error (variantNotString j)

/-- The relevant members of an adjacently tagged object: `true` for the tag, `false` for the
content. -/
def relevant (tag content : String) (members : List (String × Json)) : List (Bool × Json) :=
  members.filterMap fun (k, v) =>
    if k == tag then some (true, v) else if k == content then some (false, v) else none

/-- Where a held document came from, which decides how a surplus of items is worded. -/
inductive Held where
  /-- A value. -/
  | value
  /-- A part of a text kept whole. -/
  | content

/-- The refusal of `n` items where the reader took `m`. -/
def Held.surplus : Held → Nat → Nat → DecodeError
  | .value, n, _ => .invalidLength n "fewer elements in array"
  | .content, n, m =>
    .invalidLength n
      (if m = 1 then "1 element in sequence" else toString m ++ " elements in sequence")

mutual
/-- Reads a document by a schema. -/
def decode : Nat → Held → Schema → Json → Except DecodeError Json
  | 0, _, _, _ => .error (.custom "recursion limit exceeded")
  | fuel + 1, held, s, j =>
    match s, j with
    | .string, .str t => .ok (.str t)
    | .string, _ => .error (.invalidType (.ofJson j) "a string")
    | .boolean, .bool b => .ok (.bool b)
    | .boolean, _ => .error (.invalidType (.ofJson j) "a boolean")
    | .integer k, .int i =>
      if k.holds i then .ok (.int i) else .error (.invalidValue (.ofInt i) k.name)
    | .integer k, _ => .error (.invalidType (.ofJson j) k.name)
    | .float, _ =>
      match j.asFloat with
      | some f => .ok (.float f)
      | none => .error (.invalidType (.ofJson j) "f64")
    | .optional _, .null => .ok .null
    | .optional s', _ => decode fuel held s' j
    | .list s', .arr items => (items.mapM (decode fuel held s')).map .arr
    | .list _, _ => .error (.invalidType (.ofJson j) "a sequence")
    | .record name fields, .obj members => decodeMembers fuel held name fields members
    | .record name fields, .arr items => decodePositional fuel held name fields items
    | .record name _, _ => .error (.invalidType (.ofJson j) ("struct " ++ name))
    | .tagged name tag variants, .obj members => decodeTagged fuel held name tag variants members
    | .tagged _ tag variants, .arr (first :: rest) => do
      let (v, vs) ← checkVariant variants first
      let inner ← decode fuel held vs (.arr rest)
      return withTag tag v inner
    | .tagged _ tag _, .arr [] => .error (.missingField tag)
    | .tagged name _ _, _ => .error (.invalidType (.ofJson j) ("internally tagged enum " ++ name))
    | .adjacent name tag content variants, .obj members =>
      decodeAdjacent fuel held name tag content variants (relevant tag content members)
    | .adjacent name tag content variants, .arr items =>
      match items with
      | [] => .error (.invalidLength 0 ("adjacently tagged enum " ++ name))
      | [_] =>
        match checkVariant variants items.head! with
        | .error e => .error e
        | .ok _ => .error (.invalidLength 1 ("adjacently tagged enum " ++ name))
      | t :: c :: rest => do
        let (v, vs) ← checkVariant variants t
        let inner ← decode fuel held vs c
        if rest.isEmpty then return .obj [(tag, .str v), (content, inner)]
        else throw (held.surplus (2 + rest.length) 2)
    | .adjacent name _ _ _, _ =>
      .error (.invalidType (.ofJson j) ("adjacently tagged enum " ++ name))
    | .untagged name alternatives, _ => firstFit fuel held name alternatives j
    | .lenient, _ => .ok (.int (lenientValue j))
    | .code name codes, _ =>
      match decode fuel held (.integer .u8) j with
      | .ok (.int n) =>
        if codes.contains n.toNat then .ok (.int n) else .error (badCode name n.toNat)
      | .ok other => .ok other
      | .error e => .error e
    | .uuid, .str t =>
      match Token.Uuid.parse t with
      | .ok u => .ok (.str u.render)
      | .error e => .error (.custom ("UUID parsing failed: " ++ e.message))
    | .uuid, _ => .error (.invalidType (.ofJson j) "a UUID string")
    | .any, _ => .ok j.normalize

/-- Record fields by name: members in order, then the missing fields. -/
def decodeMembers (fuel : Nat) (held : Held) (name : String)
    (fields : List (String × Schema × FieldRule)) (members : List (String × Json)) :
    Except DecodeError Json := do
  let found ← members.foldlM (fun (found : List (String × Json)) (k, v) =>
    match fields.find? (·.1 == k) with
    | some (_, fs, _) =>
      if found.any (·.1 == k) then throw (.duplicateField k)
      else (decode fuel held fs v).map fun d => found ++ [(k, d)]
    | none => pure found) []
  let _ := name
  return .obj (← assemble fields found)

/-- Record fields by position. -/
def decodePositional (fuel : Nat) (held : Held) (name : String)
    (fields : List (String × Schema × FieldRule)) (items : List Json) :
    Except DecodeError Json := do
  let count := fields.length
  let found ← (fields.zip (List.range count)).foldlM
    (fun (found : List (String × Json)) ((key, s, rule), i) =>
      match items[i]? with
      | some v => (decode fuel held s v).map fun d => found ++ [(key, d)]
      | none =>
        match rule with
        | .fallback d => pure (found ++ [(key, d)])
        | _ => throw (.invalidLength i ("struct " ++ name ++ " with " ++ toString count ++
            " elements"))) []
  if items.length > count then
    throw (held.surplus items.length count)
  return .obj (← assemble fields found)

/-- An internally tagged object: the tag names the variant, the other members are its
fields. -/
def decodeTagged (fuel : Nat) (held : Held) (name : String) (tag : String)
    (variants : List (String × Schema)) (members : List (String × Json)) :
    Except DecodeError Json := do
  let (chosen, rest) ← members.foldlM
    (fun (acc : Option (String × Schema) × List (String × Json)) (k, v) =>
      if k == tag then
        if acc.1.isSome then throw (.duplicateField tag)
        else (checkVariant variants v).map fun found => (some found, acc.2)
      else pure (acc.1, acc.2 ++ [(k, v)])) (none, [])
  let _ := name
  match chosen with
  | none => throw (.missingField tag)
  | some (v, vs) =>
    let inner ← decode fuel held vs (.obj rest)
    return withTag tag v inner

/-- An adjacently tagged object, given its tag (`true`) and content (`false`) members in
order. -/
def decodeAdjacent (fuel : Nat) (held : Held) (name : String) (tag content : String)
    (variants : List (String × Schema)) : List (Bool × Json) → Except DecodeError Json
  | [] => .error (.missingField tag)
  | (true, t) :: rest => do
    let (v, vs) ← checkVariant variants t
    match rest with
    | [] => throw (.missingField content)
    | (true, _) :: _ => throw (.duplicateField tag)
    | (false, c) :: more => do
      let inner ← decode fuel held vs c
      match more with
      | [] => return .obj [(tag, .str v), (content, inner)]
      | (true, _) :: _ => throw (.duplicateField tag)
      | (false, _) :: _ => throw (.duplicateField content)
  | (false, c) :: rest =>
    match rest with
    | [] => .error (.missingField tag)
    | (false, _) :: _ => .error (.duplicateField content)
    | (true, t) :: more => do
      let (v, vs) ← checkVariant variants t
      let inner ← decode fuel held vs c
      let _ := name
      match more with
      | [] => return .obj [(tag, .str v), (content, inner)]
      | (true, _) :: _ => throw (.duplicateField tag)
      | (false, _) :: _ => throw (.duplicateField content)

/-- The first alternative that reads the document. -/
def firstFit (fuel : Nat) (held : Held) (name : String) :
    List Schema → Json → Except DecodeError Json
  | [], _ => .error (untaggedMismatch name)
  | s :: rest, j =>
    match decode fuel held s j with
    | .ok d => .ok d
    | .error _ => firstFit fuel held name rest j

/-- A variant's canonical document with the tag in front. -/
def withTag (tag variant : String) : Json → Json
  | .obj members => .obj ((tag, .str variant) :: members)
  | other => .obj [(tag, .str variant), ("value", other)]
end

/-- Reading depth enough for every schema of this library. -/
def depthAllowance : Nat := 64

/-- Reads a value by a schema (see `decode`). -/
def read (s : Schema) (j : Json) : Except DecodeError Json :=
  decode depthAllowance .value s j

/-- Reads a part of a text kept whole by a schema (see `decode`). -/
def readHeld (s : Schema) (j : Json) : Except DecodeError Json :=
  decode depthAllowance .content s j

end Schema

end HeaderBidding
