import HeaderBidding.Json.Basic
import HeaderBidding.Decimal.Text
import HeaderBidding.Text.Quoted

/-!
# Wire schemas

A `Schema` describes how a type of this library is laid out in JSON, with the rules the readers
of `Schema.Value`, `Schema.Text` and `Schema.Tape` share:

- a record is an object of named fields (or an array of the fields in order); unknown members
  are skipped; a missing field takes its fallback, or is `null` when optional, or is refused;
- an internally tagged union is an object whose member `tag` names the variant, the other
  members being the variant's fields;
- an adjacently tagged union is an object with the variant's name under `tag` and its value
  under `content`;
- an untagged union is the first alternative that reads the value;
- a lenient integer reads any value: integers as they are, other numbers and numeric texts
  truncated toward zero into the 64-bit range, everything else as `0`.

Reading gives the *canonical* document of the value: records with their fields in declaration
order (an absent optional field that is written only when present left out), numbers of their
declared kind, identifiers in hyphenated form. Writing a value is writing its canonical
document.

`DecodeError` lists why a document does not fit a schema; `DecodeError.message` words it.
-/

namespace HeaderBidding

/-- The integer kinds of the wire formats. -/
inductive IntKind where
  | u8
  | i32
  | i64
  | usize
  deriving DecidableEq, Repr

namespace IntKind

/-- The name a refusal shows. -/
def name : IntKind → String
  | .u8 => "u8"
  | .i32 => "i32"
  | .i64 => "i64"
  | .usize => "usize"

/-- The least value. -/
def lo : IntKind → Int
  | .u8 => 0
  | .i32 => -(Int.pow 2 31)
  | .i64 => -(Int.pow 2 63)
  | .usize => 0

/-- The greatest value. -/
def hi : IntKind → Int
  | .u8 => 255
  | .i32 => Int.pow 2 31 - 1
  | .i64 => Int.pow 2 63 - 1
  | .usize => Int.pow 2 64 - 1

/-- Whether an integer is of the kind. -/
def holds (k : IntKind) (i : Int) : Bool :=
  decide (k.lo ≤ i ∧ i ≤ k.hi)

/-- Whether the kind is signed. -/
def signed : IntKind → Bool
  | .i32 | .i64 => true
  | _ => false

end IntKind

/-- What a missing field becomes. -/
inductive FieldRule where
  /-- No fallback: refused, unless the field is optional and the fields come by name. -/
  | required
  /-- The given document. -/
  | fallback (j : Json)
  /-- Optional, and left out of the canonical document when absent. -/
  | omitted
  deriving Inhabited

/-- A wire schema. -/
inductive Schema where
  | string
  | boolean
  | integer (k : IntKind)
  | float
  | optional (s : Schema)
  | list (s : Schema)
  /-- A record: its name and its fields `(key, schema, rule)` in declaration order. -/
  | record (name : String) (fields : List (String × Schema × FieldRule))
  /-- An internally tagged union: its name, the tag key, and variants (each a record). -/
  | tagged (name : String) (tag : String) (variants : List (String × Schema))
  /-- An adjacently tagged union: name, tag key, content key, variants. -/
  | adjacent (name : String) (tag content : String) (variants : List (String × Schema))
  /-- An untagged union of alternatives tried in order. -/
  | untagged (name : String) (alternatives : List Schema)
  /-- A lenient 64-bit integer. -/
  | lenient
  /-- A `u8` that must be one of the codes; others are refused with the type's name. -/
  | code (name : String) (codes : List Nat)
  /-- A 128-bit identifier in text. -/
  | uuid
  /-- Any document, kept as a value. -/
  | any
  deriving Inhabited

/-- A value met where another was expected, as refusals name it. -/
inductive Unexpected where
  | boolean (b : Bool)
  | unsigned (n : Nat)
  | signed (i : Int)
  | float (f : Float)
  | str (s : String)
  | null
  | seq
  | map

/-- How a refusal names an integer. -/
def Unexpected.ofInt (i : Int) : Unexpected :=
  if 0 ≤ i then .unsigned i.toNat else .signed i

/-- How a refusal names a document. -/
def Unexpected.ofJson : Json → Unexpected
  | .null => .null
  | .bool b => .boolean b
  | .int i => .ofInt i
  | .float f => .float f
  | .str s => .str s
  | .arr _ => .seq
  | .obj _ => .map

/-- A float in plain digits, with `.0` added when there is no point. -/
def pointedFloat (f : Float) : String :=
  let t := Decimal.Notation.plain.render f
  if Decimal.isFinite f ∧ !t.toList.contains '.' then t ++ ".0" else t

/-- How refusals name the values they meet: the word for `null` and the text of a float. -/
structure Wording where
  nullWord : String
  floatText : Float → String

/-- The wording of the JSON readers: `null`, and floats in their shortest JSON form. -/
def Wording.json : Wording :=
  ⟨"null", fun f => Decimal.Notation.json.render f⟩

/-- The generic wording: `unit value`, and floats in plain digits with a point. -/
def Wording.plain : Wording :=
  ⟨"unit value", pointedFloat⟩

/-- The wording of an unexpected value. -/
def Unexpected.describe (w : Wording) : Unexpected → String
  | .boolean b => "boolean `" ++ (if b then "true" else "false") ++ "`"
  | .unsigned n => "integer `" ++ toString n ++ "`"
  | .signed i => "integer `" ++ toString i ++ "`"
  | .float f => "floating point `" ++ w.floatText f ++ "`"
  | .str s => "string " ++ Text.quote s
  | .null => w.nullWord
  | .seq => "sequence"
  | .map => "map"

/-- Why a document does not fit a schema. -/
inductive DecodeError where
  | invalidType (u : Unexpected) (expected : String)
  | invalidValue (u : Unexpected) (expected : String)
  | invalidLength (n : Nat) (expected : String)
  | missingField (name : String)
  | duplicateField (name : String)
  | unknownVariant (variant : String) (expected : List String)
  | custom (msg : String)

/-- The list of names a refusal offers. -/
def oneOf : List String → String
  | [] => "there are no variants"
  | [a] => "`" ++ a ++ "`"
  | [a, b] => "`" ++ a ++ "` or `" ++ b ++ "`"
  | names => "one of " ++ ", ".intercalate (names.map fun n => "`" ++ n ++ "`")

/-- The wording of a refusal. -/
def DecodeError.messageWith (w : Wording) : DecodeError → String
  | .invalidType u e => "invalid type: " ++ u.describe w ++ ", expected " ++ e
  | .invalidValue u e => "invalid value: " ++ u.describe w ++ ", expected " ++ e
  | .invalidLength n e => "invalid length " ++ toString n ++ ", expected " ++ e
  | .missingField n => "missing field `" ++ n ++ "`"
  | .duplicateField n => "duplicate field `" ++ n ++ "`"
  | .unknownVariant v names => "unknown variant `" ++ v ++ "`, expected " ++ oneOf names
  | .custom msg => msg

/-- The wording of a refusal of the JSON readers. -/
def DecodeError.message (e : DecodeError) : String :=
  e.messageWith Wording.json

namespace Schema

/-- What refusals say was expected. -/
def expecting : Schema → String
  | .string => "a string"
  | .boolean => "a boolean"
  | .integer k => k.name
  | .float => "f64"
  | .optional _ => "option"
  | .list _ => "a sequence"
  | .record name _ => "struct " ++ name
  | .tagged name _ _ => "internally tagged enum " ++ name
  | .adjacent name _ _ _ => "adjacently tagged enum " ++ name
  | .untagged name _ => "untagged enum " ++ name
  | .lenient => "any value"
  | .code _ _ => "u8"
  | .uuid => "a UUID string"
  | .any => "any valid JSON value"

/-- The refusal of an untagged union none of whose alternatives reads the value. -/
def untaggedMismatch (name : String) : DecodeError :=
  .custom ("data did not match any variant of untagged enum " ++ name)

/-- The refusal of a code outside the list. -/
def badCode (name : String) (n : Nat) : DecodeError :=
  .custom ("Invalid value for " ++ name ++ ": " ++ toString n)

end Schema

/-- A float read where an integer was: the binary64 nearest to the integer. -/
def Json.asFloat : Json → Option Float
  | .int i => some (Decimal.ofInt i)
  | .float f => some f
  | _ => none

end HeaderBidding
