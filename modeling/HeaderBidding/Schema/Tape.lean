import HeaderBidding.Schema.Value
import HeaderBidding.Json.Indexed

/-!
# Reading a two-pass document by a schema, node by node

`Schema.readTape` reads a text with the two-pass reader (`Json.readIndexed`), lays the document
out as its *tape* (its nodes in reading order, where an array or an object says how many items
or members follow) and reads the tape by a schema from the first node on. Each step takes the
nodes its schema asks for and leaves the position after them. A record read from an array takes
one item per field, so items beyond the fields stay where the next step meets them, in place of
what the document holds there; nodes left after the top value are not looked at.

A value of the wrong kind is refused with the kind that was expected (`expectedString`,
`expectedSigned`, …); a member whose key node is not a string is `expectedString`; a record may
be an object or an array; a member of a record that is not one of its fields is skipped with
everything under it. Refusals of the schema itself (a missing field, a union that nothing fits)
carry the schema's wording, in the generic style (`Wording.plain`). Unions, lenient integers,
codes, identifiers and kept documents read a whole node with everything under it.
-/

namespace HeaderBidding

/-- A node of a document's tape. -/
inductive TapeNode where
  /-- An array of so many items, which follow. -/
  | array (count : Nat)
  /-- An object of so many members, which follow, each a key node and then a value. -/
  | object (count : Nat)
  /-- A document without items or members. -/
  | scalar (j : Json)
  deriving Inhabited

namespace Json

mutual
/-- The tape of a document: its nodes in reading order. -/
def tape : Json → List TapeNode
  | .arr items => .array items.length :: itemsTape items
  | .obj members => .object members.length :: membersTape members
  | j => [.scalar j]

/-- The tapes of items, one after the other. -/
def itemsTape : List Json → List TapeNode
  | [] => []
  | j :: rest => tape j ++ itemsTape rest

/-- The tapes of members, each its key and then its value. -/
def membersTape : List (String × Json) → List TapeNode
  | [] => []
  | (k, v) :: rest => .scalar (.str k) :: (tape v ++ membersTape rest)
end

example : (Json.arr [.int 1, .obj [("a", .null)]]).tape =
    [.array 2, .scalar (.int 1), .object 1, .scalar (.str "a"), .scalar .null] := rfl

end Json

namespace Schema

open Json

/-- A refusal of the schema, worded in the generic style. -/
def refusedBy (e : DecodeError) : IndexError :=
  .general (.refused (e.messageWith Wording.plain))

/-- The refusal of a value that is not an integer of the kind. -/
def expectedInteger (k : IntKind) : IndexFault :=
  if k.signed then .expectedSigned else .expectedUnsigned

mutual
/-- The document whose first node is at `k`, and the position after its nodes. -/
def treeAt (tape : Array TapeNode) : Nat → Nat → Except IndexError (Json × Nat)
  | 0, _ => .error (.general .malformed)
  | fuel + 1, k =>
    match tape[k]? with
    | none => .error (.general .eof)
    | some (.scalar j) => .ok (j, k + 1)
    | some (.array n) => treeItems tape fuel n (k + 1) []
    | some (.object n) => treeMembers tape fuel n (k + 1) []

/-- `n` documents from `k` on, after `acc` (reversed). -/
def treeItems (tape : Array TapeNode) :
    Nat → Nat → Nat → List Json → Except IndexError (Json × Nat)
  | 0, _, _, _ => .error (.general .malformed)
  | _ + 1, 0, k, acc => .ok (.arr acc.reverse, k)
  | fuel + 1, n + 1, k, acc =>
    match treeAt tape fuel k with
    | .error e => .error e
    | .ok (j, k) => treeItems tape fuel n k (j :: acc)

/-- `n` members from `k` on, after `acc` (reversed). -/
def treeMembers (tape : Array TapeNode) :
    Nat → Nat → Nat → List (String × Json) → Except IndexError (Json × Nat)
  | 0, _, _, _ => .error (.general .malformed)
  | _ + 1, 0, k, acc => .ok (.obj acc.reverse, k)
  | fuel + 1, n + 1, k, acc =>
    match tape[k]? with
    | some (.scalar (.str key)) =>
      match treeAt tape fuel (k + 1) with
      | .error e => .error e
      | .ok (v, k) => treeMembers tape fuel n k ((key, v) :: acc)
    | _ => .error (.general .expectedString)
end

/-- The position after the document whose first node is at `k`. -/
def skipAt (tape : Array TapeNode) (k : Nat) : Except IndexError Nat :=
  (treeAt tape (2 * tape.size + 2) k).map (·.2)

mutual
/-- Reads the value whose first node is at `k` by a schema; gives it and the position after
the nodes read. -/
def decodeAt (tape : Array TapeNode) : Nat → Schema → Nat → Except IndexError (Json × Nat)
  | 0, _, _ => .error (.general .malformed)
  | fuel + 1, s, k =>
    match s, tape[k]? with
    | .string, some (.scalar (.str t)) => .ok (.str t, k + 1)
    | .string, _ => .error (.general .expectedString)
    | .boolean, some (.scalar (.bool b)) => .ok (.bool b, k + 1)
    | .boolean, _ => .error (.general .expectedBoolean)
    | .integer kind, some (.scalar (.int i)) =>
      if kind.holds i then .ok (.int i, k + 1) else .error (.general (expectedInteger kind))
    | .integer kind, _ => .error (.general (expectedInteger kind))
    | .float, some (.scalar (.int i)) => .ok (.float (Decimal.ofInt i), k + 1)
    | .float, some (.scalar (.float f)) => .ok (.float f, k + 1)
    | .float, _ => .error (.general .expectedFloat)
    | .optional _, some (.scalar .null) => .ok (.null, k + 1)
    | .optional inner, _ => decodeAt tape fuel inner k
    | .list item, some (.array n) => tapeItems tape fuel item n (k + 1) []
    | .list _, _ => .error (.general .expectedArray)
    | .record _ fields, some (.object n) =>
      match tapeMembers tape fuel fields n (k + 1) [] with
      | .error e => .error e
      | .ok (found, k) =>
        match assemble fields found with
        | .ok fs => .ok (.obj fs, k)
        | .error e => .error (refusedBy e)
    | .record name fields, some (.array n) =>
      match tapePositional tape fuel name fields.length n fields 0 (k + 1) [] with
      | .error e => .error e
      | .ok (found, k) =>
        match assemble fields found with
        | .ok fs => .ok (.obj fs, k)
        | .error e => .error (refusedBy e)
    | .record _ _, _ => .error (.general .expectedMap)
    | held, _ =>
      match treeAt tape (2 * tape.size + 2) k with
      | .error e => .error e
      | .ok (j, k) =>
        match readHeld held j with
        | .ok d => .ok (d, k)
        | .error e => .error (refusedBy e)

/-- Reads `n` items by a schema from `k` on, after `acc` (reversed). -/
def tapeItems (tape : Array TapeNode) :
    Nat → Schema → Nat → Nat → List Json → Except IndexError (Json × Nat)
  | 0, _, _, _, _ => .error (.general .malformed)
  | _ + 1, _, 0, k, acc => .ok (.arr acc.reverse, k)
  | fuel + 1, item, n + 1, k, acc =>
    match decodeAt tape fuel item k with
    | .error e => .error e
    | .ok (d, k) => tapeItems tape fuel item n k (d :: acc)

/-- Reads `n` members from `k` on as fields of a record, after the fields `found`. -/
def tapeMembers (tape : Array TapeNode) :
    Nat → List (String × Schema × FieldRule) → Nat → Nat → List (String × Json) →
      Except IndexError (List (String × Json) × Nat)
  | 0, _, _, _, _ => .error (.general .malformed)
  | _ + 1, _, 0, k, found => .ok (found, k)
  | fuel + 1, fields, n + 1, k, found =>
    match tape[k]? with
    | some (.scalar (.str key)) =>
      match fields.find? (·.1 == key) with
      | some (_, fs, _) =>
        if found.any (·.1 == key) then .error (refusedBy (.duplicateField key))
        else
          match decodeAt tape fuel fs (k + 1) with
          | .error e => .error e
          | .ok (d, k) => tapeMembers tape fuel fields n k (found ++ [(key, d)])
      | none =>
        match skipAt tape (k + 1) with
        | .error e => .error e
        | .ok k => tapeMembers tape fuel fields n k found
    | _ => .error (.general .expectedString)

/-- Reads the fields `rest` of a record of `count` fields by position from `k` on, where the
array holds `n` items and `i` of the fields are read. -/
def tapePositional (tape : Array TapeNode) :
    Nat → String → Nat → Nat → List (String × Schema × FieldRule) → Nat → Nat →
      List (String × Json) → Except IndexError (List (String × Json) × Nat)
  | 0, _, _, _, _, _, _, _ => .error (.general .malformed)
  | _ + 1, _, _, _, [], _, k, found => .ok (found, k)
  | fuel + 1, name, count, n, (key, s, rule) :: rest, i, k, found =>
    if i < n then
      match decodeAt tape fuel s k with
      | .error e => .error e
      | .ok (d, k) => tapePositional tape fuel name count n rest (i + 1) k (found ++ [(key, d)])
    else
      match rule with
      | .fallback d => tapePositional tape fuel name count n rest (i + 1) k (found ++ [(key, d)])
      | _ => .error (refusedBy (.invalidLength i
          ("struct " ++ name ++ " with " ++ toString count ++ " elements")))
end

/-- Reads a text in two passes, then its tape by a schema. -/
def readTape (s : Schema) (src : ByteArray) : Except IndexError Json := do
  let j ← Json.readIndexed src
  let tape := j.tape.toArray
  let (d, _) ← decodeAt tape (2 * tape.size + depthAllowance) s 0
  return d

end Schema

end HeaderBidding
