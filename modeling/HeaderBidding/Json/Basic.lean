/-!
# JSON values

`Json` is a JSON document as read: numbers keep whether they were written as integers (and then
hold their exact value) or as floats (and then hold their binary64 value), and objects keep their
members in the order read, repeated keys included.

Two views of a document are used:

- as read, where order and repetitions still matter (the members a record reader walks through);
- as a *value* (`Json.normalize`): every object's members sorted by key, each key once with the
  last member written for it. Values are what documents are compared, copied and written as.
-/

namespace HeaderBidding

/-- A JSON document. -/
inductive Json where
  | null
  | bool (b : Bool)
  /-- A number written without fraction or exponent, within the 64-bit ranges. -/
  | int (i : Int)
  /-- A number written with a fraction or an exponent, or too large for an integer. -/
  | float (f : Float)
  | str (s : String)
  | arr (items : List Json)
  | obj (members : List (String × Json))
  deriving Inhabited

namespace Json

/-- Inserts a member into members sorted by key; a member with the same key is replaced. -/
def insertSorted (k : String) (v : Json) : List (String × Json) → List (String × Json)
  | [] => [(k, v)]
  | (k', v') :: rest =>
    if k = k' then (k, v) :: rest
    else if k < k' then (k, v) :: (k', v') :: rest
    else (k', v') :: insertSorted k v rest

/-- Members sorted by key, the last member of each key winning. -/
def sortMembers (ms : List (String × Json)) : List (String × Json) :=
  ms.foldl (fun acc (k, v) => insertSorted k v acc) []

mutual
/-- The value of a document: objects sorted by key, one member per key (the last written). -/
def normalize : Json → Json
  | .arr items => .arr (normalizeItems items)
  | .obj members => .obj (sortMembers (normalizeMembers members))
  | j => j

/-- `normalize` on every item. -/
def normalizeItems : List Json → List Json
  | [] => []
  | j :: rest => normalize j :: normalizeItems rest

/-- `normalize` on every member's value. -/
def normalizeMembers : List (String × Json) → List (String × Json)
  | [] => []
  | (k, v) :: rest => (k, normalize v) :: normalizeMembers rest
end

/-- The last member of an object with the given key. -/
def get? (j : Json) (key : String) : Option Json :=
  match j with
  | .obj members => (members.reverse.find? (·.1 == key)).map (·.2)
  | _ => none

/-- The member with the given key, where a `null` member counts as absent. -/
def field? (j : Json) (key : String) : Option Json :=
  match j.get? key with
  | some .null => none
  | other => other

/-- The string held, if any. -/
def getStr? : Json → Option String
  | .str s => some s
  | _ => none

/-- The boolean held, if any. -/
def getBool? : Json → Option Bool
  | .bool b => some b
  | _ => none

/-- The integer held, if any. -/
def getInt? : Json → Option Int
  | .int i => some i
  | _ => none

/-- The items held, if any. -/
def getArr? : Json → Option (List Json)
  | .arr items => some items
  | _ => none

/-- Whether the document is `null`. -/
def isNull : Json → Bool
  | .null => true
  | _ => false

end Json

end HeaderBidding
