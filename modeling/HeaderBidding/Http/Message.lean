import HeaderBidding.Http.Media
import HeaderBidding.Schema.Text
import HeaderBidding.Json.Write

/-!
# HTTP requests and answers

A request has a method, a target (a path, maybe followed by `?` and a query and by `#` and a
fragment), an optional content type and a body; an answer has a status and a body. A service
routes a request by its path alone, query and fragment apart: a path it does not serve is
answered `404`, a method the path does not take `405`, both with an empty body. A `HEAD` request
is served as a `GET`, without the body.

`Request.json` reads a request body as JSON of a schema and answers the three ways a body is
refused: content that is not said to be JSON (`415`), text that is not JSON (`400`), and JSON
that the schema refuses (`422`). The last two quote the reader's message, after the path of the
value it concerns, if any.
-/

namespace HeaderBidding.Http

open Json

/-- An HTTP request. -/
structure Request where
  method : String
  target : String
  contentType : Option String
  body : String
  deriving Inhabited

/-- An HTTP answer. -/
structure Response where
  status : Nat
  body : String
  deriving DecidableEq, Repr, Inhabited

namespace Response

/-- An answer with no body. -/
def empty (status : Nat) : Response :=
  ⟨status, ""⟩

/-- A successful answer carrying a JSON document. -/
def json (j : Json) : Response :=
  ⟨200, Json.compact j⟩

end Response

/-- The path of a request target: the part before the query or the fragment. -/
def Request.path (r : Request) : String :=
  String.ofList (r.target.toList.takeWhile fun c => c ≠ '?' && c ≠ '#')

/-- The text of a path of members and items: member names joined by dots, items as `[i]`. -/
def pathText (path : List Segment) : String :=
  let piece (first : Bool) : Segment → String
    | .key name => if first then name else "." ++ name
    | .index i => "[" ++ toString i ++ "]"
  match path with
  | [] => ""
  | s :: rest => piece true s ++ String.join (rest.map (piece false))

/-- The reader's message with the path in front, if there is one. -/
def located (src : ByteArray) (e : Schema.TextError) : String :=
  match e.path with
  | [] => e.message src
  | path => pathText path ++ ": " ++ e.message src

/-- The answer to content that is not said to be JSON. -/
def notJson : Response :=
  ⟨415, "Expected request with " ++ "\x60Content-Type: application/json\x60"⟩

/-- Reads a request body as JSON of a schema, or gives the answer that refuses it. -/
def Request.json (r : Request) (s : Schema) : Except Response Json :=
  if !isJsonContent r.contentType then .error notJson
  else
    let src := r.body.toUTF8
    match Schema.readBytes s src with
    | .ok v => .ok v
    | .error e =>
      match e.problem with
      | .malformed _ => .error ⟨400, "Failed to parse the request body as JSON: " ++ located src e⟩
      | .data _ =>
        .error ⟨422, "Failed to deserialize the JSON body into the target type: " ++ located src e⟩

/-- A route: a path, the method it takes, and what it answers. -/
structure Route (σ : Type) where
  path : String
  method : String
  handle : Request → σ → Response × σ

/-- Routes a request: the route of its path and method answers; a `HEAD` request is answered
as a `GET` would be, without the body. A known path with another method is answered `405`, an
unknown path `404`. -/
def dispatch {σ : Type} (routes : List (Route σ)) (r : Request) (state : σ) : Response × σ :=
  let onPath := routes.filter (·.path == r.path)
  match onPath.find? (·.method == r.method) with
  | some route => route.handle r state
  | none =>
    match r.method, onPath.find? (·.method == "GET") with
    | "HEAD", some route =>
      let (answer, state) := route.handle { r with method := "GET" } state
      (.empty answer.status, state)
    | _, _ => (.empty (if onPath.isEmpty then 404 else 405), state)

end HeaderBidding.Http
