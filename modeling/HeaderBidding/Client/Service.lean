import HeaderBidding.Client.Basic
import HeaderBidding.Http.Message

/-!
# The in-house HTTP service

The client serves its in-house auction over HTTP:

- `POST /inhouse/bid` takes an ad unit and answers the auction's outcome;
- `POST /inhouse/token` takes a token and a format and answers the token's value, or `204`
  with no body when the token gives nothing.

With a runtime log, each auction is logged (`inhouse_bid_success` or `inhouse_no_bid`, with the
placement and price) and each token that gives nothing is logged as `token_rejected`; the
service waits until the log takes the entry.
-/

namespace HeaderBidding

open Token

/-- A query for a token's value: the token and the format it is traded for. -/
structure TokenQuery where
  token : Uuid
  format : Format

namespace TokenQuery

/-- The wire schema of a query. -/
def schema : Schema :=
  .record "TokenQuery" [("token", .uuid, .required), ("ad_unit_type", Format.schema, .required)]

/-- The canonical document of a query. -/
def toJson (q : TokenQuery) : Json :=
  .obj [("token", .str q.token.render), ("ad_unit_type", q.format.toJson)]

/-- The query of a canonical document. -/
def ofJson (j : Json) : TokenQuery :=
  let token := match ((j.get? "token").bind Json.getStr?).map Uuid.parse with
    | some (.ok u) => u
    | _ => ⟨0⟩
  ⟨token, Format.ofJson ((j.get? "ad_unit_type").getD .null)⟩

end TokenQuery

namespace Client

/-- Answers an auction request. -/
def serveBid (req : Http.Request) (c : Client) : Http.Response × Client :=
  match req.json AdUnit.schema with
  | .error refusal => (refusal, c)
  | .ok j =>
    let unit := AdUnit.ofJson j
    let (reply, c) := c.inhouseBid (some unit)
    let event := if reply.success then "inhouse_bid_success" else "inhouse_no_bid"
    let note : Json :=
      .obj [("event", .str event), ("placement_id", .str unit.placement),
        ("price", .float reply.price)]
    (.json reply.toJson, c.logWaiting "INFO" (Json.compact note))

/-- Answers a token query. -/
def serveToken (req : Http.Request) (c : Client) : Http.Response × Client :=
  match req.json TokenQuery.schema with
  | .error refusal => (refusal, c)
  | .ok j =>
    let q := TokenQuery.ofJson j
    match c.tokenValue (some q.token) q.format with
    | (some v, c) => (.json v.toJson, c)
    | (none, c) =>
      let note : Json := .obj [("event", .str "token_rejected"), ("token", .str q.token.render)]
      (.empty 204, c.logWaiting "WARN" (Json.compact note))

/-- The service's routes. -/
def routes : List (Http.Route Client) :=
  [⟨"/inhouse/bid", "POST", serveBid⟩, ⟨"/inhouse/token", "POST", serveToken⟩]

/-- Serves a request. -/
def serve (c : Client) (req : Http.Request) : Http.Response × Client :=
  Http.dispatch routes req c

end Client

end HeaderBidding
