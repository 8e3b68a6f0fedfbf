import HeaderBidding.Bid.Slot

/-!
# Bid tokens and what they stand for

When the app wins an in-house auction it gets a *token* instead of the ad; later it trades the
token for the ad (`TokenValue`): the price, the payload, the format the bid was won for, and
when it expires.

A `TokenStore` keeps the tokens handed out, each once, as a map from tokens to values. Handing
out a token first drops every expired one; a token handed out again replaces its old value.
Trading a token in:

- a token of another format gives nothing and stays;
- an expired token gives nothing and is dropped;
- otherwise the value is given, and the token is dropped if tokens are single-use.
-/

namespace HeaderBidding

open Token

/-- What a token stands for. -/
structure TokenValue where
  price : Float
  payload : Payload
  format : Format
  expiresAt : Int
  deriving Inhabited

namespace TokenValue

/-- The wire schema of a token value. -/
def schema : Schema :=
  .record "TokenValue"
    [("price", .float, .required), ("payload", Payload.schema, .required),
     ("ad_unit_type", Format.schema, .required), ("expires_at", .integer .i64, .required)]

/-- The canonical document of a token value. -/
def toJson (v : TokenValue) : Json :=
  .obj [("price", .float v.price), ("payload", v.payload.toJson),
    ("ad_unit_type", v.format.toJson), ("expires_at", .int v.expiresAt)]

/-- The token value of a canonical document. -/
def ofJson (j : Json) : TokenValue :=
  { price := ((j.get? "price").bind Json.asFloat).getD 0
    payload := Payload.ofJson ((j.get? "payload").getD .null)
    format := Format.ofJson ((j.get? "ad_unit_type").getD .null)
    expiresAt := ((j.get? "expires_at").bind Json.getInt?).getD 0 }

/-- The value of a won bid, for a format. -/
def ofBid (b : Bid) (format : Format) : TokenValue :=
  ⟨b.price, b.payload, format, b.expiresAt⟩

/-- Whether the value has expired at `now`. -/
def isExpired (v : TokenValue) (now : Int) : Bool :=
  decide (v.expiresAt ≤ now)

end TokenValue

/-- Whether a token may be traded in once or until it expires. -/
inductive Retention where
  | singleUse
  | untilExpiry
  deriving DecidableEq, Repr, Inhabited

/-- The tokens handed out and what they stand for, each token at most once. -/
structure TokenStore where
  entries : List (Uuid × TokenValue)
  retention : Retention
  distinct : (entries.map (·.1)).Nodup

namespace TokenStore

/-- A store with no tokens. -/
def empty (retention : Retention) : TokenStore :=
  ⟨[], retention, List.nodup_nil⟩

instance : Inhabited TokenStore :=
  ⟨empty .singleUse⟩

/-- The number of tokens kept. -/
def size (s : TokenStore) : Nat :=
  s.entries.length

/-- What a token stands for, if it is kept. -/
def lookup (s : TokenStore) (token : Uuid) : Option TokenValue :=
  (s.entries.find? (·.1 = token)).map (·.2)

/-- The entries left by a test keep their tokens distinct. -/
theorem distinct_filter (s : TokenStore) (p : Uuid × TokenValue → Bool) :
    ((s.entries.filter p).map (·.1)).Nodup :=
  s.distinct.sublist (List.filter_sublist.map _)

/-- Puts a token in for a value at `now`: the expired tokens are dropped first, and the value
replaces what the token stood for. -/
def put (s : TokenStore) (token : Uuid) (value : TokenValue) (now : Int) : TokenStore :=
  let keep : Uuid × TokenValue → Bool := fun (t, v) => !v.isExpired now && t != token
  { s with
    entries := s.entries.filter keep ++ [(token, value)]
    distinct := by
      rw [List.map_append, List.nodup_append]
      refine ⟨s.distinct_filter keep, by simp, ?_⟩
      intro a ha b hb
      simp only [List.mem_map, List.mem_filter] at ha
      obtain ⟨⟨t, v⟩, ⟨-, hkeep⟩, rfl⟩ := ha
      simp only [List.map_cons, List.map_nil, List.mem_singleton] at hb
      subst hb
      simp only [keep, Bool.and_eq_true, bne_iff_ne] at hkeep
      exact hkeep.2 }

/-- Hands out a fresh token for a value at `now`, after dropping the expired tokens. -/
def mint (s : TokenStore) (value : TokenValue) (now : Int) (fresh : Fresh) :
    Uuid × TokenStore × Fresh :=
  let (token, fresh) := fresh.take
  (token, s.put token value now, fresh)

/-- The store without a token. -/
def erase (s : TokenStore) (token : Uuid) : TokenStore :=
  { s with
    entries := s.entries.filter (·.1 ≠ token)
    distinct := s.distinct_filter _ }

/-- Trades a token in for a format at `now`. -/
def resolve (s : TokenStore) (token : Option Uuid) (expected : Format) (now : Int) :
    Option TokenValue × TokenStore :=
  match token with
  | none => (none, s)
  | some t =>
    match s.lookup t with
    | none => (none, s)
    | some v =>
      if v.format ≠ expected then (none, s)
      else if v.isExpired now then (none, s.erase t)
      else
        match s.retention with
        | .singleUse => (some v, s.erase t)
        | .untilExpiry => (some v, s)

end TokenStore

end HeaderBidding
