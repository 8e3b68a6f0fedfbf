import HeaderBidding.Bidder.Basic
import HeaderBidding.Client.Network
import HeaderBidding.Token.Value
import HeaderBidding.Log.Leveled
import HeaderBidding.Time.Stamp

/-!
# The in-app client

The client joins the bidder with what it works with: the configuration (whose kill switch
turns bidding off), the store of handed-out tokens, a clock, a supply of fresh identifiers, the
runtime log, and the link to the bidding server. It records every bid request it sends and
every life-cycle event it reports, so that both can be looked at afterwards.

Bid requests reach the server in one of three ways:

- *held*: the request waits until it is answered from outside (`respond`, `fail`);
- *immediate*: every request is answered at once with the same body;
- *network*: every request becomes a task that runs when the program yields (`wait`).

An answer to a request of an older session is ignored: nothing is reported or changed.

The in-house auction (`inhouseBid`) looks a bid up for an ad unit and, if there is one, hands
out a token for it; the token is later traded for the bid's value, display address or native
assets.
-/

namespace HeaderBidding

open Token

/-- A bid request the client sent: the keys asked for, the request, and its session. -/
structure Sent where
  keys : List SlotKey
  request : BidRequest
  session : Nat
  deriving Inhabited

/-- How bid requests reach the server. -/
inductive Link where
  | held
  | immediate (body : String)
  | network (net : Network)
  deriving Inhabited

/-- The outcome of an in-house auction: the price, the token handed out, and whether there
was a bid. -/
structure InHouseReply where
  price : Float
  token : Option Uuid
  success : Bool
  deriving Inhabited

namespace InHouseReply

/-- The outcome when there is no bid. -/
def noBid : InHouseReply :=
  ⟨0, none, false⟩

/-- The wire schema of an outcome. -/
def schema : Schema :=
  .record "InHouseBidResponse"
    [("price", .float, .required), ("token", .optional .uuid, .required),
     ("is_bid_success", .boolean, .required)]

/-- The canonical document of an outcome. -/
def toJson (r : InHouseReply) : Json :=
  .obj [("price", .float r.price), ("token", (r.token.map fun t => Json.str t.render).getD .null),
    ("is_bid_success", .bool r.success)]

end InHouseReply

/-- The in-app client. -/
structure Client where
  bidder : Bidder
  settings : Settings
  tokens : TokenStore
  clock : Int
  fresh : Fresh
  publisher : Publisher
  sdkVersion : String
  profileId : Int
  sent : Array Sent
  configRequests : Nat
  cancels : Nat
  events : Array Lifecycle
  trace : Array TraceLine
  log : Option RuntimeLog
  configReply : Option RemoteConfig
  link : Link
  deriving Inhabited

namespace Client

/-- The publisher the client bids for when none is set. -/
def defaultPublisher : Publisher :=
  ⟨"B-000000", "com.example.app"⟩

/-- A client with nothing sent, reported or cached. -/
def new (screen : Screen) (settings : Settings) (retention : Retention) (clock : Int)
    (log : Option RuntimeLog) (configReply : Option RemoteConfig) (link : Link) : Client :=
  { bidder := Bidder.new screen
    settings
    tokens := TokenStore.empty retention
    clock
    fresh := Fresh.start
    publisher := defaultPublisher
    sdkVersion := "0.1.0"
    profileId := 235
    sent := #[]
    configRequests := 0
    cancels := 0
    events := #[]
    trace := #[]
    log
    configReply
    link }

/-- Whether the kill switch is on. -/
def killed (c : Client) : Bool :=
  c.settings.killSwitch

/-- The time of the client's clock as written in the runtime log. -/
def stamp (c : Client) : String :=
  Time.rfc3339 c.clock 0

/-- Reports an event: it is recorded, and offered to the runtime log without waiting. -/
def emit (c : Client) (e : Lifecycle) : Client :=
  { c with
    events := c.events.push e
    trace := c.trace.push e.traceLine
    log := c.log.map fun l => l.offer e.level (Json.compact (e.record c.stamp).toJson) }

/-- Adds a line to the trace. -/
def note (c : Client) (t : TraceLine) : Client :=
  { c with trace := c.trace.push t }

/-- The trace line of an ad unit that maps to no slot key. -/
def ignoredUnit (u : AdUnit) : TraceLine :=
  .make "WARN" "inapp_bidcache::model::mapper" "invalid ad unit ignored"
    [("placement_id", .str u.placement)]

/-- Traces an ad unit asked for that maps to no slot key, or its absence. -/
def noteUnmapped (c : Client) (unit : Option AdUnit) : Client :=
  let required : TraceLine :=
    .make "ERROR" "inapp_bidcache::bidding::engine" "Valid AdUnit is required." []
  match unit with
  | none => c.note required
  | some u =>
    match c.bidder.screen.keyOf? u with
    | some _ => c
    | none => (c.note (ignoredUnit u)).note required

/-- Merges a configuration update in, as the configuration's keeper does, tracing it. -/
def refreshConfig (c : Client) (update : RemoteConfig) : Client :=
  let settings := c.settings.refresh update
  { c with
    settings
    trace := c.trace.push (.make "INFO" "inapp_bidcache::config::config_manager"
      "remote config refreshed" [("kill_switch", .bool settings.killSwitch)]) }

/-- Logs a message and waits until the log takes it. -/
def logWaiting (c : Client) (level message : String) : Client :=
  { c with log := c.log.map fun l => l.send level message }

/-- Lets the runtime log's writer run. -/
def yieldToLog (c : Client) : Client :=
  { c with log := c.log.map RuntimeLog.advance }

/-- Reports that request `i` started, unless its session is over. -/
def started (c : Client) (i : Nat) : Client :=
  match c.sent[i]? with
  | some s => if c.bidder.isStale s.session then c else c.emit (.started s.request)
  | none => c

/-- Reports that request `i` failed, unless its session is over. -/
def failed (c : Client) (i : Nat) (e : CallError) : Client :=
  match c.sent[i]? with
  | some s => if c.bidder.isStale s.session then c else c.emit (.failed s.request e)
  | none => c

/-- Takes in the response to request `i`, unless its session is over. -/
def received (c : Client) (i : Nat) (r : WireResponse) : Client :=
  match c.sent[i]? with
  | some s =>
    match c.bidder.receive s.session c.clock r with
    | some b => { c with bidder := b }.emit (.finished s.request r)
    | none => c
  | none => c

/-- Ends request `i` with what its call gave. -/
def conclude (c : Client) (i : Nat) : Except CallError WireResponse → Client
  | .ok r => c.received i r
  | .error e => c.failed i e

/-- Sends a bid request for keys in a session, unless the kill switch is on. -/
def send (c : Client) (keys : List SlotKey) (session : Nat) : Client :=
  if c.killed then c
  else
    let (request, fresh) := BidRequest.make c.publisher c.sdkVersion c.profileId keys c.fresh
    let i := c.sent.size
    let c := { c with fresh, sent := c.sent.push ⟨keys, request, session⟩ }
    match c.link with
    | .held => c
    | .immediate body => (c.started i).conclude i (readReply 200 body)
    | .network n => { c with link := .network (n.spawn (.bid i)) }

/-- Asks for the remote configuration. -/
def requestConfig (c : Client) : Client :=
  let c := { c with configRequests := c.configRequests + 1 }
  match c.link with
  | .network n => { c with link := .network (n.spawn .config) }
  | _ =>
    match c.configReply with
    | some r => c.refreshConfig r
    | none => c

/-- The app asks for a bid for an ad unit: the bid shown, if any. -/
def get (c : Client) (unit : Option AdUnit) : Option Bid × Client :=
  let l := c.bidder.lookup c.killed c.clock unit
  let c := if c.killed then c else c.noteUnmapped unit
  let c := { c with bidder := l.bidder }
  let c := match l.consumed with
    | some (key, bid) => c.emit (.consumed key bid)
    | none => c
  let c := match l.refill with
    | some (keys, session) => c.send keys session
    | none => c
  (l.shown, c)

/-- Asks, ahead of time, for bids for ad units: the configuration first, then the keys in
chunks. -/
def prefetch (c : Client) (units : List AdUnit) : Client :=
  let chunks := c.bidder.screen.chunks units
  let c := units.foldl (fun c u =>
    if (c.bidder.screen.keyOf? u).isSome then c else c.note (ignoredUnit u)) c
  let c := c.requestConfig
  let session := c.bidder.session
  chunks.foldl (fun c keys => c.send keys session) c

/-- The app stops: the session ends and queued calls are cancelled. -/
def stop (c : Client) : Client :=
  { c with
    bidder := c.bidder.stop
    cancels := c.cancels + 1
    link := match c.link with
      | .network n => .network n.cancelAll
      | other => other }

/-- Answers request `i` from outside with a status and body, after reporting its start if
`start`. -/
def respond (c : Client) (i : Nat) (start : Bool) (status : Int) (body : String) : Client :=
  let c := if start then c.started i else c
  c.conclude i (readReply status body)

/-- Fails request `i` from outside, after reporting its start if `start`. -/
def fail (c : Client) (i : Nat) (start : Bool) (e : CallError) : Client :=
  let c := if start then c.started i else c
  c.failed i e

/-- Runs one network task. -/
def runCall (c : Client) (call : Call) : Client :=
  match c.link with
  | .network n =>
    match call with
    | .bid i =>
      match c.sent[i]? with
      | some s => (c.yieldToLog.started i).yieldToLog.conclude i (n.bidOutcome s.request)
      | none => c
    | .config =>
      match n.configOutcome with
      | .ok r => c.refreshConfig r
      | .error e =>
        c.note (.make "WARN" "inapp_bidcache::bidding::cdb_client"
          ("Unable to process request to remote config: " ++ e.message) [])
  | _ => c

/-- The program yields until the queued calls are done. -/
def wait (c : Client) : Client :=
  match c.link with
  | .network n =>
    let c := n.queued.foldl runCall c
    { c.yieldToLog with link := .network n.settle }
  | _ => c.yieldToLog

/-- The number of network tasks kept, if bids go over the network. -/
def pending? (c : Client) : Option Nat :=
  match c.link with
  | .network n => some n.pending
  | _ => none

/-- The in-house auction for an ad unit. -/
def inhouseBid (c : Client) (unit : Option AdUnit) : InHouseReply × Client :=
  match unit with
  | none => (.noBid, c)
  | some u =>
    match c.get (some u) with
    | (none, c) => (.noBid, c)
    | (some b, c) =>
      let (token, tokens, fresh) := c.tokens.mint (TokenValue.ofBid b u.format) c.clock c.fresh
      (⟨b.price, some token, true⟩, { c with tokens, fresh })

/-- Trades a token in for its value, for a format. -/
def tokenValue (c : Client) (token : Option Uuid) (format : Format) : Option TokenValue × Client :=
  let (v, tokens) := c.tokens.resolve token format c.clock
  (v, { c with tokens })

/-- Trades a token in for its display address, for a format. -/
def displayUrl (c : Client) (token : Option Uuid) (format : Format) : Option String × Client :=
  let (v, c) := c.tokenValue token format
  match v.map TokenValue.payload with
  | some (.displayUrl url) => (some url, c)
  | _ => (none, c)

/-- Trades a token in for native assets. -/
def nativeValue (c : Client) (token : Option Uuid) : Option NativeAssets × Client :=
  let (v, c) := c.tokenValue token .native
  match v.map TokenValue.payload with
  | some (.native a) => (some a, c)
  | _ => (none, c)

/-- The app is shut down: the runtime log writes what it holds and takes nothing more. -/
def shutdown (c : Client) : Client :=
  { c with log := c.log.map RuntimeLog.close }

end Client

end HeaderBidding
