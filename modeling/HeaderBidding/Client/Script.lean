import HeaderBidding.Client.Service

/-!
# Scripted sessions

A session with the client is a list of steps: what the app does (asking for bids, handing
tokens in, calling the HTTP service), what the world does (the clock moving, the server
answering or failing, the remote configuration changing), and looks at the state. `Client.step`
carries one step out and gives its outcome; `Client.runAll` carries out a list of steps in
order.
-/

namespace HeaderBidding

open Token

/-- A step of a session. -/
inductive Step where
  | get (unit : Option AdUnit)
  | prefetch (units : List AdUnit)
  | stop
  | setClock (ms : Int)
  | advance (ms : Int)
  | killSwitch (enabled : Bool)
  | refreshConfig (update : RemoteConfig)
  | remoteConfig
  | start (request : Nat)
  | respond (request : Nat) (start : Bool) (status : Int) (body : String)
  | fail (request : Nat) (start : Bool) (error : CallError)
  | inhouseBid (unit : Option AdUnit)
  | tokenValue (token : Option Uuid) (format : Format)
  | displayUrl (token : Option Uuid) (format : Format)
  | nativeValue (token : Option Uuid)
  | http (request : Http.Request)
  | mapperMap (unit : Option AdUnit)
  | pending
  | wait

/-- What a step gives. -/
inductive Outcome where
  | nothing
  | bid (shown : Option Bid)
  | config (merged : RemoteConfig)
  | configs (current : RemoteConfig) (stored : Option RemoteConfig)
  | inhouse (reply : InHouseReply)
  | value (v : Option TokenValue)
  | url (u : Option String)
  | native (a : Option NativeAssets)
  | answer (r : Http.Response)
  | key (k : Option SlotKey)
  | count (n : Nat)
  | settled (done : Bool)

namespace Client

/-- Carries out one step. -/
def step (c : Client) : Step → Outcome × Client
  | .get unit =>
    let (shown, c) := c.get unit
    (.bid shown, c)
  | .prefetch units => (.nothing, c.prefetch units)
  | .stop => (.nothing, c.stop)
  | .setClock ms => (.nothing, { c with clock := ms })
  | .advance ms => (.nothing, { c with clock := satAdd c.clock ms })
  | .killSwitch enabled => (.nothing, { c with settings := c.settings.setKillSwitch enabled })
  | .refreshConfig update =>
    let c := c.refreshConfig update
    (.config c.settings.remote, c)
  | .remoteConfig => (.configs c.settings.remote (c.settings.store.getD none), c)
  | .start i => (.nothing, c.started i)
  | .respond i start status body => (.nothing, c.respond i start status body)
  | .fail i start e => (.nothing, c.fail i start e)
  | .inhouseBid unit =>
    let (reply, c) := c.inhouseBid unit
    (.inhouse reply, c)
  | .tokenValue token format =>
    let (v, c) := c.tokenValue token format
    (.value v, c)
  | .displayUrl token format =>
    let (u, c) := c.displayUrl token format
    (.url u, c)
  | .nativeValue token =>
    let (a, c) := c.nativeValue token
    (.native a, c)
  | .http req =>
    let (r, c) := c.serve req
    (.answer r, c)
  | .mapperMap unit => (.key (unit.bind c.bidder.screen.keyOf?), c)
  | .pending => (.count (c.pending?.getD 0), c)
  | .wait => (.settled true, c.wait)

/-- Carries out steps in order, giving each step's outcome. -/
def runAll (c : Client) : List Step → List Outcome × Client
  | [] => ([], c)
  | s :: rest =>
    let (o, c) := c.step s
    let (os, c) := c.runAll rest
    (o :: os, c)

end Client

end HeaderBidding
