import HeaderBidding.Bidder.Call
import HeaderBidding.Exchange.Server
import HeaderBidding.Web.Target

/-!
# Calls over the network

Over the network, each call to the bidding server is a task: it is queued when the call is
made, and runs when the program yields. Stopping cancels the queued tasks. The network keeps
every task it has queued until the next task is queued: then the tasks that are done are let
go, and the count of pending tasks drops.

A call either reaches a stand-in server (`Exchange.serve`) or finds nothing listening, which
fails with a transport error naming the address called. A configuration call carries the
publisher and the client's version in its query. A bid call whose server takes at least
as long as the call may last fails by timing out.
-/

namespace HeaderBidding

/-- The other end of the network: nothing listening, or a stand-in server. -/
inductive Peer where
  | absent
  | server (options : Exchange.Options)
  deriving Inhabited

/-- What a task calls for: the bid request of a given number, or the configuration. -/
inductive Call where
  | bid (index : Nat)
  | config
  deriving DecidableEq, Repr, Inhabited

/-- How far a task has come. -/
inductive Phase where
  | queued
  | cancelled
  | done
  deriving DecidableEq, Repr, Inhabited

/-- A task on the network. -/
structure Task where
  call : Call
  phase : Phase
  deriving DecidableEq, Repr, Inhabited

/-- The network: the peer, the address of its host, the targets called for bids and for the
configuration, the query sent with configuration calls, how long a call may last, and the tasks
kept. -/
structure Network where
  peer : Peer
  host : String
  bidTarget : String
  configTarget : String
  configQuery : String
  timeoutMs : Nat
  tasks : List Task
  deriving Inhabited

namespace Network

/-- The query of configuration calls: the publisher and the client's version. -/
def configQueryOf (p : Publisher) (sdkVersion : String) : String :=
  Web.formQuery [("cpId", p.cpId), ("bundleId", p.bundleId), ("sdkVersion", sdkVersion)]

/-- The target of bid calls, in normal form. -/
def bidCall (n : Network) : String :=
  Web.normalTarget n.bidTarget.toList

/-- The target of configuration calls, in normal form, with the query added to any query it
has. -/
def configCall (n : Network) : String :=
  Web.withQuery (Web.normalTarget n.configTarget.toList) n.configQuery

/-- Queues a task, letting go of the tasks that are done. -/
def spawn (n : Network) (c : Call) : Network :=
  { n with tasks := n.tasks.filter (·.phase ≠ .done) ++ [⟨c, .queued⟩] }

/-- The number of tasks kept. -/
def pending (n : Network) : Nat :=
  n.tasks.length

/-- Cancels every queued task. -/
def cancelAll (n : Network) : Network :=
  { n with
    tasks := n.tasks.map fun t =>
      if t.phase = .queued then { t with phase := .cancelled } else t }

/-- Every task, run or cancelled, is done. -/
def settle (n : Network) : Network :=
  { n with tasks := n.tasks.map fun t => { t with phase := .done } }

/-- The tasks that run when the program yields, in the order they were queued. -/
def queued (n : Network) : List Call :=
  (n.tasks.filter (·.phase = .queued)).map (·.call)

/-- What a bid call with a request gives. -/
def bidOutcome (n : Network) (r : BidRequest) : Except CallError WireResponse :=
  match n.peer with
  | .absent => .error (.transport (n.host ++ n.bidCall))
  | .server o =>
    let req : Http.Request := ⟨"POST", n.bidCall, some "application/json", Json.compact r.toJson⟩
    if req.path = Exchange.bidPath ∧ o.delayMs ≥ n.timeoutMs then .error .timeout
    else
      let answer := Exchange.serve o req
      readReply answer.status answer.body

/-- What a configuration call gives. -/
def configOutcome (n : Network) : Except CallError RemoteConfig :=
  match n.peer with
  | .absent => .error (.transport (n.host ++ n.configCall))
  | .server o =>
    let answer := Exchange.serve o ⟨"GET", n.configCall, none, ""⟩
    if answer.status < 200 ∨ answer.status > 299 then .error (.status answer.status)
    else if answer.body.isEmpty then .ok RemoteConfig.empty
    else
      match Schema.readTape RemoteConfig.schema answer.body.toUTF8 with
      | .ok j => .ok (RemoteConfig.ofJson j)
      | .error e => .error (.decode e.message)

end Network

end HeaderBidding
