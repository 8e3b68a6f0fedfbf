import HeaderBidding.Bid.Slot
import HeaderBidding.Log.Event
import HeaderBidding.Schema.Tape
import HeaderBidding.Log.Trace

/-!
# Calls to the bidding server and what the bidder reports

A call to the bidding server ends in a response or in a `CallError`: no answer in time, a
transport failure, an answer whose status is not a success, or a body that does not read as a
response. The bidder reports each step of its calls and each bid it consumes as a `Lifecycle`
event; the logging observer turns events into `BidEvent`s for the runtime log, at a level per
kind, and into lines of the diagnostic trace.

`readReply` says what an answer of the server gives: a status that is not a success is a
failure; an empty body is the empty response; any other body is read as a response, and a body
that does not read is a failure.
-/

namespace HeaderBidding

/-- Why a call to the bidding server failed. -/
inductive CallError where
  | timeout
  | transport (url : String)
  | status (code : Nat)
  | decode (reason : String)
  deriving DecidableEq, Repr, Inhabited

namespace CallError

/-- The name of the error's kind. -/
def kind : CallError → String
  | .timeout => "Timeout"
  | .transport _ => "Http"
  | .status _ => "Status"
  | .decode _ => "Decode"

/-- The failure below a transport error. -/
def source? : CallError → Option String
  | .transport url => some ("error sending request for url (" ++ url ++ ")")
  | _ => none

/-- The message of an error. -/
def message : CallError → String
  | .timeout => "cdb call timed out"
  | .transport url => "cdb transport error: error sending request for url (" ++ url ++ ")"
  | .status code => "cdb answered with status " ++ toString code
  | .decode reason => "cdb response is malformed: " ++ reason

end CallError

/-- The status as the 16-bit number an answer carries. -/
def statusCode (status : Int) : Nat :=
  (status % 65536).toNat

/-- What an answer of the bidding server with a status and body gives. -/
def readReply (status : Int) (body : String) : Except CallError WireResponse :=
  if status < 200 ∨ status > 299 then .error (.status (statusCode status))
  else if body.isEmpty then .ok WireResponse.empty
  else
    match Schema.readTape WireResponse.schema body.toUTF8 with
    | .ok j => .ok (WireResponse.ofJson j)
    | .error e => .error (.decode e.message)

/-- A step of the bidding life cycle. -/
inductive Lifecycle where
  | started (request : BidRequest)
  | finished (request : BidRequest) (response : WireResponse)
  | failed (request : BidRequest) (error : CallError)
  | consumed (key : SlotKey) (bid : Bid)
  deriving Inhabited

namespace Lifecycle

/-- The level at which the logging observer logs an event. -/
def level : Lifecycle → String
  | .started _ => "DEBUG"
  | .finished _ _ => "INFO"
  | .failed _ _ => "ERROR"
  | .consumed _ _ => "INFO"

/-- The runtime-log record of an event, stamped with `timestamp`. -/
def record (e : Lifecycle) (timestamp : String) : BidEvent :=
  match e with
  | .started r => (BidEvent.new "cdb_call_started" timestamp).withRequest r.id r.placements
  | .finished r resp =>
    ((BidEvent.new "cdb_call_finished" timestamp).withRequest r.id r.placements).withResponse
      resp.slots.length resp.timeToNextCall
  | .failed r err =>
    ((BidEvent.new "cdb_call_failed" timestamp).withRequest r.id r.placements).withError
      err.message
  | .consumed key bid =>
    (BidEvent.new "bid_consumed" timestamp).withConsumed key.placement bid.price

/-- The part of the program that traces life-cycle events. -/
def traceTarget : String :=
  "inapp_bidcache::bidding::listener"

/-- The trace line the logging observer writes for an event. -/
def traceLine : Lifecycle → TraceLine
  | .started r =>
    .make "DEBUG" traceTarget "cdb call started"
      [("request_id", .str r.id), ("slots", .int r.slots.length)]
  | .finished r resp =>
    .make "INFO" traceTarget "cdb call finished"
      [("request_id", .str r.id), ("slots", .int resp.slots.length),
       ("time_to_next_call", .int resp.timeToNextCall)]
  | .failed r err =>
    .make "WARN" traceTarget "cdb call failed"
      [("request_id", .str r.id), ("error", .str err.message)]
  | .consumed key bid =>
    .make "DEBUG" traceTarget "bid consumed"
      [("cache_key", .str key.render), ("price", .float bid.price)]

end Lifecycle

end HeaderBidding
