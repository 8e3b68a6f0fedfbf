import HeaderBidding.Server.Options
import HeaderBidding.Client.Basic
import HeaderBidding.Config.File

/-!
# A run of the server

The server starts, prefetches bids for its ad units, serves until it is interrupted, and shuts
down. This module follows a run in which no call reaches the bidding server and no request
reaches the server itself:

1. the trace notes the port and the runtime log that the server is starting; a stand-in
   bidding server is started when its port is not 0;
2. the ad units are read from their file, and the stored remote configuration from its file;
   a stored configuration that does not read is ignored, with a warning;
3. the client prefetches bids for the ad units (the configuration first);
4. the runtime log notes that the server runs; the calls run and fail;
5. on the interrupt the runtime log notes the shutdown, the client stops, the runtime log
   closes and the trace notes that the server is down.

The trace keeps only lines at level `INFO` or above. The log directory holds the trace's file
and one runtime log file per level.
-/

namespace HeaderBidding.Server

/-- What the server finds on disk when it starts: the text of the ad units file and of the
stored remote configuration, each if the file exists. -/
structure Disk where
  adUnits : Option String
  remoteConfig : Option String
  deriving Inhabited

/-- What a run leaves: the kept trace lines in order, the runtime log, the text of the stored
remote configuration, and the names of the log files. -/
structure Outcome where
  trace : List TraceLine
  log : RuntimeLog
  remoteConfig : Option String
  logFiles : List String
  deriving Inhabited

/-- The target of the server's own trace lines. -/
def serverTarget : String :=
  "inapp_bidcache"

/-- The stored remote configuration, and the warning when its file does not read. -/
def storedConfig (path : String) : Option String → Option RemoteConfig × Option TraceLine
  | none => (none, none)
  | some text =>
    match Schema.readText RemoteConfig.schema text with
    | .ok j => (some (RemoteConfig.ofJson j), none)
    | .error e =>
      (none, some (.make "WARN" "inapp_bidcache::model::adapters"
        ("ignoring unreadable " ++ path ++ ": " ++ Schema.TextError.message text.toUTF8 e) []))

/-- The network as the options set it up: nothing listening at the bidding server's address. -/
def networkOf (o : Options) : Network :=
  let (host, bidTarget) := Web.splitAddress o.cdbUrl
  let (_, configTarget) := Web.splitAddress o.configUrl
  { peer := .absent
    host
    bidTarget
    configTarget
    configQuery := Network.configQueryOf ⟨o.cpId, o.bundleId⟩ "0.1.0"
    timeoutMs := o.timeoutSecs * 1000
    tasks := [] }

/-- The names of the log files, in order. -/
def logFileNames : List String :=
  "bidcache_log.json" :: RuntimeLog.levels.map RuntimeLog.fileName

/-- A run of the server with these options, files and clock, interrupted once it has started. -/
def run (o : Options) (disk : Disk) (clock : Int) : Outcome :=
  let starting := TraceLine.make "INFO" serverTarget
    ("bid cache server starting on port " ++ toString o.port) []
  let log := (RuntimeLog.new 1000 100).send "INFO" "bid cache server is starting..."
  let mock := if o.mockPort = 0 then []
    else [TraceLine.make "INFO" "inapp_bidcache::mock_cdb"
      ("Mock CDB running at http://0.0.0.0:" ++ toString o.mockPort) []]
  let units := AdUnit.listOfFile disk.adUnits
  let (held, unreadable) := storedConfig o.remoteConfigFile disk.remoteConfig
  let retention : Retention := if o.reusableTokens then .untilExpiry else .singleUse
  let c := Client.new (Screen.upright o.screenWidth o.screenHeight) (Settings.persisted held)
    retention clock (some log) none (.network (networkOf o))
  let c := { c with
    publisher := ⟨o.cpId, o.bundleId⟩
    trace := (#[starting] ++ mock.toArray ++ unreadable.toList.toArray) }
  let c := c.note (.make "INFO" serverTarget "prefetching ad units"
    [("ad_unit_count", .int units.length)])
  let c := c.prefetch units
  let c := c.logWaiting "INFO" ("bid cache server running at http://0.0.0.0:" ++ toString o.port)
  let c := c.wait
  let c := c.logWaiting "INFO" "Shutting down gracefully..."
  let c := c.stop.shutdown
  let c := c.note (.make "INFO" serverTarget "bid cache server shut down" [])
  let stored := match c.settings.store with
    | some (some r) => if c.settings.writes > 0 then some r.fileText else disk.remoteConfig
    | _ => disk.remoteConfig
  { trace := c.trace.toList.filter TraceLine.isKept
    log := c.log.getD (RuntimeLog.new 1000 100)
    remoteConfig := stored
    logFiles := logFileNames }

/-- The text of the log files a run leaves, stamped with the run's clock: the trace as JSON lines
(time in UTC), and each runtime log file's entries as JSON lines (time at UTC+8). -/
def Outcome.logTexts (out : Outcome) (clock : Int) : List (String × String) :=
  let traceLine (t : TraceLine) : String :=
    Json.compact (.obj [("timestamp", .str (Time.rfc3339 clock 0)), ("level", .str t.level),
      ("fields", .obj t.fields), ("target", .str t.target)])
  let entry (e : LogEntry) : String :=
    Json.compact (.obj [("level", .str e.level), ("message", .str e.message),
      ("timestamp", .str (Time.rfc3339 clock 480))])
  let lines (ls : List String) : String := String.join (ls.map (· ++ "\n"))
  ("bidcache_log.json", lines (out.trace.map traceLine)) ::
    out.log.files.map fun (name, es) => (name, lines (es.map entry))

end HeaderBidding.Server
