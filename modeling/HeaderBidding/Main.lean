import HeaderBidding.Server.Run
import Std.Time

/-!
# The server's command line

`inapp-bidcache [OPTIONS]` prints the help or the version, refuses its arguments with exit code
2, or runs the server offline. An offline run has no network: its calls to the bidding server
fail as if nothing listened, and it shuts down once they are done. It reads the ad units and
the stored remote configuration from their files, writes the stored configuration back when it
changed, and writes its logs into the log directory.
-/

open HeaderBidding

/-- The text of a file, if it exists and reads. -/
def readIfPresent (path : String) : IO (Option String) := do
  try
    pure (some (← IO.FS.readFile path))
  catch _ =>
    pure none

/-- Runs the command line. -/
def main (args : List String) : IO UInt32 := do
  match Server.Invocation.ofArgs args with
  | .help =>
    IO.print Server.helpText
    pure 0
  | .version =>
    IO.print Server.versionText
    pure 0
  | .refused message =>
    IO.eprint message
    pure 2
  | .run o =>
    let clock := (← Std.Time.Timestamp.now).toMillisecondsSinceUnixEpoch.val
    let disk : Server.Disk := ⟨← readIfPresent o.adUnitsFile, ← readIfPresent o.remoteConfigFile⟩
    let out := Server.run o disk clock
    IO.FS.createDirAll o.logDir
    for (name, text) in out.logTexts clock do
      IO.FS.writeFile (o.logDir ++ "/" ++ name) text
    if out.remoteConfig != disk.remoteConfig then
      if let some t := out.remoteConfig then
        IO.FS.writeFile o.remoteConfigFile t
    pure 0
