/-!
# The runtime log

The runtime log writes entries to one file per level (`TRACE`, `DEBUG`, `INFO`, `WARN`,
`ERROR`). Entries pass through a channel of bounded capacity to a writer that keeps one buffer
per level. The writer takes the oldest entry from the channel into its level's buffer, and
writes the buffer to the level's file once it holds a batch of entries; at every tick of its
interval it writes every buffer; and once the channel has closed and emptied it writes every
buffer a last time and ends. An entry of a level without a file is taken but never written.

- `offer` (logging without waiting) drops the entry when the channel is full or the sender is
  gone;
- `send` (logging and waiting) lets the writer take the entries in the channel when it is full,
  so it never drops while the sender is there;
- `receive`, `tick` and `finish` are the writer's steps; `advance` lets it take every entry in
  the channel;
- `shutdown` drops the sender, so nothing more is accepted, and `close` shuts down and lets the
  writer take what is left and finish.

Log files older than `retentionHours` hours are removed when the log starts.
-/

namespace HeaderBidding

/-- An entry of the runtime log. -/
structure LogEntry where
  level : String
  message : String
  deriving DecidableEq, Repr, Inhabited

/-- A runtime log: the channel's capacity and the writer's batch size; the entries the channel
accepted, in order, and those still in it, oldest first; the writer's buffer and the file of
each level; whether the sender is still there, and whether the writer has ended. -/
structure RuntimeLog where
  capacity : Nat
  batch : Nat
  accepted : List LogEntry
  channel : List LogEntry
  buffers : String → List LogEntry
  written : String → List LogEntry
  accepting : Bool
  finished : Bool
  deriving Inhabited

namespace RuntimeLog

/-- The levels that have a file, in order. -/
def levels : List String :=
  ["TRACE", "DEBUG", "INFO", "WARN", "ERROR"]

/-- Hours a log file is kept. -/
def retentionHours : Nat :=
  72

/-- A new log with a channel of the given capacity and a writer of the given batch size. -/
def new (capacity batch : Nat) : RuntimeLog :=
  ⟨capacity, batch, [], [], fun _ => [], fun _ => [], true, false⟩

/-- The map of levels with one level's entries replaced. -/
def setLevel (m : String → List LogEntry) (level : String) (es : List LogEntry) :
    String → List LogEntry :=
  fun l => if l = level then es else m l

/-- The channel takes an entry. -/
def enqueue (l : RuntimeLog) (e : LogEntry) : RuntimeLog :=
  { l with accepted := l.accepted ++ [e], channel := l.channel ++ [e] }

/-- Logs without waiting: the entry is dropped when the channel is full or the sender gone. -/
def offer (l : RuntimeLog) (level message : String) : RuntimeLog :=
  if l.accepting && decide (l.channel.length < l.capacity) then l.enqueue ⟨level, message⟩
  else l

/-- Writes a level's buffer to the end of its file and empties the buffer. -/
def flush (l : RuntimeLog) (level : String) : RuntimeLog :=
  { l with
    written := setLevel l.written level (l.written level ++ l.buffers level)
    buffers := setLevel l.buffers level [] }

/-- The writer takes the oldest entry into its level's buffer, and writes the buffer when it
holds a batch and the level has a file. -/
def receive (l : RuntimeLog) : RuntimeLog :=
  match l.channel with
  | [] => l
  | e :: rest =>
    let buffer := l.buffers e.level ++ [e]
    let l := { l with channel := rest, buffers := setLevel l.buffers e.level buffer }
    if decide (l.batch ≤ buffer.length) && levels.contains e.level then l.flush e.level else l

/-- At a tick of its interval the writer writes the buffer of every level with a file. -/
def tick (l : RuntimeLog) : RuntimeLog :=
  levels.foldl flush l

/-- Runs the writer: it takes every entry in the channel. -/
def advance (l : RuntimeLog) : RuntimeLog :=
  Nat.repeat receive l.channel.length l

/-- Logs and waits: when the channel is full the writer takes its entries first. Nothing is
logged once the sender is gone. -/
def send (l : RuntimeLog) (level message : String) : RuntimeLog :=
  if l.accepting then
    let l := if l.capacity ≤ l.channel.length then l.advance else l
    l.enqueue ⟨level, message⟩
  else l

/-- Drops the sender: nothing more is accepted. -/
def shutdown (l : RuntimeLog) : RuntimeLog :=
  { l with accepting := false }

/-- Once the sender is gone and the channel empty, the writer writes every buffer and ends. -/
def finish (l : RuntimeLog) : RuntimeLog :=
  if !l.accepting && l.channel.isEmpty then { l.tick with finished := true } else l

/-- Closes the log: the sender is dropped, and the writer takes what is left and finishes. -/
def close (l : RuntimeLog) : RuntimeLog :=
  l.shutdown.advance.finish

/-- The name of a level's file. -/
def fileName (level : String) : String :=
  "runtime_" ++ level.toLower ++ ".json"

/-- Each file with the entries written to it, in order. -/
def files (l : RuntimeLog) : List (String × List LogEntry) :=
  levels.map fun level => (fileName level, l.written level)

/-- Whether a log file of the given age in hours is removed when the log starts. -/
def expires (ageHours : Nat) : Bool :=
  decide (ageHours > retentionHours)

end RuntimeLog

end HeaderBidding
