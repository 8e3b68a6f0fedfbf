import HeaderBidding.Json.Basic

/-!
# Diagnostic trace

Besides the runtime log, the program writes a diagnostic trace: one line per event, with a
level, the part of the program it comes from (its *target*), and named fields, among them the
`message`. Only lines at level `INFO` or above are kept.
-/

namespace HeaderBidding

/-- A line of the diagnostic trace. -/
structure TraceLine where
  level : String
  target : String
  fields : List (String × Json)
  deriving Inhabited

namespace TraceLine

/-- The levels in order of importance, least first. -/
def levels : List String :=
  ["TRACE", "DEBUG", "INFO", "WARN", "ERROR"]

/-- Whether a line is kept: its level is `INFO` or above. -/
def isKept (t : TraceLine) : Bool :=
  t.level == "INFO" || t.level == "WARN" || t.level == "ERROR"

/-- A line with a message and further fields. -/
def make (level target message : String) (fields : List (String × Json)) : TraceLine :=
  ⟨level, target, ("message", .str message) :: fields⟩

end TraceLine

end HeaderBidding
