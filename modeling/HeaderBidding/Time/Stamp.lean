/-!
# Time stamps

Instants are milliseconds since 1970-01-01T00:00:00Z. `rfc3339` writes an instant as an
RFC 3339 date and time at a fixed offset from UTC: `2024-03-01T08:00:00.250+08:00`. The
milliseconds are written only when they are not zero.

The civil date of a day number uses the proleptic Gregorian calendar, counting in eras of
400 years (146097 days), which repeat exactly.
-/

namespace HeaderBidding.Time

/-- The year, month and day of a day number (day 0 is 1970-01-01). -/
def civil (days : Int) : Int × Nat × Nat :=
  let z := days + 719468
  let era := z / 146097
  let doe := z - era * 146097
  let yoe := (doe - doe / 1460 + doe / 36524 - doe / 146096) / 365
  let doy := doe - (365 * yoe + yoe / 4 - yoe / 100)
  let mp := (5 * doy + 2) / 153
  let day := doy - (153 * mp + 2) / 5 + 1
  let month := if mp < 10 then mp + 3 else mp - 9
  let year := yoe + era * 400 + (if month ≤ 2 then 1 else 0)
  (year, month.toNat, day.toNat)

/-- A number with at least `width` digits. -/
def padded (width : Nat) (n : Nat) : String :=
  let ds := toString n
  String.ofList (List.replicate (width - ds.length) '0') ++ ds

/-- A year: four digits, with a sign beyond `0000..9999`. -/
def yearText (y : Int) : String :=
  if y < 0 then "-" ++ padded 4 y.natAbs
  else if y > 9999 then "+" ++ toString y
  else padded 4 y.toNat

/-- An offset from UTC in minutes, as `+hh:mm`. -/
def offsetText (minutes : Int) : String :=
  (if minutes < 0 then "-" else "+") ++ padded 2 (minutes.natAbs / 60) ++ ":" ++
    padded 2 (minutes.natAbs % 60)

/-- An instant, in milliseconds since the epoch, at an offset from UTC in minutes. -/
def rfc3339 (millis : Int) (offsetMinutes : Int) : String :=
  let shifted := millis + offsetMinutes * 60000
  let days := shifted / 86400000
  let inDay := (shifted % 86400000).toNat
  let (y, m, d) := civil days
  let seconds := inDay / 1000
  let ms := inDay % 1000
  yearText y ++ "-" ++ padded 2 m ++ "-" ++ padded 2 d ++ "T" ++ padded 2 (seconds / 3600) ++ ":" ++
    padded 2 (seconds / 60 % 60) ++ ":" ++ padded 2 (seconds % 60) ++
    (if ms = 0 then "" else "." ++ padded 3 ms) ++ offsetText offsetMinutes

end HeaderBidding.Time
