import HeaderBidding.Decimal.Read

/-!
# Command-line options of the server

The server takes options only: `--name value`, `--name=value`, or for the port `-p value`,
`-pvalue` and `-p=value`; `--reusable-tokens` is a switch. `-h`/`--help` asks for the help and
`-V`/`--version` for the version.

Arguments are read left to right. An option that takes a value waits for it in the next
argument, unless that argument looks like an option (a `-` and at least one more character):
then the option is left without a value. A value is checked only when the next option is read
or the arguments end, so a later argument that is not an option at all is refused first:

- an argument that names no option, or stands where no value is awaited, is refused as
  `unexpected`, with a tip naming the option whose name is most alike (Jaro similarity
  above 0.7);
- an option given twice is refused, before its second value is looked at;
- a value that does not read as the option's number is refused as `invalid`, with the reason
  the integer reader gives;
- an option with no value is refused when the next option is read or at the end.

After `--` every argument stands where no value is awaited.
-/

namespace HeaderBidding.Server

/-- The kind of value an option takes. -/
inductive ValueKind where
  | port
  | text
  | seconds
  | length
  | switch
  deriving DecidableEq, Repr, Inhabited

/-- An option: its long name, short name, value name, kind, help and default. -/
structure OptionSpec where
  long : String
  short : Option Char
  valueName : String
  kind : ValueKind
  help : String
  default : Option String
  deriving Inhabited

/-- The server's options, in the order the help lists them. -/
def specs : List OptionSpec :=
  [⟨"port", some 'p', "PORT", .port, "", some "8080"⟩,
   ⟨"log-dir", none, "LOG_DIR", .text, "", some "logs"⟩,
   ⟨"cdb-url", none, "CDB_URL", .text, "CDB 竞价地址，默认指向本地 Mock CDB",
     some "http://localhost:9001/inapp/v2"⟩,
   ⟨"config-url", none, "CONFIG_URL", .text, "", some "http://localhost:9001/v1.0/api/config"⟩,
   ⟨"cp-id", none, "CP_ID", .text, "", some "B-000000"⟩,
   ⟨"bundle-id", none, "BUNDLE_ID", .text, "", some "com.example.app"⟩,
   ⟨"timeout-secs", none, "TIMEOUT_SECS", .seconds, "CDB 请求超时（秒）", some "60"⟩,
   ⟨"ad-units-file", none, "AD_UNITS_FILE", .text, "", some "static/ad_units.json"⟩,
   ⟨"remote-config-file", none, "REMOTE_CONFIG_FILE", .text, "",
     some "static/remote_config.json"⟩,
   ⟨"mock-cdb-port", none, "MOCK_CDB_PORT", .port, "Mock CDB 端口，0 表示不启动", some "9001"⟩,
   ⟨"screen-width", none, "SCREEN_WIDTH", .length, "屏幕尺寸（竖屏宽x高），用于插屏广告位",
     some "360"⟩,
   ⟨"screen-height", none, "SCREEN_HEIGHT", .length, "", some "640"⟩,
   ⟨"reusable-tokens", none, "", .switch, "令牌解析后保留到过期，而不是只能使用一次", none⟩]

/-- The program's name. -/
def programName : String :=
  "inapp-bidcache"

/-- The usage line. -/
def usage : String :=
  "Usage: " ++ programName ++ " [OPTIONS]"

/-- The text `--name <VALUE>` naming an option in messages. -/
def OptionSpec.display (s : OptionSpec) : String :=
  "--" ++ s.long ++ (if s.kind = .switch then "" else " <" ++ s.valueName ++ ">")

/-- The help's entry for an option: its names, then its help and default on the next line. -/
def OptionSpec.helpEntry (s : OptionSpec) : String :=
  let names := match s.short with
    | some c => "  -" ++ c.toString ++ ", " ++ s.display
    | none => "      " ++ s.display
  let default := match s.default with
    | some d => "[default: " ++ d ++ "]"
    | none => ""
  let body := if s.help.isEmpty then default
    else if default.isEmpty then s.help else s.help ++ " " ++ default
  names ++ "\n          " ++ body ++ "\n"

/-- The help text. -/
def helpText : String :=
  "In-app bid cache with asynchronous refill\n\n" ++ usage ++ "\n\nOptions:\n" ++
    String.join (specs.map OptionSpec.helpEntry) ++
    "  -h, --help\n          Print help\n  -V, --version\n          Print version\n"

/-- The version text. -/
def versionText : String :=
  programName ++ " 1.0\n"

/-! ### Reading integers -/

/-- Reads decimal digits left to right into `acc`, as a number of at most `limit`. It fails at
the first character that is not a digit (`true`) or at the first digit that takes the number
past the limit (`false`), whichever comes first. -/
def readDigits (limit : Nat) : List Char → Nat → Except Bool Nat
  | [], acc => .ok acc
  | c :: cs, acc =>
    if c.isDigit then
      let acc := acc * 10 + (c.toNat - '0'.toNat)
      if acc > limit then .error false else readDigits limit cs acc
    else .error true

/-- Reads a numeral as an integer in `[lo, hi]`, the range of the integer type read into: an
optional sign (`-` only when `lo < 0`), then at least one digit. The error is the reader's
reason. -/
def readInteger (text : String) (lo hi : Int) : Except String Int :=
  let invalid := "invalid digit found in string"
  let positive (ds : List Char) : Except String Int :=
    match readDigits hi.toNat ds 0 with
    | .ok n => .ok n
    | .error true => .error invalid
    | .error false => .error "number too large to fit in target type"
  match text.toList with
  | [] => .error "cannot parse integer from empty string"
  | ['+'] => .error invalid
  | ['-'] => .error invalid
  | '+' :: ds => positive ds
  | '-' :: ds =>
    if lo < 0 then
      match readDigits (-lo).toNat ds 0 with
      | .ok n => .ok (-(n : Int))
      | .error true => .error invalid
      | .error false => .error "number too small to fit in target type"
    else positive ('-' :: ds)
  | ds => positive ds

/-- The range of a 64-bit signed integer, which ports and lengths are first read as. -/
def wideRange : Int × Int :=
  (-(Int.pow 2 63), Int.pow 2 63 - 1)

/-- Reads a value for an option: the number (zero for a text or switch), or the value as shown
in the refusal and the reason. A port or length is read as a 64-bit integer and then checked
against its range, and a value out of the range is shown as the integer read. -/
def readValue (s : OptionSpec) (value : String) : Except (String × String) Int :=
  let ranged (lo hi : Int) : Except (String × String) Int :=
    match readInteger value wideRange.1 wideRange.2 with
    | .error why => .error (value, why)
    | .ok n =>
      if lo ≤ n ∧ n ≤ hi then .ok n
      else .error (toString n, toString n ++ " is not in " ++ toString lo ++ "..=" ++ toString hi)
  match s.kind with
  | .port => ranged 0 65535
  | .length => ranged (-2147483648) 2147483647
  | .seconds =>
    match readInteger value 0 (Int.pow 2 64 - 1) with
    | .error why => .error (value, why)
    | .ok n => .ok n
  | _ => .ok 0

/-! ### Similar names -/

/-- The Jaro similarity of two texts: characters of `a` are matched, left to right, with the
first unmatched equal character of `b` within half the longer length less one; half the matched
pairs that differ in order are transpositions. -/
def jaro (a b : List Char) : Float :=
  if a.isEmpty && b.isEmpty then 1
  else if a.isEmpty || b.isEmpty then 0
  else
    let range := max a.length b.length / 2 - 1
    let step (acc : List Bool × List Char) (ic : Nat × Char) : List Bool × List Char :=
      let (used, matched) := acc
      let (i, c) := ic
      let found := (List.range (min b.length (i + range + 1))).find? fun j =>
        i - range ≤ j && b[j]? == some c && used[j]? == some false
      match found with
      | some j => (used.set j true, matched ++ [c])
      | none => (used, matched)
    let (used, fromA) :=
      ((List.range a.length).zip a).foldl step (List.replicate b.length false, [])
    let fromB := ((b.zip used).filter (·.2)).map (·.1)
    let m := fromA.length
    if m = 0 then 0
    else
      let t := ((fromA.zip fromB).filter fun (x, y) => x ≠ y).length / 2
      let mf := m.toFloat
      (mf / a.length.toFloat + mf / b.length.toFloat + (m - t).toFloat / mf) / 3

/-- The long names, in the order they are offered as tips. -/
def longNames : List String :=
  specs.map (·.long) ++ ["help", "version"]

/-- The long name most like an unknown one, if any is alike enough; of equally alike names the
one listed last. -/
def similarLong (name : String) : Option String :=
  let pick (best : Option (Float × String)) (l : String) : Option (Float × String) :=
    let score := jaro name.toList l.toList
    if score > 0.7 then
      match best with
      | some (s, _) => if score ≥ s then some (score, l) else best
      | none => some (score, l)
    else best
  (longNames.foldl pick none).map (·.2)

/-! ### Reading the arguments -/

/-- The server's settings from the command line. -/
structure Options where
  port : Nat
  logDir : String
  cdbUrl : String
  configUrl : String
  cpId : String
  bundleId : String
  timeoutSecs : Nat
  adUnitsFile : String
  remoteConfigFile : String
  mockPort : Nat
  screenWidth : Int
  screenHeight : Int
  reusableTokens : Bool
  deriving Inhabited

/-- The settings given by option values, each option not given at its default. -/
def Options.ofValues (values : List (String × String)) : Options :=
  let text (long : String) : String :=
    match values.lookup long with
    | some v => v
    | none => ((specs.find? (·.long == long)).bind (·.default)).getD ""
  let number (long : String) : Int :=
    match specs.find? (·.long == long) with
    | some s => ((readValue s (text long)).toOption).getD 0
    | none => 0
  { port := (number "port").toNat
    logDir := text "log-dir"
    cdbUrl := text "cdb-url"
    configUrl := text "config-url"
    cpId := text "cp-id"
    bundleId := text "bundle-id"
    timeoutSecs := (number "timeout-secs").toNat
    adUnitsFile := text "ad-units-file"
    remoteConfigFile := text "remote-config-file"
    mockPort := (number "mock-cdb-port").toNat
    screenWidth := number "screen-width"
    screenHeight := number "screen-height"
    reusableTokens := (values.lookup "reusable-tokens").isSome }

/-- What the arguments ask for. -/
inductive Invocation where
  | help
  | version
  | run (options : Options)
  | refused (message : String)
  deriving Inhabited

/-- The usage line naming the options given so far (by their `--name <VALUE>` texts, without
repeats), or the generic one when there are none. -/
def usageOf (given : List String) : String :=
  let names := given.foldl (fun acc n => if acc.contains n then acc else acc ++ [n]) []
  if names.isEmpty then usage else "Usage: " ++ programName ++ " " ++ " ".intercalate names

/-- The text of a refusal: the error, an optional tip, the usage when asked for, and the
pointer to the help. -/
def refusal (message : String) (tip : Option String) (withUsage : Option String) : String :=
  "error: " ++ message ++ "\n" ++
    (match tip with
     | some t => "\n  tip: " ++ t ++ "\n"
     | none => "") ++
    (match withUsage with
     | some u => "\n" ++ u ++ "\n"
     | none => "") ++
    "\nFor more information, try '--help'.\n"

/-- The refusal of an argument that names no option or stands where no value is awaited. -/
def unexpected (arg : String) (tip : Option String) (given : List String) : Invocation :=
  .refused (refusal ("unexpected argument '" ++ arg ++ "' found") tip (some (usageOf given)))

/-- The text naming a long option in messages, the help and the version included. -/
def displayOfLong (long : String) : String :=
  match specs.find? (·.long == long) with
  | some s => s.display
  | none => "--" ++ long

/-- The refusal of an unknown long option, with a tip when a known name is alike; the usage
names the options given so far and the one the tip names. -/
def unknownLong (name : String) (given : List String) : Invocation :=
  match similarLong name with
  | some l =>
    unexpected ("--" ++ name) (some ("a similar argument exists: '--" ++ l ++ "'"))
      (given ++ [displayOfLong l])
  | none => unexpected ("--" ++ name) none given

/-- The refusal of a switch given a value. -/
def unneededValue (display value : String) (given : List String) : Invocation :=
  .refused (refusal ("unexpected value '" ++ value ++ "' for '" ++ display ++
    "' found; no more were expected") none (some (usageOf (given ++ [display]))))

/-- An option waiting to be checked, with its value once one came. -/
structure Pending where
  spec : OptionSpec
  value : Option String
  deriving Inhabited

/-- The state of reading: the values recorded, the options given (by their texts, in the order
they were first given, a value that did not read included), the option waiting, and whether
`--` was read. -/
structure Reading where
  values : List (String × String)
  given : List String
  pending : Option Pending
  escaped : Bool
  deriving Inhabited

/-- Records an option's value, unless the option was given before or the value does not read.
An option whose value does not read still counts as given. -/
def Reading.record (r : Reading) (s : OptionSpec) (value : String) : Reading × Option Invocation :=
  if r.values.any (·.1 == s.long) then
    (r, some (.refused (refusal ("the argument '" ++ s.display ++
      "' cannot be used multiple times") none (some usage))))
  else
    let r := { r with given := r.given ++ [s.display] }
    match readValue s value with
    | .error (shown, why) =>
      (r, some (.refused (refusal ("invalid value '" ++ shown ++ "' for '" ++ s.display ++ "': " ++
        why) none none)))
    | .ok _ => ({ r with values := r.values ++ [(s.long, value)] }, none)

/-- Checks the option waiting, if any: it records its value, or refuses it for having none. -/
def Reading.settle (r : Reading) : Reading × Option Invocation :=
  let r0 := { r with pending := none }
  match r.pending with
  | none => (r0, none)
  | some ⟨s, some v⟩ => r0.record s v
  | some ⟨s, none⟩ =>
    (r0, some (.refused (refusal ("a value is required for '" ++ s.display ++
      "' but none was supplied") none none)))

/-- What one argument does to the reading: it goes on, or the reading ends. -/
def Reading.take (r : Reading) (arg : String) : Except Invocation Reading :=
  let cs := arg.toList
  -- a known option first settles the option waiting
  let known (k : Reading → Except Invocation Reading) : Except Invocation Reading :=
    match r.settle with
    | (r, none) => k r
    | (_, some e) => .error e
  let given (r : Reading) (s : OptionSpec) (value : String) : Except Invocation Reading :=
    match r.record s value with
    | (r, none) => .ok r
    | (_, some e) => .error e
  let waiting (r : Reading) (s : OptionSpec) : Except Invocation Reading :=
    .ok { r with pending := some ⟨s, none⟩ }
  let plain : Except Invocation Reading :=
    match r.pending with
    | some ⟨s, none⟩ =>
      if r.escaped then .error (unexpected arg none [])
      else .ok { r with pending := some ⟨s, some arg⟩ }
    | _ => .error (unexpected arg none [])
  if r.escaped then plain
  else
    match cs with
    | ['-', '-'] => .ok { r with escaped := true }
    | '-' :: '-' :: nameValue =>
      let name := String.ofList (nameValue.takeWhile (· ≠ '='))
      let attached : Option String := match nameValue.dropWhile (· ≠ '=') with
        | '=' :: v => some (String.ofList v)
        | _ => none
      let flag (k : Invocation) : Except Invocation Reading :=
        match attached with
        | some v => .error (unneededValue ("--" ++ name) v r.given)
        | none => known fun _ => .error k
      if name == "help" then flag .help
      else if name == "version" then flag .version
      else
        match specs.find? (·.long == name) with
        | none => .error (unknownLong name r.settle.1.given)
        | some s =>
          if s.kind = .switch then
            match attached with
            | some v => .error (unneededValue s.display v r.given)
            | none => known fun r => given r s "true"
          else
            match attached with
            | some v => known fun r => given r s v
            | none => known fun r => waiting r s
    | '-' :: c :: more =>
      if c == 'h' then known fun _ => .error .help
      else if c == 'V' then known fun _ => .error .version
      else
        match specs.find? (·.short == some c) with
        | none => .error (unexpected ("-" ++ c.toString) none [])
        | some s =>
          match more with
          | [] => known fun r => waiting r s
          | '=' :: v => known fun r => given r s (String.ofList v)
          | v => known fun r => given r s (String.ofList v)
    | _ => plain

/-- Reads the arguments one after another. -/
def readArgs : List String → Reading → Invocation
  | [], r =>
    match r.settle with
    | (r, none) => .run (Options.ofValues r.values)
    | (_, some e) => e
  | arg :: rest, r =>
    match r.take arg with
    | .ok r => readArgs rest r
    | .error e => e

/-- Reads the command line. -/
def Invocation.ofArgs (args : List String) : Invocation :=
  readArgs args ⟨[], [], none, false⟩

end HeaderBidding.Server
