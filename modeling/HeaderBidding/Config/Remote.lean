import HeaderBidding.Schema.Value

/-!
# Remote configuration

The bidding server sends a configuration: a kill switch that turns all bidding off, a few
texts for building ad tags, and whether client-side metrics are on. Every entry is optional;
an update changes only the entries it has.

The client keeps the merged configuration (`Settings`): the kill switch as last set, either by
an update or by hand, and the merged entries. It may persist the merged configuration after
each update and read it back at start.
-/

namespace HeaderBidding

/-- A remote configuration; every entry optional. -/
structure RemoteConfig where
  killSwitch : Option Bool
  displayUrlMacro : Option String
  adTagUrlMode : Option String
  adTagDataMacro : Option String
  adTagDataMode : Option String
  csmEnabled : Option Bool
  deriving DecidableEq, Repr, Inhabited

namespace RemoteConfig

/-- The configuration with no entries. -/
def empty : RemoteConfig :=
  ⟨none, none, none, none, none, none⟩

/-- The wire schema; absent entries are not written. -/
def schema : Schema :=
  .record "RemoteConfigResponse"
    [("killSwitch", .optional .boolean, .omitted),
     ("AndroidDisplayUrlMacro", .optional .string, .omitted),
     ("AndroidAdTagUrlMode", .optional .string, .omitted),
     ("AndroidAdTagDataMacro", .optional .string, .omitted),
     ("AndroidAdTagDataMode", .optional .string, .omitted),
     ("csmEnabled", .optional .boolean, .omitted)]

/-- The canonical document of a configuration. -/
def toJson (c : RemoteConfig) : Json :=
  let bool (key : String) : Option Bool → List (String × Json)
    | some b => [(key, .bool b)]
    | none => []
  let text (key : String) : Option String → List (String × Json)
    | some s => [(key, .str s)]
    | none => []
  .obj (bool "killSwitch" c.killSwitch ++ text "AndroidDisplayUrlMacro" c.displayUrlMacro ++
    text "AndroidAdTagUrlMode" c.adTagUrlMode ++ text "AndroidAdTagDataMacro" c.adTagDataMacro ++
    text "AndroidAdTagDataMode" c.adTagDataMode ++ bool "csmEnabled" c.csmEnabled)

/-- The configuration of a canonical document. -/
def ofJson (j : Json) : RemoteConfig :=
  { killSwitch := (j.field? "killSwitch").bind Json.getBool?
    displayUrlMacro := (j.field? "AndroidDisplayUrlMacro").bind Json.getStr?
    adTagUrlMode := (j.field? "AndroidAdTagUrlMode").bind Json.getStr?
    adTagDataMacro := (j.field? "AndroidAdTagDataMacro").bind Json.getStr?
    adTagDataMode := (j.field? "AndroidAdTagDataMode").bind Json.getStr?
    csmEnabled := (j.field? "csmEnabled").bind Json.getBool? }

/-- The entries of `update`, and of `base` where `update` has none. -/
def merge (base update : RemoteConfig) : RemoteConfig :=
  { killSwitch := update.killSwitch.orElse fun _ => base.killSwitch
    displayUrlMacro := update.displayUrlMacro.orElse fun _ => base.displayUrlMacro
    adTagUrlMode := update.adTagUrlMode.orElse fun _ => base.adTagUrlMode
    adTagDataMacro := update.adTagDataMacro.orElse fun _ => base.adTagDataMacro
    adTagDataMode := update.adTagDataMode.orElse fun _ => base.adTagDataMode
    csmEnabled := update.csmEnabled.orElse fun _ => base.csmEnabled }

/-- The schema of the query that asks for the configuration. -/
def requestSchema : Schema :=
  .record "RemoteConfigRequest"
    [("cpId", .string, .required), ("bundleId", .string, .required),
     ("sdkVersion", .string, .required)]

end RemoteConfig

/-- The client's configuration: the kill switch, the merged remote configuration, and, when it
persists it, the configuration last stored and how many times it was stored. -/
structure Settings where
  killSwitch : Bool
  remote : RemoteConfig
  store : Option (Option RemoteConfig)
  writes : Nat
  deriving Inhabited

namespace Settings

/-- Settings that persist nothing. -/
def volatile : Settings :=
  ⟨false, .empty, none, 0⟩

/-- Merges an update in; its kill switch, if any, is set. -/
def apply (s : Settings) (update : RemoteConfig) : Settings :=
  { s with
    killSwitch := update.killSwitch.getD s.killSwitch
    remote := s.remote.merge update }

/-- Settings persisted in a store that holds `held`, which is applied at start. -/
def persisted (held : Option RemoteConfig) : Settings :=
  let base : Settings := ⟨false, .empty, some held, 0⟩
  match held with
  | some c => base.apply c
  | none => base

/-- Merges an update in and stores the merged configuration. -/
def refresh (s : Settings) (update : RemoteConfig) : Settings :=
  let s := s.apply update
  match s.store with
  | some _ => { s with store := some (some s.remote), writes := s.writes + 1 }
  | none => s

/-- Sets the kill switch by hand. -/
def setKillSwitch (s : Settings) (enabled : Bool) : Settings :=
  { s with killSwitch := enabled }

end Settings

end HeaderBidding
