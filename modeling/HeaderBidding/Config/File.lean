import HeaderBidding.Config.Remote
import HeaderBidding.Ad.Unit
import HeaderBidding.Schema.Text
import HeaderBidding.Json.Write

/-!
# Configuration files

The client may keep its configuration in two files: the merged remote configuration, stored
after each update and read at start, and the list of ad units to bid for. A file that is
missing or does not read counts as absent: no stored configuration, no ad units.
-/

namespace HeaderBidding

/-- The configuration a file holds: none without a file, or when its text does not read as
one. -/
def RemoteConfig.ofFile? (text : Option String) : Option RemoteConfig :=
  text.bind fun t =>
    match Schema.readText RemoteConfig.schema t with
    | .ok j => some (RemoteConfig.ofJson j)
    | .error _ => none

/-- The text a configuration is stored as. -/
def RemoteConfig.fileText (c : RemoteConfig) : String :=
  Json.compact c.toJson

/-- The ad units a file lists: none without a file, or when its text does not read as a list of
ad units. -/
def AdUnit.listOfFile (text : Option String) : List AdUnit :=
  match Schema.readText (.list AdUnit.schema) (text.getD "[]") with
  | .ok (.arr items) => items.map AdUnit.ofJson
  | _ => []

end HeaderBidding
