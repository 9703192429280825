import SensorBoard.Files
import SensorBoard.Sensor.Rule
import SensorBoard.Toml.Reader

/-!
# Settings

What can be set in a configuration file, with a default for everything. A section is a table whose
keys may be left out and whose other keys do not matter; or it is a list of its values in order.
The first usable one of two files is taken.
-/

namespace SensorBoard

/-- Everything that can be set. -/
structure Settings where
  /-- The base address of the device server. -/
  baseUrl : String
  timeoutSeconds : Nat
  /-- Where the board itself is served. -/
  bindAddress : String
  level : String
  /-- Are the values of the sensors logged? -/
  showSensorData : Bool
  /-- Rules on top of those that are always there. -/
  rules : List RuleText

namespace Settings

/-- The settings without a file. -/
def default : Settings where
  baseUrl := "http://127.0.0.1:8888/"
  timeoutSeconds := 10
  bindAddress := "0.0.0.0:3000"
  level := "info"
  showSensorData := true
  rules := []

/-! ## Values -/

def textOf? : Toml → Option String
  | .text s => some s
  | _ => none

def naturalOf? : Toml → Option Nat
  | .integer i => if 0 ≤ i then some i.toNat else none
  | _ => none

def booleanOf? : Toml → Option Bool
  | .boolean b => some b
  | _ => none

/-- A value that has a default. -/
def orDefault {α : Type} (fallback : α) (read? : Toml → Option α) : Option Toml → Option α
  | some value => read? value
  | none => some fallback

/-- The fields of a section by their names: the entries of a table or the items of a list in order.
A moment is a section with no field set. -/
def fields? (names : List String) : Toml → Option (String → Option Toml)
  | .table _ entries => some fun name => Keyed.find? name entries
  | .list items => some fun name => (names.zip items).lookup name
  | .rows tables => some fun name => (names.zip tables).lookup name
  | .moment => some fun _ => none
  | _ => none

/-- The fields of a section that may be left out. -/
def section? (names : List String) (key : String) (root : Toml.Entries) :
    Option (String → Option Toml) :=
  match Keyed.find? key root with
  | none => some fun _ => none
  | some value => fields? names value

/-- A rule; its units and its kind may be left out. -/
def rule? (value : Toml) : Option RuleText := do
  let field ← fields? ["type_id", "value_suffix", "units", "kind"] value
  return ⟨← textOf? (← field "type_id"), ← textOf? (← field "value_suffix"),
    ← orDefault "" textOf? (field "units"), ← orDefault "" textOf? (field "kind")⟩

def rules? (value : Toml) : Option (List RuleText) := do (← value.items?).mapM rule?

def ofEntries? (root : Toml.Entries) : Option Settings := do
  let gateway ← section? ["base_url", "timeout_seconds"] "gateway" root
  let server ← section? ["bind_address"] "server" root
  let logging ← section? ["level", "show_sensor_data"] "logging" root
  return {
    baseUrl := ← orDefault default.baseUrl textOf? (gateway "base_url")
    timeoutSeconds := ← orDefault default.timeoutSeconds naturalOf? (gateway "timeout_seconds")
    bindAddress := ← orDefault default.bindAddress textOf? (server "bind_address")
    level := ← orDefault default.level textOf? (logging "level")
    showSensorData := ← orDefault default.showSensorData booleanOf? (logging "show_sensor_data")
    rules := ← orDefault [] rules? (Keyed.find? "rules" root) }

def parse? (s : String) : Option Settings := do ofEntries? (← Toml.parse? s)

/-! ## Files -/

inductive LoadFault where
  | unreadable
  | unparsable
  deriving DecidableEq

def LoadFault.message : LoadFault → String
  | unreadable => "Failed to read config file"
  | unparsable => "Failed to parse config"

def readText? (files : Files) (path : String) : Option String :=
  match files path with
  | some (.file content) => String.fromUTF8? content
  | some .directory => none
  | none => none

def load (files : Files) (path : String) : Except LoadFault Settings :=
  match readText? files path with
  | none => .error .unreadable
  | some text =>
    match parse? text with
    | none => .error .unparsable
    | some settings => .ok settings

/-- Where settings came from. -/
inductive Origin where
  | file (path : String)
  /-- No file was usable; every one that is there was rejected, for a reason. -/
  | defaults (rejected : List String)

/-- The settings of the first usable file, passing over those that are not there. -/
def loadFirst (files : Files) (rejected : List String) : List String → Settings × Origin
  | [] => (default, .defaults rejected)
  | path :: rest =>
    if (files path).isNone then loadFirst files rejected rest
    else
      match load files path with
      | .ok settings => (settings, .file path)
      | .error fault => loadFirst files (rejected ++ [path ++ ": " ++ fault.message]) rest

/-- The places where a file is looked for. -/
def paths : List String := ["config/dashboard.toml", "../config/dashboard.toml"]

/-- The settings of the first usable file, or the defaults. -/
def loadOrDefault (files : Files) : Settings × Origin := loadFirst files [] paths

def ruleTable (s : Settings) : RuleTable := .withOverrides s.rules

/-- The settings as they are shown at the start. -/
def summary (s : Settings) : String :=
  String.join ([
    "┌─────────────────────────────────────────┐",
    "│        DASHBOARD CONFIGURATION          │",
    "├─────────────────────────────────────────┤",
    "│ Gateway: " ++ s.baseUrl,
    "│ Timeout: " ++ Text.natText s.timeoutSeconds ++ "s",
    "│ Listen: " ++ s.bindAddress,
    "│ Log Level: " ++ s.level,
    "│ Extra Rules: " ++ Text.natText s.rules.length,
    "└─────────────────────────────────────────┘"].map fun line => line ++ "\n")

end Settings

end SensorBoard
