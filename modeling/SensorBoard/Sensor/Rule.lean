import SensorBoard.Keyed
import SensorBoard.Sensor.Id
import SensorBoard.Sensor.Quantity

/-!
# Rules

A rule says of one object type where its value is found and how it is shown. A table of rules is
looked up by the type token of a sensor; sensors without a rule are not shown at all.
-/

namespace SensorBoard

/-- How sensors of one object type are read and shown. -/
structure Rule where
  typeId : String
  /-- Put behind the sensor's name, it gives the resource with the value and its history. -/
  valueSuffix : String
  units : String
  quantity : Quantity
  deriving DecidableEq

/-- The resource of a sensor under a rule. -/
def Rule.resourceFor (rule : Rule) (id : SensorId) : String := id.raw ++ rule.valueSuffix

/-- A rule as it is written in a configuration. -/
structure RuleText where
  typeId : String
  valueSuffix : String
  units : String
  kind : String
  deriving DecidableEq

/-- The rule that a written rule means. -/
def RuleText.rule (text : RuleText) : Rule :=
  ⟨text.typeId, text.valueSuffix, text.units, Quantity.ofReported text.kind⟩

structure RuleTable where
  entries : List (String × Rule)

namespace RuleTable

/-- Puts a rule into the table; one with the same type token makes way. -/
def add (table : RuleTable) (rule : Rule) : RuleTable :=
  ⟨Keyed.insert rule.typeId rule table.entries⟩

/-- The rules that are always there: temperature, humidity and the light switch. -/
def builtinRules : List Rule :=
  [⟨"3303", ".5700", "celsius", .temperature⟩, ⟨"3304", ".5700", "percents", .humidity⟩,
   ⟨"1024", ".1", "power", .bulb⟩]

/-- The table of the rules that are always there. -/
def builtin : RuleTable := builtinRules.foldl add ⟨[]⟩

/-- Written rules on top of the rules that are always there, each above those before it. -/
def withOverrides (overrides : List RuleText) : RuleTable :=
  overrides.foldl (fun table text => table.add text.rule) builtin

def lookup (table : RuleTable) (id : SensorId) : Option Rule :=
  id.typeToken?.bind fun token => Keyed.find? token table.entries

def size (table : RuleTable) : Nat := table.entries.length

end RuleTable

end SensorBoard
