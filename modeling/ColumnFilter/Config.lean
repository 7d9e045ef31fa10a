import ColumnFilter.File
import ColumnFilter.Json
import ColumnFilter.Toml.Reader

/-! # Configuration

The configuration is a TOML document with a version, a section on output and a
section on scans, all of which may be left out. A file that is not there counts
as an empty one.
-/

namespace ColumnFilter

structure Config where
  color : Option Bool := none
  json : Option Bool := none
  keyColumn : Option String := none
deriving DecidableEq, Repr

inductive ConfigError
  | noPath
  | unreadable (e : FileError)
  | malformed
  | unsupported (version : Nat)
deriving DecidableEq, Repr

namespace Config

/-- The version of the configuration that is read; older ones are taken for it. -/
def currentVersion : Nat := 1

end Config

def ConfigError.message : ConfigError → String
  | noPath => "Could not determine config directory"
  | unreadable e => "Failed to read config: " ++ e.message
  | malformed => "Failed to parse config:"
  | unsupported version =>
    "Unsupported config version " ++ toString version ++ " (this build understands up to "
      ++ toString Config.currentVersion ++ ")"

namespace Config

def booleanOf : Toml → Option Bool
  | .boolean b => some b
  | _ => none

def stringOf : Toml → Option String
  | .string s => some s
  | _ => none

/-- A setting that may be left out, but has to be of its type. -/
def setting {α : Type} (read : Toml → Option α) (name : String) (ms : Toml.Members) :
    Option (Option α) :=
  match Toml.lookup? name ms with
  | none => some none
  | some v => (read v).map some

/-- The settings of a section of the given names. A section may also be an array of its settings
in this order, further items not counting, and a date or time is a section without settings. -/
def section? (names : List String) : Option Toml → Option Toml.Members
  | none => some []
  | some (.table _ ms) | some (.inlineTable ms) => some ms
  | some .dateTime => some []
  | some (.array items) => if names.length ≤ items.length then some (names.zip items) else none
  | some _ => none

/-- A version number has 32 bits and no sign. -/
def versionOf : Option Toml → Option Nat
  | none => some currentVersion
  | some (.integer n) => if 0 ≤ n ∧ n < UInt32.size then some n.toNat else none
  | some _ => none

/-- The version of a document and its settings. -/
def ofToml? (ms : Toml.Members) : Option (Nat × Config) := do
  let version ← versionOf (Toml.lookup? "version" ms)
  let output ← section? ["color", "json"] (Toml.lookup? "output" ms)
  let scan ← section? ["key_column"] (Toml.lookup? "scan" ms)
  let color ← setting booleanOf "color" output
  let json ← setting booleanOf "json" output
  let keyColumn ← setting stringOf "key_column" scan
  return (version, { color, json, keyColumn })

def ofText (text : String) : Except ConfigError Config :=
  match Toml.parse text >>= ofToml? with
  | none => .error .malformed
  | some (version, config) =>
    if currentVersion < version then .error (.unsupported version) else .ok config

def load (f : File) : Except ConfigError Config :=
  if f.exist then do
    let text ← (f.content >>= File.decode).mapError .unreadable
    ofText text
  else .ok {}

def defaultKeyColumn : String := "key"

/-- The name of the member that holds the identifier of a row. -/
def keyColumnName (c : Config) : String := c.keyColumn.getD defaultKeyColumn

def member {α : Type} (name : String) (encode : α → Json) : Option α → List (String × Json)
  | some v => [(name, encode v)]
  | none => []

def toJson (c : Config) : Json :=
  .object
    [("output", .object (member "color" .boolean c.color ++ member "json" .boolean c.json)),
      ("scan", .object (member "key_column" .string c.keyColumn)),
      ("version", .number (.whole currentVersion))]

end Config

end ColumnFilter
