import TypedJson.Config
import TypedJson.Toml.Tables
import TypedJson.Json.Decode
/-!
# Settings from TOML

A settings file is a TOML document whose root holds at most the three settings, each a
string. Keys are taken in the order they are written. The first key that is not a setting, or
a setting whose value is not a string, is the error; it points at the key, or at the value
(for a table, at its header; for a table only implied by a longer key, at the key).
-/
namespace TypedJson

namespace Toml

def Value.unexpected : Value → String
  | .string s => "string " ++ Text.quoted s
  | .integer i => "integer `" ++ toString i ++ "`"
  | .float bits =>
    let text := Binary64.plainText bits
    let finite := !(Binary64.isNaN bits || Binary64.isInfinite bits)
    "floating point `" ++ text ++ (if finite && !text.contains '.' then ".0" else "") ++ "`"
  | .boolean b => "boolean `" ++ (if b then "true" else "false") ++ "`"
  | .datetime => "map"
  | .array _ => "sequence"
  | .table .. => "map"

def Item.unexpected : Item → String
  | .value v _ => v.unexpected
  | .table .. => "map"
  | .tables _ => "sequence"

def Item.span? : Item → Option Span
  | .value _ span => some span
  | .table _ _ _ span => span
  | .tables _ => none

end Toml

namespace Config

def settingNames : List String := ["namespace", "client_output", "use_type"]

def unknownSetting (k : Toml.Key) : Toml.Error :=
  { message := "unknown field `" ++ k.name ++ "`, expected one of " ++
      ", ".intercalate (settingNames.map fun n => "`" ++ n ++ "`"),
    span := some k.span }

def settingText (k : Toml.Key) (item : Toml.Item) (expected : String) :
    Except Toml.Error String :=
  match item with
  | .value (.string s) _ => .ok s
  | _ => .error { message := "invalid type: " ++ item.unexpected ++ ", expected " ++ expected,
                  span := some (item.span?.getD k.span) }

def withSetting (c : Config) (entry : Toml.Key × Toml.Item) : Except Toml.Error Config :=
  let (k, item) := entry
  if k.name == "namespace" then do
    pure { c with typeNamespace := ← settingText k item "a string" }
  else if k.name == "client_output" then do
    pure { c with clientOutput := some (← settingText k item "path string") }
  else if k.name == "use_type" then do
    pure { c with useType := some (← settingText k item "a string") }
  else .error (unknownSetting k)

def ofToml (text : String) : Except Toml.Error Config := do
  let entries ← Toml.parse text
  entries.foldlM withSetting {}

end Config

end TypedJson
