/-!
# TOML documents

What a TOML document holds once read: tables of keys, each key with a value, a table or an
array of tables. Keys and values remember where they stand in the text, because messages
about them point there.

Tables carry two marks. An *implicit* table was only named on the way to a longer key
(`[a.b]` names `a`; `a.b = 1` does too); a *dotted* table was made by a dotted key. A header
may take over an implicit table that dotted keys did not make; dotted keys may extend only
tables they made themselves.
-/
namespace TypedJson.Toml

structure Span where
  start : Nat
  stop : Nat
deriving DecidableEq, Repr, Inhabited

structure Key where
  name : String
  raw : String
  span : Span
deriving DecidableEq, Repr, Inhabited

inductive Value where
  | string (s : String)
  | integer (i : Int)
  | float (bits : UInt64)
  | boolean (b : Bool)
  | datetime
  | array (items : List Value)
  | table (entries : List (Key × Value)) (implicit dotted : Bool)
deriving Inhabited

def Value.typeName : Value → String
  | .string _ => "string"
  | .integer _ => "integer"
  | .float _ => "float"
  | .boolean _ => "boolean"
  | .datetime => "datetime"
  | .array _ => "array"
  | .table .. => "inline table"

inductive Item where
  | value (v : Value) (span : Span)
  | table (entries : List (Key × Item)) (implicit dotted : Bool) (span : Option Span)
  | tables (items : List Item)
deriving Inhabited

def lookup {α : Type} (entries : List (Key × α)) (name : String) : Option α :=
  (entries.find? (·.1.name == name)).map (·.2)

def without {α : Type} (entries : List (Key × α)) (name : String) : List (Key × α) :=
  entries.filter (·.1.name != name)

def upsert {α : Type} (entries : List (Key × α)) (k : Key) (a : α) : List (Key × α) :=
  if (lookup entries k.name).isSome then
    entries.map fun (k', b) => if k'.name == k.name then (k', a) else (k', b)
  else entries ++ [(k, a)]

theorem lookup_map_self {α : Type} (entries : List (Key × α)) (k : Key) (a : α)
    (h : (lookup entries k.name).isSome) :
    lookup (entries.map fun (k', b) => if k'.name == k.name then (k', a) else (k', b)) k.name
      = some a := by
  induction entries with
  | nil => simp [lookup] at h
  | cons e rest ih =>
    by_cases he : e.1.name = k.name
    · simp [lookup, he]
    · have h' : (lookup rest k.name).isSome := by simpa [lookup, he] using h
      simpa [lookup, he] using ih h'

theorem lookup_upsert_self {α : Type} (entries : List (Key × α)) (k : Key) (a : α) :
    lookup (upsert entries k a) k.name = some a := by
  unfold upsert
  split
  · exact lookup_map_self entries k a (by assumption)
  · rename_i h
    have hn : entries.find? (·.1.name == k.name) = none := by
      simpa [lookup] using h
    simp [lookup, List.find?_append, hn]

end TypedJson.Toml
