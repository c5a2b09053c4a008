import TypedJson.Json.Reader
import TypedJson.Text.Quoted
/-!
# Decoding values into records

The errors a decoder reports when a value does not have the expected shape, and decoders for
strings, optional strings and lists. A record is decoded from an object (its members in key
order, unknown members ignored) or from an array (its fields in declaration order); the
record decoders live with the records.

Messages name what was found and what was expected: `invalid type: integer` followed by the
value in backticks, `expected a string`; `missing field` with the name in backticks;
`invalid length 0, expected struct Model with 2 elements`.
-/
namespace TypedJson.Json

def Value.unexpected : Value → String
  | .null => "null"
  | .bool b => "boolean " ++ "`" ++ toString b ++ "`"
  | .number (.nat n) => "integer " ++ "`" ++ toString n ++ "`"
  | .number (.neg n) => "integer " ++ "`-" ++ toString n ++ "`"
  | .number (.float f) => "floating point " ++ "`" ++ showFloat f ++ "`"
  | .string s => "string " ++ Text.quoted s
  | .array _ => "sequence"
  | .object _ => "map"

def invalidType (v : Value) (expected : String) : Error :=
  { message := "invalid type: " ++ v.unexpected ++ ", expected " ++ expected }

def missingField (name : String) : Error :=
  { message := "missing field " ++ "`" ++ name ++ "`" }

def invalidLength (n : Nat) (expected : String) : Error :=
  { message := "invalid length " ++ toString n ++ ", expected " ++ expected }

def recordWith (name : String) (n : Nat) : String :=
  "struct " ++ name ++ " with " ++ toString n ++ (if n == 1 then " element" else " elements")

def tooLong (items : List Value) : Error := invalidLength items.length "fewer elements in array"

abbrev Decode := Except Error

def decodeString : Value → Decode String
  | .string s => pure s
  | v => throw (invalidType v "a string")

def decodeOptString : Value → Decode (Option String)
  | .null => pure none
  | v => some <$> decodeString v

def decodeList {α : Type} (item : Value → Decode α) : Value → Decode (List α)
  | .array items => items.mapM item
  | v => throw (invalidType v "a sequence")

end TypedJson.Json
