import TypedJson.Text.Blank
import TypedJson.Text.Affix
import TypedJson.Config
/-!
# Field tags

A schema field opts into a typed JSON value with a line of its documentation: `[Name]` names a
type declared in the configured namespace, and `![type]` gives a type expression verbatim.
The first line that carries a non-empty tag decides; the tag runs from the opening bracket to
the last closing bracket of its line.
-/
namespace TypedJson

open Text

def lineTag (ns : String) (line : String) : Option String := do
  let cs := (trim line).toList
  let (verbatim, rest) := match cs with
    | '!' :: rest => (true, rest)
    | _ => (false, cs)
  let rest ← stripPrefix? ['['] rest
  let inner ← lastBefore ']' rest
  let inner := trim (String.ofList inner)
  if inner.isEmpty then none
  else if verbatim then some inner
  else some (ns ++ "." ++ inner)
where
  lastBefore (c : Char) (cs : List Char) : Option (List Char) :=
    match cs.reverse.dropWhile (· != c) with
    | [] => none
    | _ :: before => some before.reverse

def parseTag (documentation : Option String) (ns : String) : Option String := do
  let doc ← documentation
  (lines doc).findSome? (lineTag ns)

def resolveFieldType (documentation : Option String) (fieldType : String) (config : Config) :
    Option String :=
  match parseTag documentation config.typeNamespace with
  | some t => some t
  | none => do
    let fallback ← config.useType
    if fieldType == "Json" then some (config.typeNamespace ++ "." ++ fallback) else none

end TypedJson
