import TypedJson.Retype.Pass
/-!
# How a run's report is shown

A run ends with one summary line, or with the whole report as indented JSON. The summary
counts the retyped fields and the declarations handled, directly or through a relation, the
failed declarations, and what became of the file. The JSON keeps the fields in the report's
own order: statistics, failures, edits, written; strings are quoted with the JSON escapes.
-/
namespace TypedJson

def jsonChar (c : Char) : String :=
  let n := c.toNat
  if c == '"' then "\\\""
  else if c == '\\' then "\\\\"
  else if c == '\n' then "\\n"
  else if c == '\r' then "\\r"
  else if c == '\t' then "\\t"
  else if n == 8 then "\\b"
  else if n == 12 then "\\f"
  else if n < 0x20 then
    let hex := Nat.toDigits 16 n
    "\\u" ++ String.ofList (List.replicate (4 - hex.length) '0' ++ hex)
  else c.toString

def jsonString (s : String) : String := "\"" ++ String.join (s.toList.map jsonChar) ++ "\""

def jsonObject (indent : Nat) (members : List (String × String)) : String :=
  let pad := String.ofList (List.replicate indent ' ')
  if members.isEmpty then "\x7b\x7d"
  else
    "\x7b\n" ++ ",\n".intercalate (members.map fun (k, v) => pad ++ "  " ++ jsonString k ++ ": " ++ v) ++
      "\n" ++ pad ++ "\x7d"

def jsonArray (indent : Nat) (items : List String) : String :=
  let pad := String.ofList (List.replicate indent ' ')
  if items.isEmpty then "[]"
  else "[\n" ++ ",\n".intercalate (items.map fun v => pad ++ "  " ++ v) ++ "\n" ++ pad ++ "]"

def Stats.toJsonText (s : Stats) (indent : Nat) : String :=
  jsonObject indent [
    ("non_candidates", toString s.nonCandidates), ("no_ops", toString s.noOps),
    ("direct", toString s.direct), ("fallback", toString s.fallback),
    ("unresolved", toString s.unresolved), ("failed", toString s.failed),
    ("fields_rewritten", toString s.fieldsRetyped)]

def StatementFailure.toJsonText (f : StatementFailure) (indent : Nat) : String :=
  jsonObject indent [("alias", jsonString f.aliasName), ("message", jsonString f.message)]

def Report.toJsonText (r : Report) : String :=
  jsonObject 0 [
    ("stats", r.stats.toJsonText 2),
    ("failures", jsonArray 2 (r.failures.map (·.toJsonText 4))),
    ("edits", toString r.edits),
    ("written", toString r.written)]

def Report.outcome (r : Report) (dryRun : Bool) : String :=
  if dryRun then "dry run" else if r.written then "written" else "unchanged"

def Report.summary (r : Report) (path : String) (dryRun : Bool) : String :=
  let s := r.stats
  path ++ ": " ++ toString s.fieldsRetyped ++ " fields in " ++ toString (s.direct + s.fallback) ++
    " declarations (" ++ toString s.direct ++ " direct, " ++ toString s.fallback ++ " relation), " ++
    toString s.failed ++ " failed [" ++ r.outcome dryRun ++ "]"

end TypedJson
