import TypedJson.Retype.Payload
/-!
# The statement pass

One pass over a module classifies every visited type alias and schedules the edits for it.
A fault confined to one declaration (an unknown relation base, a payload without scalars)
undoes that declaration's edits and is recorded in the report; the pass goes on. Any other
fault ends the pass, leaving the edits scheduled so far in the patch.

The parser is a parameter of the pass: it reads whatever tree the parser gives for the source,
and the command passes the module parser of the syntax layer.
-/
namespace TypedJson

open Syntax

structure Stats where
  nonCandidates : Nat := 0
  noOps : Nat := 0
  direct : Nat := 0
  fallback : Nat := 0
  unresolved : Nat := 0
  failed : Nat := 0
  fieldsRetyped : Nat := 0
deriving DecidableEq, Repr, Inhabited

structure StatementFailure where
  aliasName : String
  message : String
deriving DecidableEq, Repr, Inhabited

structure Report where
  stats : Stats := {}
  failures : List StatementFailure := []
  edits : Nat := 0
  written : Bool := false
deriving DecidableEq, Repr, Inhabited

def handleAlias (c : Catalog) (source : String) (a : TypeAlias) (stats : Stats) :
    Stats × Scheduling Nat :=
  match classify c a.name a.object?.isSome with
  | .error e => (stats, throw e)
  | .ok d =>
    match a.object? with
    | none => ({ stats with nonCandidates := stats.nonCandidates + 1 }, pure 0)
    | some obj =>
      match d with
      | .notCandidate => ({ stats with nonCandidates := stats.nonCandidates + 1 }, pure 0)
      | .noOp => ({ stats with noOps := stats.noOps + 1 }, pure 0)
      | .unresolved => ({ stats with unresolved := stats.unresolved + 1 }, pure 0)
      | .payload entity =>
        ({ stats with direct := stats.direct + 1 },
          retypePayload c source (2 * a.node.height + 2) a.name obj entity)
      | .object entity resolution =>
        let stats := match resolution with
          | .direct => { stats with direct := stats.direct + 1 }
          | .fallback _ => { stats with fallback := stats.fallback + 1 }
        (stats, modifyGet fun patch => (retypeObject obj entity source patch).swap)
      | .listField _ field =>
        ({ stats with fallback := stats.fallback + 1 },
          modifyGet fun patch => (retypeListWrapper obj field source patch).swap)

def visitAlias (c : Catalog) (source : String) (a : TypeAlias) :
    Patch × Report → Patch × Except Error Report
  | (patch, report) =>
    let mark := patch.len
    let (stats, run) := handleAlias c source a report.stats
    match run.run.run patch with
    | (.ok n, patch) =>
      (patch, .ok { report with stats := { stats with fieldsRetyped := stats.fieldsRetyped + n } })
    | (.error e, patch) =>
      if e.isStatementLocal then
        (patch.truncate mark,
          .ok { report with stats := { stats with failed := stats.failed + 1 },
                            failures := report.failures ++ [⟨a.name, e.message⟩] })
      else (patch, .error e)

def visitAll (c : Catalog) (source : String) :
    List TypeAlias → Patch × Report → Patch × Except Error Report
  | [], (patch, report) => (patch, .ok report)
  | a :: rest, acc =>
    match visitAlias c source a acc with
    | (patch, .ok report) => visitAll c source rest (patch, report)
    | (patch, .error e) => (patch, .error e)

def retypeModule (parseModule : String → Tree) (source : String) (c : Catalog) (patch : Patch) :
    Patch × Except Error Report :=
  let tree := parseModule source
  let start := patch.len
  let walk := walkModule tree source
  match visitAll c source walk.aliases (patch, {}) with
  | (patch, .error e) => (patch, .error e)
  | (patch, .ok report) =>
    match walk.fault with
    | some e => (patch, .error e)
    | none => (patch, .ok { report with edits := patch.len - start })

def retypeSource (parseModule : String → Tree) (source : String) (c : Catalog) :
    Except Error (String × Report) := do
  let (patch, result) := retypeModule parseModule source c {}
  let report ← result
  let out ← patch.apply source
  pure (out, report)

end TypedJson
