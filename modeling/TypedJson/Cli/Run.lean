import TypedJson.Cli.Options
import TypedJson.Cli.Report
import TypedJson.Config.File
import TypedJson.Generate
import TypedJson.Schema
/-!
# A run of the command

The command reads its settings, the schema and the declaration file, in that order, and the
first of them that fails ends the run with exit status 1 and one line on the error stream:
`error: ` and what went wrong, each wrapped error after its wrapper. The settings come from
`--config`, else from the settings file of the working directory; `--namespace` and
`--use-type` override them. A wrong command line ends the run with status 2, help and version
with status 0.

A run that succeeds prints the summary line, or the report as JSON with `--json`; without
`--json`, each declaration that was skipped is named on the error stream.
-/
namespace TypedJson

def Error.chain (e : Error) : String :=
  match e.cause? with
  | some c => e.message ++ ": " ++ c
  | none => e.message

namespace Cli

structure Outcome where
  exit : Nat
  stdout : String := ""
  stderr : String := ""
deriving DecidableEq, Repr, Inhabited

inductive RunError where
  | settings (e : Error)
  | readSchema (path : String) (f : Files.Fault)
  | invalidSchema (path : String) (e : Error)
  | noDeclarations
  | retype (path : String) (e : Error)
deriving Repr, Inhabited

def RunError.text : RunError → String
  | .settings e => e.chain
  | .readSchema path f => "failed to read schema " ++ path ++ ": " ++ f.message
  | .invalidSchema path e => "invalid schema " ++ path ++ ": " ++ e.chain
  | .noDeclarations => "no declaration file: pass --declarations or set client_output in the config"
  | .retype path e => "failed to rewrite " ++ path ++ ": " ++ e.chain

variable {m : Type → Type} [Monad m] [Files.FileSystem m]

def settings (opts : Options) : m (Except RunError Config) := do
  let loaded ← match opts.config with
    | some path => Config.loadFile path
    | none => do Config.load (← Files.FileSystem.currentDir)
  match loaded with
  | .error e => pure (.error (.settings e))
  | .ok c =>
    let c := match opts.typeNamespace with
      | some ns => { c with typeNamespace := ns }
      | none => c
    let c := match opts.useType with
      | some t => { c with useType := some t }
      | none => c
    pure (.ok c)

def readSchema (path : String) : m (Except RunError Datamodel) := do
  match ← Files.readText path with
  | .error f => pure (.error (.readSchema path f))
  | .ok text =>
    match Datamodel.fromJson text with
    | .ok dm => pure (.ok dm)
    | .error e => pure (.error (.invalidSchema path e))

def reportOutcome (opts : Options) (path : String) (r : Report) : Outcome :=
  if opts.json then { exit := 0, stdout := r.toJsonText ++ "\n" }
  else
    { exit := 0, stdout := r.summary path opts.dryRun ++ "\n",
      stderr := String.join (r.failures.map fun f => "skipped " ++ f.aliasName ++ ": " ++ f.message ++ "\n") }

def execute (parseModule : String → Syntax.Tree) (opts : Options) :
    m (Except RunError Outcome) := do
  match ← settings opts with
  | .error e => pure (.error e)
  | .ok config =>
    match ← readSchema opts.schema with
    | .error e => pure (.error e)
    | .ok dm =>
      match ← config.declarationsPath opts.declarations with
      | none => pure (.error .noDeclarations)
      | some path =>
        match ← generate parseModule dm path config opts.dryRun with
        | .error e => pure (.error (.retype path e))
        | .ok r => pure (.ok (reportOutcome opts path r))

def run (parseModule : String → Syntax.Tree) (args : List String) : m Outcome := do
  match parse args with
  | .error .help => pure { exit := 0, stdout := helpText }
  | .error .version => pure { exit := 0, stdout := versionLine }
  | .error (.usage text) => pure { exit := 2, stderr := text }
  | .ok opts =>
    match ← execute parseModule opts with
    | .ok out => pure out
    | .error e => pure { exit := 1, stderr := "error: " ++ e.text ++ "\n" }

end Cli

end TypedJson
