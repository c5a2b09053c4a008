import TypedJson.Edit.File
import TypedJson.Catalog
/-!
# One retype of a declaration file

The catalog is built from the schema first, so a schema whose names collide fails before any
file is read. Then the declaration file is loaded, retyped in memory and committed, and
saved unless the run is dry. The report says whether the file was written.
-/
namespace TypedJson

variable {m : Type → Type} [Monad m] [Files.FileSystem m]

def generate (parseModule : String → Syntax.Tree) (dm : Datamodel) (path : String)
    (config : Config) (dryRun : Bool) : m (Except Error Report) := do
  match Catalog.build dm config with
  | .error e => pure (.error e)
  | .ok catalog =>
    match ← Writer.load path with
    | .error e => pure (.error e)
    | .ok w =>
      match retypeWriter parseModule w catalog with
      | (_, .error e) => pure (.error e)
      | (w, .ok report) =>
        if dryRun then pure (.ok report)
        else
          match ← w.save with
          | (_, .error e) => pure (.error e)
          | (_, .ok written) => pure (.ok { report with written })

end TypedJson
