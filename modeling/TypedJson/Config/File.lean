import TypedJson.Config.Decode
import TypedJson.Error
import TypedJson.Files.Basic
/-!
# Settings and the files they name

A settings file is read whole and decoded; a project root has settings when its
`prisma-json-types.toml` is a file, and the defaults otherwise.

Where the declaration file is: the path given on the command line, else the configured client
output. A directory stands for the client inside it: its `client.ts` when that file exists,
else its `index.d.ts`.
-/
namespace TypedJson

namespace Config

variable {m : Type → Type} [Monad m] [Files.FileSystem m]

def loadFile (path : String) : m (Except Error Config) := do
  match ← Files.readText path with
  | .error f => pure (.error (.io path f.message))
  | .ok text =>
    match ofToml text with
    | .ok c => pure (.ok c)
    | .error e => pure (.error (.config path (e.report text)))

def load (root : String) : m (Except Error Config) := do
  let path := Files.join root configFileName
  if ← Files.isFile path then loadFile path else pure (.ok {})

def declarationsPath (config : Config) (explicit : Option String) : m (Option String) := do
  match explicit.orElse fun _ => config.clientOutput with
  | none => pure none
  | some base =>
    if !(← Files.isDirectory base) then pure (some base)
    else
      let client := Files.join base "client.ts"
      if ← Files.isFile client then pure (some client)
      else pure (some (Files.join base "index.d.ts"))

end Config

end TypedJson
