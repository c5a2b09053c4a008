import TypedJson.Edit.Writer
import TypedJson.Files.Basic
/-!
# The declaration buffer and its file

Loading reads the whole file as text. Saving commits the pending edits and, only when commits
changed the text, puts the new text in the file's place in one step: the new file carries the
permission bits the file has at that moment, and a file that has gone away comes back private
to its owner. A saved buffer is clean again.
-/
namespace TypedJson

namespace Writer

variable {m : Type → Type} [Monad m] [Files.FileSystem m]

def load (path : String) : m (Except Error Writer) := do
  match ← Files.readText path with
  | .error f => pure (.error (.io path f.message))
  | .ok content => pure (.ok (ofSource path content))

def save (w : Writer) : m (Writer × Except Error Bool) := do
  match w.commit with
  | (w, .error e) => pure (w, .error e)
  | (w, .ok _) =>
    if !w.dirty then pure (w, .ok false)
    else
      let mode ← Files.FileSystem.permissionsOf w.path
      match ← Files.FileSystem.replaceFile w.path w.content.toUTF8 mode with
      | .error f => pure (w, .error (.io w.path f.message))
      | .ok () => pure ({ w with dirty := false }, .ok true)

end Writer

end TypedJson
