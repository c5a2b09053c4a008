import TypedJson.Edit.Patch
import TypedJson.Retype.Pass
/-!
# The declaration buffer

The text of the declaration file between loading and saving, with the patch pending against
it. Committing applies the patch and starts a new snapshot; the buffer is dirty once a commit
changed its text. A commit that fails keeps its edits pending.
-/
namespace TypedJson

structure Writer where
  path : String
  content : String
  patch : Patch := {}
  dirty : Bool := false
deriving DecidableEq, Repr, Inhabited

namespace Writer

def ofSource (path content : String) : Writer := { path, content }

def replace (w : Writer) (start stop : Nat) (text : String) : Writer :=
  { w with patch := w.patch.replace start stop text }

def pending (w : Writer) : Nat := w.patch.len

def commit (w : Writer) : Writer × Except Error Nat :=
  if w.patch.isEmpty then (w, .ok 0)
  else
    match w.patch.apply w.content with
    | .error e => (w, .error e)
    | .ok updated =>
      let applied := w.patch.len
      let w := { w with patch := {} }
      if updated != w.content then ({ w with content := updated, dirty := true }, .ok applied)
      else (w, .ok applied)

end Writer

def retypeWriter (parseModule : String → Syntax.Tree) (w : Writer) (c : Catalog) :
    Writer × Except Error Report :=
  let (patch, result) := retypeModule parseModule w.content c w.patch
  let w := { w with patch }
  match result with
  | .error e => (w, .error e)
  | .ok report =>
    match w.commit with
    | (w, .error e) => (w, .error e)
    | (w, .ok _) => (w, .ok report)

end TypedJson
