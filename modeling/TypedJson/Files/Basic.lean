/-!
# Files

What the retype needs from a file system: reading a file, asking what a path names, reading a
file's permission bits, and replacing a file in one step. The operations are a class over the
monad they run in, so the same loading and saving code runs on a disk and on a directory tree
held in memory.

Failures are the system's causes, each with the text the system gives it.
-/
namespace TypedJson.Files

inductive Fault where
  | notFound
  | isDirectory
  | notDirectory
  | invalidText
  | other (text : String)
deriving DecidableEq, Repr, Inhabited

def Fault.message : Fault → String
  | .notFound => "No such file or directory (os error 2)"
  | .isDirectory => "Is a directory (os error 21)"
  | .notDirectory => "Not a directory (os error 20)"
  | .invalidText => "stream did not contain valid UTF-8"
  | .other text => text

inductive EntryKind where
  | file
  | directory
deriving DecidableEq, Repr, Inhabited

class FileSystem (m : Type → Type) where
  currentDir : m String
  readBytes : String → m (Except Fault ByteArray)
  kindOf : String → m (Option EntryKind)
  permissionsOf : String → m (Option Nat)
  replaceFile : String → ByteArray → Option Nat → m (Except Fault Unit)

def join (base path : String) : String :=
  if path.startsWith "/" then path
  else if base.isEmpty || base.endsWith "/" then base ++ path
  else base ++ "/" ++ path

section
variable {m : Type → Type} [Monad m] [FileSystem m]

def readText (path : String) : m (Except Fault String) := do
  match ← FileSystem.readBytes path with
  | .error e => pure (.error e)
  | .ok bytes =>
    match String.fromUTF8? bytes with
    | some text => pure (.ok text)
    | none => pure (.error .invalidText)

def isFile (path : String) : m Bool := do
  pure ((← FileSystem.kindOf path) == some .file)

def isDirectory (path : String) : m Bool := do
  pure ((← FileSystem.kindOf path) == some .directory)

end

theorem join_absolute (base path : String) (h : path.startsWith "/" = true) :
    join base path = path := by
  simp [join, h]

theorem join_empty (path : String) (h : path.startsWith "/" = false) : join "" path = path := by
  simp [join, h]

end TypedJson.Files
