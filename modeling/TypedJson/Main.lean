import TypedJson.Cli.Run
/-!
# The command on a real disk

The file operations on the machine's own file system, and the entry point that runs the
command and passes on what it prints and its exit status.

A path names a file when it opens and reads, and a directory when it opens but does not. A
file is replaced by writing it in place, which keeps its permission bits.
-/
namespace TypedJson.Disk

def osCode? : IO.Error → Option UInt32
  | .alreadyExists _ c _ | .otherError c _ | .resourceBusy c _ | .resourceVanished c _
  | .unsupportedOperation c _ | .hardwareFault c _ | .unsatisfiedConstraints c _
  | .illegalOperation c _ | .protocolError c _ | .timeExpired c _ | .interrupted _ c _
  | .noFileOrDirectory _ c _ | .invalidArgument _ c _ | .permissionDenied _ c _
  | .resourceExhausted _ c _ | .inappropriateType _ c _ | .noSuchThing _ c _ => some c
  | .unexpectedEof | .userError _ => none

def details : IO.Error → String
  | .alreadyExists _ _ d | .otherError _ d | .resourceBusy _ d | .resourceVanished _ d
  | .unsupportedOperation _ d | .hardwareFault _ d | .unsatisfiedConstraints _ d
  | .illegalOperation _ d | .protocolError _ d | .timeExpired _ d | .interrupted _ _ d
  | .noFileOrDirectory _ _ d | .invalidArgument _ _ d | .permissionDenied _ _ d
  | .resourceExhausted _ _ d | .inappropriateType _ _ d | .noSuchThing _ _ d => d
  | .unexpectedEof => "end of file"
  | .userError msg => msg

def faultOf (e : IO.Error) : Files.Fault :=
  match osCode? e with
  | some 2 => .notFound
  | some 21 => .isDirectory
  | some 20 => .notDirectory
  | some c =>
    let d := details e
    let d := match d.toList with
      | first :: rest => String.ofList (first.toUpper :: rest)
      | [] => d
    .other (d ++ " (os error " ++ toString c ++ ")")
  | none => .other (details e)

instance : Files.FileSystem IO where
  currentDir := do pure (← IO.currentDir).toString
  readBytes path := do
    try pure (.ok (← IO.FS.readBinFile path))
    catch e => pure (.error (faultOf e))
  kindOf path := do
    match ← (IO.FS.Handle.mk path .read).toBaseIO with
    | .error _ => pure none
    | .ok h =>
      match ← (h.read 1).toBaseIO with
      | .ok _ => pure (some .file)
      | .error _ => pure (some .directory)
  permissionsOf _ := pure none
  replaceFile path bytes _ := do
    try
      IO.FS.writeBinFile path bytes
      pure (.ok ())
    catch e => pure (.error (faultOf e))

end TypedJson.Disk

open TypedJson in
def main (args : List String) : IO UInt32 := do
  let out : Cli.Outcome ← Cli.run Syntax.parse args
  let stdout ← IO.getStdout
  stdout.putStr out.stdout
  stdout.flush
  let stderr ← IO.getStderr
  stderr.putStr out.stderr
  stderr.flush
  pure out.exit.toUInt32
