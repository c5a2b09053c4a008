/-!
# Errors of a retype

Everything that can stop a catalog build, a retype, an edit or the reading and writing of
files. Two of them are confined to the declaration being retyped: the pass records them and
goes on with the next declaration. All others end the run.
-/
namespace TypedJson

inductive Error where
  | aliasCollision (aliasName existing incoming : String)
  | unknownRelationBase (aliasName base pattern : String)
  | missingScalars (aliasName : String)
  | emptyNamespace
  | overlappingEdits (first second : Nat × Nat)
  | editOutOfBounds (start stop len : Nat)
  | io (path cause : String)
  | config (path cause : String)
  | schema (cause : String)
deriving DecidableEq, Repr, Inhabited

namespace Error

def kind : Error → String
  | .aliasCollision .. => "AliasCollision"
  | .unknownRelationBase .. => "UnknownRelationBase"
  | .missingScalars .. => "MissingScalars"
  | .emptyNamespace => "EmptyNamespace"
  | .overlappingEdits .. => "OverlappingEdits"
  | .editOutOfBounds .. => "EditOutOfBounds"
  | .io .. => "Io"
  | .config .. => "Config"
  | .schema .. => "Schema"

def quoted (s : String) : String := "`" ++ s ++ "`"

def showSpan (p : Nat × Nat) : String := "(" ++ toString p.1 ++ ", " ++ toString p.2 ++ ")"

def message : Error → String
  | .aliasCollision aliasName existing incoming =>
    "generated alias " ++ quoted aliasName ++ " is claimed by both " ++ quoted existing ++ " and " ++
      quoted incoming
  | .unknownRelationBase aliasName base pattern =>
    quoted aliasName ++ " matched the " ++ pattern ++ " pattern but " ++ quoted base ++
      " is not a known model or type"
  | .missingScalars aliasName => "payload " ++ quoted aliasName ++ " has no scalars object"
  | .emptyNamespace => "Prisma namespace content could not be found"
  | .overlappingEdits first second =>
    "overlapping edits at " ++ showSpan first ++ " and " ++ showSpan second
  | .editOutOfBounds start stop len =>
    "edit " ++ toString start ++ ".." ++ toString stop ++ " is outside the " ++ toString len ++
      " byte buffer or splits a character"
  | .io path cause => path ++ ": " ++ cause
  | .config path cause => "invalid config " ++ path ++ ": " ++ cause
  | .schema cause => "invalid schema description: " ++ cause

def cause? : Error → Option String
  | .io _ cause | .config _ cause | .schema cause => some cause
  | _ => none

def isStatementLocal : Error → Bool
  | .unknownRelationBase .. | .missingScalars .. => true
  | _ => false

end Error

end TypedJson
