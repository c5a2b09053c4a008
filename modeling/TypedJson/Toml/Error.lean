import TypedJson.Toml.Document
/-!
# Errors of a TOML document

A failure to read a document says where reading stopped and what was being read: the kind of
construct (`invalid basic string`), the tokens that would have gone on (`expected newline,
`#``), and a cause found after reading (`duplicate key `a` in document root`). A failure is
*final* once the reader has committed to a construct: no alternative is tried after it.

An error of a document, read or decoded, is a message and the span it is about. Its report
quotes the line of the span with a caret line under it:

```text
TOML parse error at line 1, column 13
  |
1 | namespace = 1
  |             ^
invalid type: integer `1`, expected a string
```

The column counts characters from the start of the line; the carets count bytes of the span,
at least one and no further than the end of the line.
-/
namespace TypedJson.Toml

structure Failure where
  pos : Nat
  labels : List String := []
  expected : List String := []
  cause : Option String := none
  final : Bool := false
deriving Inhabited

def Failure.message (f : Failure) : String :=
  let parts := (f.labels.head?.map ("invalid " ++ ·)).toList ++
    (if f.expected.isEmpty then [] else ["expected " ++ ", ".intercalate f.expected]) ++
    f.cause.toList
  "\n".intercalate parts

inductive Conflict where
  | duplicateKey (key : String) (table : Option (List String))
  | extendsValue (path : List String) (actual : String)
  | outOfRange
  | tooDeep
deriving DecidableEq, Repr, Inhabited

def Conflict.message : Conflict → String
  | .duplicateKey key none => "duplicate key `" ++ key ++ "`"
  | .duplicateKey key (some []) => "duplicate key `" ++ key ++ "` in document root"
  | .duplicateKey key (some table) =>
    "duplicate key `" ++ key ++ "` in table `" ++ ".".intercalate table ++ "`"
  | .extendsValue path actual =>
    "dotted key `" ++ ".".intercalate path ++ "` attempted to extend non-table type (" ++ actual ++
      ")"
  | .outOfRange => "value is out of range"
  | .tooDeep => "recursion limit exceeded"

structure Error where
  message : String
  span : Option Span := none
deriving DecidableEq, Repr, Inhabited

def charSpan (text : String) (offset : Nat) : Span :=
  let bytes := text.toUTF8
  let isStart (i : Nat) : Bool := match bytes[i]? with
    | some b => b < 0x80 || b ≥ 0xC0
    | none => true
  let start := ((List.range (offset + 1)).reverse.find? isStart).getD 0
  let width := match bytes[start]? with
    | none => 0
    | some b => if b < 0x80 then 1 else if b < 0xE0 then 2 else if b < 0xF0 then 3 else 4
  ⟨start, min bytes.size (start + width)⟩

def Failure.toError (f : Failure) (text : String) : Error :=
  { message := f.message, span := some (charSpan text f.pos) }

def position (bytes : ByteArray) (index : Nat) : Nat × Nat :=
  if bytes.size == 0 then (0, index)
  else
    let safe := min index (bytes.size - 1)
    let past := index - safe
    let before := (bytes.extract 0 safe).toList
    let lineStart := match (List.range safe).reverse.find? (fun i => bytes[i]? == some 10) with
      | some i => i + 1
      | none => 0
    let line := (before.take lineStart).count 10
    let column := match String.fromUTF8? (bytes.extract lineStart (safe + 1)) with
      | some s => s.length - 1
      | none => safe - lineStart
    (line, column + past)

def Error.report (e : Error) (text : String) : String :=
  match e.span with
  | none => e.message ++ "\n"
  | some span =>
    let (line, column) := position text.toUTF8 span.start
    let number := toString (line + 1)
    let gutter := String.ofList (List.replicate (number.length + 1) ' ')
    let content := ((text.splitOn "\n")[line]?).getD ""
    let width := min (span.stop - span.start) (content.utf8ByteSize - column)
    "TOML parse error at line " ++ number ++ ", column " ++ toString (column + 1) ++ "\n" ++
      gutter ++ "|\n" ++
      number ++ " | " ++ content ++ "\n" ++
      gutter ++ "|" ++ String.ofList (List.replicate (column + 1) ' ') ++ "^" ++
        String.ofList (List.replicate (width - 1) '^') ++ "\n" ++
      e.message ++ "\n"

end TypedJson.Toml
