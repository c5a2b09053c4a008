import TypedJson.Toml.Values
/-!
# Reading TOML documents

A document is a sequence of lines: blank lines, comments, key–value pairs and table headers.
Pairs go into the table of the last header, or into the root before any header; a dotted key
makes implicit tables on its way. A header opens a table, or appends a table to an array of
tables; the table it closes is put into its place in the root then.

The conflicts are those of TOML: a key defined twice, a header for a table already defined, a
dotted key that runs through a value, and dotted keys that extend a table a header defined.
A conflict points at the start of its pair or header.
-/
namespace TypedJson.Toml

open Reader

structure TableParts where
  entries : List (Key × Item) := []
  implicit : Bool := false
  dotted : Bool := false
  span : Option Span := none
deriving Inhabited

def TableParts.toItem (t : TableParts) : Item := .table t.entries t.implicit t.dotted t.span

def descend {β : Type} (dottedKeys : Bool) (f : TableParts → Except Conflict (TableParts × β))
    (t : TableParts) (before : List Key) : List Key → Except Conflict (TableParts × β)
  | [] => f t
  | k :: rest =>
    match (lookup t.entries k.name).getD (.table [] true dottedKeys none) with
    | .value v _ => .error (.extendsValue ((before ++ [k]).map (·.name)) v.typeName)
    | .tables items =>
      let (inner, others) := match items.getLast? with
        | some (.table es implicit dot span) => ((⟨es, implicit, dot, span⟩ : TableParts), items.dropLast)
        | _ => ({}, items)
      match descend dottedKeys f inner (before ++ [k]) rest with
      | .error e => .error e
      | .ok (inner', b) =>
        .ok ({ t with entries := upsert t.entries k (.tables (others ++ [inner'.toItem])) }, b)
    | .table es implicit dot span =>
      if dottedKeys && !implicit then .error (.duplicateKey k.name none)
      else
        match descend dottedKeys f ⟨es, implicit, dot, span⟩ (before ++ [k]) rest with
        | .error e => .error e
        | .ok (inner', b) => .ok ({ t with entries := upsert t.entries k inner'.toItem }, b)

def headerConflict (path : List Key) : Conflict :=
  let (before, k) := splitLast path
  .duplicateKey k.raw (some (before.map (·.name)))

structure Tables where
  root : TableParts := {}
  current : TableParts := {}
  path : List Key := []
  isArray : Bool := false
deriving Inhabited

namespace Tables

def addPair (s : Tables) (path : List Key) (k : Key) (v : Value) (span : Span) :
    Except Conflict Tables := do
  let current := { s.current with span := s.current.span.map fun sp => ⟨sp.start, span.stop⟩ }
  let (current, ()) ← descend true (fun t =>
      if t.dotted == path.isEmpty then .error (.duplicateKey k.name none)
      else if (lookup t.entries k.name).isSome then
        .error (.duplicateKey k.name (some (s.path.map (·.name))))
      else .ok ({ t with entries := t.entries ++ [(k, .value v span)] }, ()))
    current [] path
  pure { s with current }

def close (s : Tables) : Except Conflict Tables := do
  if s.path.isEmpty then pure { s with root := s.current, current := {} }
  else
    let (before, k) := splitLast s.path
    let (root, ()) ← descend false (fun t =>
        match lookup t.entries k.name, s.isArray with
        | none, true => .ok ({ t with entries := t.entries ++ [(k, .tables [s.current.toItem])] }, ())
        | some (.tables items), true =>
          .ok ({ t with entries := upsert t.entries k (.tables (items ++ [s.current.toItem])) }, ())
        | none, false => .ok ({ t with entries := t.entries ++ [(k, s.current.toItem)] }, ())
        | some (.table _ true _ _), false =>
          .ok ({ t with entries := upsert t.entries k s.current.toItem }, ())
        | some _, _ => .error (headerConflict s.path))
      s.root [] before
    pure { root, current := {}, path := [], isArray := false }

def openTable (s : Tables) (path : List Key) (span : Span) : Except Conflict Tables := do
  let s ← s.close
  let (before, k) := splitLast path
  let (root, taken) ← descend false (fun t =>
      match lookup t.entries k.name with
      | none => .ok (t, [])
      | some (.table es true false _) => .ok ({ t with entries := without t.entries k.name }, es)
      | some _ => .error (headerConflict path))
    s.root [] before
  pure { root, current := { entries := taken, span := some span }, path, isArray := false }

def openArrayTable (s : Tables) (path : List Key) (span : Span) : Except Conflict Tables := do
  let s ← s.close
  let (before, k) := splitLast path
  let (root, ()) ← descend false (fun t =>
      match lookup t.entries k.name with
      | none => .ok ({ t with entries := t.entries ++ [(k, .tables [])] }, ())
      | some (.tables _) => .ok (t, ())
      | some _ => .error (headerConflict path))
    s.root [] before
  pure { root, current := { span := some span }, path, isArray := true }

end Tables

def pairLine (s : Tables) : Reader Tables := do
  let start ← get
  let path ← key
  let (v, span) ← commit do
    expecting ["`.`", "`=`"] (byte 61)
    blanks
    let vstart ← get
    let v ← value (nestingLimit - 1)
    let vstop ← get
    expecting ["newline", "`#`"] lineRest
    pure (v, (⟨vstart, vstop⟩ : Span))
  let (before, k) := splitLast path
  match s.addPair before k v span with
  | .ok s => pure s
  | .error c => failWith start c.message

def headerEnd (close : String) (start : Nat) : Reader Span := do
  commit (expecting ["`.`", "`" ++ close ++ "`"] (literal close))
  let stop ← get
  commit (expecting ["newline", "`#`"] lineRest)
  pure ⟨start, stop⟩

def headerLine (s : Tables) : Reader Tables := label "table header" do
  let bytes ← read
  let start ← get
  if start + 2 > bytes.size then fail
  if bytes[start + 1]? == some 91 then
    literal "[["
    let path ← commit key
    let span ← headerEnd "]]" start
    match s.openArrayTable path span with
    | .ok s => pure s
    | .error c => failWith start c.message
  else
    byte 91
    let path ← commit key
    let span ← headerEnd "]" start
    match s.openTable path span with
    | .ok s => pure s
    | .error c => failWith start c.message

def line (s : Tables) : Reader Tables := do
  let s ← match ← peek with
    | none => fail
    | some 35 => do commit (do comment; lineEnd); pure s
    | some 91 => commit (headerLine s)
    | some 10 | some 13 => do newline; pure s
    | some _ => commit (pairLine s)
  blanks
  pure s

def linesUpTo (s : Tables) : Nat → Reader Tables
  | 0 => pure s
  | fuel + 1 => do
    match ← optional (line s) with
    | some s' => linesUpTo s' fuel
    | none => pure s

def document : Reader Tables := do
  let _ ← optional (literal "\uFEFF")
  blanks
  let s ← linesUpTo {} (← left)
  eof
  pure s

def parse (text : String) : Except Error (List (Key × Item)) :=
  match (document.run text.toUTF8).run 0 with
  | .error f => .error (f.toError text)
  | .ok (s, _) =>
    match s.close with
    | .ok s => .ok s.root.entries
    | .error c => .error { message := c.message }

end TypedJson.Toml
