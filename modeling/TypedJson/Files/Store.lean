import TypedJson.Files.Basic
/-!
# A directory tree in memory

A working directory held as a value: every file and directory under the list of components
that leads to it from the root. The root is a directory with no entry of its own.

Paths are followed one component at a time, the way the system resolves them: `.` stays, `..`
goes up, every component before the last must be a directory, and a path that ends in a
separator asks for a directory. A path may leave the working directory: the directories that
lead to it exist there, and nothing else does. Replacing a file puts a new file in its place; the new file has
the permission bits it is given, or those of a freshly created private file.
-/
namespace TypedJson.Files

inductive Entry where
  | file (bytes : ByteArray) (mode : Nat)
  | directory
deriving Inhabited

namespace Entry

def kind : Entry → EntryKind
  | .file .. => .file
  | .directory => .directory

def same : Entry → Entry → Bool
  | .file a m, .file b n => a.data == b.data && m % 512 == n % 512
  | .directory, .directory => true
  | _, _ => false

end Entry

def home : String := "/scratch"

def privateMode : Nat := 384

structure Store where
  entries : List (List String × Entry) := []
deriving Inhabited

namespace Store

def entry? (s : Store) (key : List String) : Option Entry :=
  (s.entries.find? (·.1 == key)).map (·.2)

def kindAt (s : Store) (key : List String) : Option EntryKind :=
  if key.isEmpty then some .directory else (s.entry? key).map Entry.kind

def put (s : Store) (key : List String) (e : Entry) : Store :=
  { entries := s.entries.filter (·.1 != key) ++ [(key, e)] }

def erase (s : Store) (key : List String) : Store :=
  { entries := s.entries.filter (·.1 != key) }

def homeKey : List String := (home.splitOn "/").filter (· != "")

def inTree? (abs : List String) : Option (List String) :=
  if homeKey.isPrefixOf abs then some (abs.drop homeKey.length) else none

def entryAt? (s : Store) (abs : List String) : Option Entry :=
  (inTree? abs).bind s.entry?

def kindAbs (s : Store) (abs : List String) : Option EntryKind :=
  match inTree? abs with
  | some key => s.kindAt key
  | none => if abs.isPrefixOf homeKey then some .directory else none

def components (path : String) : List String × List String :=
  let parts := (path.splitOn "/").filter (· != "")
  if path.startsWith "/" then ([], parts) else (homeKey, parts)

def follow (s : Store) : List String → List String → Except Fault (List String)
  | cur, [] => .ok cur
  | cur, c :: rest =>
    let next := if c == "." then cur else if c == ".." then cur.dropLast else cur ++ [c]
    match rest with
    | [] => .ok next
    | _ :: _ =>
      match s.kindAbs next with
      | some .directory => s.follow next rest
      | some .file => .error .notDirectory
      | none => .error .notFound

def locate (s : Store) (path : String) : Except Fault (List String × Bool) :=
  if path.isEmpty then .error .notFound
  else
    let (start, cs) := components path
    match s.follow start cs with
    | .error e => .error e
    | .ok abs => .ok (abs, path.endsWith "/")

def read (s : Store) (path : String) : Except Fault ByteArray :=
  match s.locate path with
  | .error e => .error e
  | .ok (abs, dirOnly) =>
    match s.kindAbs abs, s.entryAt? abs with
    | some .directory, _ => .error .isDirectory
    | _, some (.file bytes _) => if dirOnly then .error .notDirectory else .ok bytes
    | _, _ => .error .notFound

def kind? (s : Store) (path : String) : Option EntryKind :=
  match s.locate path with
  | .error _ => none
  | .ok (abs, dirOnly) =>
    match s.kindAbs abs with
    | some .file => if dirOnly then none else some .file
    | k => k

def mode? (s : Store) (path : String) : Option Nat :=
  match s.locate path with
  | .ok (abs, false) =>
    match s.entryAt? abs with
    | some (.file _ mode) => some mode
    | _ => none
  | _ => none

def replace (s : Store) (path : String) (bytes : ByteArray) (mode : Option Nat) :
    Except Fault Store :=
  match s.locate path with
  | .error e => .error e
  | .ok (abs, dirOnly) =>
    match s.kindAbs abs, inTree? abs with
    | some .directory, _ => .error .isDirectory
    | _, none => .error .notFound
    | _, some key => if dirOnly then .error .notDirectory
      else .ok (s.put key (.file bytes (mode.getD privateMode)))

def setMode (s : Store) (path : String) (mode : Nat) : Store :=
  match (s.locate path).toOption.bind (fun (abs, _) => inTree? abs) with
  | some key =>
    match s.entry? key with
    | some (.file bytes _) => s.put key (.file bytes mode)
    | _ => s
  | none => s

def removeFile (s : Store) (path : String) : Store :=
  match (s.locate path).toOption.bind (fun (abs, _) => inTree? abs) with
  | some key =>
    match s.entry? key with
    | some (.file ..) => s.erase key
    | _ => s
  | none => s

def ancestors (key : List String) : List (List String) :=
  (List.range key.length).map fun n => key.take n |>.filter (!·.isEmpty)

def create (s : Store) (key : List String) (e : Entry) : Store :=
  let s := (ancestors key).foldl
    (fun s dir => if (s.kindAt dir).isSome then s else s.put dir .directory) s
  match e, s.kindAt key with
  | .directory, some .directory => s
  | _, _ => s.put key e

def keyText (key : List String) (e : Entry) : String :=
  "/".intercalate key ++ (match e with | .directory => "/" | .file .. => "")

def changes (before after : Store) : List (String × Option Entry) :=
  let changed := after.entries.filter fun (k, e) =>
    match before.entry? k with
    | some old => !e.same old
    | none => true
  let removed := before.entries.filter fun (k, _) => (after.entry? k).isNone
  changed.map (fun (k, e) => (keyText k e, some e)) ++
    removed.map (fun (k, e) => (keyText k e, none))

end Store

instance : FileSystem (StateM Store) where
  currentDir := pure home
  readBytes path := do pure ((← get).read path)
  kindOf path := do pure ((← get).kind? path)
  permissionsOf path := do pure ((← get).mode? path)
  replaceFile path bytes mode := do
    match (← get).replace path bytes mode with
    | .ok s => set s; pure (.ok ())
    | .error e => pure (.error e)

theorem Store.kindAt_put_self (s : Store) (key : List String) (e : Entry) (h : key ≠ []) :
    (s.put key e).kindAt key = some e.kind := by
  have hf : (s.entries.filter (·.1 != key)).find? (·.1 == key) = none := by
    rw [List.find?_eq_none]
    intro x hx
    simp at hx ⊢
    exact hx.2
  simp [Store.kindAt, Store.put, Store.entry?, h, List.find?_append, hf]

end TypedJson.Files
