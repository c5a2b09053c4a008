import TypedJson.Syntax.Node
import TypedJson.Syntax.Scanner
/-!
# Parser state and primitives

The parser reads the token array left to right. Its state is the index of the next token,
whether it has had to recover from an error, and the nodes built so far; a failure names the
token at which the parse could not go on, with the nodes built up to there. Recursion in the
grammar is bounded by a step budget that the entry point sets from the number of tokens, so
every parsing function is total.

Recovery can set ranges of tokens aside: the parse then passes over them as if they were not
there, and each range becomes an error node in the tree. Every recovery has a cost, which
grows with the source it sets aside, so that the cheapest of several ways to go on can be
chosen. When no cheap way is found, recovery follows the enclosing lists: a statement list or
a member list that meets a token it cannot take looks outward, and if an enclosing list can
take the token, the failure travels up to it; otherwise the token is skipped into an error
node where it stands.
-/
namespace TypedJson.Syntax

inductive Level where
  | statements (inBraces : Bool)
  | members
deriving DecidableEq, Inhabited

structure Built where
  kind : Kind
  first : Nat
  next : Nat
deriving Inhabited

structure Settled where
  start : Nat
  stop : Nat
  node : Node
  before : List (Nat × Nat)
  hidden : List (Nat × Nat)
  aside : List (Nat × Nat)
  cost : Nat
  lastStop : Nat
deriving Inhabited

structure ParseState where
  pos : Nat := 0
  hasError : Bool := false
  levels : List Level := []
  lastStop : Nat := 0
  hidden : List (Nat × Nat) := []
  aside : List (Nat × Nat) := []
  regexes : List (Nat × Nat) := []
  cost : Nat := 0
  resumes : List (Nat × Bool) := []
  names : List Nat := []
  afterIdentifier : Option Nat := none
  built : List Built := []
  virtual : Option (Nat × Token) := none
  strictEnd : Bool := false
  trial : Bool := false
  settled : List Settled := []
deriving Inhabited

structure Failure where
  pos : Nat
  built : List Built := []
  settled : List Settled := []
deriving Inhabited

def recoveryCost : Nat := 500

def treeCost : Nat := 100

def lineCost : Nat := 30

def missingCost : Nat := 610

def rangeHolding : List (Nat × Nat) → Nat → Option (Nat × Nat)
  | [], _ => none
  | r :: rs, i => if r.2 ≤ i then none else if r.1 ≤ i then some r else rangeHolding rs i

def visibleFrom (hidden : List (Nat × Nat)) (i : Nat) : Nat :=
  match rangeHolding hidden i with
  | some r => r.2
  | none => i

abbrev Parse := ReaderT (Array Token) (StateT ParseState (Except Failure))

def reservedWords : List String :=
  ["break", "case", "catch", "class", "const", "continue", "debugger", "default", "delete",
   "do", "else", "export", "extends", "false", "finally", "for", "function", "if", "import",
   "in", "instanceof", "new", "null", "return", "super", "switch", "this", "throw", "true",
   "try", "typeof", "var", "void", "while", "with"]

namespace Parse

def tokenAt (i : Nat) : Parse Token := do
  let ts ← read
  let t := match ts[i]? with
    | some t => t
    | none => ts.back?.getD { kind := .eof, text := "", start := 0, stop := 0 }
  match (← get).regexes.lookup i with
  | some stop => pure { t with kind := .regex, stop, regexStop := none }
  | none => pure t

def pos : Parse Nat := do pure (← get).pos

def peek : Parse Token := do
  let s ← get
  match s.virtual with
  | some (n, t) => if n == s.pos then pure t else tokenAt s.pos
  | none => tokenAt s.pos

def indexAt (n : Nat) : Parse Nat := do
  let s ← get
  pure ((List.range n).foldl (fun j _ => visibleFrom s.hidden (j + 1)) s.pos)

def atVirtual : Parse Bool := do
  let s ← get
  pure (s.virtual.any (·.1 == s.pos))

def peekAt (n : Nat) : Parse Token := do
  if (← atVirtual) then
    match n with
    | 0 => peek
    | k + 1 => tokenAt (← indexAt k)
  else tokenAt (← indexAt n)

def advance : Parse Unit := do
  if (← atVirtual) then
    -- the token after a supplied one was read where the error was found: right after an
    -- identifier only operators can follow, so a word there that is not reserved is a name
    let t ← tokenAt (← get).pos
    modify fun s =>
      { s with virtual := none,
               names := if s.afterIdentifier == some s.pos && t.kind == .word &&
                   !reservedWords.contains t.text then s.pos :: s.names else s.names }
  else
    let t ← peek
    if t.kind != .eof then
      modify fun s => { s with pos := visibleFrom s.hidden (s.pos + 1), lastStop := t.stop }

def seek (i : Nat) : Parse Unit := do
  let prevStop ← if i > 0 then do pure (← tokenAt (i - 1)).stop else pure 0
  modify fun s => { s with pos := visibleFrom s.hidden i, lastStop := prevStop }

def addCost (n : Nat) : Parse Unit := modify fun s => { s with cost := s.cost + n }

def atResume : Parse Bool := do
  let s ← get
  pure (s.resumes.any (·.1 == s.pos))

def fail {α : Type} : Parse α := do
  let s ← get
  throw ⟨s.pos, s.built, s.settled⟩

def failAt {α : Type} (i : Nat) : Parse α := do
  let s ← get
  throw ⟨i, s.built, s.settled⟩

def markError : Parse Unit := modify fun s => { s with hasError := true }

def attempt {α : Type} (p : Parse α) : Parse (Option α) := fun r s =>
  match p r s with
  | .ok (a, s') => .ok (some a, s')
  | .error _ => .ok (none, s)

def tryParse {α : Type} (p : Parse α) : Parse (Except Failure α) := fun r s =>
  match p r s with
  | .ok (a, s') => .ok (.ok a, s')
  | .error e => .ok (.error e, s)

end Parse

namespace Token

def isPunct (t : Token) (p : String) : Bool := t.kind == .punct && t.text == p

def isWord (t : Token) (w : String) : Bool := t.kind == .word && t.text == w

def isEof (t : Token) : Bool := t.kind == .eof

end Token

namespace Parse

def atPunct (p : String) : Parse Bool := do pure ((← peek).isPunct p)

def atWord (w : String) : Parse Bool := do pure ((← peek).isWord w)

def expectPunct (p : String) : Parse Unit := do
  if (← atPunct p) then advance else fail

def expectWord (w : String) : Parse Unit := do
  if (← atWord w) then advance else fail

def eatPunct (p : String) : Parse Bool := do
  if (← atPunct p) then advance; pure true else pure false

def finish (kind : Kind) (first : Nat) (children : List Node) (role : Option Role := none) :
    Parse Node := do
  let t ← tokenAt first
  let s ← get
  if s.pos > first then
    set { s with built := ⟨kind, first, s.pos⟩ :: s.built }
    pure { kind, role, start := t.start, stop := s.lastStop, children }
  else
    let here := if s.pos > 0 then s.lastStop else t.start
    pure { kind, role, start := here, stop := here, children }

def leaf (kind : Kind) (role : Option Role := none) : Parse Node := do
  let first ← pos
  advance
  if kind == .identifier then modify fun s => { s with afterIdentifier := some s.pos }
  finish kind first [] role

def missing (kind : Kind) (role : Option Role := none) : Parse Node := do
  markError
  addCost missingCost
  let s ← get
  let here ← if s.pos > 0 then pure s.lastStop else do pure (← tokenAt s.pos).start
  pure { kind, role, start := here, stop := here, children := [] }

def withLevel {α : Type} (l : Level) (p : Parse α) : Parse α := do
  let saved := (← get).levels
  modify fun s => { s with levels := l :: saved }
  let a ← p
  modify fun s => { s with levels := saved }
  pure a

end Parse

def openBrace : String := "\x7b"

def closeBrace : String := "\x7d"

def backtickText : String := String.ofList [backtick]

def Token.isReserved (t : Token) : Bool := t.kind == .word && reservedWords.contains t.text

def Token.isName (t : Token) : Bool := t.kind == .word && !reservedWords.contains t.text

def keywordWords : List String :=
  reservedWords ++
  ["abstract", "accessor", "any", "as", "assert", "asserts", "async", "await", "boolean",
   "declare", "enum", "from", "get", "global", "implements", "infer", "interface", "is", "keyof",
   "let", "meta", "module", "namespace", "never", "number", "object", "of", "override",
   "private", "protected", "public", "readonly", "require", "satisfies", "set", "static",
   "string", "symbol", "target", "type", "undefined", "unique", "unknown", "using", "yield"]

def nameKeywords : List String :=
  ["get", "set", "async", "static", "export", "let", "declare", "namespace", "type", "public",
   "private", "protected", "override", "readonly", "module", "any", "number", "boolean",
   "string", "symbol", "object"]

def Parse.atKeywordOnly : Parse Bool := do
  let s ← get
  let t ← Parse.peek
  match s.resumes.find? (·.1 == s.pos) with
  | some (_, inError) =>
    pure (t.kind == .word && (if inError then keywordWords.contains t.text else t.isReserved))
  | none => pure false

def Parse.atNameOnly : Parse Bool := do
  let s ← get
  pure (s.names.contains s.pos && !(s.virtual.any (·.1 == s.pos)))

def Parse.atName : Parse Bool := do
  pure ((← Parse.peek).isName && !(← Parse.atKeywordOnly))

def Parse.nameLeaf (kind : Kind) (role : Option Role := none) : Parse Node := do
  if (← Parse.atName) then Parse.leaf kind role else Parse.fail

def predefinedTypeWords : List String :=
  ["any", "number", "boolean", "string", "symbol", "void", "unknown", "never", "object"]

def statementWords : List String :=
  ["import", "export", "declare", "type", "namespace", "module", "interface", "enum",
   "abstract", "class", "function", "async", "const", "let", "var", "if", "for", "while", "do",
   "return", "throw", "try", "switch", "break", "continue", "debugger", "with", "global"]

def midStatementWords : List String :=
  ["case", "catch", "default", "else", "extends", "finally", "in", "instanceof"]

def Token.startsStatement (t : Token) : Bool :=
  match t.kind with
  | .word | .privateName | .number | .string | .regex => true
  | .punct => ["\x7b", "(", "[", ";", "@", "!", "~", "-", "+", "++", "--", "<", "/"].contains t.text ||
      t.text == String.ofList [backtick]
  | _ => false

def Token.startsMember (t : Token) : Bool :=
  match t.kind with
  | .word | .privateName | .number | .string => true
  | .punct => ["[", "(", "<", "-", "+", "*", "@"].contains t.text
  | _ => false

def Level.accepts : Level → Token → Bool
  | .statements inBraces, t => t.startsStatement || (inBraces && t.isPunct "\x7d")
  | .members, t => t.startsMember || t.isPunct "\x7d" || t.isPunct "," || t.isPunct ";"

def Parse.outerAccepts (t : Token) : Parse Bool := do
  pure (((← get).levels.drop 1).any fun l => l.accepts t)

end TypedJson.Syntax
