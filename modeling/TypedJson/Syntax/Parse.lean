import TypedJson.Syntax.Parser.Grammar
/-!
# Parsing a declaration module

The entry point scans the source, parses the statements of the module and then puts every
comment, and an error node for every range of tokens that recovery set aside, into the tree:
such a node belongs to the smallest node that has source on both sides of it, and to the module
itself when no node does.
-/
namespace TypedJson.Syntax

def Comment.toNode (c : Comment) : Node :=
  { kind := .comment, start := c.start, stop := c.stop }

def asideNode (tokens : Array Token) (r : Nat × Nat) : Option Node := do
  let x ← tokens[r.1]?
  let y ← tokens[r.2 - 1]?
  pure { kind := .error, start := x.start, stop := y.stop }

def Node.encloses (n : Node) (c : Node) : Bool :=
  n.start < c.start && c.stop < n.stop

def insertByStart (x : Node) : List Node → List Node
  | [] => [x]
  | y :: ys => if x.start < y.start then x :: y :: ys else y :: insertByStart x ys

mutual

def placeInNode : Node → List Node → Node
  | ⟨kind, role, start, stop, children⟩, comments =>
    let (children, rest) := placeAmong children comments
    ⟨kind, role, start, stop, rest.foldl (fun acc c => insertByStart c acc) children⟩

def placeAmong : List Node → List Node → List Node × List Node
  | [], comments => ([], comments)
  | c :: cs, comments =>
    let inside := comments.filter c.encloses
    let outside := comments.filter fun x => !c.encloses x
    let c' := placeInNode c inside
    let (cs', rest) := placeAmong cs outside
    (c' :: cs', rest)

end

def parse (source : String) : Tree :=
  let scanned := scan source
  let tokens := scanned.tokens
  -- each token taken is reached through a bounded chain of grammar functions
  let fuel := 100 * (tokens.size + 2)
  let init : ParseState := { levels := [.statements false] }
  let stop := source.utf8ByteSize
  let start := (tokens[0]?.map (·.start)).getD stop
  let start := match scanned.comments with
    | c :: _ => min c.start start
    | [] => start
  match (statementList fuel false []).run tokens |>.run init with
  | .ok (statements, st) =>
    -- a comment among tokens set aside belongs to their error node
    let (errors, comments) :=
      placeAmong (st.aside.filterMap (asideNode tokens)) (scanned.comments.map Comment.toNode)
    let (children, rest) := placeAmong statements (comments ++ errors)
    let children := rest.foldl (fun acc c => insertByStart c acc) children
    let root : Node := { kind := .program, start, stop, children }
    { root, hasError := st.hasError || scanned.malformed || root.containsError }
  | .error _ =>
    let err : Node := { kind := .error, start, stop }
    { root := { kind := .program, start, stop, children := [err] }, hasError := true }

end TypedJson.Syntax
