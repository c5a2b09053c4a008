import TypedJson.Syntax.Parser.Basic
/-!
# Recovery by setting tokens aside

When a statement or a member cannot be parsed, the parse tries again with tokens set aside
around the token where it failed: some tokens from there on are skipped, and some of the
pieces just before it are given up. A piece is a token, a whole bracketed group, or a type
name with its qualifiers and type arguments. For each number of tokens skipped, the fewest
pieces are given up that let the parse take the token after the skipped ones; when the parse
then fails further on, the same is tried there, at a bounded number of places.

Each range set aside costs `recoveryCost`, its length in bytes, `lineCost` for each line break
in it and `treeCost` for each token or group in it. Skipping stops as soon as a way that gave
up pieces earlier, and is still going, costs less than the skipping so far. The cheapest way
through wins, counting what the statement after it costs when one is given; of two that cost
the same, the one whose range starts later, which keeps more of what was parsed.

The token after a range is read as it would be in the middle of an error: no statement or
member ends before it without a separator, and it is a keyword when it can be one (when tokens
were skipped before it) or when it is reserved. A slash where the parse failed is read as the
start of a regular expression when one can start there.
-/
namespace TypedJson.Syntax

namespace Recovery

def maxSkipped : Nat := 4

def maxGivenUp : Nat := 4

def maxWholeUnit : Nat := 16

def maxPlaces : Nat := 3

def maxGreedyPlaces : Nat := 8

def reductionsBeforeKeeping : Nat := 6

def prevVisible (hidden : List (Nat × Nat)) (start : Nat) : Nat → Nat → Option Nat
  | 0, _ => none
  | fuel + 1, i =>
    if i ≤ start then none
    else
      match rangeHolding hidden (i - 1) with
      | some r => prevVisible hidden start fuel r.1
      | none => some (i - 1)

def opening (close : String) : Option String :=
  if close == ")" then some "("
  else if close == "]" then some "["
  else if close == closeBrace then some openBrace
  else if close == ">" then some "<"
  else none

def matchingOpen (ts : Array Token) (hidden : List (Nat × Nat)) (start : Nat) (op cl : String) :
    Nat → Nat → Nat → Option Nat
  | 0, _, _ => none
  | fuel + 1, depth, i =>
    match prevVisible hidden start (hidden.length + 1) i with
    | none => none
    | some j =>
      match ts[j]? with
      | none => none
      | some t =>
        if t.isPunct cl then matchingOpen ts hidden start op cl fuel (depth + 1) j
        -- the `${` of a template substitution opens a brace group too
        else if t.isPunct op || (op == openBrace && t.isPunct "$\x7b") then
          if depth == 0 then some j else matchingOpen ts hidden start op cl fuel (depth - 1) j
        else matchingOpen ts hidden start op cl fuel depth j

def extendPiece (ts : Array Token) (hidden : List (Nat × Nat)) (start : Nat) : Nat → Nat → Nat
  | 0, p => p
  | fuel + 1, p =>
    match prevVisible hidden start (hidden.length + 1) p with
    | none => p
    | some q =>
      match ts[p]?, ts[q]? with
      | some tp, some tq =>
        if tp.isPunct "<" && tq.kind == .word then extendPiece ts hidden start fuel q
        else if tp.kind == .word && tq.isPunct "." then
          match prevVisible hidden start (hidden.length + 1) q with
          | some q2 =>
            if ((ts[q2]?.map (·.kind == .word)).getD false) then extendPiece ts hidden start fuel q2
            else p
          | none => p
        else p
      | _, _ => p

def pieceStart (ts : Array Token) (hidden : List (Nat × Nat)) (start i : Nat) : Option Nat :=
  match prevVisible hidden start (hidden.length + 1) i with
  | none => none
  | some j =>
    let group : Option Nat := match ts[j]? with
      | none => none
      | some t =>
        match (if t.kind == .punct then opening t.text else none) with
        | some op => matchingOpen ts hidden start op t.text (j + 1) 0 j
        | none => none
    match group with
    | some p => some (extendPiece ts hidden start (p + 1) p)
    | none =>
      -- a lone token is extended only as the last part of a dotted name
      if ((ts[j]?.map fun (t : Token) => t.kind == .word).getD false) then
        some (extendPiece ts hidden start (j + 1) j)
      else some j

def givenUpStart (ts : Array Token) (hidden : List (Nat × Nat)) (start : Nat) :
    Nat → Nat → Option Nat
  | 0, i => some i
  | k + 1, i => (pieceStart ts hidden start i).bind fun j => givenUpStart ts hidden start k j

inductive Reading where
  | asType | asPrimary | other

def lastPartReading : Kind → Reading
  | .colonType | .inferType | .unionType | .intersectionType | .conditionalType
  | .functionType | .constructorType | .readonlyType | .restType | .typePredicate
  | .constraint | .defaultType => .asType
  | .flowMaybeType | .indexTypeQuery => .asPrimary
  | _ => .other

def isPrimaryType : Kind → Bool
  | .parenthesizedType | .predefinedType | .typeIdentifier | .nestedTypeIdentifier
  | .genericType | .objectType | .arrayType | .tupleType | .flowMaybeType | .typeQuery
  | .indexTypeQuery | .thisType | .existentialType | .literalType | .lookupType
  | .conditionalType | .templateLiteralType | .intersectionType | .unionType
  | .constKeyword => true
  | _ => false

def isCompoundType : Kind → Bool
  | .functionType | .constructorType | .readonlyType | .inferType => true
  | _ => false

def isKeywordNode : Kind → Bool
  | .predefinedType | .thisType | .existentialType => true
  | _ => false

def statesOf (b : Built) (inner : Bool) (outer : Kind) : Nat :=
  let own := if inner then 1
    else if b.next - b.first == 1 then (if isKeywordNode b.kind then 2 else 1) else 2
  let wrap := match lastPartReading outer with
    | .asType => if isPrimaryType b.kind then 2 else if isCompoundType b.kind then 1 else 0
    | .asPrimary => if isPrimaryType b.kind then 1 else 0
    | .other => 0
  own + wrap

def keptColonType : List Built → Bool → Nat → Option Nat
  | b :: outer :: rest, inner, seen =>
    if b.kind == .colonType && outer.kind == .propertySignature then
      if seen ≥ reductionsBeforeKeeping then some b.first else none
    else keptColonType (outer :: rest) true (seen + statesOf b inner outer.kind)
  | _, _, _ => none

def givenUpStarts (ts : Array Token) (hidden : List (Nat × Nat)) (start : Nat)
    (extra : List Nat) (e : Nat) : Nat → List Nat
  | 0 => [e]
  | 1 => ((pieceStart ts hidden start e).toList ++ extra).eraseDups.mergeSort (· ≥ ·)
  | k + 2 =>
    ((givenUpStarts ts hidden start extra e (k + 1)).flatMap fun i =>
      (pieceStart ts hidden start i).toList).eraseDups.mergeSort (· ≥ ·)

def piecesBefore (ts : Array Token) (hidden : List (Nat × Nat)) (start : Nat) :
    Nat → Nat → Nat
  | 0, _ => 0
  | fuel + 1, i =>
    match pieceStart ts hidden start i with
    | some j => piecesBefore ts hidden start fuel j + 1
    | none => 0

def skipVisible (hidden : List (Nat × Nat)) : Nat → Nat → Nat
  | 0, i => i
  | n + 1, i => skipVisible hidden n (visibleFrom hidden (i + 1))

def skippable (ts : Array Token) (hidden : List (Nat × Nat)) : Nat → Nat → Bool
  | 0, _ => true
  | n + 1, i =>
    match ts[i]? with
    | none => false
    | some t =>
      !t.isEof && (!t.isPunct closeBrace || t.inTemplate || t.closesSubstitution) &&
        skippable ts hidden n (visibleFrom hidden (i + 1))

def addRange (r : Nat × Nat) : List (Nat × Nat) → List (Nat × Nat)
  | [] => [r]
  | x :: xs =>
    if x.2 < r.1 then r :: x :: xs
    else if r.2 < x.1 then x :: addRange r xs
    else addRange (min x.1 r.1, max x.2 r.2) xs

def rangeCost (ts : Array Token) (a b pieces : Nat) : Nat :=
  match ts[a]?, ts[b - 1]? with
  | some x, some y =>
    let lines := ((List.range (b - a)).filter fun k =>
      k > 0 && ((ts[a + k]?.map (·.lineBefore)).getD false)).length
    recoveryCost + (y.stop - x.start) + lineCost * lines + treeCost * pieces
  | _, _ => recoveryCost + treeCost * pieces

structure Way (α : Type) where
  result : α
  state : ParseState
  firstAside : Nat
  outside : Nat
  rank : Nat

def Way.better {α : Type} (x y : Way α) : Way α :=
  if x.rank < y.rank then x
  else if y.rank < x.rank then y
  else if x.outside > y.outside then x
  else if y.outside > x.outside then y
  else if x.firstAside ≥ y.firstAside then x
  else y

def outsideCount (ts : Array Token) (start : Nat) (trailingInside : Bool) (s : ParseState) :
    Nat :=
  let first := visibleFrom s.hidden start
  (s.aside.filter fun r =>
    r.1 ≥ start &&
      (r.2 ≤ first ||
        (!trailingInside && (ts[r.1]?.map fun (t : Token) => decide (t.start ≥ s.lastStop)).getD false))).length

def cheapest {α : Type} : List (Way α) → Option (Way α)
  | [] => none
  | x :: xs =>
    match cheapest xs with
    | none => some x
    | some y => some (x.better y)

def firstOf {β : Type} (f : Nat → Option (Option β)) : List Nat → Option β
  | [] => none
  | k :: ks =>
    match f k with
    | some x => x
    | none => firstOf f ks

structure Attempt (α : Type) where
  aside : Nat
  cost : Nat
  state : ParseState
  outcome : Except Failure (α × ParseState)

def Attempt.reaches {α : Type} (at_ : Attempt α) (t : Nat) : Bool :=
  match at_.outcome with
  | .ok _ => true
  | .error f => f.pos > t

def attemptAt {α : Type} (unit : Parse α) (ts : Array Token) (start : Nat) (s : ParseState)
    (done : List Built) (e j : Nat) : Option (Attempt α) :=
  if !skippable ts s.hidden j e then none
  else
    let r := skipVisible s.hidden j e
    let whole := piecesBefore ts s.hidden start (maxWholeUnit + 1) e
    -- the unit has not gone on after a recovery yet
    let untouched := !s.resumes.any (·.1 > start)
    let atEnd := (ts[e]?.map (·.kind == .eof)).getD true
    -- the nodes that end right before the failure are the last ones built
    let chain := (done.takeWhile fun b => b.next == e && b.first ≥ start).reverse
    -- where the unit itself was left unfinished, the largest node that ends at the failure
    -- is reduced to one piece: nothing around it can take the token that failed
    let reduced := if chain.any (·.first == start) then none
      else (chain.getLast?.map (·.first)).filter (· > start)
    -- the value of an annotation that ends at the failure is reduced to one piece too
    let value := (chain.zip (chain.drop 1)).filterMap fun (b, outer) =>
      if outer.kind == .colonType && b.first > start then some b.first else none
    let extra := (keptColonType chain false 0).toList ++ reduced.toList ++ value
    let counts :=
      if atEnd then List.range (maxWholeUnit + 1)
      else List.range (maxGivenUp + 1)
    let levels := counts.map fun k => (k, givenUpStarts ts s.hidden start extra e k)
    let levels := levels ++
      (if !atEnd && untouched && maxGivenUp < whole && whole ≤ maxWholeUnit then
        [(whole, (givenUpStart ts s.hidden start whole e).toList)]
      else [])
    let tryAt (k a : Nat) : Option (Attempt α) :=
      let hidden := addRange (a, r) s.hidden
      -- the errors recovered inside what is set aside still count
      let inner := ((s.settled.filter fun st => a ≤ st.start && st.stop ≤ r).map (·.cost)).foldr
        (· + ·) 0
      -- after skipping, popping back onto the error left by a recovery that skipped nothing
      -- merges the two into one error: the range then costs what it adds to that one
      let joined := j > 0 && s.aside.any (·.2 == a) && s.resumes.any fun x => x.1 == a && !x.2
      let gap := match ts[a - 1]?, ts[a]? with
        | some x, some y => (y.start - x.stop) + (if y.lineBefore then lineCost else 0)
        | _, _ => 0
      let cost := if joined then rangeCost ts a r (k + j) + inner + gap - recoveryCost
        else rangeCost ts a r (k + j) + inner
      let s1 : ParseState :=
        { s with hidden, aside := addRange (a, r) s.aside, pos := visibleFrom hidden start,
                 hasError := true, cost := s.cost + cost, resumes := (r, j > 0) :: s.resumes }
      let outcome := unit ts s1
      let progressed := match outcome with
        | .ok _ => true
        | .error f => f.pos > r
      if progressed then some ⟨a, cost, s1, outcome⟩ else none
    let rec tryLevels : List (Nat × List Nat) → Option (Attempt α)
      | [] => none
      | (k, starts) :: rest =>
        if j == 0 && k == 0 then tryLevels rest
        else if starts.isEmpty then none
        else
          match starts.findSome? (tryAt k) with
          | some at_ => some at_
          | none => tryLevels rest
    tryLevels levels

def resumesInside {α : Type} (unit : Parse α) (ts : Array Token) (start : Nat) (s : ParseState)
    (e r : Nat) : Bool :=
  (List.range (maxGivenUp + 1)).any fun k =>
    match givenUpStart ts s.hidden start k e with
    | none => false
    | some a =>
      if a ≤ start then false
      else
        let hidden := addRange (a, r) s.hidden
        let s1 : ParseState :=
          { s with hidden, pos := visibleFrom hidden start, trial := true,
                   resumes := (r, true) :: s.resumes }
        match unit ts s1 with
        | .ok _ => true
        | .error f => f.pos > r

def missingTokens : List (TokenKind × String) :=
  [(.word, ""), (.punct, closeBrace), (.punct, ";"), (.punct, ")"), (.punct, "]"), (.punct, ">"),
   (.punct, String.singleton backtick)]

def supplyMissing {α : Type} (unit : Parse α) (ts : Array Token) (start : Nat) (s : ParseState)
    (semicolonOk : Token → Bool) (e : Nat) : Option (Attempt α) :=
  match ts[e]? with
  | none => none
  | some t =>
    firstOf (fun k =>
      match missingTokens[k]? with
      | none => some none
      | some (kind, text) =>
        if text == ";" && !semicolonOk t then none
        else
          let tok : Token := { kind, text, start := t.start, stop := t.start }
          let s1 : ParseState :=
            { s with virtual := some (e, tok), pos := visibleFrom s.hidden start,
                     hasError := true, cost := s.cost + missingCost,
                     resumes := (e, false) :: s.resumes }
          let outcome := unit ts s1
          let progressed := match outcome with
            | .ok (_, s2) => s2.virtual.isNone
            | .error f => f.pos > e
          if progressed then some (some ⟨e, missingCost, s1, outcome⟩) else none)
      (List.range missingTokens.length)

def skippingGoesOn {α : Type} (ts : Array Token) (hidden : List (Nat × Nat))
    (attempts : List (Option (Attempt α))) (rival : Option (Attempt α)) (e j : Nat) : Bool :=
  (List.range j).all fun i =>
    let t := skipVisible hidden i e
    let skipCost := rangeCost ts e (t + 1) (i + 1)
    !((rival :: attempts.take (i + 1)).any fun a? =>
        match a? with
        | some a => a.reaches t && a.cost < skipCost
        | none => false)

def attemptsWhileSkipping {α : Type} (unit : Parse α) (ts : Array Token) (start : Nat)
    (s : ParseState) (done : List Built) (rival : Option (Attempt α)) (e : Nat) :
    Nat → List (Option (Attempt α)) → List (Option (Attempt α))
  | 0, acc => acc.reverse
  | n + 1, acc =>
    let j := acc.length
    if !skippable ts s.hidden j e || !skippingGoesOn ts s.hidden acc.reverse rival e j then
      acc.reverse
    else
      attemptsWhileSkipping unit ts start s done rival e n
        (attemptAt unit ts start s done e j :: acc)

def cheapestWays {α : Type} (unit : Parse α) (ts : Array Token) (start : Nat)
    (semicolonOk : Token → Bool) (trailingInside : Bool) :
    Nat → ParseState → Nat → List Built → List (Way α)
  | 0, _, _, _ => []
  | places + 1, s, e, done =>
    let supplied := supplyMissing unit ts start s semicolonOk e
    let attempts :=
      (supplied :: attemptsWhileSkipping unit ts start s done supplied e (maxSkipped + 1) [])
      |>.filterMap id
    let finished := attempts.filterMap fun at_ =>
      match at_.outcome with
      | .ok (x, s2) => some ⟨x, s2, at_.aside, outsideCount ts start trailingInside s2, s2.cost⟩
      | .error _ => none
    if !finished.isEmpty then finished
    else
      -- of the attempts that fail further on, the cheapest, and of those the last
      let next := attempts.foldl (fun (best : Option (Attempt α)) at_ =>
        match best with
        | none => some at_
        | some b => if at_.state.cost ≤ b.state.cost then some at_ else some b) none
      match next with
      | some at_ =>
        match at_.outcome with
        | .error f =>
          (cheapestWays unit ts start semicolonOk trailingInside places at_.state f.pos f.built).map
            fun w => { w with firstAside := at_.aside }
        | .ok _ => []
      | none => []

def Attempt.resumedAt {α : Type} (at_ : Attempt α) : Nat :=
  (at_.state.resumes.head?.map (·.1)).getD at_.aside

def survivors {α : Type} (attempts : List (Attempt α)) : List (Attempt α) :=
  attempts.filter fun a =>
    match a.outcome with
    | .ok _ => true
    | .error f => !attempts.any fun b =>
        match b.outcome with
        | .error g => (g.pos == f.pos && b.cost < a.cost) || (g.pos > f.pos && b.resumedAt ≤ f.pos)
        | .ok (_, s2) => s2.pos > f.pos && b.resumedAt ≤ f.pos

def ways {α : Type} (unit : Parse α) (ts : Array Token) (start : Nat)
    (semicolonOk : Token → Bool) (trailingInside : Bool) :
    Nat → ParseState → Nat → List Built → List (Way α)
  | 0, s, e, done => cheapestWays unit ts start semicolonOk trailingInside maxGreedyPlaces s e done
  | places + 1, s, e, done =>
    let supplied := supplyMissing unit ts start s semicolonOk e
    let attempts := attemptsWhileSkipping unit ts start s done supplied e (maxSkipped + 1) []
    (survivors ((supplied :: attempts).filterMap id)).flatMap fun at_ =>
      match at_.outcome with
      | .ok (x, s2) => [⟨x, s2, at_.aside, outsideCount ts start trailingInside s2, s2.cost⟩]
      | .error f =>
        (ways unit ts start semicolonOk trailingInside places at_.state f.pos f.built).map fun w =>
          { w with firstAside := at_.aside }

def tokenEndingAt (ts : Array Token) (stop : Nat) : Nat → Nat → Option Nat
  | 0, _ => none
  | fuel + 1, i =>
    match ts[i]? with
    | none => none
    | some t =>
      if t.stop == stop then some i
      else if t.stop > stop then none
      else tokenEndingAt ts stop fuel (i + 1)

def readRegex (ts : Array Token) (s : ParseState) (e : Nat) : ParseState :=
  match ts[e]? with
  | some t =>
    match t.regexStop with
    | some stop =>
      if t.kind != .punct then s
      else
        match tokenEndingAt ts stop (ts.size - e) e with
        | some last =>
          { s with hidden := if last == e then s.hidden else addRange (e + 1, last + 1) s.hidden,
                   regexes := (e, stop) :: s.regexes }
        | none => s
    | none => s
  | none => s

end Recovery

namespace Parse

def recover {α : Type} (unit : Parse α) (start : Nat) (failure : Failure)
    (semicolonOk : Token → Bool) (trailingInside : Bool) (follow : Option (Parse Unit)) :
    Parse (Option α) :=
  fun ts s =>
    let e := failure.pos
    if s.trial then .ok (none, s)
    else
      let s0 := Recovery.readRegex ts
        { s with trial := true, pos := visibleFrom s.hidden start,
                 settled := failure.settled } e
      let rank (w : Recovery.Way α) : Recovery.Way α :=
        match follow with
        | none => w
        | some p =>
          match p ts w.state with
          | .ok (_, s3) => { w with rank := s3.cost }
          | .error _ => { w with rank := w.state.cost + recoveryCost + treeCost }
      let found := Recovery.ways unit ts start semicolonOk trailingInside Recovery.maxPlaces s0 e
        failure.built
      let atEnd (i : Nat) : Bool := (ts[i]?.map (·.kind == .eof)).getD true
      -- where what follows the way stops at the end of input, so does every attempt of the
      -- first place that fails there; the cheapest of them is the one that goes on
      let stopsAtEnd (w : Recovery.Way α) : Bool :=
        match follow with
        | some p =>
          match p ts w.state with
          | .error f => atEnd f.pos
          | .ok _ => false
        | none => false
      let cheaperStop (w : Recovery.Way α) : Bool :=
        let supplied := Recovery.supplyMissing unit ts start s0 semicolonOk e
        (supplied :: Recovery.attemptsWhileSkipping unit ts start s0 failure.built supplied e
            (Recovery.maxSkipped + 1) []).any fun a? =>
          match a? with
          | some a =>
            match a.outcome with
            | .error f => atEnd f.pos && a.state.cost < w.state.cost
            | .ok _ => false
          | none => false
      match Recovery.cheapest (found.map rank) with
      | some w =>
        if stopsAtEnd w && cheaperStop w then .ok (none, s)
        else
          -- the parse only goes forward from here: what lies behind it no longer matters
          let p := w.state.pos
          .ok (some w.result, { w.state with trial := false, virtual := none,
                                             resumes := w.state.resumes.filter (·.1 ≥ p),
                                             regexes := w.state.regexes.filter (·.1 ≥ p) })
      | none => .ok (none, s)

def rangesWithin (rs : List (Nat × Nat)) (a b : Nat) : List (Nat × Nat) :=
  rs.filter fun r => a ≤ r.1 && r.2 ≤ b

def settle (start : Nat) (before : ParseState) (m : Node) : Parse Unit :=
  modify fun s =>
    let entry : Settled :=
      { start, stop := s.pos, node := m, before := rangesWithin before.hidden start s.pos,
        hidden := rangesWithin s.hidden start s.pos, aside := rangesWithin s.aside start s.pos,
        cost := s.cost - before.cost, lastStop := s.lastStop }
    { s with settled := entry :: s.settled }

def replaySettled (start : Nat) : Parse (Option Node) := do
  let s ← get
  if !s.trial then pure none
  else
    match s.settled.find? (·.start == start) with
    | none => pure none
    | some st =>
      if rangesWithin s.hidden start st.stop != st.before then pure none
      else
        set { s with hidden := st.hidden.foldl (fun acc r => Recovery.addRange r acc) s.hidden,
                     aside := st.aside.foldl (fun acc r => Recovery.addRange r acc) s.aside,
                     cost := s.cost + st.cost, hasError := true, pos := st.stop,
                     lastStop := st.lastStop }
        pure (some st.node)

def setAside (a b : Nat) : Parse Unit := do
  let ts ← read
  modify fun s =>
    { s with hidden := Recovery.addRange (a, b) s.hidden, aside := Recovery.addRange (a, b) s.aside,
             hasError := true, cost := s.cost + Recovery.rangeCost ts a b (b - a),
             pos := visibleFrom (Recovery.addRange (a, b) s.hidden) s.pos }

def openMembers : Nat → Parse Nat
  | 0 => fail
  | fuel + 1 => do
    let first ← pos
    expectPunct openBrace
    if (← atPunct openBrace) then
      setAside first (← pos)
      openMembers fuel
    else pure first

def withStrictEnd {α : Type} (strict : Bool) (p : Parse α) : Parse α := do
  let saved := (← get).strictEnd
  modify fun s => { s with strictEnd := strict }
  let a ← p
  modify fun s => { s with strictEnd := saved }
  pure a

end Parse

end TypedJson.Syntax
