import TypedJson.Text.Blank
import TypedJson.Text.Utf8
/-!
# Scanning declaration modules

The scanner cuts source text into tokens and comments, each with its UTF-8 byte span.
Words cover identifiers and keywords alike: the parser decides by position which words are
keywords. A word may hold `\u` escapes. Template literals are cut into their backtick, text and
`${` pieces, so that the parser sees the substitutions as ordinary tokens.

Besides its span, every token records whether a statement may end right before it without a
semicolon. That is decided from the characters between the previous token and this one: a
line feed that is reached over ASCII blanks only, followed by a token that cannot continue
the previous line, or a token that is `}` or the end of the input reached over ASCII blanks
only. A NUL character counts as the end of the input there, and so does an unterminated block
comment after a line break, which would run to the end. The Unicode line and paragraph
separators are blanks between tokens, not line breaks.

Whether a `/` starts a regular expression depends on what came before it: not after a name, a
literal, a postfix `++` or a closing bracket, save the `)` of an `if`, `for`, `while` or `with`
head and the `}` of a block or of a declaration's body that stands as a statement. After
`await` or `yield`, which may be names, it starts one only where the expression can go on
after it.
-/
namespace TypedJson.Syntax

inductive TokenKind where
  | word | privateName | number | string | regex | templateChars | escape | punct | invalid | eof
deriving DecidableEq, Repr, Inhabited

structure Token where
  kind : TokenKind
  text : String
  start : Nat
  stop : Nat
  lineBefore : Bool := false
  endsType : Bool := false
  endsExpr : Bool := false
  regexStop : Option Nat := none
  inTemplate : Bool := false
  closesSubstitution : Bool := false
deriving Repr, Inhabited

structure Comment where
  start : Nat
  stop : Nat
deriving Repr, Inhabited

structure Scan where
  tokens : Array Token
  comments : List Comment
  malformed : Bool := false
deriving Repr, Inhabited

def isLineBreak (c : Char) : Bool := c == '\n'

def endsLineComment (c : Char) : Bool :=
  c == '\n' || c == '\r' || c.toNat == 0x2028 || c.toNat == 0x2029

def isAsciiBlank (c : Char) : Bool :=
  c == ' ' || c == '\t' || c == '\n' || c == '\r' || c.toNat == 0x0B || c.toNat == 0x0C

def isSpaceSeparator (c : Char) : Bool :=
  let n := c.toNat
  n == 0x20 || n == 0xA0 || n == 0x1680 || (0x2000 ≤ n && n ≤ 0x200A) || n == 0x202F ||
    n == 0x205F || n == 0x3000

def isSpace (c : Char) : Bool :=
  let n := c.toNat
  isAsciiBlank c || isSpaceSeparator c || n == 0xFEFF || n == 0x2060 || n == 0x200B ||
    n == 0x2028 || n == 0x2029

def backtick : Char := Char.ofNat 96

def isWordStop (c : Char) : Bool :=
  c.toNat < 0x20 || isSpace c || c == backtick ||
    ":;\"'@#.,|^&<=>+-*/\\%?!~()[]\x7b\x7d".toList.contains c

def isDigit (c : Char) : Bool := '0' ≤ c && c ≤ '9'

def isHexDigit (c : Char) : Bool := isDigit c || ('a' ≤ c && c ≤ 'f') || ('A' ≤ c && c ≤ 'F')

def isAsciiLetter (c : Char) : Bool := ('a' ≤ c && c ≤ 'z') || ('A' ≤ c && c ≤ 'Z')

def compoundPuncts : List String :=
  ["...", "===", "!==", "**=", "&&=", "||=", "??=", "=>", "==", "!=", "&&", "||", "??",
   "++", "--", "**", "+=", "-=", "*=", "%=", "&=", "|=", "^=", "?."]

def startsWithChars : List Char → List Char → Bool
  | _, [] => true
  | [], _ :: _ => false
  | c :: cs, p :: ps => c == p && startsWithChars cs ps

def lineEndsBefore (afterExpr : Bool) : List Char → Bool
  | [] => true
  | c :: rest =>
    if c == backtick || ",.;*%><=?^|&/:".toList.contains c then false
    else if c == '(' || c == '[' then !afterExpr
    else if c == '+' then rest.head? == some '+'
    else if c == '-' then rest.head? == some '-'
    else if c == '!' then rest.head? != some '='
    else if c == 'i' then
      match rest with
      | 'n' :: more =>
        match more with
        | x :: _ =>
          if !isAsciiLetter x then false
          else if startsWithChars more "stanceof".toList then
            match more.drop 8 with
            | y :: _ => isAsciiLetter y
            | [] => false
          else true
        | [] => false
      | _ => true
    else true

structure GapState where
  scanning : Bool := true
  lineBreak : Bool := false
deriving Repr, Inhabited

inductive Opener where
  | substitution
  | block
  | controlHead
  | other
deriving DecidableEq, Repr, Inhabited

structure PendingBody where
  braces : Nat
  parens : Nat
  statement : Bool
  keyword : Nat
deriving Inhabited

structure ScanState where
  tokens : Array Token := #[]
  comments : List Comment := []
  braces : List Opener := []
  parens : List Opener := []
  gap : GapState := {}
  regexOk : Bool := true
  tentative : Bool := false
  pending : Option PendingBody := none
  malformed : Bool := false
deriving Inhabited

def regexAfterWords : List String :=
  ["return", "typeof", "case", "do", "else", "in", "instanceof", "new", "delete", "void",
   "throw", "yield", "await"]

def endsOperand (t : Token) : Bool :=
  match t.kind with
  | .word => !regexAfterWords.contains t.text
  | .number | .string | .regex | .privateName => true
  | .punct => [")", "]", "\x7d", "++", "--", String.singleton backtick].contains t.text
  | _ => false

def isMemberDot (t : Token) : Bool :=
  t.kind == .punct && (t.text == "." || t.text == "?.")

def regexAllowedAfter (prev : Option Token) (t : Token) : Bool :=
  match t.kind with
  | .punct =>
    if t.text == "++" || t.text == "--" then
      match prev with
      | some p => t.lineBefore || !endsOperand p
      | none => true
    else !(t.text == ")" || t.text == "]" || t.text == "\x7d" ||
      t.text == String.singleton backtick)
  | .word => !(prev.any isMemberDot) && regexAfterWords.contains t.text
  | _ => false

def operatorOrNameWords : List String := ["await", "yield"]

def goesOnAfterRegex : List Char → Bool
  | [] => true
  | c :: rest =>
    if c == ' ' || c == '\t' then goesOnAfterRegex rest
    else if c == '\n' || c == '\r' || c == backtick then true
    else if ".,;:?)]\x7d([+-*/%<>=!&|^".toList.contains c then true
    else
      ["in", "instanceof", "as", "satisfies"].contains
        (String.ofList ((c :: rest).takeWhile isAsciiLetter))

def controlWords : List String := ["if", "for", "while", "with"]

def blockAfterWords : List String := ["else", "try", "catch", "finally", "do"]

def opensBlock (prev : Option Token) (lineBefore : Bool) : Bool :=
  match prev with
  | none => true
  | some t =>
    (t.kind == .punct && [";", "\x7b", "\x7d", ")"].contains t.text) ||
      (t.kind == .word && blockAfterWords.contains t.text) || (lineBefore && endsOperand t)

def bodyWords : List String :=
  ["class", "interface", "enum", "namespace", "module", "function", "global"]

def modifierWords : List String := ["export", "default", "declare", "abstract", "async", "const"]

def typeOperatorWords : List String :=
  ["extends", "implements", "is", "keyof", "typeof", "infer", "unique", "readonly", "asserts",
   "new"]

def bodyMayFollow (t : Token) : Bool :=
  match t.kind with
  | .word => !typeOperatorWords.contains t.text
  | .string => true
  | .punct => [")", "]", ">", "\x7d"].contains t.text
  | _ => false

def namedAt (ts : Array Token) (k : Nat) : Bool :=
  match ts[k]?, ts[k + 1]?, ts[k + 2]? with
  | some kw, some n, after =>
    if kw.text == "class" then n.kind == .word && !typeOperatorWords.contains n.text
    else if kw.text == "function" then
      n.kind == .word || (n.kind == .punct && n.text == "*" && after.any (·.kind == .word))
    else true
  | _, _, _ => true

def startsStatementAt (ts : Array Token) : Nat → Bool
  | 0 => true
  | j + 1 =>
    match ts[j]?, ts[j + 1]? with
    | some p, some t =>
      if p.kind == .word && modifierWords.contains p.text then startsStatementAt ts j
      else if p.kind == .punct && [";", "\x7b", "\x7d", ")"].contains p.text then true
      else if p.kind == .word && (p.text == "else" || p.text == "do") then true
      else t.lineBefore && endsOperand p
    | _, _ => true

def spanChars (p : Char → Bool) : List Char → List Char × List Char
  | [] => ([], [])
  | c :: cs => if p c then let (a, b) := spanChars p cs; (c :: a, b) else ([], c :: cs)

def unicodeEscape? : List Char → Option (List Char × List Char)
  | '\\' :: 'u' :: '\x7b' :: rest =>
    let (hs, after) := spanChars isHexDigit rest
    match after with
    | '\x7d' :: more =>
      if hs.isEmpty then none else some ('\\' :: 'u' :: '\x7b' :: hs ++ ['\x7d'], more)
    | _ => none
  | '\\' :: 'u' :: a :: b :: c :: d :: rest =>
    if isHexDigit a && isHexDigit b && isHexDigit c && isHexDigit d then
      some (['\\', 'u', a, b, c, d], rest)
    else none
  | _ => none

def wordChars : Nat → List Char → List Char × List Char
  | 0, cs => ([], cs)
  | _ + 1, [] => ([], [])
  | fuel + 1, c :: cs =>
    if !isWordStop c then let (a, b) := wordChars fuel cs; (c :: a, b)
    else
      match unicodeEscape? (c :: cs) with
      | some (e, rest) => let (a, b) := wordChars fuel rest; (e ++ a, b)
      | none => ([], c :: cs)

def stringBody (q : Char) (broken : Bool) : List Char → Option (List Char × List Char × Bool)
  | [] => none
  -- a backslash before a line break continues the string on the next line
  | '\\' :: '\r' :: '\n' :: cs =>
    (stringBody q broken cs).map fun (a, b, x) => ('\\' :: '\r' :: '\n' :: a, b, x)
  | '\\' :: d :: cs => (stringBody q broken cs).map fun (a, b, x) => ('\\' :: d :: a, b, x)
  | ['\\'] => none
  | '\r' :: '\n' :: cs =>
    if broken then none else (stringBody q true cs).map fun (a, b, x) => ('\r' :: '\n' :: a, b, x)
  | c :: cs =>
    if c == q then some ([c], cs, broken)
    else if c == '\n' || c == '\r' then
      if broken then none else (stringBody q true cs).map fun (a, b, x) => (c :: a, b, x)
    else (stringBody q broken cs).map fun (a, b, x) => (c :: a, b, x)

def escapeRest : List Char → Option (List Char)
  | '\r' :: '\n' :: rest => some rest
  | 'x' :: a :: b :: rest => if isHexDigit a && isHexDigit b then some rest else none
  | 'u' :: '\x7b' :: rest =>
    match spanChars isHexDigit rest with
    | (_ :: _, '\x7d' :: more) => some more
    | _ => none
  | 'u' :: a :: b :: c :: d :: rest =>
    if isHexDigit a && isHexDigit b && isHexDigit c && isHexDigit d then some rest else none
  | c :: rest =>
    let isOctal (x : Char) : Bool := '0' ≤ x && x ≤ '7'
    if c == 'x' || c == 'u' then none
    else if isOctal c then
      match rest with
      | d :: more =>
        if isOctal d then
          match more with
          | e :: more' => if isOctal e then some more' else some more
          | [] => some more
        else some rest
      | [] => some rest
    else if (c == '\r' || c == '?') && (rest.head?.any fun d =>
        d == '\n' || d.toNat == 0x2028 || d.toNat == 0x2029) then some (rest.drop 1)
    else some rest
  | [] => none

def validEscapes : Nat → List Char → Bool
  | 0, _ => true
  | _ + 1, [] => true
  | fuel + 1, c :: rest =>
    if c == '\x00' then false
    else if c == '\\' then
      match escapeRest rest with
      | some more => validEscapes fuel more
      | none => false
    else validEscapes fuel rest

def literalTextValid (cs : List Char) : Bool := validEscapes cs.length cs

def templateEscape (cs : List Char) : TokenKind × List Char × List Char :=
  match escapeRest cs with
  | some rest => (.escape, '\\' :: cs.take (cs.length - rest.length), rest)
  | none =>
    let taken : List Char := match cs with
      | 'x' :: more => 'x' :: (more.take 1).filter isHexDigit
      | 'u' :: '\x7b' :: more => 'u' :: '\x7b' :: more.takeWhile isHexDigit
      | 'u' :: more => 'u' :: (more.takeWhile isHexDigit).take 3
      | _ => []
    (.invalid, '\\' :: taken, cs.drop taken.length)

def templateChars : List Char → List Char × List Char
  | [] => ([], [])
  | '$' :: '\x7b' :: cs => ([], '$' :: '\x7b' :: cs)
  | '\\' :: d :: cs => let (a, b) := templateChars cs; ('\\' :: d :: a, b)
  | c :: cs => if c == backtick then ([], c :: cs) else let (a, b) := templateChars cs; (c :: a, b)

def blockCommentBody : List Char → Option (List Char × List Char)
  | [] => none
  | '*' :: '/' :: cs => some (['*', '/'], cs)
  | c :: cs => (blockCommentBody cs).map fun (a, b) => (c :: a, b)

def regexBody (inClass : Bool) : List Char → Option (List Char × List Char)
  | [] => none
  | c :: cs =>
    if c == '\n' then none
    else if c == '\\' then
      match cs with
      | [] => none
      | d :: ds =>
        if d == '\n' then none else (regexBody inClass ds).map fun (a, b) => (c :: d :: a, b)
    else if c == '[' then (regexBody true cs).map fun (a, b) => (c :: a, b)
    else if c == ']' then (regexBody false cs).map fun (a, b) => (c :: a, b)
    else if c == '/' && !inClass then
      let (flags, rest) := spanChars (fun x => 'a' ≤ x && x ≤ 'z') cs
      some (c :: flags, rest)
    else (regexBody inClass cs).map fun (a, b) => (c :: a, b)
termination_by cs => cs.length
decreasing_by all_goals (simp only [List.length_cons]; omega)

def moreDigits (p : Char → Bool) : List Char → List Char × List Char
  | '_' :: d :: rest =>
    if p d then let (a, b) := moreDigits p rest; ('_' :: d :: a, b) else ([], '_' :: d :: rest)
  | d :: rest => if p d then let (a, b) := moreDigits p rest; (d :: a, b) else ([], d :: rest)
  | [] => ([], [])

def separatedDigits (p : Char → Bool) : List Char → List Char × List Char
  | c :: rest => if p c then let (a, b) := moreDigits p rest; (c :: a, b) else ([], c :: rest)
  | [] => ([], [])

def exponentPart : List Char → List Char × List Char
  | e :: rest =>
    if e == 'e' || e == 'E' then
      let (sign, more) : List Char × List Char := match rest with
        | s :: m => if s == '+' || s == '-' then ([s], m) else ([], rest)
        | [] => ([], rest)
      let (ds, r) := separatedDigits isDigit more
      if ds.isEmpty then ([], e :: rest) else (e :: sign ++ ds, r)
    else ([], e :: rest)
  | [] => ([], [])

def decimalInteger (cs : List Char) : List Char × List Char :=
  let tail (r : List Char) : List Char × List Char :=
    match r with
    | '_' :: d :: more =>
      if isDigit d then
        let (ds, r2) := separatedDigits isDigit (d :: more)
        ('_' :: ds, r2)
      else ([], r)
    | _ => separatedDigits isDigit r
  let nonZero (d : Char) : Bool := '1' ≤ d && d ≤ '9'
  match cs with
  | '0' :: d :: r =>
    if nonZero d then let (ds, r2) := tail r; ('0' :: d :: ds, r2) else (['0'], d :: r)
  | d :: r =>
    if d == '0' then (['0'], r)
    else if nonZero d then let (ds, r2) := tail r; (d :: ds, r2)
    else ([], d :: r)
  | [] => ([], [])

def numberChars (cs : List Char) : List Char × List Char :=
  let longest (a b : List Char × List Char) : List Char × List Char :=
    if b.1.length > a.1.length then b else a
  let withSuffix (r : List Char × List Char) : List Char × List Char :=
    match r with
    | (ds, 'n' :: rest) => if ds.isEmpty then r else (ds ++ ['n'], rest)
    | _ => r
  let radix (p : Char → Bool) (pre rest : List Char) : List Char × List Char :=
    let (ds, r) := separatedDigits p rest
    if ds.isEmpty then ([], cs) else withSuffix (pre ++ ds, r)
  let prefixed : List Char × List Char :=
    match cs with
    | '0' :: x :: rest =>
      if x == 'x' || x == 'X' then radix isHexDigit ['0', x] rest
      else if x == 'b' || x == 'B' then radix (fun c => c == '0' || c == '1') ['0', x] rest
      else if x == 'o' || x == 'O' then radix (fun c => '0' ≤ c && c ≤ '7') ['0', x] rest
      else ([], cs)
    | _ => ([], cs)
  let digits := separatedDigits isDigit cs
  let (whole, afterWhole) := decimalInteger cs
  let fractional : List Char × List Char :=
    if whole.isEmpty then ([], cs)
    else
      match afterWhole with
      | '.' :: more =>
        let (ds, r) := separatedDigits isDigit more
        let (e, r2) := exponentPart r
        (whole ++ '.' :: ds ++ e, r2)
      | _ =>
        let (e, r) := exponentPart afterWhole
        if e.isEmpty then ([], cs) else (whole ++ e, r)
  let leadingDot : List Char × List Char :=
    match cs with
    | '.' :: more =>
      let (ds, r) := separatedDigits isDigit more
      if ds.isEmpty then ([], cs)
      else
        let (e, r2) := exponentPart r
        ('.' :: ds ++ e, r2)
    | _ => ([], cs)
  [prefixed, digits, withSuffix digits, fractional, leadingDot].foldl longest ([], cs)

def finishToken (st : ScanState) (kind : TokenKind) (text : List Char) (start stop : Nat)
    (anyBreak : Bool) : ScanState :=
  -- a NUL character reads as the end of the input, and so does an unterminated comment
  -- once a line break has been passed
  let closes := kind == .eof || (kind == .punct && text == ['\x7d']) ||
    (kind == .invalid && text == ['\x00'])
  let direct := st.gap.scanning && closes
  let runsToEnd := kind == .invalid && text == ['/', '*']
  let tok : Token := {
    kind, text := String.ofList text, start, stop, lineBefore := anyBreak,
    endsType := direct || (st.gap.lineBreak && (runsToEnd || lineEndsBefore false text)),
    endsExpr := direct || (st.gap.lineBreak && (runsToEnd || lineEndsBefore true text)) }
  { st with tokens := st.tokens.push tok, gap := {} }

def compoundPunct? (cs : List Char) : Option (List Char) :=
  (compoundPuncts.find? fun p =>
    startsWithChars cs p.toList &&
      -- `?.` before a digit is a conditional followed by a number
      !(p == "?." && (cs.drop 2).head?.any isDigit)).map String.toList

def ScanState.comment (st : ScanState) (start stop : Nat) (body : List Char) : ScanState :=
  { st with comments := ⟨start, stop⟩ :: st.comments, gap := { st.gap with scanning := true },
            malformed := st.malformed || body.contains '\x00' }

def ScanState.afterToken (st : ScanState) (prev : Option Token) (kind : TokenKind)
    (text : List Char) : ScanState × Bool :=
  let isPunct (p : Char) := kind == .punct && text == [p]
  let tok := st.tokens.back?.getD default
  let st := { st with tentative := false }
  -- a closing bracket below the announced body's level leaves the declaration behind
  let leave (st : ScanState) : ScanState :=
    match st.pending with
    | some p => if st.braces.length < p.braces || st.parens.length < p.parens then
        { st with pending := none } else st
    | none => st
  if isPunct '(' then
    let opener := match prev with
      | some t => if t.kind == .word && controlWords.contains t.text then Opener.controlHead
        else .other
      | none => .other
    ({ st with parens := opener :: st.parens, regexOk := true }, false)
  else if isPunct ')' then
    match st.parens with
    | o :: outer => (leave { st with parens := outer, regexOk := o == .controlHead }, false)
    | [] => ({ st with regexOk := false }, false)
  else if isPunct '\x7b' then
    let body := match st.pending, prev with
      | some p, some t =>
        if p.braces == st.braces.length && p.parens == st.parens.length && bodyMayFollow t then
          some (p.statement && namedAt st.tokens p.keyword)
        else none
      | _, _ => none
    let (opener, pending) := match body with
      | some true => (Opener.block, none)
      | some false => (Opener.other, none)
      | none => (if opensBlock prev tok.lineBefore then Opener.block else .other, st.pending)
    ({ st with braces := opener :: st.braces, regexOk := true, pending }, false)
  else if isPunct '\x7d' then
    match st.braces with
    | .substitution :: outer =>
      let tokens := st.tokens.modify (st.tokens.size - 1) fun t => { t with closesSubstitution := true }
      (leave { st with braces := outer, regexOk := false, tokens }, true)
    | o :: outer => (leave { st with braces := outer, regexOk := o == .block }, false)
    | [] => ({ st with regexOk := false }, false)
  else if isPunct backtick then ({ st with regexOk := false }, true)
  else
    let st := if isPunct ';' && st.pending.any (fun p =>
        p.braces == st.braces.length && p.parens == st.parens.length) then
        { st with pending := none }
      else if kind == .word && bodyWords.contains tok.text && !(prev.any isMemberDot) then
        let statement := startsStatementAt st.tokens (st.tokens.size - 1)
        let body : PendingBody :=
          ⟨st.braces.length, st.parens.length, statement, st.tokens.size - 1⟩
        { st with pending := some body }
      else st
    let nameOrOperator := kind == .word && operatorOrNameWords.contains tok.text &&
      !(prev.any isMemberDot)
    ({ st with regexOk := regexAllowedAfter prev tok, tentative := nameOrOperator }, false)

def htmlCommentAhead (st : ScanState) (lineStart : Bool) (cs : List Char) : Bool :=
  st.regexOk &&
    (startsWithChars cs "<!--".toList || (lineStart && startsWithChars cs "-->".toList))

mutual

def scanFrom : Nat → List Char → Nat → Bool → Bool → ScanState → ScanState
  | 0, _, pos, anyBreak, _, st => finishToken st .eof [] pos pos anyBreak
  | fuel + 1, cs, pos, anyBreak, inTemplate, st =>
    if inTemplate then
      let (body, rest) := templateChars cs
      let (plain, escaped) := spanChars (· != '\\') body
      if escaped.isEmpty && rest.isEmpty then
        -- text that runs to the end of the input is no template text: it is read as code
        scanFrom fuel cs pos false false st
      else
        let len := Text.byteLength plain
        let st := if plain.isEmpty then st
          else finishToken st .templateChars plain pos (pos + len) false
        let st := { st with malformed := st.malformed || plain.contains '\x00' }
        let pos := pos + len
        -- from an escape on, the text up to the end of the piece is read as code as well
        let (st, pos) := ScanState.escapedText fuel st escaped pos
        match rest with
        | [] => scanFrom fuel [] pos false false st
        | '$' :: '\x7b' :: more =>
          let st := finishToken st .punct ['$', '\x7b'] pos (pos + 2) false
          scanFrom fuel more (pos + 2) false false
            { st with braces := .substitution :: st.braces, regexOk := true }
        | c :: more =>
          let st := finishToken st .punct [c] pos (pos + 1) false
          scanFrom fuel more (pos + 1) false false { st with regexOk := false }
    else
    match cs with
    | [] => finishToken st .eof [] pos pos anyBreak
    | c :: more =>
      if isLineBreak c then
        let gap := if st.gap.scanning then { scanning := false, lineBreak := true } else st.gap
        scanFrom fuel more (pos + c.utf8Size) true false { st with gap }
      else if isSpace c then
        let gap := if isAsciiBlank c then st.gap else { st.gap with scanning := false }
        scanFrom fuel more (pos + c.utf8Size) anyBreak false { st with gap }
      else if c == '/' && more.head? == some '/' then
        let (body, rest) := spanChars (fun x => !endsLineComment x) cs
        let stop := pos + Text.byteLength body
        scanFrom fuel rest stop anyBreak false (st.comment pos stop body)
      else if c == '/' && more.head? == some '*' then
        match blockCommentBody (more.drop 1) with
        | some (body, rest) =>
          let stop := pos + 2 + Text.byteLength body
          scanFrom fuel rest stop anyBreak false (st.comment pos stop body)
        | none =>
          -- an unterminated comment opener is a stray token; scanning goes on after it
          let st := finishToken st .invalid ['/', '*'] pos (pos + 2) anyBreak
          scanFrom fuel (more.drop 1) (pos + 2) false false { st with regexOk := true }
      else if htmlCommentAhead st (anyBreak || st.tokens.isEmpty) cs then
        let (body, rest) := spanChars
          (fun x => !(x == '\n' || x.toNat == 0x2028 || x.toNat == 0x2029)) cs
        let stop := pos + Text.byteLength body
        scanFrom fuel rest stop anyBreak false (st.comment pos stop body)
      else
        let prev := st.tokens.back?
        -- the kind and text of the token, what follows it, and whether it is malformed
        let (kind, text, rest, broken) : TokenKind × List Char × List Char × Bool :=
          if c == '"' || c == '\'' then
            match stringBody c false more with
            | some (body, rest, broken) =>
              (.string, c :: body, rest, broken || !literalTextValid body)
            | none =>
              let (line, rest) := spanChars (fun x => !isLineBreak x) more
              (.invalid, c :: line, rest, false)
          else if isDigit c || (c == '.' && (more.head?.any isDigit)) then
            let (ds, rest) := numberChars cs
            if ds.isEmpty then (.punct, [c], more, false) else (.number, ds, rest, false)
          else if c == '#' then
            let (name, rest) := wordChars (more.length + 1) more
            if name.isEmpty then (.punct, [c], more, false)
            else (.privateName, c :: name, rest, false)
          else if c == '/' && st.regexOk then
            match regexBody false more with
            | some (body, rest) =>
              if st.tentative && !goesOnAfterRegex rest then
                match compoundPunct? cs with
                | some p => (.punct, p, cs.drop p.length, false)
                | none => (.punct, [c], more, false)
              else (.regex, c :: body, rest, body.contains '\x00')
            | none =>
              match compoundPunct? cs with
              | some p => (.punct, p, cs.drop p.length, false)
              | none => (.punct, [c], more, false)
          else if !isWordStop c || (unicodeEscape? cs).isSome then
            let (name, rest) := wordChars (cs.length + 1) cs
            (.word, name, rest, false)
          else
            match compoundPunct? cs with
            | some p => (.punct, p, cs.drop p.length, false)
            | none =>
              if c == '\\' || c.toNat < 0x20 then (.invalid, [c], more, false)
              else (.punct, [c], more, false)
        let stop := pos + Text.byteLength text
        let st := finishToken st kind text pos stop anyBreak
        let st := if kind == .punct && c == '/' then
            match regexBody false more with
            | some (body, _) =>
              let regexStop := some (pos + Text.byteLength (c :: body))
              { st with tokens := st.tokens.modify (st.tokens.size - 1) fun t => { t with regexStop } }
            | none => st
          else st
        let st := if broken then { st with malformed := true } else st
        let (st, toTemplate) := st.afterToken prev kind text
        scanFrom fuel rest stop false toTemplate st

def ScanState.escapedText : Nat → ScanState → List Char → Nat → ScanState × Nat
  | 0, st, _, pos => (st, pos)
  | _ + 1, st, [], pos => (st, pos)
  | fuel + 1, st, c :: cs, pos =>
    if c == '\\' then
      let (kind, text, rest) := templateEscape cs
      let stop := pos + Text.byteLength text
      let st := finishToken st kind text pos stop false
      let marked := st.tokens.modify (st.tokens.size - 1) fun t => { t with inTemplate := true }
      let st := { st with tokens := marked }
      ScanState.escapedText fuel st rest stop
    else
      let (seg, rest) := spanChars (· != '\\') (c :: cs)
      let inner := scanFrom fuel seg pos false false {}
      let found := inner.tokens.pop.map fun t => { t with inTemplate := true }
      let st := { st with tokens := st.tokens ++ found,
                          malformed := st.malformed || inner.malformed }
      ScanState.escapedText fuel st rest (pos + Text.byteLength seg)

end

def scan (source : String) : Scan :=
  let cs := source.toList
  let (st, cs, pos) : ScanState × List Char × Nat :=
    match cs with
    | '#' :: '!' :: _ =>
      let (line, rest) := spanChars (fun x => !isLineBreak x) cs
      let stop := Text.byteLength line
      ({ comments := [⟨0, stop⟩] }, rest, stop)
    | _ => ({}, cs, 0)
  -- every step consumes a character, save the closing of a template text; two per character
  let st := scanFrom (2 * cs.length + 2) cs pos false false st
  { tokens := st.tokens, comments := st.comments.reverse, malformed := st.malformed }

end TypedJson.Syntax
