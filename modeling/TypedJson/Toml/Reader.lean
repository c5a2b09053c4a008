import TypedJson.Toml.Error
import TypedJson.Binary64
/-!
# Reading TOML: tokens, strings, numbers and dates

The reader walks the document's bytes. A failed attempt leaves the position where the
attempt stopped; an alternative or an optional part starts again where it began, unless the
failure is final. Which failures are final, and which constructs and tokens they name, follow
the TOML grammar as this reader commits to it: once a string's opening quote, a number's
exponent mark or a date's first `-` is read, what follows must complete it.

Repetitions are bounded by the number of bytes left, since each round reads at least one.
-/
namespace TypedJson.Toml

abbrev Reader := ReaderT ByteArray (StateT Nat (Except Failure))

namespace Reader

def peek : Reader (Option UInt8) := do pure (← read)[← get]?

def peekAt (k : Nat) : Reader (Option UInt8) := do pure (← read)[(← get) + k]?

def skip (n : Nat) : Reader Unit := modify (· + n)

def fail {α : Type} : Reader α := do throw { pos := ← get }

def failWith {α : Type} (pos : Nat) (cause : String) (final : Bool := false) : Reader α :=
  throw { pos, cause := some cause, final }

def commit {α : Type} (p : Reader α) : Reader α :=
  tryCatch p fun e => throw { e with final := true }

def label {α : Type} (l : String) (p : Reader α) : Reader α :=
  tryCatch p fun e => throw { e with labels := e.labels ++ [l] }

def expecting {α : Type} (xs : List String) (p : Reader α) : Reader α :=
  tryCatch p fun e => throw { e with expected := e.expected ++ xs }

def optional {α : Type} (p : Reader α) : Reader (Option α) :=
  tryCatch (some <$> p) fun e => if e.final then throw e else pure none

def orElse {α : Type} (p q : Reader α) : Reader α :=
  tryCatch p fun e => if e.final then throw e else q

def lookahead {α : Type} (p : Reader α) : Reader α := do
  let start ← get
  let a ← tryCatch p fun e => throw { e with pos := start }
  set start
  pure a

def left : Reader Nat := do pure ((← read).size - (← get) + 1)

def repeatUpTo {α : Type} (p : Reader α) : Nat → Reader (List α)
  | 0 => pure []
  | fuel + 1 => do
    match ← optional p with
    | some a => pure (a :: (← repeatUpTo p fuel))
    | none => pure []

def many {α : Type} (p : Reader α) : Reader (List α) := do repeatUpTo p (← left)

def scanEnd (bytes : ByteArray) (pred : UInt8 → Bool) (i : Nat) : Nat → Nat
  | 0 => i
  | max + 1 =>
    match bytes[i]? with
    | some b => if pred b then scanEnd bytes pred (i + 1) max else i
    | none => i

def takeWhile (pred : UInt8 → Bool) (min : Nat := 0) (max : Nat := 0) : Reader ByteArray := do
  let bytes ← read
  let start ← get
  let stop := scanEnd bytes pred start (if max == 0 then bytes.size else max)
  if stop - start < min then fail
  set stop
  pure (bytes.extract start stop)

def oneOf (pred : UInt8 → Bool) : Reader UInt8 := do
  match ← peek with
  | some b => if pred b then skip 1; pure b else fail
  | none => fail

def byte (b : UInt8) : Reader Unit := do let _ ← oneOf (· == b)

def literal (s : String) : Reader Unit := do
  let bytes ← read
  let start ← get
  let t := s.toUTF8
  if bytes.extract start (start + t.size) == t then skip t.size else fail

def eof : Reader Unit := do if (← peek).isNone then pure () else fail

end Reader

open Reader

/-! ## Byte classes -/

def isBlank (b : UInt8) : Bool := b == 32 || b == 9

def isCommentByte (b : UInt8) : Bool := b == 9 || (0x20 ≤ b && b ≤ 0x7E) || b ≥ 0x80

def isBasicByte (b : UInt8) : Bool :=
  isBlank b || b == 0x21 || (0x23 ≤ b && b ≤ 0x5B) || (0x5D ≤ b && b ≤ 0x7E) || b ≥ 0x80

def isLiteralByte (b : UInt8) : Bool :=
  b == 9 || (0x20 ≤ b && b ≤ 0x26) || (0x28 ≤ b && b ≤ 0x7E) || b ≥ 0x80

def isBareKeyByte (b : UInt8) : Bool :=
  (0x41 ≤ b && b ≤ 0x5A) || (0x61 ≤ b && b ≤ 0x7A) || (0x30 ≤ b && b ≤ 0x39) || b == 0x2D ||
    b == 0x5F

def isDigit (b : UInt8) : Bool := 0x30 ≤ b && b ≤ 0x39

def isHexDigit (b : UInt8) : Bool :=
  isDigit b || (0x41 ≤ b && b ≤ 0x46) || (0x61 ≤ b && b ≤ 0x66)

def hexValue (b : UInt8) : Nat :=
  if isDigit b then b.toNat - 0x30
  else if b ≥ 0x61 then b.toNat - 0x61 + 10
  else b.toNat - 0x41 + 10

/-! ## Blanks, comments and line ends -/

def blanks : Reader Unit := do let _ ← takeWhile isBlank

def comment : Reader Unit := do
  byte 35
  let _ ← takeWhile isCommentByte

def newline : Reader Unit := do
  match ← peek with
  | none => fail
  | some b =>
    skip 1
    if b == 10 then pure () else if b == 13 then byte 10 else fail

def lineEnd : Reader Unit := orElse newline eof

def lineRest : Reader Unit := do
  blanks
  let _ ← optional comment
  lineEnd

def gapUpTo : Nat → Reader Unit
  | 0 => pure ()
  | fuel + 1 => do
    let start ← get
    blanks
    match ← peek with
    | some 35 => comment; newline
    | some 10 | some 13 => newline
    | _ => return
    if (← get) == start then return
    gapUpTo fuel

def gap : Reader Unit := do gapUpTo (← left)

/-! ## Strings -/

def utf8Bytes (c : Nat) : List UInt8 :=
  (String.singleton (Char.ofNat c)).toUTF8.toList

def hexEscape (n : Nat) : Reader (List UInt8) := do
  let start ← get
  let ds ← takeWhile isHexDigit 0 n
  if ds.size != n then throw { pos := start }
  let v := ds.toList.foldl (fun acc b => acc * 16 + hexValue b) 0
  if v > 0x10FFFF || (0xD800 ≤ v && v ≤ 0xDFFF) then
    failWith start Conflict.outOfRange.message
  pure (utf8Bytes v)

def escapeNames : List String :=
  ["`b`", "`f`", "`n`", "`r`", "`t`", "`u`", "`U`", "`\\`", "`\"`"]

def escapeTail : Reader (List UInt8) := do
  match ← peek with
  | none => fail
  | some b =>
    skip 1
    match b with
    | 98 => pure [8]
    | 102 => pure [12]
    | 110 => pure [10]
    | 114 => pure [13]
    | 116 => pure [9]
    | 117 => commit (label "unicode 4-digit hex code" (hexEscape 4))
    | 85 => commit (label "unicode 8-digit hex code" (hexEscape 8))
    | 92 => pure [92]
    | 34 => pure [34]
    | _ =>
      let here ← get
      throw { pos := here, labels := ["escape sequence"], expected := escapeNames, final := true }

def escaped : Reader (List UInt8) := do
  byte 92
  escapeTail

def basicPiece : Reader (List UInt8) :=
  orElse (do pure (← takeWhile isBasicByte 1).toList) escaped

def textOf (bytes : List UInt8) : String :=
  (String.fromUTF8? ⟨bytes.toArray⟩).getD ""

def basicString : Reader String := do
  byte 34
  let pieces ← many basicPiece
  commit (label "basic string" (byte 34))
  pure (textOf pieces.flatten)

def newlines : Reader Unit := do
  newline
  let _ ← many (orElse newline (do let _ ← takeWhile isBlank 1))

def lineContinuation : Reader Unit := do
  byte 92
  blanks
  newlines
  let _ ← many (do byte 92; blanks; newlines)

def multilineBasicPiece : Reader (List UInt8) :=
  orElse (do pure (← takeWhile isBasicByte 1).toList) <|
  orElse (do lineContinuation; pure []) <|
  orElse escaped (do newline; pure [10])

def quotes (q : UInt8) (next : Reader Unit) : Reader (List UInt8) :=
  orElse (do byte q; byte q; lookahead next; pure [q, q]) (do byte q; lookahead next; pure [q])

def otherThan (q : UInt8) : Reader Unit := do let _ ← oneOf (· != q)

def quotedPiecesUpTo : Nat → Reader (List UInt8)
  | 0 => pure []
  | fuel + 1 => do
    match ← optional (quotes 34 (otherThan 34)) with
    | none => pure []
    | some q =>
      match ← optional multilineBasicPiece with
      | none => pure []
      | some p =>
        let more ← many multilineBasicPiece
        pure (q ++ p ++ more.flatten ++ (← quotedPiecesUpTo fuel))

def multilineBasicBody : Reader (List UInt8) := do
  let pieces ← many multilineBasicPiece
  let rest ← quotedPiecesUpTo (← left)
  let last ← optional (quotes 34 (literal "\"\"\""))
  pure (pieces.flatten ++ rest ++ last.getD [])

def multilineBasicString : Reader String := label "multiline basic string" do
  literal "\"\"\""
  let _ ← optional newline
  let body ← commit multilineBasicBody
  commit (literal "\"\"\"")
  pure (textOf body)

def literalString : Reader String := label "literal string" do
  byte 39
  let body ← commit (takeWhile isLiteralByte)
  commit (byte 39)
  pure (textOf body.toList)

def multilineLiteralPiece : Reader Unit :=
  orElse (do let _ ← oneOf isLiteralByte) newline

def multilineLiteralBody : Reader Unit := do
  let _ ← many multilineLiteralPiece
  let _ ← many (do
    let _ ← quotes 39 (otherThan 39)
    multilineLiteralPiece
    let _ ← many multilineLiteralPiece)
  let _ ← optional (quotes 39 (literal "'''"))

def unixLines (s : String) : String := "\n".intercalate (s.splitOn "\r\n")

def multilineLiteralString : Reader String := label "multiline literal string" do
  literal "'''"
  let _ ← optional newline
  let start ← get
  commit multilineLiteralBody
  let stop ← get
  commit (literal "'''")
  pure (unixLines (textOf ((← read).extract start stop).toList))

def string : Reader String :=
  orElse multilineBasicString <| orElse basicString <| orElse multilineLiteralString literalString

/-! ## Numbers -/

def digitOrSeparator (digit : Reader UInt8) : Reader Unit :=
  orElse (do let _ ← digit) (do byte 95; let _ ← commit (expecting ["digit"] digit))

def digitRun : Reader Unit := do
  let _ ← oneOf isDigit
  let _ ← many (digitOrSeparator (oneOf isDigit))

def decimalText : Reader String := label "integer" do
  let bytes ← read
  let start ← get
  let _ ← optional (oneOf fun b => b == 43 || b == 45)
  orElse (do
      let _ ← oneOf fun b => 0x31 ≤ b && b ≤ 0x39
      let _ ← many (digitOrSeparator (oneOf isDigit)))
    (do let _ ← oneOf isDigit)
  pure (textOf (bytes.extract start (← get)).toList)

def digitsValue (cs : List Char) : Nat := cs.foldl (fun acc c => acc * 10 + (c.toNat - 48)) 0

def withoutSeparators (s : String) : String := String.ofList (s.toList.filter (· != '_'))

def intMax : Int := Int.pow 2 63 - 1

def intMin : Int := -(Int.pow 2 63)

def radixInteger (pre : String) (base : Nat) (isBaseDigit : UInt8 → Bool) (name : String) :
    Reader Int := do
  let bytes ← read
  let start ← get
  label name do
    literal pre
    commit do
      let _ ← oneOf isBaseDigit
      let _ ← many (digitOrSeparator (oneOf isBaseDigit))
  let digits := (bytes.extract (start + pre.length) (← get)).toList.filter (· != 95)
  let v := digits.foldl (fun acc b => acc * base + hexValue b) 0
  if (v : Int) > intMax then failWith start "number too large to fit in target type"
  pure v

def integer : Reader Int := do
  let bytes ← read
  let start ← get
  let prefixOf := textOf (bytes.extract start (start + 2)).toList
  if prefixOf == "0x" then commit (radixInteger "0x" 16 isHexDigit "hexadecimal integer")
  else if prefixOf == "0o" then
    commit (radixInteger "0o" 8 (fun b => 0x30 ≤ b && b ≤ 0x37) "octal integer")
  else if prefixOf == "0b" then
    commit (radixInteger "0b" 2 (fun b => b == 0x30 || b == 0x31) "binary integer")
  else
    let text ← decimalText
    let s := withoutSeparators text
    let v : Int := match s.toList with
      | '-' :: ds => -(digitsValue ds : Int)
      | '+' :: ds => digitsValue ds
      | ds => digitsValue ds
    if v > intMax then failWith start "number too large to fit in target type" true
    if v < intMin then failWith start "number too small to fit in target type" true
    pure v

def exponentPart : Reader Unit := do
  let _ ← oneOf fun b => b == 101 || b == 69
  let _ ← optional (oneOf fun b => b == 43 || b == 45)
  commit digitRun

def fractionPart : Reader Unit := do
  byte 46
  commit (expecting ["digit"] digitRun)

def decimalBits (s : String) : UInt64 :=
  let (negative, rest) := match s.toList with
    | '-' :: r => (true, r)
    | '+' :: r => (false, r)
    | r => (false, r)
  let mantissa := rest.takeWhile fun c => c != 'e' && c != 'E'
  let exponentText := (rest.dropWhile fun c => c != 'e' && c != 'E').drop 1
  let whole := mantissa.takeWhile (· != '.')
  let fraction := (mantissa.dropWhile (· != '.')).drop 1
  let exponent : Int := match exponentText with
    | '-' :: ds => -(digitsValue ds : Int)
    | '+' :: ds => digitsValue ds
    | ds => digitsValue ds
  Binary64.ofDecimal negative (digitsValue (whole ++ fraction)) (exponent - fraction.length)

def nanBits (negative : Bool) : UInt64 :=
  if negative then 0xFFF8000000000000 else 0x7FF8000000000000

def specialFloat : Reader UInt64 := do
  let sign ← optional (oneOf fun b => b == 43 || b == 45)
  let negative := sign == some 45
  orElse (do literal "inf"; pure (if negative then 0xFFF0000000000000 else Binary64.infinityBits))
    (do literal "nan"; pure (nanBits negative))

def float : Reader UInt64 := label "floating-point number" <| orElse (do
    let bytes ← read
    let start ← get
    let _ ← decimalText
    orElse exponentPart (do fractionPart; let _ ← optional exponentPart)
    let text := withoutSeparators (textOf (bytes.extract start (← get)).toList)
    let bits := decimalBits text
    if bits == Binary64.infinityBits then throw { pos := start, final := true }
    pure bits)
  specialFloat

/-! ## Dates and times -/

def digitsExactly (n : Nat) : Reader Nat := do
  let ds ← takeWhile isDigit n n
  pure (ds.toList.foldl (fun acc b => acc * 10 + (b.toNat - 0x30)) 0)

def twoDigitsIn (lo hi : Nat) : Reader Nat := do
  let start ← get
  let v ← digitsExactly 2
  if v < lo || v > hi then failWith start Conflict.outOfRange.message
  pure v

def daysIn (year month : Nat) : Nat :=
  let leap := year % 4 == 0 && (year % 100 != 0 || year % 400 == 0)
  if month == 2 then (if leap then 29 else 28)
  else if month == 4 || month == 6 || month == 9 || month == 11 then 30
  else 31

def fullDate : Reader Unit := do
  let year ← digitsExactly 4
  byte 45
  let month ← commit (twoDigitsIn 1 12)
  commit (byte 45)
  let dayStart ← get
  let day ← commit (twoDigitsIn 1 31)
  if day > daysIn year month then failWith dayStart Conflict.outOfRange.message true

def partialTime : Reader Unit := do
  let _ ← twoDigitsIn 0 23
  byte 58
  commit do
    let _ ← twoDigitsIn 0 59
    byte 58
    let _ ← twoDigitsIn 0 60
    let _ ← optional (do byte 46; let _ ← takeWhile isDigit 1)

def timeOffset : Reader Unit := label "time offset" <|
  orElse (do let _ ← oneOf fun b => b == 90 || b == 122)
    (do
      let _ ← oneOf fun b => b == 43 || b == 45
      commit do
        let _ ← twoDigitsIn 0 23
        byte 58
        let _ ← twoDigitsIn 0 59)

def dateTime : Reader Unit :=
  orElse (label "date-time" do
      fullDate
      let _ ← optional (do
        let _ ← oneOf fun b => b == 84 || b == 116 || b == 32
        partialTime
        let _ ← optional timeOffset))
    (label "time" partialTime)

/-! ## Keys -/

def simpleKey : Reader Key := do
  let bytes ← read
  let start ← get
  let name ← match ← peek with
    | some 34 => basicString
    | some 39 => literalString
    | some _ => do pure (textOf (← takeWhile isBareKeyByte 1).toList)
    | none => fail
  let stop ← get
  pure { name, raw := textOf (bytes.extract start stop).toList, span := ⟨start, stop⟩ }

def keyPart : Reader Key := do
  blanks
  let k ← simpleKey
  blanks
  pure k

def nestingLimit : Nat := 80

def key : Reader (List Key) := do
  let start ← get
  let keys ← label "key" do
    let first ← keyPart
    let rest ← many (do byte 46; keyPart)
    pure (first :: rest)
  if keys.length ≥ nestingLimit then failWith start Conflict.tooDeep.message
  pure keys

end TypedJson.Toml
