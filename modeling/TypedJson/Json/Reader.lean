import TypedJson.Json.Value
import TypedJson.Json.Float
/-!
# Reading JSON text

A strict JSON reader over the UTF-8 bytes of a text. Errors carry the line (from one) and the
column (bytes since the start of the line) of the byte the reader had reached: either the
byte just taken, or the byte after the one it was looking at. Nesting is limited to 127 arrays
and objects. Numbers are classified as the value type describes; integers too long for 64
bits and all numbers with a fraction or exponent become floats (`fromParts`).
-/
namespace TypedJson.Json

structure Error where
  message : String
  line : Nat := 0
  column : Nat := 0
deriving DecidableEq, Repr, Inhabited

def Error.render (e : Error) : String :=
  if e.line == 0 then e.message
  else e.message ++ " at line " ++ toString e.line ++ " column " ++ toString e.column

inductive ErrorCode where
  | eofWhileParsingList | eofWhileParsingObject | eofWhileParsingString | eofWhileParsingValue
  | expectedColon | expectedListCommaOrEnd | expectedObjectCommaOrEnd | expectedSomeIdent
  | expectedSomeValue | invalidEscape | invalidNumber | numberOutOfRange
  | controlCharacterWhileParsingString | keyMustBeAString | loneLeadingSurrogateInHexEscape
  | trailingComma | trailingCharacters | unexpectedEndOfHexEscape | recursionLimitExceeded
deriving DecidableEq, Repr

def ErrorCode.message : ErrorCode → String
  | .eofWhileParsingList => "EOF while parsing a list"
  | .eofWhileParsingObject => "EOF while parsing an object"
  | .eofWhileParsingString => "EOF while parsing a string"
  | .eofWhileParsingValue => "EOF while parsing a value"
  | .expectedColon => "expected " ++ "`:`"
  | .expectedListCommaOrEnd => "expected " ++ "`,`" ++ " or " ++ "`]`"
  | .expectedObjectCommaOrEnd => "expected " ++ "`,`" ++ " or " ++ "`\x7d`"
  | .expectedSomeIdent => "expected ident"
  | .expectedSomeValue => "expected value"
  | .invalidEscape => "invalid escape"
  | .invalidNumber => "invalid number"
  | .numberOutOfRange => "number out of range"
  | .controlCharacterWhileParsingString =>
    "control character (\\u0000-\\u001F) found while parsing a string"
  | .keyMustBeAString => "key must be a string"
  | .loneLeadingSurrogateInHexEscape => "lone leading surrogate in hex escape"
  | .trailingComma => "trailing comma"
  | .trailingCharacters => "trailing characters"
  | .unexpectedEndOfHexEscape => "unexpected end of hex escape"
  | .recursionLimitExceeded => "recursion limit exceeded"

abbrev Read := ReaderT ByteArray (StateT Nat (Except Error))

namespace Read

def position (bytes : ByteArray) (i : Nat) : Nat × Nat :=
  let before := (bytes.extract 0 i).toList
  let lineStart := match (before.reverse.findIdx? (· == 10)) with
    | some j => i - j
    | none => 0
  let lines := ((bytes.extract 0 lineStart).toList.filter (· == 10)).length
  (lines + 1, i - lineStart)

def failAt {α : Type} (code : ErrorCode) (i : Nat) : Read α := do
  let (line, column) := position (← read) i
  throw { message := code.message, line, column }

def error {α : Type} (code : ErrorCode) : Read α := do failAt code (← get)

def peekError {α : Type} (code : ErrorCode) : Read α := do
  failAt code (min ((← get) + 1) (← read).size)

def peek : Read (Option UInt8) := do pure (← read)[← get]?

def eat : Read Unit := modify (· + 1)

def next : Read (Option UInt8) := do
  let b ← peek
  if b.isSome then eat
  pure b

def peekOrNull : Read UInt8 := do pure ((← peek).getD 0)

def skipWhitespace : Nat → Read (Option UInt8)
  | 0 => peek
  | fuel + 1 => do
    match ← peek with
    | some b => if b == 32 || b == 10 || b == 9 || b == 13 then eat; skipWhitespace fuel
                else pure (some b)
    | none => pure none

def whitespace : Read (Option UInt8) := do skipWhitespace ((← read).size + 1)

def ident : List UInt8 → Read Unit
  | [] => pure ()
  | c :: cs => do
    match ← next with
    | none => error .eofWhileParsingValue
    | some b => if b != c then error .expectedSomeIdent else ident cs

def isDigit (b : UInt8) : Bool := 48 ≤ b && b ≤ 57

def overflows (s d limit : Nat) : Bool :=
  s ≥ limit / 10 && (s > limit / 10 || d > limit % 10)

def u64Max : Nat := Nat.pow 2 64 - 1

def i32Max : Int := Int.pow 2 31 - 1

def clampI32 (x : Int) : Int := max (-(Int.pow 2 31)) (min i32Max x)

def float (positive : Bool) (significand : Nat) (exponent : Int) : Read Float := do
  match fromParts positive significand exponent with
  | some f => pure f
  | none => error .numberOutOfRange

def skipDigits : Nat → Read Unit
  | 0 => pure ()
  | fuel + 1 => do
    if isDigit (← peekOrNull) then eat; skipDigits fuel else pure ()

def exponentPart (positive : Bool) (significand : Nat) (start : Int) : Read Float := do
  eat
  let positiveExp ← match ← peekOrNull with
    | 43 => do eat; pure true
    | 45 => do eat; pure false
    | _ => pure true
  match ← next with
  | none => error .eofWhileParsingValue
  | some b =>
    if !isDigit b then error .invalidNumber
    else
      let n ← read
      let rec digits (exp : Nat) : Nat → Read (Option Nat)
        | 0 => pure (some exp)
        | fuel + 1 => do
          let c ← peekOrNull
          if isDigit c then
            eat
            let d := (c - 48).toNat
            if overflows exp d i32Max.toNat then pure none
            else digits (exp * 10 + d) fuel
          else pure (some exp)
      match ← digits (b - 48).toNat (n.size + 1) with
      | some exp =>
        let final := if positiveExp then clampI32 (start + exp) else clampI32 (start - exp)
        float positive significand final
      | none =>
        -- an exponent beyond 32 bits: zero, or an error instead of infinity
        if significand != 0 && positiveExp then error .numberOutOfRange
        else
          skipDigits (n.size + 1)
          pure (if positive then 0.0 else -0.0)

def fractionPart (positive : Bool) (significand : Nat) (before : Int) : Read Float := do
  eat
  let n ← read
  let rec digits (s : Nat) (after : Int) : Nat → Read (Nat × Int × Bool)
    | 0 => pure (s, after, false)
    | fuel + 1 => do
      let c ← peekOrNull
      if isDigit c then
        let d := (c - 48).toNat
        if overflows s d u64Max then pure (s, after, true)
        else
          eat
          digits (s * 10 + d) (after - 1) fuel
      else pure (s, after, false)
  let (s, after, overflowed) ← digits significand 0 (n.size + 1)
  if overflowed then
    -- further digits are ignored
    skipDigits (n.size + 1)
    let c ← peekOrNull
    if c == 101 || c == 69 then exponentPart positive s (before + after)
    else float positive s (before + after)
  else
    if after == 0 then
      match ← peek with
      | some _ => peekError .invalidNumber
      | none => peekError .eofWhileParsingValue
    else
      let c ← peekOrNull
      if c == 101 || c == 69 then exponentPart positive s (before + after)
      else float positive s (before + after)

def numberEnd (positive : Bool) (significand : Nat) : Read Number := do
  let c ← peekOrNull
  if c == 46 then pure (.float (← fractionPart positive significand 0))
  else if c == 101 || c == 69 then pure (.float (← exponentPart positive significand 0))
  else if positive then pure (.nat significand)
  else if significand == 0 || significand > Nat.pow 2 63 then
    -- negative zero, and integers below the signed range, are floats
    pure (.float (-(significand.toUInt64.toFloat)))
  else pure (.neg significand)

def number (positive : Bool) : Read Number := do
  let n ← read
  match ← next with
  | none => error .eofWhileParsingValue
  | some 48 =>
    if isDigit (← peekOrNull) then peekError .invalidNumber else numberEnd positive 0
  | some b =>
    if !isDigit b then error .invalidNumber
    else
      let rec digits (s : Nat) : Nat → Read Number
        | 0 => numberEnd positive s
        | fuel + 1 => do
          let c ← peekOrNull
          if isDigit c then
            let d := (c - 48).toNat
            if overflows s d u64Max then pure (.float (← longInteger s 0 (n.size + 1)))
            else
              eat
              digits (s * 10 + d) fuel
          else numberEnd positive s
      digits (b - 48).toNat (n.size + 1)
where
  longInteger (s : Nat) (exponent : Int) : Nat → Read Float
    | 0 => float positive s exponent
    | fuel + 1 => do
      let c ← peekOrNull
      if isDigit c then
        eat
        longInteger s (exponent + 1) fuel
      else if c == 46 then fractionPart positive s exponent
      else if c == 101 || c == 69 then exponentPart positive s exponent
      else float positive s exponent

def hexValue (b : UInt8) : Option Nat :=
  if 48 ≤ b && b ≤ 57 then some (b - 48).toNat
  else if 97 ≤ b && b ≤ 102 then some ((b - 97).toNat + 10)
  else if 65 ≤ b && b ≤ 70 then some ((b - 65).toNat + 10)
  else none

def hexEscape : Read Nat := do
  let bytes ← read
  let i ← get
  if i + 4 ≤ bytes.size then
    set (i + 4)
    let ds := [bytes[i]?, bytes[i + 1]?, bytes[i + 2]?, bytes[i + 3]?].map
      fun b => b.bind hexValue
    match ds with
    | [some a, some b, some c, some d] => pure (((a * 16 + b) * 16 + c) * 16 + d)
    | _ => error .invalidEscape
  else
    set bytes.size
    error .eofWhileParsingString

def utf8 (c : Nat) : List UInt8 :=
  (String.singleton (Char.ofNat c)).toUTF8.toList

def peekOrEof : Read UInt8 := do
  match ← peek with
  | some b => pure b
  | none => error .eofWhileParsingString

def unicodeEscape : Read (List UInt8) := do
  let n ← hexEscape
  if 0xDC00 ≤ n && n ≤ 0xDFFF then error .loneLeadingSurrogateInHexEscape
  else if n < 0xD800 || n > 0xDBFF then pure (utf8 n)
  else
    if (← peekOrEof) == 92 then eat
    else
      eat
      error .unexpectedEndOfHexEscape
    if (← peekOrEof) == 117 then eat
    else
      eat
      error .unexpectedEndOfHexEscape
    let n2 ← hexEscape
    if n2 < 0xDC00 || n2 > 0xDFFF then error .loneLeadingSurrogateInHexEscape
    else pure (utf8 ((((n - 0xD800) <<< 10) ||| (n2 - 0xDC00)) + 0x10000))

def escape : Read (List UInt8) := do
  match ← next with
  | none => error .eofWhileParsingString
  | some b =>
    if b == 34 then pure [34]
    else if b == 92 then pure [92]
    else if b == 47 then pure [47]
    else if b == 98 then pure [8]
    else if b == 102 then pure [12]
    else if b == 110 then pure [10]
    else if b == 114 then pure [13]
    else if b == 116 then pure [9]
    else if b == 117 then unicodeEscape
    else error .invalidEscape

def stringBody (acc : ByteArray) : Nat → Read String
  | 0 => error .eofWhileParsingString
  | fuel + 1 => do
    match ← peek with
    | none => error .eofWhileParsingString
    | some b =>
      if b == 34 then
        eat
        pure ((String.fromUTF8? acc).getD "")
      else if b == 92 then
        eat
        let bs ← escape
        stringBody (bs.foldl ByteArray.push acc) fuel
      else if b < 32 then
        eat
        error .controlCharacterWhileParsingString
      else
        eat
        stringBody (acc.push b) fuel

def string : Read String := do stringBody ByteArray.empty ((← read).size + 1)

mutual

def value : Nat → Nat → Read Value
  | 0, _ => error .recursionLimitExceeded
  | fuel + 1, depth => do
    match ← whitespace with
    | none => peekError .eofWhileParsingValue
    | some b =>
      if b == 110 then do eat; ident [117, 108, 108]; pure .null
      else if b == 116 then do eat; ident [114, 117, 101]; pure (.bool true)
      else if b == 102 then do eat; ident [97, 108, 115, 101]; pure (.bool false)
      else if b == 45 then do eat; pure (.number (← number false))
      else if isDigit b then do pure (.number (← number true))
      else if b == 34 then do eat; pure (.string (← string))
      else if b == 91 then
        if depth - 1 == 0 then peekError .recursionLimitExceeded
        else
          eat
          let items ← arrayItems fuel (depth - 1) true []
          -- the closing bracket
          let _ ← whitespace
          eat
          pure (.array items)
      else if b == 123 then
        if depth - 1 == 0 then peekError .recursionLimitExceeded
        else
          eat
          let members ← objectMembers fuel (depth - 1) true []
          let _ ← whitespace
          eat
          pure (.object members)
      else peekError .expectedSomeValue

def arrayItems : Nat → Nat → Bool → List Value → Read (List Value)
  | 0, _, _, _ => error .recursionLimitExceeded
  | fuel + 1, depth, first, acc => do
    match ← whitespace with
    | none => peekError .eofWhileParsingList
    | some 93 => pure acc.reverse
    | some b =>
      if b == 44 && !first then
        eat
        match ← whitespace with
        | some 93 => peekError .trailingComma
        | some _ =>
          let v ← value fuel depth
          arrayItems fuel depth false (v :: acc)
        | none => peekError .eofWhileParsingValue
      else if first then
        let v ← value fuel depth
        arrayItems fuel depth false (v :: acc)
      else peekError .expectedListCommaOrEnd

def objectMembers : Nat → Nat → Bool → List (String × Value) → Read (List (String × Value))
  | 0, _, _, _ => error .recursionLimitExceeded
  | fuel + 1, depth, first, acc => do
    match ← whitespace with
    | none => peekError .eofWhileParsingObject
    | some 125 => pure acc
    | some b =>
      let keyByte? ←
        if b == 44 && !first then do
          eat
          match ← whitespace with
          | some 125 => peekError .trailingComma
          | some c => pure c
          | none => peekError .eofWhileParsingValue
        else if first then pure b
        else peekError .expectedObjectCommaOrEnd
      if keyByte? != 34 then peekError .keyMustBeAString
      else
        eat
        let key ← string
        match ← whitespace with
        | some 58 => eat
        | some _ => peekError .expectedColon
        | none => peekError .eofWhileParsingObject
        let v ← value fuel depth
        objectMembers fuel depth false (insertMember key v acc)

end

end Read

def recursionLimit : Nat := 128

def parse (text : String) : Except Error Value :=
  let bytes := text.toUTF8
  let run : Read Value := do
    let v ← Read.value (2 * bytes.size + 4) recursionLimit
    match ← Read.whitespace with
    | some _ => Read.peekError .trailingCharacters
    | none => pure v
  (run.run bytes |>.run' 0)

end TypedJson.Json
