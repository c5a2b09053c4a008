import TypedJson.Toml.Reader
/-!
# Reading TOML values

A value is told by its first byte: a quote starts a string, `[` an array, `{` an inline table,
a sign or a digit a date, a float or an integer (tried in that order), and the letters of
`true`, `false`, `inf` and `nan` their literals. Anything else is taken for a string that lacks
its quote, which is what the message says.

Arrays and inline tables nest at most `nestingLimit - 1` deep; reading one level deeper is
refused with a final failure. An inline table is put together from its pairs once they are
read: dotted keys make implicit tables inside it, and a key defined twice is a conflict.
-/
namespace TypedJson.Toml

open Reader

def splitLast (path : List Key) : List Key × Key :=
  (path.dropLast, path.getLastD default)

def placeInline (whole : Bool) (entries : List (Key × Value)) (dotted : Bool) (before : List Key) :
    List Key → Key → Value → Except Conflict (List (Key × Value))
  | [], k, v =>
    if dotted == whole then .error (.duplicateKey k.name none)
    else if (lookup entries k.name).isSome then .error (.duplicateKey k.name none)
    else .ok (entries ++ [(k, v)])
  | p :: rest, k, v =>
    match (lookup entries p.name).getD (.table [] true true) with
    | .table es implicit dot =>
      if !implicit then .error (.duplicateKey p.name none)
      else do
        let es' ← placeInline whole es dot (before ++ [p]) rest k v
        pure (upsert entries p (.table es' implicit dot))
    | other => .error (.extendsValue ((before ++ [p]).map (·.name)) other.typeName)

def tableOfPairs (pairs : List (List Key × Key × Value)) : Except Conflict Value := do
  let entries ← pairs.foldlM (fun es (path, k, v) => placeInline path.isEmpty es false [] path k v) []
  pure (.table entries false false)

def likeString {α : Type} (p : Reader α) : Reader α :=
  expecting ["`\"`", "`'`"] (label "string" p)

def arrayItem (item : Reader Value) : Reader Value := do
  gap
  let v ← item
  gap
  pure v

def arrayOf (item : Reader Value) : Reader Value := do
  byte 91
  let items ← commit do
    let items ← optional do
      let first ← arrayItem item
      let rest ← many (do byte 44; arrayItem item)
      let _ ← optional (byte 44)
      pure (first :: rest)
    gap
    pure (items.getD [])
  commit (expecting ["`]`"] (label "array" (byte 93)))
  pure (.array items)

def inlinePair (item : Reader Value) : Reader (List Key × Key × Value) := do
  let path ← key
  commit do
    expecting ["`.`", "`=`"] (byte 61)
    blanks
    let v ← item
    blanks
    let (before, k) := splitLast path
    pure (before, k, v)

def inlineTableOf (item : Reader Value) : Reader Value := do
  byte 123
  let start ← get
  let pairs ← commit do
    let pairs ← optional do
      let first ← inlinePair item
      let rest ← many (do byte 44; inlinePair item)
      pure (first :: rest)
    blanks
    pure (pairs.getD [])
  let v ← match tableOfPairs pairs with
    | .ok v => pure v
    | .error c => failWith start c.message true
  commit (expecting ["`\x7d`"] (label "inline table" (byte 125)))
  pure v

def valueWith (inner : Option (Reader Value)) : Reader Value := do
  match ← peek with
  | none => fail
  | some b =>
    if b == 34 || b == 39 then pure (.string (← string))
    else if b == 91 || b == 123 then
      match inner with
      | none =>
        let here ← get
        failWith here Conflict.tooDeep.message true
      | some item => if b == 91 then arrayOf item else inlineTableOf item
    else if b == 43 || b == 45 || isDigit b then
      orElse (do dateTime; pure .datetime) <|
        orElse (do pure (.float (← float))) (do pure (.integer (← integer)))
    else if b == 95 then expecting ["leading digit"] (do pure (.integer (← integer)))
    else if b == 46 then expecting ["leading digit"] (do pure (.float (← float)))
    else if b == 116 then likeString (do commit (literal "true"); pure (.boolean true))
    else if b == 102 then likeString (do commit (literal "false"); pure (.boolean false))
    else if b == 105 then likeString (do literal "inf"; pure (.float Binary64.infinityBits))
    else if b == 110 then likeString (do literal "nan"; pure (.float (nanBits false)))
    else likeString fail

def value : Nat → Reader Value
  | 0 => valueWith none
  | depth + 1 => valueWith (some (value depth))

end TypedJson.Toml
