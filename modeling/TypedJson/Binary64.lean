import TypedJson.Json.Float
/-!
# Binary64 numbers, exactly

Two rules for binary64 floats given by their bit patterns.

Reading: a decimal `n × 10^e` becomes the float nearest to it, ties to the even significand;
values beyond the largest finite float become infinity and values below half the smallest
subnormal become zero. The rounding is done on exact integers.

Writing in plain notation: the shortest digits that read back, placed around a decimal point
without an exponent: `1`, `0.25`, `100000000000000000000`, `0.0000001`.
-/
namespace TypedJson.Binary64

def infinityBits : UInt64 := 0x7FF0000000000000

def atLeastPow2 (p q : Nat) (e : Int) : Bool :=
  if e ≥ 0 then p ≥ q <<< e.toNat else p <<< e.natAbs ≥ q

def roundDiv (p q : Nat) : Nat :=
  let m := p / q
  let r := p % q
  if 2 * r > q || (2 * r == q && m % 2 == 1) then m + 1 else m

def nearestOfRatio (p q : Nat) : UInt64 :=
  -- the binary exponent: 2^e ≤ p / q < 2^(e+1)
  let e0 : Int := (p.log2 : Int) - q.log2
  let e := if atLeastPow2 p q e0 then e0 else e0 - 1
  -- normal numbers keep 53 significant bits, subnormal ones the bits above 2^-1074
  let shift : Int := if e < -1022 then 1074 else 52 - e
  let m := if shift ≥ 0 then roundDiv (p <<< shift.toNat) q else roundDiv p (q <<< shift.natAbs)
  if e < -1022 then
    -- a subnormal that rounds up to 2^52 is the least normal number, with the same bits
    m.toUInt64
  else
    let (m, e) := if m == Nat.pow 2 53 then (Nat.pow 2 52, e + 1) else (m, e)
    if e > 1023 then infinityBits
    else (((e + 1023).toNat <<< 52) ||| (m - Nat.pow 2 52)).toUInt64

def ofDecimal (negative : Bool) (n : Nat) (e : Int) : UInt64 :=
  let sign : UInt64 := if negative then 0x8000000000000000 else 0
  let digits : Int := (toString n).length
  let magnitude :=
    if n == 0 || digits + e < -330 then 0
    else if digits + e > 310 then infinityBits
    else if e ≥ 0 then nearestOfRatio (n * Nat.pow 10 e.toNat) 1
    else nearestOfRatio n (Nat.pow 10 e.natAbs)
  sign ||| magnitude

def isNaN (bits : UInt64) : Bool :=
  (bits >>> 52) &&& 0x7FF == 0x7FF && bits &&& 0xFFFFFFFFFFFFF != 0

def isInfinite (bits : UInt64) : Bool :=
  bits &&& 0x7FFFFFFFFFFFFFFF == infinityBits

def plainText (bits : UInt64) : String :=
  let sign := if bits >>> 63 == 1 then "-" else ""
  if isNaN bits then "NaN"
  else if isInfinite bits then sign ++ "inf"
  else if bits &&& 0x7FFFFFFFFFFFFFFF == 0 then sign ++ "0"
  else
    let (digits, exponent) := Json.shortestDigits bits
    let ds := toString digits
    let body :=
      if exponent ≥ 0 then ds ++ String.ofList (List.replicate exponent.toNat '0')
      else
        let k := exponent.natAbs
        if ds.length > k then
          String.ofList (ds.toList.take (ds.length - k)) ++ "." ++
            String.ofList (ds.toList.drop (ds.length - k))
        else "0." ++ String.ofList (List.replicate (k - ds.length) '0') ++ ds
    sign ++ body

end TypedJson.Binary64
