/-!
# Binary64 numbers in decimal

Two conversions between decimal text and binary64 floats, with the exact behaviour the schema
reader and its messages have.

Reading: a decimal significand below `2^64` and a power of ten become a float by one rounding
of the significand and one multiplication or division by a correctly rounded power of ten
(repeatedly by `10^308` for powers beyond the table). This is not always the float nearest to
the decimal, and that is the point: it is the value the reader produces.

Writing: the shortest decimal that reads back as the same float, the one nearest to it when
there are several, printed positionally for moderate exponents and in scientific form
otherwise.
-/
namespace TypedJson.Json

def nearestBits (n : Nat) : UInt64 :=
  let len := n.log2 + 1
  if len ≤ 53 then
    -- exact: shift the leading bit to position 52
    let m := n <<< (53 - len)
    let e := len - 1
    (((e + 1023) <<< 52) ||| (m - Nat.pow 2 52)).toUInt64
  else
    let shift := len - 53
    let q := n >>> shift
    let r := n - (q <<< shift)
    let half := Nat.pow 2 (shift - 1)
    let q := if r > half || (r == half && q % 2 == 1) then q + 1 else q
    -- rounding up can carry into a new leading bit
    let (q, e) := if q == Nat.pow 2 53 then (Nat.pow 2 52, len) else (q, len - 1)
    (((e + 1023) <<< 52) ||| (q - Nat.pow 2 52)).toUInt64

def pow10Table : Array Float :=
  (List.range 309).toArray.map fun k => Float.ofBits (nearestBits (Nat.pow 10 k))

def pow10? (k : Nat) : Option Float := pow10Table[k]?

def pow10Max : Float := Float.ofBits (nearestBits (Nat.pow 10 308))

def scaleByPow10 (f : Float) (exponent : Int) : Nat → Option Float
  | 0 => some f
  | fuel + 1 =>
    match pow10? exponent.natAbs with
    | some pow =>
      if exponent ≥ 0 then
        let g := f * pow
        if g.isInf then none else some g
      else some (f / pow)
    | none =>
      if f == 0 then some f
      else if exponent ≥ 0 then none
      else scaleByPow10 (f / pow10Max) (exponent + 308) fuel

def fromParts (positive : Bool) (significand : Nat) (exponent : Int) : Option Float :=
  let f := significand.toUInt64.toFloat
  (scaleByPow10 f exponent (exponent.natAbs / 308 + 2)).map fun g => if positive then g else -g

def shortestDigits (bits : UInt64) : Nat × Int :=
  let ieeeMantissa := (bits &&& 0xFFFFFFFFFFFFF).toNat
  let ieeeExponent := ((bits >>> 52) &&& 0x7FF).toNat
  let (m2, e2) : Nat × Int :=
    if ieeeExponent == 0 then (ieeeMantissa, 1 - 1023 - 52 - 2)
    else (Nat.pow 2 52 + ieeeMantissa, (ieeeExponent : Int) - 1023 - 52 - 2)
  let acceptBounds := m2 % 2 == 0
  let mmShift := if ieeeMantissa != 0 || ieeeExponent ≤ 1 then 1 else 0
  let mv := 4 * m2
  let mp := 4 * m2 + 2
  let mm := 4 * m2 - 1 - mmShift
  -- scale the value and its interval to integers
  let (scale, e10) : Nat × Int :=
    if e2 ≥ 0 then (Nat.pow 2 e2.toNat, 0) else (Nat.pow 5 e2.natAbs, e2)
  let vr := mv * scale
  let vp := mp * scale - (if acceptBounds then 0 else 1)
  let vm := mm * scale
  let (vr, vm, removed, last, vmZeros, vrZeros) :=
    dropDigits vr vp vm 0 0 acceptBounds true 2000
  let (vr, removed, last, vrZeros) :=
    if vmZeros then dropZeros vr vm removed last vrZeros 2000 else (vr, removed, last, vrZeros)
  let last := if vrZeros && last == 5 && vr % 2 == 0 then 4 else last
  let output := vr + (if (vr == vm && (!acceptBounds || !vmZeros)) || last ≥ 5 then 1 else 0)
  (output, e10 + removed)
where
  dropDigits (vr vp vm removed last : Nat) (vmZeros vrZeros : Bool) :
      Nat → Nat × Nat × Nat × Nat × Bool × Bool
    | 0 => (vr, vm, removed, last, vmZeros, vrZeros)
    | fuel + 1 =>
      if vp / 10 ≤ vm / 10 then (vr, vm, removed, last, vmZeros, vrZeros)
      else
        dropDigits (vr / 10) (vp / 10) (vm / 10) (removed + 1) (vr % 10)
          (vmZeros && vm % 10 == 0) (vrZeros && last == 0) fuel
  dropZeros (vr vm removed last : Nat) (vrZeros : Bool) : Nat → Nat × Nat × Nat × Bool
    | 0 => (vr, removed, last, vrZeros)
    | fuel + 1 =>
      if vm % 10 != 0 then (vr, removed, last, vrZeros)
      else dropZeros (vr / 10) (vm / 10) (removed + 1) (vr % 10) (vrZeros && last == 0) fuel

def digitsOf (n : Nat) : String := toString n

def showFloat (f : Float) : String :=
  let bits := f.toBits
  let sign := if bits >>> 63 == 1 then "-" else ""
  if bits &&& 0x7FFFFFFFFFFFFFFF == 0 then sign ++ "0.0"
  else
    let (mant, k) := shortestDigits bits
    let ds := digitsOf mant
    let length : Int := ds.length
    let kk := length + k
    let body :=
      if 0 ≤ k && kk ≤ 16 then
        ds ++ String.ofList (List.replicate k.toNat '0') ++ ".0"
      else if 0 < kk && kk ≤ 16 then
        String.ofList (ds.toList.take kk.toNat) ++ "." ++ String.ofList (ds.toList.drop kk.toNat)
      else if -5 < kk && kk ≤ 0 then
        "0." ++ String.ofList (List.replicate (-kk).toNat '0') ++ ds
      else
        let exponent := if 0 < kk then "e+" ++ toString (kk - 1) else "e" ++ toString (kk - 1)
        if length == 1 then ds ++ exponent
        else String.ofList (ds.toList.take 1) ++ "." ++ String.ofList (ds.toList.drop 1) ++ exponent
    sign ++ body

end TypedJson.Json
