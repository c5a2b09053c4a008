/-!
# JSON values

The values a schema description is read into. Numbers keep the three forms the reader tells
apart: integers that fit 64 bits without sign, negative integers that fit 64 bits with sign,
and binary floating point numbers. Objects keep one member per key, ordered by key; a key read
twice keeps the later value.
-/
namespace TypedJson.Json

inductive Number where
  | nat (n : Nat)
  | neg (n : Nat)
  | float (f : Float)
deriving Inhabited

inductive Value where
  | null
  | bool (b : Bool)
  | number (n : Number)
  | string (s : String)
  | array (items : List Value)
  | object (members : List (String × Value))
deriving Inhabited

def insertMember (k : String) (v : Value) : List (String × Value) → List (String × Value)
  | [] => [(k, v)]
  | (k', v') :: rest =>
    if k < k' then (k, v) :: (k', v') :: rest
    else if k == k' then (k, v) :: rest
    else (k', v') :: insertMember k v rest

def Value.member? : Value → String → Option Value
  | .object members, k => (members.find? (·.1 == k)).map (·.2)
  | _, _ => none

theorem insertMember_length_le (k : String) (v : Value) (ms : List (String × Value)) :
    (insertMember k v ms).length ≤ ms.length + 1 := by
  induction ms with
  | nil => simp [insertMember]
  | cons m rest ih =>
    obtain ⟨k', v'⟩ := m
    simp only [insertMember]
    split
    · simp
    · split
      · simp
      · simp; omega

end TypedJson.Json
