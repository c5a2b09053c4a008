/-!
# Tables of code-point ranges

A character property is stored as the maximal ranges of code points that have it, sorted and
disjoint. Membership is a binary search over such a table.
-/
namespace TypedJson.Text

def inRanges (table : Array (Nat × Nat)) (x : Nat) : (steps lo hi : Nat) → Bool
  | 0, _, _ => false
  | steps + 1, lo, hi =>
    if lo < hi then
      let mid := (lo + hi) / 2
      let r := table.getD mid (0, 0)
      if x < r.1 then inRanges table x steps lo mid
      else if r.2 < x then inRanges table x steps (mid + 1) hi
      else true
    else false

example : inRanges #[(0x30, 0x39), (0x41, 0x5A)] 0x42 8 0 2 = true ∧
    inRanges #[(0x30, 0x39), (0x41, 0x5A)] 0x40 8 0 2 = false := by decide

end TypedJson.Text
