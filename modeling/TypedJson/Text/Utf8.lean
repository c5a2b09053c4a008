/-!
# UTF-8 offsets

Edits and syntax spans are given in UTF-8 byte offsets, while Lean text is a sequence of
characters: the scanner measures each piece it reads by the bytes its characters take.
-/
namespace TypedJson.Text

def byteLength : List Char → Nat
  | [] => 0
  | c :: cs => c.utf8Size + byteLength cs

end TypedJson.Text
