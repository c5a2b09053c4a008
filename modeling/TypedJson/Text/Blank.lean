/-!
# Blank characters, trimming and lines

Blank characters are those of the Unicode `White_Space` property. Trimming removes them from
both ends of a text. Lines are split at `\n`; a `\r` right before the `\n` belongs to the line
break, a `\r` anywhere else stays in the line, and a final line break ends the last line
without opening an empty one.
-/
namespace TypedJson.Text

def isBlank (c : Char) : Bool :=
  let n := c.toNat
  (0x09 ≤ n && n ≤ 0x0D) || n == 0x20 || n == 0x85 || n == 0xA0 || n == 0x1680 ||
    (0x2000 ≤ n && n ≤ 0x200A) || n == 0x2028 || n == 0x2029 || n == 0x202F ||
    n == 0x205F || n == 0x3000

def dropBlanks : List Char → List Char
  | [] => []
  | c :: cs => if isBlank c then dropBlanks cs else c :: cs

def trim (s : String) : String :=
  String.ofList (dropBlanks (dropBlanks s.toList).reverse).reverse

def trimStart (s : String) : String :=
  String.ofList (dropBlanks s.toList)

def dropCarriageReturn (cs : List Char) : List Char :=
  match cs.reverse with
  | '\r' :: rest => rest.reverse
  | _ => cs

def splitNewlines : List Char → List (List Char)
  | [] => [[]]
  | c :: cs =>
    match splitNewlines cs with
    | [] => [[c]]
    | first :: more => if c = '\n' then [] :: first :: more else (c :: first) :: more

def lines (s : String) : List String :=
  let pieces := splitNewlines s.toList
  -- a final line break, or the empty text, opens no further line
  let pieces := match pieces.reverse with
    | [] :: earlier => earlier.reverse
    | _ => pieces
  -- only the last piece may lack its line break; every other one had `\n` after it
  let n := pieces.length
  (pieces.zipIdx.map fun (p, i) =>
    if i + 1 < n || s.toList.getLast? = some '\n' then dropCarriageReturn p else p).map
    String.ofList

theorem isBlank_of_isWhitespace (c : Char) (h : c.isWhitespace = true) : isBlank c = true := by
  revert h
  simp only [Char.isWhitespace, isBlank]
  intro h
  simp only [Bool.or_eq_true, decide_eq_true_eq] at h
  rcases h with ((h | h) | h) | h <;> simp [h]

example : lines "a\r\nb\n\nc\r" = ["a", "b", "", "c\r"] := by decide
example : lines "" = [] := by decide
example : lines "\n" = [""] := by decide
example : trim " 　x y\t" = "x y" := by decide

end TypedJson.Text
