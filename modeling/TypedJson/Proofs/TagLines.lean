import TypedJson.Tag
/-!
# Reading tags line by line

A field's documentation is read one line at a time, and the first line with a tag decides. So
reading a text made of two texts joined by a line break is reading the first and, when it has
no tag, the second: the line break between them and the `\r` that may come before it change
nothing, since each line is trimmed before it is read, and an empty line holds no tag. A tag
written on a line of its own is read back as the text between its brackets, whatever brackets
that text holds, as long as it has no blank at either end.
-/
namespace TypedJson

namespace Text

section Trim

theorem dropBlanks_of_head {cs : List Char} (kept : ∀ c ∈ cs.head?, isBlank c = false) :
    dropBlanks cs = cs := by
  cases cs with
  | nil => rfl
  | cons c cs => simp_all [dropBlanks]

theorem dropBlanks_reverse_append_blank {r : Char} (blank : isBlank r = true) :
    ∀ cs : List Char, dropBlanks (dropBlanks (cs ++ [r])).reverse = dropBlanks (dropBlanks cs).reverse
  | [] => by simp [dropBlanks, blank]
  | c :: cs => by
    by_cases front : isBlank c = true
    · simp only [List.cons_append, dropBlanks, front, if_true]
      exact dropBlanks_reverse_append_blank blank cs
    · simp [dropBlanks, front, blank]

theorem trim_append_blank {r : Char} (blank : isBlank r = true) (cs : List Char) :
    trim (String.ofList (cs ++ [r])) = trim (String.ofList cs) := by
  simp only [trim, String.toList_ofList, dropBlanks_reverse_append_blank blank cs]

theorem trim_of_ends {cs : List Char} (first : ∀ c ∈ cs.head?, isBlank c = false)
    (last : ∀ c ∈ cs.getLast?, isBlank c = false) : trim (String.ofList cs) = String.ofList cs := by
  have lastFirst : ∀ c ∈ cs.reverse.head?, isBlank c = false := by
    simpa only [List.head?_reverse] using last
  simp only [trim, String.toList_ofList, dropBlanks_of_head first, dropBlanks_of_head lastFirst,
    List.reverse_reverse]

end Trim

section Lines

theorem splitNewlines_ne_nil : ∀ cs : List Char, splitNewlines cs ≠ []
  | [] => by simp [splitNewlines]
  | c :: cs => by
    obtain ⟨first, more, split⟩ := List.exists_cons_of_ne_nil (splitNewlines_ne_nil cs)
    simp only [splitNewlines, split]
    split <;> simp

theorem splitNewlines_append_newline (after : List Char) :
    ∀ before : List Char,
      splitNewlines (before ++ '\n' :: after) = splitNewlines before ++ splitNewlines after
  | [] => by
    obtain ⟨first, more, split⟩ := List.exists_cons_of_ne_nil (splitNewlines_ne_nil after)
    simp [splitNewlines, split]
  | c :: before => by
    obtain ⟨first, more, split⟩ := List.exists_cons_of_ne_nil (splitNewlines_ne_nil before)
    simp only [List.cons_append, splitNewlines, splitNewlines_append_newline after before, split,
      List.cons_append]
    split <;> simp

theorem splitNewlines_of_not_mem : ∀ {cs : List Char}, '\n' ∉ cs → splitNewlines cs = [cs]
  | [], _ => rfl
  | c :: cs, absent => by
    have rest : '\n' ∉ cs := fun mem => absent (List.mem_cons_of_mem c mem)
    have notBreak : c ≠ '\n' := fun same => absent (same ▸ List.mem_cons_self ..)
    simp [splitNewlines, splitNewlines_of_not_mem rest, notBreak]

end Lines

end Text

open Text

section LineTag

variable (ns : String)

theorem lineTag_empty : lineTag ns "" = none := rfl

theorem lineTag_dropCarriageReturn (cs : List Char) :
    lineTag ns (String.ofList (dropCarriageReturn cs)) = lineTag ns (String.ofList cs) := by
  unfold dropCarriageReturn
  split
  · next rest reversed =>
    have whole : cs = rest.reverse ++ ['\r'] := by
      simpa using congrArg List.reverse reversed
    rw [whole]
    simp only [lineTag, trim_append_blank (show isBlank '\r' = true by decide)]
  · rfl

theorem lineTag_dropCarriageReturn_if (cut : Bool) (cs : List Char) :
    lineTag ns (String.ofList (if cut = true then dropCarriageReturn cs else cs)) =
      lineTag ns (String.ofList cs) := by
  cases cut
  · rfl
  · exact lineTag_dropCarriageReturn ns cs

theorem findSome_lineTag_zipIdx {kept : List (List Char)} {g : List Char × Nat → List Char}
    (sameTag : ∀ x, lineTag ns (String.ofList (g x)) = lineTag ns (String.ofList x.1)) :
    ((kept.zipIdx.map g).map String.ofList).findSome? (lineTag ns) =
      kept.findSome? fun cs => lineTag ns (String.ofList cs) := by
  have sameFun : (lineTag ns ∘ String.ofList) ∘ g = (fun cs => lineTag ns (String.ofList cs)) ∘ Prod.fst := by
    funext x
    simp only [Function.comp_apply]
    exact sameTag x
  rw [List.findSome?_map, List.findSome?_map, sameFun, ← List.findSome?_map, List.zipIdx_map_fst]

theorem findSome_lines (s : String) :
    (lines s).findSome? (lineTag ns) =
      (splitNewlines s.toList).findSome? fun cs => lineTag ns (String.ofList cs) := by
  rw [lines, findSome_lineTag_zipIdx ns ?sameTag]
  case sameTag =>
    intro ⟨cs, _⟩
    exact lineTag_dropCarriageReturn_if ns _ cs
  split
  · next earlier reversed =>
    have whole : splitNewlines s.toList = earlier.reverse ++ [[]] := by
      simpa using congrArg List.reverse reversed
    rw [whole, List.findSome?_append, List.findSome?_singleton, String.ofList_nil, lineTag_empty,
      Option.or_none]
  · rfl

end LineTag

theorem parseTag_some (doc ns : String) :
    parseTag (some doc) ns = (splitNewlines doc.toList).findSome? fun cs => lineTag ns (String.ofList cs) := by
  simp only [parseTag, Option.bind_eq_bind, Option.bind_some, findSome_lines]

theorem parseTag_append_line (x y ns : String) :
    parseTag (some (x ++ "\n" ++ y)) ns = (parseTag (some x) ns).or (parseTag (some y) ns) := by
  have joined : (x ++ "\n" ++ y).toList = x.toList ++ '\n' :: y.toList := by simp
  rw [parseTag_some, joined, splitNewlines_append_newline, List.findSome?_append, parseTag_some,
    parseTag_some]

example : parseTag (some ("Settings of the user.\r" ++ "\n" ++ "  [Settings]")) "Json" = some "Json.Settings" := by
  decide

theorem lastBefore_append_bracket (cs : List Char) : lineTag.lastBefore ']' (cs ++ [']']) = some cs := by
  simp [lineTag.lastBefore]

theorem parseTag_bracketed {T : String} (ns : String) (nonempty : T ≠ "")
    (first : ∀ c ∈ T.toList.head?, isBlank c = false) (last : ∀ c ∈ T.toList.getLast?, isBlank c = false)
    (oneLine : '\n' ∉ T.toList) :
    parseTag (some ("![" ++ T ++ "]")) ns = some T ∧
      parseTag (some ("[" ++ T ++ "]")) ns = some (ns ++ "." ++ T) := by
  have inner : trim T = T := by
    simpa only [String.ofList_toList] using trim_of_ends first last
  have filled : (trim T).isEmpty = false := by
    rw [inner]
    simpa [String.isEmpty_iff] using nonempty
  constructor
  · have text : ("![" ++ T ++ "]").toList = ('!' :: '[' :: T.toList) ++ [']'] := by simp
    have absent : '\n' ∉ ('!' :: '[' :: T.toList) ++ [']'] := by simp [oneLine]
    rw [parseTag_some, text, splitNewlines_of_not_mem absent, List.findSome?_singleton, lineTag,
      trim_of_ends (by simp; decide) (by rw [List.getLast?_concat]; simp; decide), String.toList_ofList]
    simp [stripPrefix?, lastBefore_append_bracket, inner, nonempty]
  · have text : ("[" ++ T ++ "]").toList = ('[' :: T.toList) ++ [']'] := by simp
    have absent : '\n' ∉ ('[' :: T.toList) ++ [']'] := by simp [oneLine]
    rw [parseTag_some, text, splitNewlines_of_not_mem absent, List.findSome?_singleton, lineTag,
      trim_of_ends (by simp; decide) (by rw [List.getLast?_concat]; simp; decide), String.toList_ofList]
    simp [stripPrefix?, lastBefore_append_bracket, inner, nonempty]

/-- Tags are read a line at a time, the first line with one deciding; a tag alone on its line
reads back as the text between its brackets, whatever brackets, `!` or lone `\r` that text
holds. -/
theorem parseTag_joined_lines_and_bracketed :
    (∀ x y ns : String,
      parseTag (some (x ++ "\n" ++ y)) ns = (parseTag (some x) ns).or (parseTag (some y) ns)) ∧
    ∀ T ns : String, T ≠ "" → (∀ c ∈ T.toList.head?, isBlank c = false) →
      (∀ c ∈ T.toList.getLast?, isBlank c = false) → '\n' ∉ T.toList →
        parseTag (some ("![" ++ T ++ "]")) ns = some T ∧
          parseTag (some ("[" ++ T ++ "]")) ns = some (ns ++ "." ++ T) :=
  ⟨parseTag_append_line, fun _ ns nonempty first last oneLine =>
    parseTag_bracketed ns nonempty first last oneLine⟩

theorem parseTag_bracketed_brackets :
    "a]\r[b!" ≠ "" ∧ (∀ c ∈ "a]\r[b!".toList.head?, isBlank c = false) ∧
      (∀ c ∈ "a]\r[b!".toList.getLast?, isBlank c = false) ∧ '\n' ∉ "a]\r[b!".toList ∧
      parseTag (some ("![" ++ "a]\r[b!" ++ "]")) "Json" = some "a]\r[b!" ∧
        parseTag (some ("[" ++ "a]\r[b!" ++ "]")) "Json" = some ("Json" ++ "." ++ "a]\r[b!") :=
  have nonempty : "a]\r[b!" ≠ "" := by decide
  have first : ∀ c ∈ "a]\r[b!".toList.head?, isBlank c = false := by simp [isBlank]
  have last : ∀ c ∈ "a]\r[b!".toList.getLast?, isBlank c = false := by simp [isBlank]
  have oneLine : '\n' ∉ "a]\r[b!".toList := by simp
  ⟨nonempty, first, last, oneLine,
    parseTag_joined_lines_and_bracketed.2 "a]\r[b!" "Json" nonempty first last oneLine⟩

end TypedJson
