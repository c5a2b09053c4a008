/-!
# Prefixes and suffixes of character lists

Taking a known prefix or suffix off a list of characters, with the equations that say exactly
when it succeeds.
-/
namespace TypedJson.Text

def stripPrefix? : List Char → List Char → Option (List Char)
  | [], cs => some cs
  | _ :: _, [] => none
  | p :: pre, c :: cs => if p = c then stripPrefix? pre cs else none

def stripSuffix? (suf cs : List Char) : Option (List Char) :=
  (stripPrefix? suf.reverse cs.reverse).map List.reverse

def startsWith (pre cs : List Char) : Bool := (stripPrefix? pre cs).isSome

def endsWith (suf cs : List Char) : Bool := (stripSuffix? suf cs).isSome

theorem stripPrefix?_eq_some_iff (pre cs rest : List Char) :
    stripPrefix? pre cs = some rest ↔ cs = pre ++ rest := by
  induction pre generalizing cs with
  | nil => simp [stripPrefix?, eq_comm]
  | cons p pre ih =>
    cases cs with
    | nil => simp [stripPrefix?]
    | cons c cs =>
      by_cases h : p = c
      · subst h; simp [stripPrefix?, ih]
      · simp [stripPrefix?, h, Ne.symm h]

theorem stripSuffix?_eq_some_iff (suf cs rest : List Char) :
    stripSuffix? suf cs = some rest ↔ cs = rest ++ suf := by
  unfold stripSuffix?
  constructor
  · intro h
    obtain ⟨r, hr, rfl⟩ := Option.map_eq_some_iff.mp h
    have := (stripPrefix?_eq_some_iff _ _ _).mp hr
    have := congrArg List.reverse this
    simpa using this
  · intro h
    subst h
    rw [(stripPrefix?_eq_some_iff _ _ rest.reverse).mpr (by simp)]
    simp

end TypedJson.Text
