import TypedJson.Error
/-!
# Patches

A patch is a list of pending replacements of byte ranges of one source text. Offsets always
refer to that text, so the order in which edits are scheduled does not shift them. Applying a
patch sorts the edits by range (keeping the scheduling order of equal ranges), collapses
adjacent identical edits, checks every range against the text, then rejects overlaps (two
insertions at one point count as overlapping), and finally splices the replacements in.
-/
namespace TypedJson

structure Edit where
  start : Nat
  stop : Nat
  text : String
deriving DecidableEq, Repr, Inhabited

structure Patch where
  edits : List Edit := []
deriving DecidableEq, Repr, Inhabited

namespace Patch

def replace (p : Patch) (start stop : Nat) (text : String) : Patch :=
  { edits := p.edits ++ [⟨start, stop, text⟩] }

def len (p : Patch) : Nat := p.edits.length

def isEmpty (p : Patch) : Bool := p.edits.isEmpty

def truncate (p : Patch) (n : Nat) : Patch := { edits := p.edits.take n }

def Edit.inBounds (source : String) (e : Edit) : Bool :=
  e.start ≤ e.stop && e.stop ≤ source.utf8ByteSize &&
    String.Pos.Raw.isValid source ⟨e.start⟩ && String.Pos.Raw.isValid source ⟨e.stop⟩

def dedup : List Edit → List Edit
  | a :: b :: rest => if a == b then dedup (b :: rest) else a :: dedup (b :: rest)
  | es => es

def firstOverlap : List Edit → Option (Edit × Edit)
  | a :: b :: rest =>
    if b.start < a.stop || (a.start == b.start && a.start == a.stop) then some (a, b)
    else firstOverlap (b :: rest)
  | _ => none

def splice (source : String) (cursor : Nat) : List Edit → String
  | [] => String.Pos.Raw.extract source ⟨cursor⟩ ⟨source.utf8ByteSize⟩
  | e :: rest =>
    String.Pos.Raw.extract source ⟨cursor⟩ ⟨e.start⟩ ++ e.text ++ splice source e.stop rest

def ordered (p : Patch) : List Edit :=
  dedup (p.edits.mergeSort fun a b => a.start < b.start || (a.start == b.start && a.stop ≤ b.stop))

def apply (p : Patch) (source : String) : Except Error String :=
  let es := p.ordered
  match es.find? (!Edit.inBounds source ·) with
  | some e => throw (.editOutOfBounds e.start e.stop source.utf8ByteSize)
  | none =>
    match firstOverlap es with
    | some (a, b) => throw (.overlappingEdits (a.start, a.stop) (b.start, b.stop))
    | none => pure (splice source 0 es)

end Patch

abbrev Scheduling := ExceptT Error (StateM Patch)

end TypedJson
