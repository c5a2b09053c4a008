import TypedJson.Declaration
import TypedJson.Edit.Patch
import TypedJson.Schema
import TypedJson.Text.Blank
/-!
# Replacing JSON blob types

The client types untyped JSON values with a handful of blob types (`JsonValue`,
`InputJsonValue` and their object and array forms). In an object type owned by an entity, the
blob references in the type of each tagged field are replaced by the field's type. Only the
reference itself is replaced; `?`, `| null` and array brackets around it stay. A reference is
found at the top of the field type, in a union member, as an array element or in parentheses;
generic arguments and object types are left alone. The replacement is parenthesized when it
would otherwise bind looser than the operator around it. A field whose type already holds a
replacement that itself names a blob type is left alone; the replacement is looked for as a word
among the leftmost non-overlapping occurrences of its text, so an occurrence inside a longer
name can hide the one after it.
-/
namespace TypedJson

open Syntax

def blobTypes : List String :=
  ["JsonValue", "InputJsonValue", "JsonObject", "InputJsonObject", "JsonArray", "InputJsonArray"]

def listMembers : List String := ["set", "push"]

namespace Blob

def isIdentByte (b : UInt8) : Bool :=
  (48 ≤ b && b ≤ 57) || (65 ≤ b && b ≤ 90) || (97 ≤ b && b ≤ 122) || b == 95 || b == 36

def isPrefix : List UInt8 → List UInt8 → Bool
  | [], _ => true
  | _ :: _, [] => false
  | n :: ns, h :: hs => n == h && isPrefix ns hs

def matchIndices (needle : List UInt8) (hay : List UInt8) (offset : Nat) : Nat → List Nat
  | 0 => []
  | fuel + 1 =>
    match hay with
    | [] => []
    | _ :: rest =>
      if isPrefix needle hay then offset :: matchIndices needle (hay.drop needle.length)
        (offset + needle.length) fuel
      else matchIndices needle rest (offset + 1) fuel

def containsWord (haystack needle : String) : Bool :=
  let hay := haystack.toUTF8.toList
  let nd := needle.toUTF8.toList
  if nd.isEmpty then false
  else
    (matchIndices nd hay 0 (hay.length + 1)).any fun at_ =>
      let before := if at_ = 0 then none else hay[at_ - 1]?
      let after := hay[at_ + nd.length]?
      !(before.any isIdentByte) && !(after.any isIdentByte)

def mentionsBlob (target : String) : Bool :=
  blobTypes.any (containsWord target ·)

def isPlainReference (text : String) : Bool :=
  !text.isEmpty && text.toList.all fun c =>
    (c.isAlphanum && c.toNat < 128) || c == '_' || c == '$' || c == '.'

inductive Binding where
  | loose
  | union
  | intersection
  | tight
deriving DecidableEq, Repr

def Binding.rank : Binding → Nat
  | .loose => 0
  | .union => 1
  | .intersection => 2
  | .tight => 3

def Binding.min (a b : Binding) : Binding := if a.rank ≤ b.rank then a else b

def scanBinding (depth : Int) (quote : Option UInt8) (loosest : Binding) :
    List UInt8 → Binding
  | [] => loosest
  | c :: rest =>
    match quote with
    | some q =>
      if c == 92 then
        -- an escape skips the byte after it
        match rest with
        | [] => loosest
        | _ :: rest => scanBinding depth quote loosest rest
      else if c == q then scanBinding depth none loosest rest
      else scanBinding depth quote loosest rest
    | none =>
      if c == 39 || c == 34 || c == 96 then scanBinding depth (some c) loosest rest
      else if c == 61 && rest.head? == some 62 then
        if depth == 0 then .loose
        else
          match rest with
          | [] => loosest
          | _ :: rest => scanBinding depth none loosest rest
      else if c == 40 || c == 91 || c == 123 || c == 60 then
        scanBinding (depth + 1) none loosest rest
      else if c == 41 || c == 93 || c == 125 || c == 62 then
        scanBinding (depth - 1) none loosest rest
      else if c == 63 && depth == 0 then .loose
      else if c == 124 && depth == 0 then scanBinding depth none (loosest.min .union) rest
      else if c == 38 && depth == 0 then scanBinding depth none (loosest.min .intersection) rest
      else scanBinding depth none loosest rest

def binding (text : String) : Binding :=
  let trimmed := Text.trimStart text
  if trimmed.startsWith "new " || trimmed.startsWith "abstract new " then .loose
  else scanBinding 0 none .tight text.toUTF8.toList

def needsParens (parent : Option Kind) (target : String) : Bool :=
  match parent with
  | some .arrayType => !isPlainReference target
  | some .unionType => binding target == .loose
  | some .intersectionType => (binding target).rank < Binding.intersection.rank
  | _ => false

def replacement (parent : Option Kind) (target : String) : String :=
  if needsParens parent target then "(" ++ target ++ ")" else target

def isBlobName (text : String) : Bool := blobTypes.contains text

mutual

def collect (source : String) (parent : Option Kind) : Node → List (Node × Option Kind)
  | n@⟨kind, _, _, _, children⟩ =>
    if kind == .typeIdentifier then
      if isBlobName (n.text source) then [(n, parent)] else []
    else if kind == .nestedTypeIdentifier then
      if ((n.field? .name).map fun m => isBlobName (m.text source)).getD false then [(n, parent)]
      else []
    else if kind == .unionType || kind == .arrayType || kind == .parenthesizedType then
      collectList source kind children
    else []

def collectList (source : String) (parent : Kind) : List Node → List (Node × Option Kind)
  | [] => []
  | c :: cs => collect source (some parent) c ++ collectList source parent cs

end

def retypeType (ty : Node) (target source : String) (patch : Patch) : Patch × Bool :=
  if mentionsBlob target && containsWord (ty.text source) target then (patch, false)
  else
    let blobs := collect source none ty
    let patch := blobs.foldl (fun p (blob, parent) =>
      p.replace blob.start blob.stop (replacement parent target)) patch
    (patch, !blobs.isEmpty)

end Blob

def retypeObject (obj : Node) (entity : Entity) (source : String) (patch : Patch) :
    Patch × Nat :=
  (objectProperties obj source).foldl (fun (patch, n) prop =>
    match entity.replacementFor prop.name, prop.type? with
    | some target, some ty =>
      let (patch, changed) := Blob.retypeType ty target source patch
      (patch, if changed then n + 1 else n)
    | _, _ => (patch, n)) (patch, 0)

def retypeListWrapper (obj : Node) (field : Field) (source : String) (patch : Patch) :
    Patch × Nat :=
  match field.replacement with
  | none => (patch, 0)
  | some target =>
    ((objectProperties obj source).filter (listMembers.contains ·.name)).foldl
      (fun (patch, n) prop =>
        match prop.type? with
        | some ty =>
          let (patch, changed) := Blob.retypeType ty target source patch
          (patch, if changed then n + 1 else n)
        | none => (patch, n)) (patch, 0)

end TypedJson
