/-
# Messages on the wire

The parts of the generated protobuf code the SDK touches: the untyped `Variant`
dictionaries a command travels in (`SendRequest`, `SendResponse`), and what
`SerializeToString` and `ParseFromString` do to a typed message.

A protobuf map is kept as the list of its entries.  `insert` and `emplace` keep
an entry that is already there.  `bytevalue()` of a variant holding another
kind of value is the empty string.  `ParseFromString` clears its target first,
so what it leaves there depends on the bytes alone: the decoded message if they
decode, else whatever was merged before the error.
-/

import ClientSdk.Common.Status
import Mathlib.Tactic.SplitIfs

namespace ClientSdk
namespace Common

/-- A `std::string` used as a byte buffer. -/
abbrev Bytes := List UInt8

/-- `PB::common::Variant`. -/
inductive Variant where
  | unset
  | int32Value (v : ℤ)
  | stringValue (v : String)
  | byteValue (v : Bytes)
  | dictValue (keyvaluelist : List (String × Variant))
deriving Repr

/-- The entries of a dictionary. -/
abbrev KeyValueList := List (String × Variant)

namespace KeyValueList

/-- `Map::find`. -/
def find (d : KeyValueList) (key : String) : Option Variant := d.lookup key

/-- `Map::insert` and `Map::emplace`: a key already there keeps its value. -/
def insert (d : KeyValueList) (key : String) (v : Variant) : KeyValueList :=
  if (find d key).isSome then d else d ++ [(key, v)]

@[simp] theorem find_nil (key : String) : find [] key = none := rfl

/-- **A fresh key is stored.** -/
theorem find_insert_self {d : KeyValueList} {key : String} {v : Variant}
    (h : find d key = none) : find (insert d key v) key = some v := by
  have h' : d.lookup key = none := h
  simp [insert, find, List.lookup_append, h']

/-- The other keys keep their values. -/
theorem find_insert_of_ne {d : KeyValueList} {key key' : String} {v : Variant}
    (h : key' ≠ key) : find (insert d key v) key' = find d key' := by
  unfold insert
  split_ifs
  · rfl
  · have hne : (key' == key) = false := by simpa using h
    simp [find, List.lookup_append, List.lookup_cons, hne]

theorem insert_ne_nil (d : KeyValueList) (key : String) (v : Variant) : insert d key v ≠ [] := by
  unfold insert
  split_ifs with h
  · rintro rfl
    simp at h
  · simp

end KeyValueList

/-- `Variant::bytevalue`, empty for every other kind. -/
def Variant.bytevalue : Variant → Bytes
  | .byteValue v => v
  | _ => []

/-- `Variant::int32value`, zero for every other kind. -/
def Variant.int32value : Variant → ℤ
  | .int32Value v => v
  | _ => 0

/-- The entries of `Variant::dictvalue`, none for every other kind. -/
def Variant.dictvalue : Variant → KeyValueList
  | .dictValue entries => entries
  | _ => []

/-- `PB::interfaces::SendRequest`: the input dictionary. -/
structure SendRequest where
  input : KeyValueList := []
deriving Repr

/-- `ret()` of a response: a code in decimal and a text. -/
structure Ret where
  code : String
  message : String
deriving DecidableEq, Repr

/-- `PB::interfaces::SendResponse`. -/
structure SendResponse where
  ret : Ret
  output : KeyValueList
deriving Repr

/-- How protobuf writes a message type `M` and reads it back: what
`SerializeToString` gives, if it succeeds, which bytes decode, and what a failed
parse leaves in its target. -/
structure MessageType (M : Type) where
  serialize : M → Option Bytes
  decode : Bytes → Option M
  leftover : Bytes → M

/-- `ParseFromString`: whether it succeeds, and its target afterwards. -/
def MessageType.parseFromString {M : Type} (t : MessageType M) (bytes : Bytes) : Bool × M :=
  match t.decode bytes with
  | some m => (true, m)
  | none => (false, t.leftover bytes)

/-- `ParseFromString` undoes `SerializeToString`. -/
def MessageType.RoundTrips {M : Type} (t : MessageType M) : Prop :=
  ∀ m bytes, t.serialize m = some bytes → t.decode bytes = some m

section Parse

variable {M : Type} {t : MessageType M} {bytes : Bytes}

theorem MessageType.parseFromString_of_decode {m : M} (h : t.decode bytes = some m) :
    t.parseFromString bytes = (true, m) := by simp [parseFromString, h]

theorem MessageType.parseFromString_of_none (h : t.decode bytes = none) :
    t.parseFromString bytes = (false, t.leftover bytes) := by simp [parseFromString, h]

end Parse

end Common
end ClientSdk
