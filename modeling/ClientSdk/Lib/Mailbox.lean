/-
# Mailboxes

Boxes that take messages in for a reader.  Who is to read is assigned while the box is
closed, and counts from when it is opened next; an open box stands at an address, which
it may share with others.  A message that comes to an open box is read by its reader, if
it has one, and one that comes to a closed box is lost.
-/

import ClientSdk.Lib.Machine

namespace ClientSdk
namespace Lib

/-- A box of messages `ν` for readers `κ`, at addresses `α`. -/
structure Mailbox (α κ ν : Type) where
  /-- Who reads what comes from the next time it is opened on. -/
  reader : Option κ := none
  /-- Where it is open, and who reads what comes. -/
  opened : Option (α × Option κ) := none
  /-- What was read so far, and by whom. -/
  read : List (κ × ν) := []

variable {α κ ν : Type}

namespace Mailbox

variable (b : Mailbox α κ ν)

/-- A message comes. -/
def receive (n : ν) : Mailbox α κ ν :=
  match b.opened with
  | some (_, some reader) => { b with read := b.read ++ [(reader, n)] }
  | some (_, none) | none => b

/-- Messages come one after the other. -/
def receiveAll (ns : List ν) : Mailbox α κ ν := ns.foldl receive b

/-- A closed box is given a reader, or none. -/
def assign (reader : Option κ) : Mailbox α κ ν :=
  if b.opened.isSome then b else { b with reader := reader }

/-- A closed box is opened, and the messages `early` come. -/
def openAt (address : α) (early : List ν) : Mailbox α κ ν :=
  if b.opened.isSome then b
  else receiveAll { b with opened := some (address, b.reader) } early

/-- The messages `draining` come, and the box is closed. -/
def close (draining : List ν) : Mailbox α κ ν := { b.receiveAll draining with opened := none }

/-- The box is open there. -/
def isAt [DecidableEq α] (address : α) : Bool := b.opened.any fun o => o.1 = address

variable {b} {address : α}

theorem receive_of_closed (h : b.opened = none) (n : ν) : b.receive n = b := by
  simp [receive, h]

theorem receive_of_no_reader (h : b.opened = some (address, none)) (n : ν) : b.receive n = b := by
  simp [receive, h]

theorem receive_of_reader {reader : κ} (h : b.opened = some (address, some reader)) (n : ν) :
    b.receive n = { b with read := b.read ++ [(reader, n)] } := by
  simp [receive, h]

/-- Nobody reads what comes to a closed box. -/
theorem receiveAll_of_closed (h : b.opened = none) (ns : List ν) : b.receiveAll ns = b := by
  induction ns with
  | nil => rfl
  | cons n ns ih => exact (congrArg (receiveAll · ns) (receive_of_closed h n)).trans ih

end Mailbox

/-- What can be done with boxes, by their numbers. -/
inductive Order (α κ ν : Type) where
  | adds
  | assigns (i : ℕ) (reader : Option κ)
  | opens (i : ℕ) (address : α) (early : List ν)
  | closes (i : ℕ) (draining : List ν)
  /-- A message comes to the box `i`. -/
  | receives (i : ℕ) (n : ν)

/-- The boxes after it. -/
def Order.perform (bs : List (Mailbox α κ ν)) : Order α κ ν → List (Mailbox α κ ν)
  | .adds => bs ++ [{}]
  | .assigns i reader => bs.modify i (·.assign reader)
  | .opens i address early => bs.modify i (·.openAt address early)
  | .closes i draining => bs.modify i (·.close draining)
  | .receives i n => bs.modify i (·.receive n)

/-- Boxes from the first one on. -/
def mailboxes : Machine (List (Mailbox α κ ν)) (Order α κ ν) where
  init := []
  next := Order.perform

/-! ### Lists of boxes and what they are views of -/

section Views

variable {β γ : Type} {view : β → γ} {l : List β} {i : ℕ} {c x : β} {f : γ → γ}

/-- What becomes of an entry becomes of its view. -/
theorem map_set_eq_modify (hc : l[i]? = some c) (hx : view x = f (view c)) :
    (l.set i x).map view = (l.map view).modify i f := by
  obtain ⟨hi, rfl⟩ := List.getElem?_eq_some_iff.1 hc
  refine List.ext_getElem? fun j => ?_
  rw [List.getElem?_map, List.getElem?_set, List.getElem?_modify, List.getElem?_map]
  by_cases hij : i = j
  · subst hij
    simp [hi, hx]
  · simp [hij]

/-- An entry that is not there stays away. -/
theorem modify_of_none (hc : l[i]? = none) : (l.map view).modify i f = l.map view :=
  List.modify_eq_self (by simpa using hc)

end Views

end Lib
end ClientSdk
