/-
# Chains of statuses

`source/robot/common/status.cpp`: `Status::Chain` in both forms and
`Status::DebugString`.

A caller that passes a failed status on puts its own message in front of it.
`Chain(message)` keeps the code and the bare message; `Chain(code, message)`
replaces the code and keeps the old one in the text, as the debug string of the
old status.  The forms may alternate in any way.

Nothing is lost on the way (`chaining_keepsContext`): the message of a chain ends
in what was there before each of its calls.
-/

import ClientSdk.Common.Status
import ClientSdk.Lib.Machine
import ClientSdk.Lib.Text

namespace ClientSdk
namespace Common

open Lib

section

-- `std::error_code::message`: the text of a code in its category.
variable (describe : ErrorCode → String)

/-- `DebugString`: the number, the text of the code and the message. -/
def Status.debugString (s : Status) : String :=
  toString s.code.value ++ "(" ++ describe s.code ++ "): " ++ s.message

/-- `Chain(message)`. -/
def Status.chain (message : String) (s : Status) : Status :=
  ⟨s.code, message ++ ": " ++ s.message⟩

/-- `Chain(code, message)`. -/
def Status.chainCode (code : ErrorCode) (message : String) (s : Status) : Status :=
  ⟨code, message ++ ": " ++ s.debugString describe⟩

/-- A call of one of the two forms of `Chain`. -/
inductive ChainCall where
  | message (message : String)
  | code (code : ErrorCode) (message : String)
deriving DecidableEq, Repr

/-- The message the call adds. -/
def ChainCall.added : ChainCall → String
  | .message m | .code _ m => m

/-- The code the call sets, if it sets one. -/
def ChainCall.code? : ChainCall → Option ErrorCode
  | .message _ => none
  | .code c _ => some c

/-- The status after the call. -/
def ChainCall.perform : ChainCall → Status → Status
  | .message m, s => s.chain m
  | .code c m, s => s.chainCode describe c m

/-- The chains that start at the status `s`. -/
def chaining (s : Status) : Machine Status ChainCall where
  init := s
  next s call := call.perform describe s

/-! ### What one call keeps -/

theorem Status.debugString_endsIn (s : Status) : EndsIn (s.debugString describe) s.message :=
  endsIn_append _ _

/-- The text a call puts its message in front of. -/
def ChainCall.kept : ChainCall → Status → String
  | .message _, s => s.message
  | .code _ _, s => s.debugString describe

theorem ChainCall.message_perform (call : ChainCall) (s : Status) :
    (call.perform describe s).message = call.added ++ (": " ++ call.kept describe s) := by
  cases call <;> exact String.append_assoc

theorem ChainCall.kept_endsIn (call : ChainCall) (s : Status) :
    EndsIn (call.kept describe s) s.message := by
  cases call with
  | message m => exact .refl _
  | code c m => exact s.debugString_endsIn describe

/-- **A call keeps the text it is put in front of.** -/
theorem ChainCall.perform_endsIn (call : ChainCall) (s : Status) :
    EndsIn (call.perform describe s).message (call.kept describe s) := by
  rw [call.message_perform describe]
  exact (endsIn_append _ _).trans (endsIn_append _ _)

theorem ChainCall.code_perform (call : ChainCall) (s : Status) :
    (call.perform describe s).code = call.code?.getD s.code := by cases call <;> rfl

/-! ### What a chain keeps -/

/-- **The message of a chain ends in the one it started from.** -/
theorem chaining_endsIn (s : Status) (calls : List ChainCall) :
    EndsIn ((chaining describe s).run calls).message s.message := by
  induction calls using List.reverseRecOn with
  | nil => exact .refl _
  | append_singleton calls call ih =>
      rw [Machine.run_concat]
      have hlast := call.perform_endsIn describe ((chaining describe s).run calls)
      exact (hlast.trans (call.kept_endsIn describe _)).trans ih

/-- The code of a chain is the last one set. -/
theorem chaining_code (s : Status) (calls : List ChainCall) :
    ((chaining describe s).run calls).code =
      (calls.filterMap ChainCall.code?).getLast?.getD s.code := by
  induction calls using List.reverseRecOn with
  | nil => rfl
  | append_singleton calls call ih =>
      rw [Machine.run_concat, List.filterMap_append]
      refine (call.code_perform describe _).trans ?_
      rw [ih]
      cases call with
      | message m => simp [ChainCall.code?]
      | code c m => simp [ChainCall.code?]

/-- The messages added stand in the message of a chain, the newest first. -/
theorem chaining_inOrder (s : Status) (calls : List ChainCall) :
    InOrder (calls.reverse.map ChainCall.added) s.message
      ((chaining describe s).run calls).message := by
  induction calls using List.reverseRecOn with
  | nil => exact EndsIn.refl s.message
  | append_singleton calls call ih =>
      have hbefore : EndsIn (": " ++ call.kept describe ((chaining describe s).run calls))
          ((chaining describe s).run calls).message :=
        (endsIn_append _ _).trans (call.kept_endsIn describe _)
      have hstep := call.message_perform describe ((chaining describe s).run calls)
      rw [List.reverse_append, Machine.run_concat]
      show InOrder (call.added :: calls.reverse.map ChainCall.added) s.message
        (call.perform describe ((chaining describe s).run calls)).message
      rw [hstep]
      exact ih.cons hbefore call.added

/-- What a call kept, the rest of the chain keeps. -/
theorem chaining_kept (s : Status) (pre post : List ChainCall) (call : ChainCall) :
    EndsIn ((chaining describe s).run (pre ++ call :: post)).message
      (call.kept describe ((chaining describe s).run pre)) := by
  let t := call.perform describe ((chaining describe s).run pre)
  have hrun : (chaining describe s).run (pre ++ call :: post) =
      (chaining describe t).run post := Machine.run_append ..
  rw [hrun]
  exact (chaining_endsIn describe t post).trans (call.perform_endsIn describe _)

/-- **No context is lost in a chain.**  Its code is the last one set, and it is a
success exactly if that is zero; its message has the added messages in it, from the
newest to the oldest, and ends in the message it started from; and it ends in the
debug string of every status whose code was replaced. -/
theorem chaining_keepsContext (s : Status) (calls : List ChainCall) :
    let t := (chaining describe s).run calls
    t.code = (calls.filterMap ChainCall.code?).getLast?.getD s.code ∧
      (t.ok = true ↔ t.code.value = 0) ∧
      InOrder (calls.reverse.map ChainCall.added) s.message t.message ∧
      ∀ pre code message post, calls = pre ++ .code code message :: post →
        EndsIn t.message (((chaining describe s).run pre).debugString describe) := by
  intro t
  refine ⟨chaining_code describe s calls, decide_eq_true_iff, chaining_inOrder describe s calls, ?_⟩
  rintro pre code message post rfl
  exact chaining_kept describe s pre post (.code code message)

/-- A refused connection, passed on twice. -/
example : ((chaining (fun _ => "refused") (.error .connectionRefused "no route")).run
    [.message "dial", .code ⟨5, .generic⟩ "send"]).message =
      "send: 111(refused): dial: no route" := by decide

end

end Common
end ClientSdk
