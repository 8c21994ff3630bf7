/-
# The order of stream operations

Each call of a module function talks to its own stream, and calls come one after the
other.  So over a whole session the operations follow one another in one order: a
stream is opened, written to at once, read from at most once, half-closed at most once,
finished only after that, and not touched again once the next one is opened
(`session_streams`).
-/

import ClientSdk.Lib.Block
import ClientSdk.Modules.Session

namespace ClientSdk
namespace Modules

open Common Lib Client

/-- What may come right after a stream operation. -/
inductive Follows : StreamOp → StreamOp → Prop where
  | write (stream : ClientReaderWriter) (q : SendRequest) : Follows (.opened stream) (.write q)
  | read (q : SendRequest) : Follows (.write q) .read
  | writesDone (q : SendRequest) : Follows (.write q) .writesDone
  | readDone : Follows .read .writesDone
  | finish : Follows .writesDone .finish
  | next {op : StreamOp} (h : ∀ stream, op ≠ .opened stream) (stream : ClientReaderWriter) :
      Follows op (.opened stream)

/-- The operations of whole calls: they begin with opening a stream, and do not end with
it. -/
abbrev CallOps : List StreamOp → Prop :=
  Block Follows (fun op => ∃ stream, op = .opened stream) (fun op => ∀ stream, op ≠ .opened stream)

variable {stream : ClientReaderWriter} {q : SendRequest} {env : StreamEnv}

/-- Operations that may be closed are those of a whole call, and so are they closed. -/
theorem callOps_append_closing {ops : List StreamOp} {op : StreamOp}
    (h : CallOps (ops ++ [op])) (hop : Follows op .writesDone) (env : StreamEnv) :
    CallOps (ops ++ [op] ++ closing env) := by
  have hclosing : (closing env).IsChain Follows ∧ (closing env).head? = some .writesDone ∧
      ∀ e ∈ (closing env).getLast?, ∀ stream, e ≠ .opened stream := by
    unfold closing
    cases env.writesDone with
    | error e =>
        refine ⟨.singleton _, rfl, fun e he => ?_⟩
        obtain rfl := Option.some.inj he
        nofun
    | ok u =>
        refine ⟨.cons_cons .finish (.singleton _), rfl, fun e he => ?_⟩
        obtain rfl := Option.some.inj he
        nofun
  obtain ⟨hchain, hhead, hlast⟩ := hclosing
  refine ⟨h.chain.append hchain fun a ha b hb => ?_, fun e he => ?_, fun e he => ?_⟩
  · rw [List.getLast?_append_of_ne_nil _ (List.cons_ne_nil _ _)] at ha
    obtain rfl := Option.some.inj ha
    obtain rfl := Option.some.inj (hhead.symm.trans hb)
    exact hop
  · refine h.head e ?_
    cases ops with
    | nil => exact he
    | cons a ops => exact he
  · refine hlast e ?_
    have hne : closing env ≠ [] := by
      intro hnil
      rw [hnil] at hhead
      cases hhead
    rwa [List.getLast?_append_of_ne_nil _ hne] at he

/-- A conversation is a whole call. -/
theorem Conversation.callOps {ops : List StreamOp} (h : Conversation stream q env ops) :
    CallOps ops := by
  have hwritten : CallOps ([.opened stream] ++ [.write q]) := by
    refine ⟨.cons_cons (.write stream q) (.singleton _), fun e he => ?_, fun e he => ?_⟩
    · obtain rfl := Option.some.inj he
      exact ⟨stream, rfl⟩
    · obtain rfl := Option.some.inj he
      exact fun _ h => by cases h
  have hread : CallOps ([.opened stream, .write q] ++ [.read]) := by
    refine ⟨.cons_cons (.write stream q) (.cons_cons (.read q) (.singleton _)), fun e he => ?_,
      fun e he => ?_⟩
    · obtain rfl := Option.some.inj he
      exact ⟨stream, rfl⟩
    · obtain rfl := Option.some.inj he
      exact fun _ h => by cases h
  cases h with
  | written => exact hwritten
  | refused => exact callOps_append_closing hwritten (.writesDone q) env
  | read => exact hread
  | closed => exact callOps_append_closing hread .readDone env

section Session

variable {σ : Type} {ts : MessageTypes} (v : Vocabulary) (robot : Robot σ) (config : ConfigNode)
  (robots : String → σ)

/-- **Stream operations keep to one order.**  Over any session, each operation on a
stream is one that may come right after the one before it: no stream is read from or
closed before its request is written, none is written to twice, finished without being
half-closed, or touched after the next one was opened; and the last of them is not
opening a stream, so each one opened is written to. -/
theorem session_streams (events : List (Event ts)) :
    CallOps (((world v ts robot config robots).run events).log.flatMap Entry.ops) := by
  have hlink : ∀ a b : StreamOp, (∀ stream, a ≠ .opened stream) → (∃ stream, b = .opened stream) →
      Follows a b := by
    rintro a b ha ⟨stream, rfl⟩
    exact .next ha stream
  refine Block.flatMap hlink ?_
  refine Machine.run_invariant (I := fun w : World σ => ∀ e ∈ w.log, CallOps e.ops)
    (fun e he => absurd he List.not_mem_nil) ?_ events
  intro w event hw
  cases event with
  | manage call => exact hw
  | visit x =>
      intro e he
      rcases List.mem_append.1 he with he | he
      · exact hw e he
      · obtain rfl := List.mem_singleton.1 he
        rcases x.f.call_converses v w.client.impl (w.env v robot x) x.messages x.response with
          ⟨-, hops⟩ | ⟨q, stream, -, -, -, hconv⟩
        · have hentry : (w.entry v robot x).ops = [] := hops
          rw [hentry]
          exact block_nil
        · exact hconv.callOps

end Session

end Modules
end ClientSdk
