/-
# Queries racing with the owner of the client

`source/robot/client/interfaces_client.cpp`: the workers of `QueryAsync` against
`Connect` and `Disconnect` of the owning thread, one read or write of a member
at a time.

A worker reads `connected_`, `channel_` and `stub_` for `IsConnected`, and then
reads `stub_` again to call through it, which undisturbed is `Query`
(`status_reads`).  The owner's calls are lists of writes
(`connectWrites`, `disconnectWrites`), which done in order are the calls of the
sequential model (`impl_connect`, `impl_disconnect`).  Nothing holds the two
apart: a write that empties `stub_` between the two reads of a worker makes the
worker dereference a null pointer.
-/

import ClientSdk.Client.Calls
import ClientSdk.Lib.Machine
import Mathlib.Logic.Function.Iterate

namespace ClientSdk
namespace Client
namespace Race

open Common Lib

/-! ### The owner's writes -/

/-- A write of one member. -/
inductive Write where
  | target (target : String)
  | channel (channel : Option Channel)
  | stub (stub : Option Stub)
  | connected (connected : Bool)
deriving DecidableEq, Repr

/-- The members after it. -/
def Write.apply : Write → InterfacesClientImpl → InterfacesClientImpl
  | .target t, i => { i with target := t }
  | .channel c, i => { i with channel := c }
  | .stub s, i => { i with stub := s }
  | .connected b, i => { i with connected := b }

/-- The members after the writes `ws`, in order. -/
def applyAll (ws : List Write) (i : InterfacesClientImpl) : InterfacesClientImpl :=
  ws.foldl (fun i w => w.apply i) i

/-- The writes of `Disconnect`. -/
def disconnectWrites : List Write := [.stub none, .channel none, .connected false]

/-- The writes of `Connect(target)`, up to the exit it takes. -/
def connectWrites (target : String) (env : ConnectEnv) (c : InterfacesClient) : List Write :=
  match env.storeTarget, readConfig c.loadedConfig, env.createCustomChannel with
  | .error _, _, _ => []
  | .ok (), .error _, _ => [.target target]
  | .ok (), .ok _, .error _ => [.target target]
  | .ok (), .ok _, .ok false => [.target target, .channel none]
  | .ok (), .ok config, .ok true =>
      let channel := newChannel c target config
      match env.newStub with
      | .error _ => [.target target, .channel (some channel)]
      | .ok false => [.target target, .channel (some channel), .stub none]
      | .ok true =>
          [.target target, .channel (some channel), .stub (some ⟨c.made + 1, channel⟩),
            .connected true]

/-- **The writes of `Disconnect` are `Disconnect`.** -/
theorem impl_disconnect (c : InterfacesClient) :
    (disconnect c).impl = applyAll disconnectWrites c.impl := rfl

/-- **The writes of `Connect` are `Connect`**, whatever its outcome. -/
theorem impl_connect (target : String) (env : ConnectEnv) (c : InterfacesClient) :
    (connect target env c).2.impl = applyAll (connectWrites target env c) c.impl := by
  unfold connectWrites
  cases ht : env.storeTarget with
  | error e =>
      simp [connect, ht, applyAll]
  | ok u =>
      cases hc : readConfig c.loadedConfig with
      | error e =>
          simp [connect, ht, hc, applyAll, Write.apply, InterfacesClient.setTarget]
      | ok config =>
          cases hch : env.createCustomChannel with
          | error e =>
              simp [connect, ht, hc, hch, applyAll, Write.apply, InterfacesClient.setTarget]
          | ok created =>
              cases created with
              | false =>
                  rw [connect_of_null_channel ht hc hch]
                  rfl
              | true =>
                  have hopens : Opens c env config := ⟨ht, hc, hch⟩
                  cases hs : env.newStub with
                  | error e =>
                      rw [connect_of_stub_error hopens hs]
                      rfl
                  | ok created =>
                      cases created with
                      | false =>
                          rw [connect_of_null_stub hopens hs]
                          rfl
                      | true =>
                          rw [connect_of_stub hopens hs]
                          rfl

/-! ### The machine -/

/-- How far the `Query` of a worker is.  `passed` is where it found the client
connected and has not read the stub to call through yet, and `crashed` where the
stub it read was null. -/
inductive Stage where
  | readConnected
  | readChannel
  | readStub
  | refused (status : Status)
  | passed
  | calling (stub : Stub)
  | crashed
  | returned (status : Status)
deriving DecidableEq, Repr

/-- The client, the writes the owner has still to do in its present call, and
the workers. -/
structure State where
  client : InterfacesClient
  pending : List Write := []
  workers : List Stage := []

/-- One read or write, or the start of a call. -/
inductive Label where
  /-- The owner calls `Connect`. -/
  | connect (target : String) (env : ConnectEnv)
  /-- The owner calls `Disconnect`. -/
  | disconnect
  /-- The owner does its next write. -/
  | write
  /-- `QueryAsync` launches a worker, which locks the client and calls `Query`. -/
  | queryAsync
  /-- The worker `w` does its next read. -/
  | read (w : ℕ)
  /-- The remote call of the worker `w` returns. -/
  | answer (w : ℕ) (status : GrpcStatus)

/-- A worker does its next read. -/
def Stage.read (i : InterfacesClientImpl) : Stage → Stage
  | .readConnected => if i.connected then .readChannel else .refused notConnected
  | .readChannel => if i.channel.isSome then .readStub else .refused notConnected
  | .readStub => if i.stub.isSome then .passed else .refused notConnected
  | .passed =>
      match i.stub with
      | some stub => .calling stub
      | none => .crashed
  | stage => stage

/-- The remote call of a worker returns. -/
def Stage.answer (status : GrpcStatus) : Stage → Stage
  | .calling _ => .returned (convertGrpcStatus status)
  | stage => stage

/-- The reads of a worker, if nothing is written between them, find the stub that
`IsConnected` vouches for. -/
theorem reads_of_connected {i : InterfacesClientImpl} (h : i.isConnected = true) :
    (Stage.read i)^[4] .readConnected = .calling (i.heldStub h) := by
  obtain ⟨hfirst, hstub⟩ := Bool.and_eq_true_iff.1 h
  obtain ⟨hconnected, hchannel⟩ := Bool.and_eq_true_iff.1 hfirst
  obtain ⟨stub, hs⟩ := Option.isSome_iff_exists.1 hstub
  simp [Stage.read, hconnected, hchannel, hs, InterfacesClientImpl.heldStub]

theorem reads_of_not_connected {i : InterfacesClientImpl} (h : i.isConnected = false) :
    (Stage.read i)^[4] .readConnected = .refused notConnected := by
  unfold InterfacesClientImpl.isConnected at h
  cases hc : i.connected with
  | false => simp [Stage.read, hc]
  | true =>
      cases hch : i.channel with
      | none => simp [Stage.read, hc, hch]
      | some channel =>
          have hs : i.stub.isSome = false := by simpa [hc, hch] using h
          simp [Stage.read, hc, hch, hs]

/-- The status a worker got, if it got one. -/
def Stage.status : Stage → Option Status
  | .refused status | .returned status => some status
  | _ => none

/-- **The reads of a worker are `Query`**, if nothing is written between them. -/
theorem status_reads {Request Response : Type} (i : InterfacesClientImpl) (now timeoutMs : ℤ)
    (rpc : Rpc Request Response) (request : Request) (response : Response) :
    ∃ status, (((Stage.read i)^[4] .readConnected).answer status).status =
      some (query i now timeoutMs rpc request response).1 := by
  cases h : i.isConnected with
  | true =>
      refine ⟨(rpc (i.heldStub h) (some (getDeadline now timeoutMs)) request).1, ?_⟩
      rw [reads_of_connected h]
      simp [query, unaryCall, h, Stage.answer, Stage.status]
  | false =>
      refine ⟨{}, ?_⟩
      rw [reads_of_not_connected h, query, unaryCall_of_not_connected h]
      rfl

namespace State

/-- The worker `w` does `f`. -/
def advance (w : ℕ) (f : Stage → Stage) (s : State) : State :=
  match s.workers[w]? with
  | some stage => { s with workers := s.workers.set w (f stage) }
  | none => s

/-- The owner starts a call, unless it is in one: its writes are ahead, and
`made` counts the channel and the stub it makes. -/
def begin (writes : List Write) (made : ℕ) (s : State) : State :=
  if s.pending = [] then { s with pending := writes, client.made := made } else s

/-- One step. -/
def step (s : State) : Label → State
  | .connect target env =>
      s.begin (connectWrites target env s.client) (Client.connect target env s.client).2.made
  | .disconnect => s.begin disconnectWrites s.client.made
  | .write =>
      match s.pending with
      | [] => s
      | w :: ws => { s with client.impl := w.apply s.client.impl, pending := ws }
  | .queryAsync => { s with workers := s.workers ++ [.readConnected] }
  | .read w => s.advance w (Stage.read s.client.impl)
  | .answer w status => s.advance w (Stage.answer status)

end State

/-- The owner and its workers, from a fresh client on. -/
def race (config : ConfigNode) : Machine State Label where
  init := { client := { loadedConfig := config } }
  next := State.step

/-! ### The guard and the use -/

/-- No worker dereferenced an empty `stub_`, and one that did not pass the guard
reports that the client is not connected. -/
def GuardHolds (s : State) : Prop :=
  .crashed ∉ s.workers ∧ ∀ status, .refused status ∈ s.workers → status = notConnected

/-- The step does not empty `stub_` while a worker stands between the guard and
the use. -/
def KeepsStub (s : State) : Label → Prop
  | .write => ∀ ws, s.pending = .stub none :: ws → .passed ∉ s.workers
  | _ => True

instance (s : State) (l : Label) : Decidable (KeepsStub s l) :=
  match l with
  | .write =>
      decidable_of_iff (s.pending.head? = some (.stub none) → .passed ∉ s.workers)
        ⟨fun h ws hp => h (by rw [hp]; rfl), fun h hhead => by
          obtain ⟨ws, hp⟩ := List.head?_eq_some_iff.1 hhead
          exact h ws hp⟩
  | .connect _ _ | .disconnect | .queryAsync | .read _ | .answer _ _ => .isTrue trivial

/-- What holds while the stub is kept: a worker past the guard finds it. -/
structure Inv (s : State) : Prop where
  stub : .passed ∈ s.workers → s.client.impl.stub.isSome = true
  guardHolds : GuardHolds s

variable {s : State}

theorem inv_init (config : ConfigNode) : Inv (race config).init where
  stub h := by cases h
  guardHolds := ⟨nofun, nofun⟩

/-- The start of a call of the owner changes nothing a worker reads. -/
theorem Inv.begin (h : Inv s) (writes : List Write) (made : ℕ) : Inv (s.begin writes made) := by
  unfold State.begin
  split
  · exact ⟨h.stub, h.guardHolds⟩
  · exact h

/-- A worker does `f`, where `f` passes only with a stub there and neither
crashes nor is refused for another reason. -/
theorem Inv.advance (h : Inv s) (w : ℕ) {f : Stage → Stage}
    (hpass : ∀ stage ∈ s.workers, f stage = .passed → s.client.impl.stub.isSome = true)
    (hcrash : ∀ stage ∈ s.workers, f stage ≠ .crashed)
    (hrefuse : ∀ stage ∈ s.workers, ∀ status, f stage = .refused status →
      status = notConnected) : Inv (s.advance w f) := by
  unfold State.advance
  cases hw : s.workers[w]? with
  | none => exact h
  | some stage =>
      have hmem : stage ∈ s.workers := List.mem_of_getElem? hw
      refine ⟨fun hp => ?_, fun hc => ?_, fun status hr => ?_⟩
      · rcases List.mem_or_eq_of_mem_set hp with hp | hp
        · exact h.stub hp
        · exact hpass stage hmem hp.symm
      · rcases List.mem_or_eq_of_mem_set hc with hc | hc
        · exact h.guardHolds.1 hc
        · exact hcrash stage hmem hc.symm
      · rcases List.mem_or_eq_of_mem_set hr with hr | hr
        · exact h.guardHolds.2 status hr
        · exact hrefuse stage hmem status hr.symm

/-- A worker reads a member. -/
theorem Inv.read (h : Inv s) (w : ℕ) : Inv (s.advance w (Stage.read s.client.impl)) := by
  refine h.advance w (fun stage hmem hp => ?_) (fun stage hmem hc => ?_)
    (fun stage hmem status hr => ?_)
  · cases stage with
    | readStub =>
        by_contra hnone
        simp [Stage.read, hnone] at hp
    | passed => exact h.stub hmem
    | _ => simp [Stage.read] at hp <;> split at hp <;> cases hp
  · cases stage with
    | passed =>
        obtain ⟨stub, hstub⟩ := Option.isSome_iff_exists.1 (h.stub hmem)
        simp [Stage.read, hstub] at hc
    | crashed => exact h.guardHolds.1 hmem
    | _ => simp [Stage.read] at hc <;> split at hc <;> cases hc
  · cases stage with
    | refused status' =>
        obtain rfl : status' = status := by simpa [Stage.read] using hr
        exact h.guardHolds.2 status' hmem
    | passed =>
        obtain ⟨stub, hstub⟩ := Option.isSome_iff_exists.1 (h.stub hmem)
        simp [Stage.read, hstub] at hr
    | _ => simp [Stage.read] at hr <;> split at hr <;> cases hr <;> rfl

/-- The remote call of a worker returns. -/
theorem Inv.answer (h : Inv s) (w : ℕ) (status : GrpcStatus) :
    Inv (s.advance w (Stage.answer status)) := by
  have hsame (stage : Stage) (hne : ∀ stub, stage ≠ .calling stub) :
      Stage.answer status stage = stage := by
    cases stage with
    | calling stub => exact absurd rfl (hne stub)
    | _ => rfl
  refine h.advance w (fun stage hmem hp => ?_) (fun stage hmem hc => ?_)
    (fun stage hmem status' hr => ?_)
  · cases stage with
    | calling stub => cases hp
    | _ => exact h.stub (hp ▸ hmem)
  · cases stage with
    | calling stub => cases hc
    | _ => exact h.guardHolds.1 (hc ▸ hmem)
  · cases stage with
    | calling stub => cases hr
    | _ => exact h.guardHolds.2 status' (hr ▸ hmem)

/-- **A step that keeps the stub keeps the invariant.** -/
theorem Inv.step (h : Inv s) {l : Label} (hl : KeepsStub s l) : Inv (s.step l) := by
  cases l with
  | connect target env => exact h.begin _ _
  | disconnect => exact h.begin _ _
  | write =>
      cases hp : s.pending with
      | nil =>
          simp only [State.step, hp]
          exact h
      | cons write ws =>
          simp only [State.step, hp]
          refine ⟨fun hpass => ?_, h.guardHolds⟩
          cases write with
          | stub stub =>
              cases stub with
              | some stub => rfl
              | none => exact absurd hpass (hl ws hp)
          | _ => exact h.stub hpass
  | queryAsync =>
      refine ⟨fun hpass => h.stub ?_, fun hc => h.guardHolds.1 ?_, fun status hr => ?_⟩
      · simpa [State.step] using hpass
      · simpa [State.step] using hc
      · exact h.guardHolds.2 status (by simpa [State.step] using hr)
  | read w => exact h.read w
  | answer w status => exact h.answer w status

/-- A write that empties the stub under a worker past the guard makes that
worker crash at its next read. -/
theorem crashed_of_not_keepsStub {l : Label} (h : ¬ KeepsStub s l) :
    ∃ w, .crashed ∈ ((s.step l).step (.read w)).workers := by
  cases l with
  | write =>
      obtain ⟨ws, hws⟩ := not_forall.1 h
      obtain ⟨hp, hpass⟩ := Classical.not_imp.1 hws
      obtain ⟨w, hw, hget⟩ := List.getElem_of_mem (Classical.not_not.1 hpass)
      have hsome : s.workers[w]? = some .passed := List.getElem?_eq_some_iff.2 ⟨hw, hget⟩
      refine ⟨w, ?_⟩
      simp only [State.step, hp, State.advance, hsome]
      exact List.mem_set hw Stage.crashed
  | _ => exact absurd trivial h

/-- **When the guard protects the use.**  In every run in which the owner never
empties `stub_` while a worker stands between the guard and the use, no worker
ever dereferences an empty `stub_` and whoever is refused is told that the client
is not connected; and a step that does empty it then is followed, after one
further read, by a worker that dereferences it. -/
theorem race_guardHolds (config : ConfigNode) :
    (∀ ls, (race config).EveryStep (fun s l _ => KeepsStub s l) ls →
      (race config).EveryState GuardHolds ls) ∧
    ∀ ls l, ¬ KeepsStub ((race config).run ls) l →
      ∃ w, ¬ GuardHolds ((race config).run (ls ++ [l, .read w])) := by
  refine ⟨fun ls hls pre post heq => ?_, fun ls l hl => ?_⟩
  · have hinv : (race config).EveryState Inv ls :=
      Machine.everyState_of_everyStep (inv_init config) (fun _ _ h hl => h.step hl) ls hls
    exact (hinv pre post heq).guardHolds
  · obtain ⟨w, hw⟩ := crashed_of_not_keepsStub hl
    refine ⟨w, fun h => h.1 ?_⟩
    rw [Machine.run_append]
    exact hw

/-- A client connects, a worker passes the guard and fetches the stub, and then the client
disconnects; a second worker comes too late. -/
def calledInTime : List Label :=
  [.connect "localhost:50051" (steady .ready), .write, .write, .write, .write, .queryAsync,
    .read 0, .read 0, .read 0, .read 0, .disconnect, .write, .write, .write, .answer 0 {},
    .queryAsync, .read 1]

/-- The first worker calls through the stub it found, the second is refused. -/
theorem race_guardHolds_inTime :
    (race sampleConfig).EveryStep (fun s l _ => KeepsStub s l) calledInTime ∧
      (race sampleConfig).EveryState GuardHolds calledInTime ∧
      ((race sampleConfig).run calledInTime).workers =
        [.returned (convertGrpcStatus {}), .refused notConnected] := by
  have hkept : (race sampleConfig).EveryStep (fun s l _ => KeepsStub s l) calledInTime := by
    decide
  exact ⟨hkept, (race_guardHolds sampleConfig).1 calledInTime hkept, by decide⟩

/-- `Disconnect` empties the stub of a worker that found the client connected. -/
theorem race_guardHolds_disconnect :
    ¬ (race sampleConfig).EveryState GuardHolds
      [.connect "localhost:50051" (steady .ready), .write, .write, .write, .write, .queryAsync,
        .read 0, .read 0, .read 0, .disconnect, .write, .read 0] := by
  intro h
  have hlast := h _ [] (List.append_nil _).symm
  exact hlast.1 (by decide)

end Race
end Client
end ClientSdk
