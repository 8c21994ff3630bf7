/-
# Calls at the same time

Any number of threads call module functions over any clients, at the same time.  Each
call has a stream of its own, so all they share is the robots: a request arrives at a
robot at some time after its call began, which may be after the call gave up on it and
returned, or never; and a call that returns has read the answer of its robot, if its
request arrived by then and the answer comes through.  No call connects or disconnects
its client meanwhile.

`traffic_linearizable` says that this is as if the calls came one at a time, in the
order their requests arrived.
-/

import ClientSdk.Lib.Pool
import ClientSdk.Modules.Session

namespace ClientSdk
namespace Modules

open Common Lib Client

variable {σ : Type} {ts : MessageTypes}

namespace Visit

/-- The request a call writes over a client, with the target it goes to. -/
def asks (v : Vocabulary) (client : InterfacesClient) (x : Visit ts) :
    Option (String × SendRequest) :=
  match opens client.impl (x.meets.env none).toStreamEnv, x.f.request v x.messages,
    client.impl.stub with
  | .ok true, some q, some stub => some (stub.channel.target, q)
  | _, _, _ => none

/-- What a call gives its caller that is answered, or not. -/
def result (v : Vocabulary) (client : InterfacesClient) (x : Visit ts)
    (answer : Option SendResponse) : Result ts :=
  let out := x.f.call v client.impl (x.meets.env answer) x.messages x.response
  (out.1, ⟨x.f, out.2.result⟩)

/-- The same call, whose answer does not come through. -/
def unheard (x : Visit ts) : Visit ts := { x with meets.fate := .unanswered }

end Visit

/-- The result is the success of its function. -/
def Result.Success (v : Vocabulary) (r : Result ts) : Prop := r.1 = .ok (r.2.1.success v)

/-- Calls over any clients, one at a time. -/
def alone (v : Vocabulary) (robot : Robot σ) :
    Service (String → σ) (InterfacesClient × Visit ts) (Result ts) where
  serve robots q :=
    let w : World σ := { client := q.1, robots := robots }
    ((w.next v robot (.visit q.2)).robots, (w.outcome v robot q.2).1, ⟨q.2.f,
      (w.outcome v robot q.2).2.result⟩)

/-! ### Traffic -/

/-- A call under way or over: the client it goes over, the answer of its robot, once its
request arrived, whether that was after it returned, and its result, once it did. -/
structure Flight (ts : MessageTypes) where
  client : InterfacesClient
  visit : Visit ts
  answer : Option SendResponse := none
  late : Bool := false
  result : Option (Result ts) := none

/-- A request that arrived, with its call and the answer it was given. -/
structure Arrival where
  flight : ℕ
  request : String × SendRequest
  answer : SendResponse

/-- The robots under their targets, the calls, and the requests that arrived, in their
order. -/
structure Traffic (σ : Type) (ts : MessageTypes) where
  robots : String → σ
  flights : List (Flight ts) := []
  arrivals : List Arrival := []

/-- A step of a thread or of the network. -/
inductive Move (ts : MessageTypes) where
  /-- A call is begun over a client: it opens its stream and writes its request. -/
  | begins (client : InterfacesClient) (x : Visit ts)
  /-- The request of the call `i` arrives, if there is one that has not. -/
  | arrives (i : ℕ)
  /-- The call `i` reads its stream and returns, if it has not. -/
  | returns (i : ℕ)

namespace Traffic

variable (v : Vocabulary) (robot : Robot σ) (w : Traffic σ ts)

/-- The request of a call arrives. -/
def arrive (i : ℕ) (x : Flight ts) (q : String × SendRequest) : Traffic σ ts where
  robots := (robot.each.serve w.robots q).1
  flights := w.flights.set i
    { x with answer := some (robot.each.serve w.robots q).2, late := x.result.isSome }
  arrivals := w.arrivals ++ [⟨i, q, (robot.each.serve w.robots q).2⟩]

/-- A call returns. -/
def finish (i : ℕ) (x : Flight ts) : Traffic σ ts :=
  { w with
    flights := w.flights.set i { x with result := some (x.visit.result v x.client x.answer) } }

/-- One step. -/
def next : Move ts → Traffic σ ts
  | .begins client x => { w with flights := w.flights ++ [⟨client, x, none, false, none⟩] }
  | .arrives i =>
      match w.flights[i]? with
      | none => w
      | some x =>
          match x.visit.asks v x.client with
          | none => w
          | some q =>
              if x.answer.isNone && x.visit.meets.fate.arrives then w.arrive robot i x q else w
  | .returns i =>
      match w.flights[i]? with
      | none => w
      | some x => if x.result.isNone then w.finish v i x else w

end Traffic

/-- The robots from the states `robots` on, before any call. -/
def traffic (v : Vocabulary) (ts : MessageTypes) (robot : Robot σ) (robots : String → σ) :
    Machine (Traffic σ ts) (Move ts) where
  init := { robots := robots }
  next := Traffic.next v robot

/-- The call as it looks from its arrival: without its answer, if it came late. -/
def Flight.settled (x : Flight ts) : Visit ts := if x.late then x.visit.unheard else x.visit

/-- The calls whose requests arrived, in the order they did. -/
def Traffic.history (w : Traffic σ ts) : List (InterfacesClient × Visit ts) :=
  w.arrivals.flatMap fun a => (w.flights[a.flight]?).toList.map fun x => (x.client, x.settled)

/-! ### One call alone -/

section Alone

variable {v : Vocabulary} {robot : Robot σ} {client : InterfacesClient} {x : Visit ts}

/-- What a call attempts is what it asks. -/
theorem attempts_eq_asks (v : Vocabulary) (robot : Robot σ) (w : World σ) (x : Visit ts) :
    (w.entry v robot x).attempts =
      (x.asks v w.client).toList.map fun q => ⟨q, x.meets.fate⟩ := by
  rcases entry_attempts v robot w x with ⟨hno, hnone⟩ | ⟨hc, q, hq, hone⟩
  · have hasks : x.asks v w.client = none := by
      unfold Visit.asks
      split
      · rename_i q stub ho hq hstub
        exact absurd ⟨by rw [hq]; rfl, ho⟩ hno
      · rfl
    rw [hnone, hasks]
    rfl
  · have hstub : w.client.impl.stub = some (w.client.impl.heldStub hc) := by
      simp [InterfacesClientImpl.heldStub]
    have hopens : opens w.client.impl (x.meets.env none).toStreamEnv = .ok true := by
      rcases x.f.call_converses v w.client.impl (w.env v robot x) x.messages x.response with
        ⟨-, hops⟩ | ⟨-, -, -, ho, -⟩
      · have hentry : (w.entry v robot x).ops = [] := hops
        rw [Entry.attempts, hentry] at hone
        cases hone
      · exact ho
    have hasks : x.asks v w.client = some ((w.client.impl.heldStub hc).channel.target, q) := by
      simp [Visit.asks, hopens, hq, hstub]
    rw [hone, hasks]
    rfl

/-- An answer that does not come through is no answer. -/
theorem result_unheard (v : Vocabulary) (client : InterfacesClient) (x : Visit ts)
    (answer : Option SendResponse) : x.unheard.result v client answer = x.result v client none := by
  have henv : x.unheard.meets.env answer = x.meets.env none := by
    cases hf : x.meets.fate <;> simp [Visit.unheard, Meets.env, hf]
  simp only [Visit.result, henv]
  rfl

/-- **A call alone whose request arrives.** -/
theorem alone_serve {q : String × SendRequest} (hq : x.asks v client = some q)
    (hf : x.meets.fate.arrives = true) (robots : String → σ) :
    (alone v robot).serve robots (client, x) =
      ((robot.each.serve robots q).1,
        x.result v client (some (robot.each.serve robots q).2)) := by
  have hattempts := attempts_eq_asks v robot { client := client, robots := robots } x
  rw [hq] at hattempts
  have hrobots : ((World.next v robot { client := client, robots := robots } (.visit x))).robots =
      (robot.each.serve robots q).1 := by
    simp [World.next, hattempts, arrived, hf, Service.after]
  have henv : World.env v robot { client := client, robots := robots } x =
      x.meets.env (some (robot.each.serve robots q).2) := by
    unfold Visit.asks at hq
    split at hq
    · rename_i q' stub ho hq' hstub
      obtain rfl := Option.some.inj hq
      simp [World.env, hq', hstub, Service.each]
    · cases hq
  simp only [alone, hrobots, World.outcome, henv]
  rfl

/-- A success heard its robot. -/
theorem answer_of_success {answer : Option SendResponse}
    (h : (x.result v client answer).Success v) : answer.isSome = true := by
  obtain ⟨sendResp, hd, -⟩ := x.f.call_success v client.impl (x.meets.env answer) x.messages
    x.response h
  rw [(fate_of_read hd.read).2]
  rfl

end Alone

/-! ### What traffic keeps -/

/-- What a call heard when it returned, or would hear now. -/
def Flight.heard (x : Flight ts) : Option SendResponse := if x.late then none else x.answer

/-- A call that came late has returned, and what one returned is what it heard. -/
structure Flight.Sound (v : Vocabulary) (x : Flight ts) : Prop where
  late : x.late = true → x.result.isSome = true
  unanswered : x.answer = none → x.late = false
  result : ∀ r, x.result = some r → r = x.visit.result v x.client x.heard

/-- An arrival is that of the request of its call, and the call has its answer. -/
def Arrival.Of (v : Vocabulary) (a : Arrival) (flights : List (Flight ts)) : Prop :=
  ∃ x, flights[a.flight]? = some x ∧ x.answer = some a.answer ∧
    x.visit.asks v x.client = some a.request ∧ x.visit.meets.fate.arrives = true

/-- The arrivals are those of the calls that were answered, each once, and took the robots
from `start` to where they are. -/
structure Traffic.Inv (v : Vocabulary) (robot : Robot σ) (start : String → σ)
    (w : Traffic σ ts) : Prop where
  flights : ∀ x ∈ w.flights, x.Sound v
  arrivals : ∀ a ∈ w.arrivals, a.Of v w.flights
  once : (w.arrivals.map Arrival.flight).Nodup
  answered : ∀ i x, w.flights[i]? = some x → x.answer.isSome = true →
    ∃ a ∈ w.arrivals, a.flight = i
  robots : w.robots = robot.each.after start (w.arrivals.map Arrival.request)
  answers : w.arrivals.map Arrival.answer =
    robot.each.answers start (w.arrivals.map Arrival.request)

section Keeps

variable {v : Vocabulary} {robot : Robot σ} {robots : String → σ} {w : Traffic σ ts}

theorem traffic_inv_init (v : Vocabulary) (robot : Robot σ) (robots : String → σ) :
    Traffic.Inv v robot robots (traffic v ts robot robots).init where
  flights _ hx := absurd hx List.not_mem_nil
  arrivals _ ha := absurd ha List.not_mem_nil
  once := List.nodup_nil
  answered i x hx := by cases hx
  robots := rfl
  answers := rfl

/-- An arrival stays that of its call while the call keeps its answer. -/
theorem Arrival.Of.set {a : Arrival} {flights : List (Flight ts)} {i : ℕ} {x y : Flight ts}
    (h : a.Of v flights) (hx : flights[i]? = some x) (hclient : y.client = x.client)
    (hvisit : y.visit = x.visit) (hanswer : a.flight = i → y.answer = x.answer) :
    a.Of v (flights.set i y) := by
  obtain ⟨z, hz, hans, hasks, hf⟩ := h
  by_cases hi : a.flight = i
  · obtain rfl : x = z := by
      rw [hi, hx] at hz
      exact Option.some.inj hz
    refine ⟨y, (pool_set_iff hx).2 (Or.inl ⟨hi, rfl⟩), (hanswer hi).trans hans, ?_, ?_⟩
    · rw [hvisit, hclient, hasks]
    · rw [hvisit, hf]
  · exact ⟨z, (pool_set_iff hx).2 (Or.inr ⟨hi, hz⟩), hans, hasks, hf⟩

theorem Traffic.Inv.begins (h : Traffic.Inv v robot robots w) (client : InterfacesClient)
    (x : Visit ts) : Traffic.Inv v robot robots (w.next v robot (.begins client x)) where
  flights y hy := by
    rcases List.mem_append.1 hy with hy | hy
    · exact h.flights y hy
    · obtain rfl := List.mem_singleton.1 hy
      exact ⟨fun hl => (by cases hl), fun _ => rfl, fun _ hr => (by cases hr)⟩
  arrivals a ha := by
    obtain ⟨y, hy, hrest⟩ := h.arrivals a ha
    exact ⟨y, pool_spawn_iff.2 (Or.inr hy), hrest⟩
  once := h.once
  answered i y hy hans := by
    rcases pool_spawn_iff.1 hy with ⟨-, rfl⟩ | hy
    · cases hans
    · exact h.answered i y hy hans
  robots := h.robots
  answers := h.answers

/-- **The request of a call arrives.** -/
theorem Traffic.Inv.arrive (h : Traffic.Inv v robot robots w) {i : ℕ} {x : Flight ts}
    (hx : w.flights[i]? = some x) {q : String × SendRequest}
    (hq : x.visit.asks v x.client = some q) (hf : x.visit.meets.fate.arrives = true)
    (hanswer : x.answer = none) : Traffic.Inv v robot robots (w.arrive robot i x q) where
  flights y hy := by
    rcases List.mem_or_eq_of_mem_set hy with hy | rfl
    · exact h.flights y hy
    · -- What it heard stays: nothing, if it returned, and else it has no result.
      have hsound : x.Sound v := h.flights x (List.mem_of_getElem? hx)
      refine ⟨fun hl => hl, fun hnone => (by cases hnone), fun r hr => ?_⟩
      have hlate : x.result.isSome = true := by
        have hresult : x.result = some r := hr
        rw [hresult]
        rfl
      have hheard : x.heard = none := by
        simp [Flight.heard, hsound.unanswered hanswer, hanswer]
      have hr' := hsound.result r hr
      rw [hheard] at hr'
      simp [Flight.heard, hlate, hr']
  arrivals a ha := by
    rcases List.mem_append.1 ha with ha | ha
    · refine (h.arrivals a ha).set hx rfl rfl fun hi => ?_
      obtain ⟨y, hy, hans, -⟩ := h.arrivals a ha
      rw [hi, hx] at hy
      obtain rfl := Option.some.inj hy
      rw [hanswer] at hans
      cases hans
    · obtain rfl := List.mem_singleton.1 ha
      exact ⟨_, (pool_set_iff hx).2 (Or.inl ⟨rfl, rfl⟩), rfl, hq, hf⟩
  once := by
    have hnew : i ∉ w.arrivals.map Arrival.flight := by
      intro hi
      obtain ⟨a, ha, rfl⟩ := List.mem_map.1 hi
      obtain ⟨y, hy, hans, -⟩ := h.arrivals a ha
      rw [hx] at hy
      obtain rfl := Option.some.inj hy
      rw [hanswer] at hans
      cases hans
    rw [Traffic.arrive, List.map_append]
    exact List.nodup_append.2 ⟨h.once, List.pairwise_singleton _ _, fun a ha b hb => by
      obtain rfl := List.mem_singleton.1 hb
      rintro rfl
      exact hnew ha⟩
  answered j y hy hans := by
    rcases (pool_set_iff hx).1 hy with ⟨rfl, rfl⟩ | ⟨-, hy⟩
    · exact ⟨_, List.mem_append_right _ List.mem_cons_self, rfl⟩
    · obtain ⟨a, ha, hj⟩ := h.answered j y hy hans
      exact ⟨a, List.mem_append_left _ ha, hj⟩
  robots := by
    simp only [Traffic.arrive, List.map_append, Service.after_append, ← h.robots]
    rfl
  answers := by
    simp only [Traffic.arrive, List.map_append, Service.answers_append, ← h.robots, ← h.answers]
    rfl

/-- A call returns. -/
theorem Traffic.Inv.finish (h : Traffic.Inv v robot robots w) {i : ℕ} {x : Flight ts}
    (hx : w.flights[i]? = some x) (hresult : x.result = none) :
    Traffic.Inv v robot robots (w.finish v i x) where
  flights y hy := by
    rcases List.mem_or_eq_of_mem_set hy with hy | rfl
    · exact h.flights y hy
    · have hsound : x.Sound v := h.flights x (List.mem_of_getElem? hx)
      have hlate : x.late = false := by
        cases hl : x.late with
        | false => rfl
        | true =>
            have hsome := hsound.late hl
            rw [hresult] at hsome
            cases hsome
      refine ⟨fun _ => rfl, hsound.unanswered, fun r hr => ?_⟩
      obtain rfl := Option.some.inj hr
      simp [Flight.heard, hlate]
  arrivals a ha := (h.arrivals a ha).set hx rfl rfl fun _ => rfl
  once := h.once
  answered j y hy hans := by
    rcases (pool_set_iff hx).1 hy with ⟨rfl, rfl⟩ | ⟨-, hy⟩
    · exact h.answered j x hx hans
    · exact h.answered j y hy hans
  robots := h.robots
  answers := h.answers

theorem Traffic.Inv.step (h : Traffic.Inv v robot robots w) (m : Move ts) :
    Traffic.Inv v robot robots (w.next v robot m) := by
  cases m with
  | begins client x => exact h.begins client x
  | arrives i =>
      rw [Traffic.next]
      split
      · exact h
      · rename_i x hx
        split
        · exact h
        · rename_i q hq
          split
          · rename_i hcond
            obtain ⟨hanswer, hf⟩ := Bool.and_eq_true_iff.1 hcond
            exact h.arrive hx hq hf (Option.isNone_iff_eq_none.1 hanswer)
          · exact h
  | returns i =>
      rw [Traffic.next]
      split
      · exact h
      · rename_i x hx
        split
        · rename_i hresult
          exact h.finish hx (Option.isNone_iff_eq_none.1 hresult)
        · exact h

theorem traffic_inv (v : Vocabulary) (robot : Robot σ) (robots : String → σ)
    (moves : List (Move ts)) :
    Traffic.Inv v robot robots ((traffic v ts robot robots).run moves) :=
  Machine.run_invariant (traffic_inv_init v robot robots) (fun _ m h => h.step m) moves

/-- Arrivals are never taken back. -/
theorem arrivals_next_grow (v : Vocabulary) (robot : Robot σ) (w : Traffic σ ts) (m : Move ts) :
    w.arrivals <+: (w.next v robot m).arrivals := by
  unfold Traffic.next
  split
  · exact List.prefix_refl _
  · split
    · exact List.prefix_refl _
    · split
      · exact List.prefix_refl _
      · split
        · exact List.prefix_append _ _
        · exact List.prefix_refl _
  · split
    · exact List.prefix_refl _
    · split
      · exact List.prefix_refl _
      · exact List.prefix_refl _

theorem arrivals_runFrom_grow (w : Traffic σ ts) (moves : List (Move ts)) :
    w.arrivals <+: ((traffic v ts robot robots).runFrom w moves).arrivals := by
  induction moves generalizing w with
  | nil => exact List.prefix_refl _
  | cons m moves ih => exact (arrivals_next_grow v robot w m).trans (ih _)

end Keeps

/-! ### One at a time -/

section Settled

variable {x : Flight ts}

theorem settled_asks (v : Vocabulary) (x : Flight ts) :
    x.settled.asks v x.client = x.visit.asks v x.client := by
  unfold Flight.settled
  split <;> rfl

theorem settled_arrives (h : x.visit.meets.fate.arrives = true) :
    x.settled.meets.fate.arrives = true := by
  unfold Flight.settled
  split
  · rfl
  · exact h

/-- With its answer, the settled call gives what the call heard gives. -/
theorem settled_result (v : Vocabulary) {answer : SendResponse} (h : x.answer = some answer) :
    x.settled.result v x.client (some answer) = x.visit.result v x.client x.heard := by
  unfold Flight.settled Flight.heard
  split
  · exact result_unheard v x.client x.visit (some answer)
  · rw [h]

end Settled

section Replay

variable {v : Vocabulary} {robot : Robot σ}

/-- What the calls of arrivals heard, in the order of these. -/
def heardAt (v : Vocabulary) (flights : List (Flight ts)) (as : List Arrival) :
    List (Result ts) :=
  as.flatMap fun a => (flights[a.flight]?).toList.map fun x => x.visit.result v x.client x.heard

/-- The calls of arrivals, in the order of these. -/
def settledAt (flights : List (Flight ts)) (as : List Arrival) :
    List (InterfacesClient × Visit ts) :=
  as.flatMap fun a => (flights[a.flight]?).toList.map fun x => (x.client, x.settled)

/-- **The replay.**  The calls alone, in the order of their arrivals, take the robots where
the arrivals took them, and each gives what it heard. -/
theorem replay {flights : List (Flight ts)} (as : List Arrival)
    (hof : ∀ a ∈ as, a.Of v flights) (robots : String → σ)
    (hanswers : as.map Arrival.answer = robot.each.answers robots (as.map Arrival.request)) :
    (alone v robot).after robots (settledAt flights as) =
        robot.each.after robots (as.map Arrival.request) ∧
      (alone v robot).answers robots (settledAt flights as) = heardAt v flights as := by
  induction as generalizing robots with
  | nil => exact ⟨rfl, rfl⟩
  | cons a as ih =>
      obtain ⟨x, hx, hanswer, hasks, hf⟩ := hof a List.mem_cons_self
      rw [List.map_cons, List.map_cons, Service.answers, List.cons.injEq] at hanswers
      obtain ⟨ha, has⟩ := hanswers
      -- The call alone does what its request did, and hears what the call heard.
      have hserve : (alone v robot).serve robots (x.client, x.settled) = _ :=
        alone_serve ((settled_asks v x).trans hasks) (settled_arrives hf) robots
      rw [← ha, settled_result v hanswer] at hserve
      have hsettled : settledAt flights (a :: as) =
          (x.client, x.settled) :: settledAt flights as := by
        simp [settledAt, hx]
      have hheard : heardAt v flights (a :: as) =
          x.visit.result v x.client x.heard :: heardAt v flights as := by
        simp [heardAt, hx]
      obtain ⟨hafter, hresults⟩ := ih (fun b hb => hof b (List.mem_cons_of_mem a hb)) _ has
      rw [hsettled, hheard, Service.after_cons, Service.answers, hserve, List.map_cons,
        Service.after_cons]
      exact ⟨hafter, by rw [hresults]⟩

/-- Where each call is there, the `k`-th arrival's is the `k`-th. -/
theorem flatMap_flight {β : Type*} {flights : List (Flight ts)} {f : Flight ts → β}
    {as : List Arrival} (hof : ∀ a ∈ as, a.Of v flights) {k : ℕ} {a : Arrival}
    (ha : as[k]? = some a) {x : Flight ts} (hx : flights[a.flight]? = some x) :
    (as.flatMap fun a => (flights[a.flight]?).toList.map f)[k]? = some (f x) := by
  induction as generalizing k with
  | nil => cases ha
  | cons b as ih =>
      obtain ⟨y, hy, -⟩ := hof b List.mem_cons_self
      rw [List.flatMap_cons, hy]
      cases k with
      | zero =>
          obtain rfl := Option.some.inj ha
          rw [hx] at hy
          rw [Option.some.inj hy]
          rfl
      | succ k => exact ih (fun c hc => hof c (List.mem_cons_of_mem b hc)) ha

end Replay

/-- Traffic that could have been calls one at a time: each request arrived once; the
robots are where the calls alone take them, in the order of the arrivals; each call that
returned gave what it gives there; and one whose request has not arrived gave what it gives
without an answer, which is no success. -/
structure Traffic.Linear (v : Vocabulary) (robot : Robot σ) (start : String → σ)
    (w : Traffic σ ts) : Prop where
  once : (w.arrivals.map Arrival.flight).Nodup
  robots : w.robots = (alone v robot).after start w.history
  results : ∀ (k : ℕ) (a : Arrival) (x : Flight ts) (r : Result ts), w.arrivals[k]? = some a →
    w.flights[a.flight]? = some x → x.result = some r →
      w.history[k]? = some (x.client, x.settled) ∧
      ((alone v robot).answers start w.history)[k]? = some r
  unarrived : ∀ (i : ℕ) (x : Flight ts) (r : Result ts), w.flights[i]? = some x →
    x.result = some r → i ∉ w.arrivals.map Arrival.flight →
      r = x.visit.result v x.client none ∧ ¬ r.Success v

/-- The request of the call `i` arrived, and that of the call `j` did not before it. -/
def Traffic.Before (w : Traffic σ ts) (i j : ℕ) : Prop :=
  ∃ (k : ℕ) (a : Arrival), w.arrivals[k]? = some a ∧ a.flight = i ∧
    ∀ (l : ℕ) (b : Arrival), w.arrivals[l]? = some b → b.flight = j → k < l

section Linear

variable {v : Vocabulary} {robot : Robot σ} {start : String → σ} {w : Traffic σ ts}

/-- A success that returned has arrived. -/
theorem Traffic.Inv.arrived_of_success (h : Traffic.Inv v robot start w) {i : ℕ}
    {x : Flight ts} (hx : w.flights[i]? = some x) {r : Result ts} (hr : x.result = some r)
    (hs : r.Success v) : ∃ a ∈ w.arrivals, a.flight = i := by
  have hsound : x.Sound v := h.flights x (List.mem_of_getElem? hx)
  rw [hsound.result r hr] at hs
  have hheard : x.heard.isSome = true := answer_of_success hs
  refine h.answered i x hx ?_
  unfold Flight.heard at hheard
  split at hheard
  · cases hheard
  · exact hheard

theorem Traffic.Inv.linear (h : Traffic.Inv v robot start w) : w.Linear v robot start where
  once := h.once
  robots := by
    rw [h.robots]
    exact (replay w.arrivals h.arrivals start h.answers).1.symm
  results k a x r ha hx hr := by
    refine ⟨flatMap_flight h.arrivals ha hx, ?_⟩
    have hanswers : (alone v robot).answers start w.history = heardAt v w.flights w.arrivals :=
      (replay w.arrivals h.arrivals start h.answers).2
    rw [hanswers, (h.flights x (List.mem_of_getElem? hx)).result r hr]
    exact flatMap_flight h.arrivals ha hx
  unarrived i x r hx hr hi := by
    have hno : ∀ a ∈ w.arrivals, a.flight ≠ i := fun a ha he =>
      hi (List.mem_map.2 ⟨a, ha, he⟩)
    have hanswer : x.answer = none := by
      cases hans : x.answer with
      | none => rfl
      | some answer =>
          obtain ⟨a, ha, he⟩ := h.answered i x hx (by rw [hans]; rfl)
          exact absurd he (hno a ha)
    refine ⟨?_, fun hs => ?_⟩
    · rw [(h.flights x (List.mem_of_getElem? hx)).result r hr]
      simp [Flight.heard, hanswer]
    · obtain ⟨a, ha, he⟩ := h.arrived_of_success hx hr hs
      exact hno a ha he

end Linear

/-- **Calls at the same time are calls one at a time.**  Over any clients, with any
outcome of every step, however the threads and the network interleave and whatever gets
lost or arrives late: what the robots did and what the calls returned is what the calls
alone do, in the order their requests arrived, a call that gave up before counting as one
that was not answered.  A call that returned success arrived before every call begun
after it did. -/
theorem traffic_linearizable (v : Vocabulary) (robot : Robot σ) (start : String → σ)
    (before later : List (Move ts)) :
    let machine := traffic v ts robot start
    let w := machine.run (before ++ later)
    w.Linear v robot start ∧
    ∀ (i : ℕ) (x : Flight ts) (r : Result ts), (machine.run before).flights[i]? = some x →
      x.result = some r → r.Success v →
      ∀ j, (machine.run before).flights.length ≤ j → w.Before i j := by
  intro machine w
  refine ⟨(traffic_inv v robot start (before ++ later)).linear, ?_⟩
  intro i x r hx hr hs j hj
  have hinv : Traffic.Inv v robot start (machine.run before) := traffic_inv v robot start before
  obtain ⟨a, ha, rfl⟩ := hinv.arrived_of_success hx hr hs
  obtain ⟨k, hk⟩ := List.getElem?_of_mem ha
  -- What arrived before stays where it is, and the call `j` is not there yet.
  have hprefix : (machine.run before).arrivals <+: w.arrivals := by
    have happend : w = machine.runFrom (machine.run before) later :=
      Machine.run_append ..
    rw [happend]
    exact arrivals_runFrom_grow _ _
  obtain ⟨rest, hrest⟩ := hprefix
  have hlt : k < (machine.run before).arrivals.length := (List.getElem?_eq_some_iff.1 hk).1
  refine ⟨k, a, ?_, rfl, fun l b hl hb => ?_⟩
  · rw [← hrest, List.getElem?_append_left hlt]
    exact hk
  · by_contra hge
    have hl' : (machine.run before).arrivals[l]? = some b := by
      rw [← hrest, List.getElem?_append_left (by omega)] at hl
      exact hl
    obtain ⟨y, hy, -⟩ := hinv.arrivals b (List.mem_of_getElem? hl')
    have hbound := (List.getElem?_eq_some_iff.1 hy).1
    omega

end Modules
end ClientSdk
