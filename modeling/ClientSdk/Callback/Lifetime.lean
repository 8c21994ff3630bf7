/-
# What a callback may do to its object

`source/robot/client/client_callback_server.cpp`: the service a notification handler
runs on, against the starts and stops of the object it belongs to.

A start destroys the service held, when it makes a new one, before it gets to the
server; a handler of the old server may still be running then, on a service that is no
longer there (`Dangling`).  A program that leaves starting and stopping to the owner
never gets that far: `Stop` waits for the handlers, and a start that gets past `running_`
comes after it (`interleaving_serviceKept`).

A start that waits for the server it replaces has destroyed the service of that server,
too; such a start takes no step here, so what is found dangling is found without it.
-/

import ClientSdk.Callback.Deadlock

namespace ClientSdk
namespace Callback
namespace Deadlock

open Common Lib

variable {κ ν τ : Type}

/-- The operations that start or stop the object. -/
def PublicOp.manages : PublicOp κ → Bool
  | .start _ _ | .startWithAutoPort _ | .stop => true
  | _ => false

/-- The program leaves starting and stopping to the owner, whatever the replies. -/
def Program.HandsOff (p : Program κ ν τ) : Prop :=
  ∀ t op k, p.Reaches t → p.next t = some (op, k) → op.manages = false

/-- A handler is running, and the service it runs on is gone. -/
def Dangling (s : System κ ν τ) : Prop :=
  ∃ x ∈ s.handlers, x.active = true ∧ s.object.impl.serviceImpl.map (·.id) ≠ x.server

theorem Program.HandsOff.stopFree {p : Program κ ν τ} (h : p.HandsOff) : p.StopFree := by
  intro t k ht hnext
  have hmanages := h t .stop k ht hnext
  cases hmanages

/-! ### What a call does to the object -/

/-- The object `c'` is `c`, but for the message callback. -/
structure Aside (c c' : ClientCallbackServer κ ν) : Prop where
  impl : ∃ callback, c'.impl = { c.impl with messageCallback := callback }
  made : c'.made = c.made

theorem Aside.refl (c : ClientCallbackServer κ ν) : Aside c c :=
  ⟨⟨c.impl.messageCallback, rfl⟩, rfl⟩

theorem Aside.inv {c c' : ClientCallbackServer κ ν} (h : Aside c c') (hc : Inv c.impl) :
    Inv c'.impl := by
  obtain ⟨callback, he⟩ := h.impl
  rw [he]
  exact ⟨hc.running, hc.thread, hc.service, hc.bound⟩

section Call

variable {s : System κ ν τ} {op : PublicOp κ}

/-- **An operation that neither starts nor stops** returns or raises, and leaves the object
as it is but for the message callback. -/
theorem call_of_not_manages (hop : op.manages = false) (env : StartEnv ν)
    (copy : Except StdException Unit) : ∃ c, Aside s.object c ∧
      ((∃ reply, s.call op env copy = .replies reply c) ∨ s.call op env copy = .raises c) := by
  cases op with
  | start listenAddress port => cases hop
  | startWithAutoPort listenAddress => cases hop
  | stop => cases hop
  | setSubscriptionMessageCallback callback =>
      rcases setSubscriptionMessageCallback_cases callback copy s.object with ⟨e, he⟩ | ⟨-, he⟩
      · exact ⟨_, .refl _, Or.inr (by simp [System.call, he])⟩
      · refine ⟨{ s.object with
          impl.messageCallback := callback
          events := s.object.events ++ [.callbackSet callback] }, ⟨⟨callback, rfl⟩, rfl⟩,
          Or.inl ⟨.unit, ?_⟩⟩
        simp only [System.call, he]
  | isRunning => exact ⟨_, .refl _, Or.inl ⟨_, rfl⟩⟩
  | getListenAddress => exact ⟨_, .refl _, Or.inl ⟨_, rfl⟩⟩
  | getListenPort => exact ⟨_, .refl _, Or.inl ⟨_, rfl⟩⟩
  | getClientEndpoint => exact ⟨_, .refl _, Or.inl ⟨_, rfl⟩⟩

/-- What a start does, if it does not wait: it leaves a running object alone, and one in
order in order. -/
theorem started_cases {start : StartEnv ν → ClientCallbackServer κ ν →
      Except StdException Status × ClientCallbackServer κ ν} (env : StartEnv ν)
    (hrun : ∀ env, s.object.impl.running = true → (start env s.object).2 = s.object)
    (hinv : ∀ env, Inv s.object.impl → Inv (start env s.object).2.impl) :
    s.started env start = .waits ∨ ∃ c, ((∃ reply, s.started env start = .replies reply c) ∨
      s.started env start = .raises c) ∧ (s.object.impl.running = true → c = s.object) ∧
        (Inv s.object.impl → Inv c.impl) := by
  unfold System.started
  split
  · exact Or.inl rfl
  · refine Or.inr ⟨(start { env with early := [] } s.object).2, ?_, hrun _, hinv _⟩
    split
    · rename_i status c hc
      exact Or.inl ⟨_, by rw [hc]⟩
    · rename_i e c hc
      exact Or.inr (by rw [hc])

end Call

/-! ### What hands-off programs keep -/

/-- Out of `Stop` the object is in order; in `Stop` it holds the server the owner waits
for.  A running handler runs on the service held, for the server held, and that is live or
waited for. -/
structure Kept (s : System κ ν τ) : Prop where
  order : s.owner = none → Inv s.object.impl
  waited : ∀ id, s.owner = some id → s.object.impl.running = false ∧
    ∃ server, s.object.impl.server = some server ∧ server.service = id
  handlers : ∀ x ∈ s.handlers, x.active = true →
    s.object.impl.serviceImpl.map (·.id) = x.server ∧
    (∃ server, s.object.impl.server = some server ∧ server.service = x.server) ∧
    (s.owner = none → s.object.impl.running = true)

section Keeps

variable {p : Program κ ν τ} {s s' : System κ ν τ}

theorem Kept.not_dangling (h : Kept s) : ¬ Dangling s := by
  rintro ⟨x, hx, hactive, hne⟩
  exact hne (h.handlers x hx hactive).1

/-- No handler is running while the object is idle and the owner is not in `Stop`. -/
theorem Kept.quiet (h : Kept s) (howner : s.owner = none) (hrun : s.object.impl.running = false)
    {x : Handler τ} (hx : x ∈ s.handlers) : x.active = false := by
  cases hactive : x.active with
  | false => rfl
  | true =>
      rw [(h.handlers x hx hactive).2.2 howner] at hrun
      cases hrun

/-- A step of the handlers beside which the object only gets another callback. -/
theorem Kept.aside (h : Kept s) (howner : s'.owner = s.owner) (hobject : Aside s.object s'.object)
    (hhandlers : ∀ y ∈ s'.handlers, y.active = true →
      ∃ x ∈ s.handlers, x.active = true ∧ x.server = y.server) : Kept s' where
  order ho := hobject.inv (h.order (howner ▸ ho))
  waited id hid := by
    obtain ⟨callback, he⟩ := hobject.impl
    rw [he]
    exact h.waited id (howner ▸ hid)
  handlers y hy hactive := by
    obtain ⟨x, hx, hxa, hxs⟩ := hhandlers y hy hactive
    obtain ⟨callback, he⟩ := hobject.impl
    rw [he, ← hxs, howner]
    exact h.handlers x hx hxa

/-- A start by the owner: of a running object it does nothing, and if the object is not
running, no handler is. -/
theorem Kept.started (h : Kept s) (howner : s.owner = none) {c : ClientCallbackServer κ ν}
    (hsame : s.object.impl.running = true → c = s.object)
    (hinv : Inv s.object.impl → Inv c.impl) : Kept { s with object := c } where
  order _ := hinv (h.order howner)
  waited id hid := by
    have hnone : s.owner = some id := hid
    rw [howner] at hnone
    cases hnone
  handlers x hx hactive := by
    cases hrun : s.object.impl.running with
    | true =>
        rw [hsame hrun]
        exact h.handlers x hx hactive
    | false =>
        rw [h.quiet howner hrun hx] at hactive
        cases hactive

/-- The owner calls `Stop`. -/
theorem Kept.stops (h : Kept s) {server : GrpcServer}
    (hs : s.object.impl.server = some server) :
    Kept { s with object := s.object.clearRunning, owner := some server.service } where
  order ho := by cases ho
  waited id hid := by
    obtain rfl := Option.some.inj hid
    exact ⟨rfl, server, hs, rfl⟩
  handlers x hx hactive := by
    obtain ⟨hservice, hserver, -⟩ := h.handlers x hx hactive
    exact ⟨hservice, hserver, fun ho => by cases ho⟩

/-- The owner calls `Stop` of an object without a server. -/
theorem Kept.stops_none (h : Kept s) (howner : s.owner = none)
    (hs : s.object.impl.server = none) : Kept { s with object := s.object.clearRunning } where
  order _ := by
    have hstop := ((h.order howner).stop ([] : List (Delivery ν))).inv
    rw [impl_stop_of_none [] hs] at hstop
    exact hstop
  waited id hid := by
    have hnone : s.owner = some id := hid
    rw [howner] at hnone
    cases hnone
  handlers x hx hactive := by
    obtain ⟨-, ⟨server, hserver, -⟩, -⟩ := h.handlers x hx hactive
    rw [hs] at hserver
    cases hserver

/-- An operation of the owner that returns or raises. -/
theorem ownerCalls_of_returns (howner : s.owner = none) {op : PublicOp κ} {env : StartEnv ν}
    {copy : Except StdException Unit} {c : ClientCallbackServer κ ν}
    (h : (∃ reply, s.call op env copy = .replies reply c) ∨ s.call op env copy = .raises c) :
    s.ownerCalls op env copy = { s with object := c } := by
  obtain ⟨reply, hc⟩ | hc := h <;> simp [System.ownerCalls, howner, hc]

/-- The owner starts the object, or is refused, or waits. -/
theorem Kept.ownerStarts (h : Kept s) (howner : s.owner = none) {op : PublicOp κ}
    {env : StartEnv ν} {copy : Except StdException Unit}
    {start : StartEnv ν → ClientCallbackServer κ ν →
      Except StdException Status × ClientCallbackServer κ ν}
    (hcall : s.call op env copy = s.started env start)
    (hrun : ∀ env, s.object.impl.running = true → (start env s.object).2 = s.object)
    (hinv : ∀ env, Inv s.object.impl → Inv (start env s.object).2.impl) :
    Kept (s.ownerCalls op env copy) := by
  rcases started_cases env hrun hinv with hw | ⟨c, hc, hsame, hi⟩
  · have hwaits : s.ownerCalls op env copy = s := by
      simp [System.ownerCalls, howner, hcall, hw]
    rw [hwaits]
    exact h
  · rw [← hcall] at hc
    rw [ownerCalls_of_returns howner hc]
    exact h.started howner hsame hi

theorem Kept.ownerCalls (h : Kept s) (op : PublicOp κ) (env : StartEnv ν)
    (copy : Except StdException Unit) : Kept (s.ownerCalls op env copy) := by
  cases howner : s.owner with
  | some id =>
      have hsame : s.ownerCalls op env copy = s := by simp [System.ownerCalls, howner]
      rw [hsame]
      exact h
  | none =>
      cases hop : op.manages with
      | false =>
          obtain ⟨c, haside, hc⟩ := call_of_not_manages hop env copy
          rw [ownerCalls_of_returns howner hc]
          exact h.aside rfl haside fun y hy hactive => ⟨y, hy, hactive, rfl⟩
      | true =>
          cases op with
          | start listenAddress port =>
              refine h.ownerStarts howner rfl (fun env hrun => ?_) fun env hi => ?_
              · rw [start, startServer_of_running hrun]
              · exact hi.perform (.start listenAddress port env)
          | startWithAutoPort listenAddress =>
              refine h.ownerStarts howner rfl (fun env hrun => ?_) fun env hi => ?_
              · rw [startWithAutoPort, startServer_of_running hrun]
              · exact hi.perform (.startWithAutoPort listenAddress s.object.assignedPort env)
          | stop =>
              cases hs : s.object.impl.server with
              | some server =>
                  have hstops : s.ownerCalls .stop env copy =
                      { s with object := s.object.clearRunning, owner := some server.service } := by
                    simp [System.ownerCalls, howner, System.call, hs]
                  rw [hstops]
                  exact h.stops hs
              | none =>
                  have hreturns : s.call .stop env copy = .replies .unit s.object.clearRunning := by
                    simp only [System.call, hs]
                  rw [ownerCalls_of_returns howner (Or.inl ⟨_, hreturns⟩)]
                  exact h.stops_none howner hs
          | _ => cases hop

/-- The `Stop` of the owner ends: the last handler has returned. -/
theorem Kept.ownerResumes (h : Kept s) : Kept s.ownerResumes := by
  unfold System.ownerResumes
  split
  · rename_i id howner
    split
    · exact h
    · rename_i hbusy
      obtain ⟨hrun, server, hs, rfl⟩ := h.waited _ howner
      have hquiet {x : Handler τ} (hx : x ∈ s.handlers) : x.active = false := by
        cases hactive : x.active with
        | false => rfl
        | true =>
            obtain ⟨-, ⟨server', hs', hx'⟩, -⟩ := h.handlers x hx hactive
            obtain rfl : server = server' := Option.some.inj (hs.symm.trans hs')
            exact absurd (List.any_eq_true.2 ⟨x, hx, by simp [hx', hactive]⟩) hbusy
      have hfinish : s.finishStop server.service =
          { s with object := s.object.shutdownServer.joinThread } := by
        simp [System.finishStop, hs]
      rw [hfinish]
      refine ⟨fun _ => Idle.inv ⟨hrun, ?_, rfl⟩, fun id hid => (by cases hid), ?_⟩
      · simp [Impl.liveServer, ClientCallbackServer.joinThread,
          ClientCallbackServer.shutdownServer, hs]
      · intro x hx hactive
        rw [hquiet hx] at hactive
        cases hactive
  · exact h

/-- A notification arrives: only out of `Stop`, at the live server. -/
theorem Kept.deliver (h : Kept s) (n : ν) : Kept (s.deliver p n) := by
  unfold System.deliver
  split
  · rename_i server hlive
    split
    · exact h
    · rename_i hdown
      split
      · rename_i callback hcallback
        have hheld : s.object.impl.server = some server := (Option.filter_eq_some_iff.1 hlive).1
        have howner : s.owner = none := by
          cases ho : s.owner with
          | none => rfl
          | some id =>
              obtain ⟨-, server', hs', rfl⟩ := h.waited _ ho
              obtain rfl : server = server' := Option.some.inj (hheld.symm.trans hs')
              exact absurd (by simp [System.shuttingDown, ho]) hdown
        have horder := h.order howner
        obtain ⟨service, hservice, hid⟩ := horder.service server hlive
        have hrun : s.object.impl.running = true := by
          rw [horder.running, hlive]
          rfl
        refine ⟨h.order, h.waited, fun x hx hactive => ?_⟩
        rcases List.mem_append.1 hx with hx | hx
        · exact h.handlers x hx hactive
        · obtain rfl := List.mem_singleton.1 hx
          refine ⟨?_, ⟨server, hheld, rfl⟩, fun _ => hrun⟩
          show s.object.impl.serviceImpl.map (·.id) = server.service
          rw [hservice, hid]
          rfl
      · exact h
  · exact h

/-- A handler of a hands-off program goes on. -/
theorem handlerCalls_aside {own : Option ℕ} {t : τ} {op : PublicOp κ} {k : Reply → τ} {i : ℕ}
    (hx : s.handlers[i]? = some ⟨own, .running t⟩) (hnext : p.next t = some (op, k))
    (hop : op.manages = false) (env : StartEnv ν) (copy : Except StdException Unit) :
    Aside s.object (s.handlerCalls p i env copy).object ∧
      (s.handlerCalls p i env copy).owner = s.owner ∧
      ∃ stage, (s.handlerCalls p i env copy).handlers = s.handlers.set i ⟨own, stage⟩ := by
  unfold System.handlerCalls
  simp only [hx, hnext]
  obtain ⟨c, haside, ⟨reply, hc⟩ | hc⟩ := call_of_not_manages (s := s) hop env copy
  · simp only [hc]
    exact ⟨haside, rfl, _, rfl⟩
  · simp only [hc]
    exact ⟨haside, rfl, _, rfl⟩

/-- A handler's entry may change as long as it was running. -/
theorem exists_active_of_set {i : ℕ} {own : Option ℕ} {t : τ} {stage : Stage τ}
    (hx : s.handlers[i]? = some ⟨own, .running t⟩) {y : Handler τ}
    (hy : y ∈ s.handlers.set i ⟨own, stage⟩) (hactive : y.active = true) :
    ∃ x ∈ s.handlers, x.active = true ∧ x.server = y.server := by
  rcases List.mem_or_eq_of_mem_set hy with hy | rfl
  · exact ⟨y, hy, hactive, rfl⟩
  · exact ⟨_, List.mem_of_getElem? hx, rfl, rfl⟩

theorem Kept.handlerCalls (h : Kept s) (hp : p.HandsOff) (hfollows : NoneStopping p s) (i : ℕ)
    (env : StartEnv ν) (copy : Except StdException Unit) : Kept (s.handlerCalls p i env copy) := by
  cases hx : s.handlers[i]? with
  | none =>
      unfold System.handlerCalls
      simp only [hx]
      exact h
  | some x =>
      obtain ⟨own, stage⟩ := x
      cases stage with
      | running t =>
          have ht : p.Reaches t := hfollows _ (List.mem_of_getElem? hx)
          cases hnext : p.next t with
          | none =>
              unfold System.handlerCalls
              simp only [hx, hnext]
              exact h.aside rfl (.refl _) fun y hy hactive => exists_active_of_set hx hy hactive
          | some step =>
              obtain ⟨op, k⟩ := step
              obtain ⟨haside, howner, stage, hset⟩ :=
                handlerCalls_aside hx hnext (hp t op k ht hnext) env copy
              refine h.aside howner haside fun y hy hactive => ?_
              rw [hset] at hy
              exact exists_active_of_set hx hy hactive
      | stopping server t =>
          unfold System.handlerCalls
          simp only [hx]
          exact h
      | returned =>
          unfold System.handlerCalls
          simp only [hx]
          exact h

/-- **Every step keeps it**, of a hands-off program. -/
theorem Kept.step (h : Kept s) (hp : p.HandsOff) (hfollows : NoneStopping p s) (l : Label κ ν) :
    Kept (s.step p l) := by
  cases l with
  | owner op env copy => exact h.ownerCalls op env copy
  | ownerResumes => exact h.ownerResumes
  | deliver n => exact h.deliver n
  | handler i env copy => exact h.handlerCalls hp hfollows i env copy
  | handlerResumes i =>
      rw [System.step, System.handlerResumes]
      split
      · rename_i hx
        exact (hfollows _ (List.mem_of_getElem? hx)).elim
      · exact h

theorem kept_init : Kept (interleaving p : Machine (System κ ν τ) (Label κ ν)).init where
  order _ := inv_init
  waited id hid := by cases hid
  handlers x hx := absurd hx List.not_mem_nil

/-- In every order of the steps, of a hands-off program. -/
theorem Program.HandsOff.keeps (hp : p.HandsOff) (ls : List (Label κ ν)) :
    NoneStopping p ((interleaving p).run ls) ∧ Kept ((interleaving p).run ls) :=
  Machine.run_invariant (I := fun s => NoneStopping p s ∧ Kept s)
    ⟨fun _ hx => absurd hx List.not_mem_nil, kept_init⟩
    (fun _ l ⟨hfollows, h⟩ => ⟨hfollows.step hp.stopFree l, h.step hp hfollows l⟩) ls

end Keeps

/-! ### Programs that start the object -/

section Straight

variable {table : κ → List (PublicOp κ)} {server : GrpcServer} {op : PublicOp κ}
  {ops : List (PublicOp κ)} {s : System κ ν (List (PublicOp κ))}

/-- What a list of operations has left to call is an end of it. -/
theorem straight_reaches {t : List (PublicOp κ)}
    (h : (straight table : Program κ ν (List (PublicOp κ))).Reaches t) :
    ∃ callback, t <:+ table callback := by
  induction h with
  | init callback n => exact ⟨callback, List.suffix_refl _⟩
  | @reply t op k _ hnext r ih =>
      obtain ⟨callback, ht⟩ := ih
      cases t with
      | nil => cases hnext
      | cons op' ops =>
          obtain ⟨-, rfl⟩ := Prod.mk.inj (Option.some.inj hnext)
          exact ⟨callback, (List.suffix_cons op' ops).trans ht⟩

/-- A list of operations that neither start nor stop is hands-off. -/
theorem straight_handsOff (h : ∀ callback, ∀ op ∈ table callback, op.manages = false) :
    (straight table : Program κ ν (List (PublicOp κ))).HandsOff := by
  intro t op k ht hnext
  obtain ⟨callback, hsuffix⟩ := straight_reaches ht
  cases t with
  | nil => cases hnext
  | cons op' ops =>
      obtain ⟨rfl, -⟩ := Prod.mk.inj (Option.some.inj hnext)
      exact h callback _ (hsuffix.subset List.mem_cons_self)

/-- A start that makes its service and no server. -/
def unbuilt : StartEnv ν := { untroubled with buildAndStart := .error (.other "std::bad_alloc") }

/-- **A start from inside a notification** that makes its service leaves the handler
without one. -/
theorem Draining.dangling_start (h : Draining server (op :: ops) s) (hop : op.manages = true)
    (hstop : op ≠ .stop) (hfresh : server.service ≠ some s.object.made) :
    Dangling (s.handlerCalls (straight table) 0 unbuilt (.ok ())) := by
  have hwaits : s.replacesBusy (unbuilt : StartEnv ν) = false := by
    simp [System.replacesBusy, unbuilt, Except.toBool]
  have hcall : ∃ reply c, s.call op unbuilt (.ok ()) = .replies reply c ∧
      c.impl.serviceImpl.map (·.id) = some s.object.made := by
    cases op with
    | stop => exact absurd rfl hstop
    | start listenAddress port =>
        simp only [System.call, System.started, hwaits, start, startServer]
        simp [h.running, unbuilt, untroubled, ClientCallbackServer.newService,
          ClientCallbackServer.setListenPort, ClientCallbackServer.setListenAddress]
    | startWithAutoPort listenAddress =>
        simp only [System.call, System.started, hwaits, startWithAutoPort, startServer]
        simp [h.running, unbuilt, untroubled, ClientCallbackServer.newService,
          ClientCallbackServer.setListenPort, ClientCallbackServer.setListenAddress]
    | _ => cases hop
  obtain ⟨reply, c, hc, hservice⟩ := hcall
  unfold System.handlerCalls
  simp only [h.handlers, List.getElem?_cons_zero, straight, hc]
  refine ⟨⟨server.service, .running ops⟩, ?_, rfl, ?_⟩
  · simp [System.setHandler, h.handlers]
  · show c.impl.serviceImpl.map (·.id) ≠ server.service
    rw [hservice]
    exact hfresh.symm

variable (table) in
/-- The handler calls all that comes before a start, and the start. -/
theorem Draining.dangling {before after : List (PublicOp κ)}
    (hb : ∀ op ∈ before, op.manages = false) (hop : op.manages = true) (hstop : op ≠ .stop)
    (hfresh : server.service ≠ some s.object.made)
    (h : Draining server (before ++ op :: after) s) :
    ∃ ls, Dangling ((interleaving (straight table)).runFrom s ls) := by
  induction before generalizing s with
  | nil => exact ⟨[.handler 0 unbuilt (.ok ())], h.dangling_start hop hstop hfresh⟩
  | cons op' before ih =>
      have hop' : op'.manages = false := hb op' List.mem_cons_self
      have hne : op' ≠ .stop := fun he => by
        rw [he] at hop'
        cases hop'
      have hx : s.handlers[0]? =
          some ⟨server.service, .running (op' :: (before ++ op :: after))⟩ := by
        rw [h.handlers]
        rfl
      obtain ⟨haside, -⟩ :=
        handlerCalls_aside (p := straight table) hx rfl hop' outOfMemory (.ok ())
      obtain ⟨ls, hls⟩ := ih (fun op hm => hb op (List.mem_cons_of_mem _ hm))
        (by rw [haside.made]; exact hfresh) (h.next hne)
      exact ⟨.handler 0 outOfMemory (.ok ()) :: ls, hls⟩

end Straight

/-- **Which callbacks keep their service.**  With a program that leaves starting and
stopping to the owner, in every order of the steps, each running handler runs on the
service held, and the object is in order whenever the owner is not in `Stop`.  With lists
of operations without `Stop`, a handler can come to run on a service that is gone exactly
if one of them starts the object. -/
theorem interleaving_serviceKept :
    (∀ p : Program κ ν τ, p.HandsOff → ∀ ls : List (Label κ ν),
      ¬ Dangling ((interleaving p).run ls) ∧
      (((interleaving p).run ls).owner = none → Inv ((interleaving p).run ls).object.impl)) ∧
    ∀ (table : κ → List (PublicOp κ)) (_ : ν), (∀ callback, .stop ∉ table callback) →
      ((∃ callback, ∃ op ∈ table callback, op.manages = true) ↔
        ∃ ls : List (Label κ ν), Dangling ((interleaving (straight table)).run ls)) := by
  refine ⟨fun p hp ls => ⟨(hp.keeps ls).2.not_dangling, (hp.keeps ls).2.order⟩,
    fun table n hstop => ⟨fun hmanages => ?_, fun hdangling => ?_⟩⟩
  · obtain ⟨callback, op, hmem, hop⟩ := hmanages
    have hfind : ((table callback).find? PublicOp.manages).isSome = true :=
      List.find?_isSome.2 ⟨op, hmem, hop⟩
    obtain ⟨first, hfirst⟩ := Option.isSome_iff_exists.1 hfind
    obtain ⟨hmanages, before, after, htable, hb⟩ := List.find?_eq_some_iff_append.1 hfirst
    have hne : first ≠ .stop := by
      rintro rfl
      exact hstop callback (htable ▸ List.mem_append_right _ List.mem_cons_self)
    have hdrain : Draining { service := some 0, host := "127.0.0.1", port := 50052 }
        (before ++ first :: after)
        ((interleaving (straight table)).run (overtaken callback n)) :=
      htable ▸ draining_overtaken callback n
    obtain ⟨ls, hls⟩ := hdrain.dangling table (fun op hm => by simpa using hb op hm) hmanages hne
      (show (some 0 : Option ℕ) ≠ some 1 by decide)
    exact ⟨overtaken callback n ++ ls, by rw [Machine.run_append]; exact hls⟩
  · by_contra hno
    obtain ⟨ls, hls⟩ := hdangling
    refine ((straight_handsOff fun callback op hm => ?_).keeps ls).2.not_dangling hls
    cases hop : op.manages with
    | false => rfl
    | true => exact absurd ⟨callback, op, hm, hop⟩ hno

/-- A callback that asks whether the object runs keeps its service while the owner stops
the object; one that starts it again can lose it. -/
theorem interleaving_serviceKept_start :
    ¬ Dangling ((interleaving (straight fun _ : Unit => [.isRunning])).run
      (overtaken () () ++ [.handler 0 outOfMemory (.ok ())])) ∧
    ∃ ls : List (Label Unit Unit), Dangling ((interleaving
      (straight fun _ : Unit => [.isRunning, .start "127.0.0.1" 50053])).run ls) :=
  ⟨((@interleaving_serviceKept Unit Unit (List (PublicOp Unit))).1 _
      (straight_handsOff fun _ op hm => by rw [List.mem_singleton.1 hm]; rfl) _).1,
    ((@interleaving_serviceKept Unit Unit Unit).2 _ () fun _ => by simp).1
      ⟨(), _, List.mem_cons_of_mem _ List.mem_cons_self, rfl⟩⟩

end Deadlock
end Callback
end ClientSdk
