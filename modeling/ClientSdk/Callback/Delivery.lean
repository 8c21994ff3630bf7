/-
# Notifications and the callback they are handed to

`source/robot/client/client_callback_server.cpp`: `OnSubscriptionMessage` and
`SetSubscriptionMessageCallback` over the whole life of an object.

What an object owes its user is said of the events alone.  Reading them in order
tells which callback was set last and which callback the live server was started
with (`Told`); the copy a start takes is not part of it.  A notification
delivered to the live server is followed at once by the run of the callback the
server was started with, on that notification, or by nothing but the answer if
there was none; a callback runs on nothing else (`Handed`).

The object keeps up with what is told (`KeepsUp`): the callback it holds is the
one set last, and the service of its live server holds the callback that server
was started with.
-/

import ClientSdk.Callback.Lifecycle
import ClientSdk.Lib.Trace

namespace ClientSdk
namespace Callback

open Common Lib

variable {κ ν : Type} {c c' : ClientCallbackServer κ ν} {listenAddress : String} {port : ℤ}
  {env : StartEnv ν}

/-! ### What the events tell -/

/-- What was heard of an object: the callback set last, and while a server is
live the callback it was started with. -/
structure Told (κ : Type) where
  current : Option κ := none
  serving : Option (Option κ) := none

/-- One event more. -/
def Told.step (t : Told κ) : Event κ ν → Told κ
  | .callbackSet callback => { t with current := callback }
  | .serverStarted _ => { t with serving := some t.current }
  | .stopped => { t with serving := none }
  | _ => t

/-- What the events `es` tell. -/
def told (es : List (Event κ ν)) : Told κ := es.foldl Told.step {}

@[simp] theorem told_nil : told ([] : List (Event κ ν)) = {} := rfl

@[simp] theorem told_append (es es' : List (Event κ ν)) :
    told (es ++ es') = es'.foldl Told.step (told es) := List.foldl_append

/-- What follows a notification handed to `callback`: its one run and the
answer. -/
def Answers (callback : Option κ) (notification : ν) (post : List (Event κ ν)) : Prop :=
  ∃ ret, match callback with
    | none => [.acknowledged ret] <+: post
    | some callback => [.callbackRun callback notification, .acknowledged ret] <+: post

/-- What holds where an event stands: a delivered notification meets a live
server and is answered by the callback that server was started with, a callback
runs only on the notification delivered just before, and no notification meets a
service that is gone. -/
def Handed (pre : List (Event κ ν)) (e : Event κ ν) (post : List (Event κ ν)) : Prop :=
  match e with
  | .delivered n => ∃ callback, (told pre).serving = some callback ∧ Answers callback n post
  | .callbackRun callback n =>
      (told pre).serving = some (some callback) ∧ ∃ pre', pre = pre' ++ [.delivered n]
  | .serviceGone _ => False
  | _ => True

theorem staysMet_handed : StaysMet (@Handed κ ν) := by
  intro pre e post more h
  cases e with
  | delivered n =>
      obtain ⟨callback, hs, ret, ha⟩ := h
      refine ⟨callback, hs, ret, ?_⟩
      cases callback with
      | none => exact ha.trans (List.prefix_append post more)
      | some callback => exact ha.trans (List.prefix_append post more)
  | _ => exact h

/-- An event that is no part of a notification's way. -/
def Event.Aside : Event κ ν → Prop
  | .delivered _ | .serviceGone _ | .callbackRun _ _ => False
  | _ => True

theorem Event.Aside.handed {e : Event κ ν} (h : e.Aside) (pre post : List (Event κ ν)) :
    Handed pre e post := by
  cases e <;> trivial

/-! ### The object keeps up -/

/-- The object holds the callback that was set last, and its live server the
callback it was started with. -/
structure KeepsUp (c : ClientCallbackServer κ ν) : Prop where
  current : (told c.events).current = c.impl.messageCallback
  up : ∀ s, c.impl.liveServer = some s → ∃ service, c.impl.serviceImpl = some service ∧
    s.service = some service.id ∧ (told c.events).serving = some service.messageCallback
  down : c.impl.liveServer = none → (told c.events).serving = none
  handed : EachEvent Handed c.events

theorem keepsUp_init : KeepsUp (history.init : ClientCallbackServer κ ν) where
  current := rfl
  up s hs := by cases hs
  down _ := rfl
  handed := eachEvent_nil _

/-- The events of one call of a service, by the callback it holds. -/
theorem onSubscriptionMessage_eq (service : ClientCallbackServiceImpl κ) (d : Delivery ν) :
    ∃ ret, (service.onSubscriptionMessage d : List (Event κ ν)) =
      match service.messageCallback with
      | none => [.acknowledged ret]
      | some callback => [.callbackRun callback d.notification, .acknowledged ret] := by
  unfold ClientCallbackServiceImpl.onSubscriptionMessage
  cases service.messageCallback with
  | none => exact ⟨0, rfl⟩
  | some callback =>
      cases d.raised with
      | none => exact ⟨0, rfl⟩
      | some e => exact ⟨_, rfl⟩

/-- A live server whose service is the one held hands a notification to it. -/
theorem deliver_of_live {s : GrpcServer} {service : ClientCallbackServiceImpl κ}
    (hlive : c.impl.liveServer = some s) (hheld : c.impl.serviceImpl = some service)
    (hreg : s.service = some service.id) (d : Delivery ν) :
    c.deliver d = c.log (.delivered d.notification :: service.onSubscriptionMessage d) := by
  have hregistered : c.registered s = some service := by
    simp [ClientCallbackServer.registered, hheld, hreg]
  rw [ClientCallbackServer.deliver, hlive]
  simp only [hregistered]

theorem deliver_of_not_live (hlive : c.impl.liveServer = none) (d : Delivery ν) :
    c.deliver d = c := by
  rw [ClientCallbackServer.deliver, hlive]

/-- A notification tells nothing of callbacks set and servers started. -/
theorem told_delivered (es : List (Event κ ν)) (service : ClientCallbackServiceImpl κ)
    (d : Delivery ν) :
    told (es ++ .delivered d.notification :: service.onSubscriptionMessage d) = told es := by
  obtain ⟨ret, hret⟩ := onSubscriptionMessage_eq service d
  rw [hret, told_append]
  cases service.messageCallback <;> rfl

/-- The events of a notification are as they should be where its server was
started with the callback of its service. -/
theorem handed_delivered {es : List (Event κ ν)} {service : ClientCallbackServiceImpl κ}
    (hs : (told es).serving = some service.messageCallback) (d : Delivery ν) :
    EachEvent (fun pre e post => Handed (es ++ pre) e post)
      (.delivered d.notification :: service.onSubscriptionMessage d) := by
  obtain ⟨ret, hret⟩ := onSubscriptionMessage_eq service d
  have hfirst : Handed (es ++ []) (.delivered d.notification)
      (service.onSubscriptionMessage d) := by
    refine ⟨service.messageCallback, by rw [List.append_nil]; exact hs, ret, ?_⟩
    rw [hret]
    cases service.messageCallback <;> exact List.prefix_rfl
  refine eachEvent_cons.2 ⟨hfirst, ?_⟩
  rw [hret]
  cases hcb : service.messageCallback with
  | none => exact eachEvent_cons.2 ⟨trivial, eachEvent_nil _⟩
  | some callback =>
      refine eachEvent_cons.2 ⟨⟨?_, es, rfl⟩, eachEvent_cons.2 ⟨trivial, eachEvent_nil _⟩⟩
      rw [told_append, ← hcb]
      exact hs

/-- **A notification is handed on as it should be.** -/
theorem KeepsUp.deliver (h : KeepsUp c) (d : Delivery ν) : KeepsUp (c.deliver d) := by
  cases hlive : c.impl.liveServer with
  | none =>
      rw [deliver_of_not_live hlive]
      exact h
  | some s =>
      obtain ⟨service, hheld, hreg, hserving⟩ := h.up s hlive
      have hd := deliver_of_live hlive hheld hreg d
      have htold : told (c.deliver d).events = told c.events := by
        rw [hd, ClientCallbackServer.events_log, told_delivered]
      refine ⟨?_, ?_, ?_, ?_⟩
      · rw [htold, ClientCallbackServer.impl_deliver, h.current]
      · rw [htold, ClientCallbackServer.impl_deliver]
        exact h.up
      · rw [htold, ClientCallbackServer.impl_deliver]
        exact h.down
      · rw [hd]
        exact h.handed.append staysMet_handed (handed_delivered hserving d)

theorem KeepsUp.deliverAll (h : KeepsUp c) (ds : List (Delivery ν)) :
    KeepsUp (c.deliverAll ds) := by
  induction ds generalizing c with
  | nil => exact h
  | cons d ds ih => exact ih (h.deliver d)

/-- An object without a live server keeps up if it holds the callback set last,
whatever else of it changes. -/
theorem KeepsUp.of_down (h : KeepsUp c) (hdown : c.impl.liveServer = none)
    (hevents : c'.events = c.events) (hdown' : c'.impl.liveServer = none)
    (hcb : c'.impl.messageCallback = c.impl.messageCallback) : KeepsUp c' where
  current := by rw [hevents, hcb, h.current]
  up s hs := by rw [hdown'] at hs; cases hs
  down _ := by rw [hevents, h.down hdown]
  handed := by rw [hevents]; exact h.handed

/-- A change of the members that a notification does not meet. -/
theorem KeepsUp.of_same (h : KeepsUp c) (hevents : c'.events = c.events)
    (hserver : c'.impl.server = c.impl.server)
    (hservice : c'.impl.serviceImpl = c.impl.serviceImpl)
    (hcb : c'.impl.messageCallback = c.impl.messageCallback) : KeepsUp c' where
  current := by rw [hevents, hcb, h.current]
  up s hs := by
    rw [Impl.liveServer, hserver] at hs
    rw [hevents, hservice]
    exact h.up s hs
  down hs := by
    rw [Impl.liveServer, hserver] at hs
    rw [hevents]
    exact h.down hs
  handed := by rw [hevents]; exact h.handed

/-- One event aside of the notifications. -/
theorem handed_concat (h : EachEvent Handed c.events) {e : Event κ ν} (he : e.Aside) :
    EachEvent Handed (c.events ++ [e]) :=
  h.concat staysMet_handed (he.handed _ _)

/-- An object keeps up with its `Stop`. -/
theorem KeepsUp.stopped (h : KeepsUp c) (hevents : c'.events = c.events ++ [.stopped])
    (hdown : c'.impl.liveServer = none)
    (hcb : c'.impl.messageCallback = c.impl.messageCallback) : KeepsUp c' where
  current := by rw [hevents, told_append, hcb]; exact h.current
  up s hs := by rw [hdown] at hs; cases hs
  down _ := by rw [hevents, told_append]; rfl
  handed := by rw [hevents]; exact handed_concat h.handed trivial

theorem KeepsUp.stop (h : KeepsUp c) (hi : Inv c.impl) (draining : List (Delivery ν)) :
    KeepsUp (c.stop draining) := by
  have hdown : (c.stop draining).impl.liveServer = none := (hi.stop draining).liveServer
  have hclear : KeepsUp c.clearRunning := h.of_same rfl rfl rfl rfl
  cases hs : c.impl.server with
  | some s =>
      rw [stop_of_some draining hs] at hdown ⊢
      exact (hclear.deliverAll draining).stopped rfl hdown rfl
  | none =>
      rw [stop_of_none draining hs] at hdown ⊢
      exact hclear.stopped rfl hdown rfl

/-- The new server starts with the callback set last. -/
theorem KeepsUp.newServer (h : KeepsUp c) (host : String) (bound : ℤ) :
    KeepsUp (c.newService.newServer host bound) where
  current := by
    show (told (c.events ++ [.serverStarted _])).current = c.impl.messageCallback
    rw [told_append]
    exact h.current
  up s hs := by
    obtain rfl := Option.some.inj hs
    refine ⟨_, rfl, rfl, ?_⟩
    show (told (c.events ++ [.serverStarted _])).serving = some c.impl.messageCallback
    rw [told_append, ← h.current]
    rfl
  down hs := by cases hs
  handed := handed_concat h.handed trivial

theorem KeepsUp.newThread (h : KeepsUp c) : KeepsUp c.newThread where
  current := by
    show (told (c.events ++ [.threadAssigned _])).current = c.impl.messageCallback
    rw [told_append]
    exact h.current
  up s hs := by
    obtain ⟨service, hheld, hreg, hserving⟩ := h.up s hs
    refine ⟨service, hheld, hreg, ?_⟩
    show (told (c.events ++ [.threadAssigned _])).serving = some service.messageCallback
    rw [told_append]
    exact hserving
  down hs := by
    show (told (c.events ++ [.threadAssigned _])).serving = none
    rw [told_append]
    exact h.down hs
  handed := handed_concat h.handed trivial

/-- An object keeps up with a start, if recording the port touches nothing that
a notification meets. -/
theorem KeepsUp.startServer {record : ClientCallbackServer κ ν → ClientCallbackServer κ ν}
    (h : KeepsUp c) (hi : Inv c.impl) (hrecord : ∀ c, KeepsUp c → KeepsUp (record c)) :
    KeepsUp (Callback.startServer listenAddress port record env c).2 := by
  have hlive (hidle : Idle c.impl) : KeepsUp (live listenAddress port record env c) := by
    have hprepared : KeepsUp (prepared listenAddress port c) :=
      h.of_down hidle.liveServer rfl hidle.liveServer rfl
    have hserving : KeepsUp (serving listenAddress port env c) :=
      (hprepared.newServer listenAddress (env.boundPort port)).deliverAll env.early
    exact (hrecord _ hserving).of_same rfl rfl rfl rfl
  rcases startServer_cases listenAddress port record env c with
    ⟨-, he⟩ | ⟨hrun, -, status, c', he, -, hf⟩ | ⟨hrun, -, e, he⟩ | ⟨hrun, -, he⟩ <;> rw [he]
  · exact h
  · have hidle := hi.idle hrun
    have hidle' := hidle.failed hf
    refine h.of_down hidle.liveServer ?_ hidle'.liveServer ?_
    · cases hf <;> rfl
    · cases hf <;> rfl
  · exact hlive (hi.idle hrun)
  · exact (hlive (hi.idle hrun)).newThread

/-- **An object keeps up with every operation.** -/
theorem KeepsUp.perform (h : KeepsUp c) (hi : Inv c.impl) (op : Operation κ ν) :
    KeepsUp (op.perform c) := by
  cases op with
  | start listenAddress port env => exact h.startServer hi fun _ h => h
  | startWithAutoPort listenAddress assignedPort env =>
      refine KeepsUp.startServer (c := c.setAssignedPort assignedPort)
        (h.of_same rfl rfl rfl rfl) hi fun c h => ?_
      exact h.of_same rfl rfl rfl rfl
  | stop draining => exact h.stop hi draining
  | setCallback callback copy =>
      rcases setSubscriptionMessageCallback_cases callback copy c with ⟨e, he⟩ | ⟨hrun, he⟩
      · rw [Operation.perform, he]
        exact h
      · rw [Operation.perform, he]
        have hdown : c.impl.liveServer = none := (hi.idle hrun).liveServer
        refine ⟨?_, fun s hs => ?_, fun _ => ?_, handed_concat h.handed trivial⟩
        · rw [told_append]
          rfl
        · have hnone : some s = none := hs.symm.trans hdown
          cases hnone
        · rw [told_append]
          exact h.down hdown
  | deliver d => exact h.deliver d

theorem history_keepsUp (ops : List (Operation κ ν)) : KeepsUp (history.run ops) := by
  have hboth := Machine.run_invariant
    (I := fun c : ClientCallbackServer κ ν => Inv c.impl ∧ KeepsUp c) (M := history)
    ⟨inv_init, keepsUp_init⟩ (fun c op ⟨hi, h⟩ => ⟨hi.perform op, h.perform hi op⟩) ops
  exact hboth.2

/-! ### Silence after a stop -/

/-- No server is started among the events `es`. -/
def NoStart (es : List (Event κ ν)) : Prop := ∀ whileLive, .serverStarted whileLive ∉ es

/-- No server is live after a stop until one is started. -/
theorem told_serving_of_noStart {es : List (Event κ ν)} (h : NoStart es) (t : Told κ)
    (ht : t.serving = none) : (es.foldl Told.step t).serving = none := by
  induction es generalizing t with
  | nil => exact ht
  | cons e es ih =>
      refine ih (fun b hb => h b (List.mem_cons_of_mem _ hb)) _ ?_
      cases e with
      | serverStarted b => exact absurd List.mem_cons_self (h b)
      | stopped => rfl
      | _ => exact ht

/-- After a `Stop` no callback runs until a server is started. -/
theorem silent_of_handed {pre mid post : List (Event κ ν)}
    (h : EachEvent Handed (pre ++ .stopped :: mid ++ post)) (hmid : NoStart mid)
    (callback : κ) (n : ν) : .callbackRun callback n ∉ mid := by
  intro hmem
  obtain ⟨before, after, rfl⟩ := List.mem_iff_append.1 hmem
  have hbefore : NoStart before := fun b hb => hmid b (List.mem_append_left _ hb)
  have hrun : Handed (pre ++ .stopped :: before) (.callbackRun callback n) (after ++ post) :=
    h _ _ _ (by simp)
  obtain ⟨hserving, -⟩ := hrun
  rw [told_append, List.foldl_cons, told_serving_of_noStart hbefore _ rfl] at hserving
  cases hserving

/-! ### What the operations record -/

theorem clearRunning_deliverAll (c : ClientCallbackServer κ ν) (ds : List (Delivery ν)) :
    c.clearRunning.deliverAll ds = (c.deliverAll ds).clearRunning := by
  induction ds generalizing c with
  | nil => rfl
  | cons d ds ih =>
      have hd : c.clearRunning.deliver d = (c.deliver d).clearRunning := by
        unfold ClientCallbackServer.deliver
        cases hlive : c.impl.liveServer with
        | none => simp only [show c.clearRunning.impl.liveServer = none from hlive]
        | some s =>
            simp only [show c.clearRunning.impl.liveServer = some s from hlive,
              show c.clearRunning.registered s = c.registered s from rfl]
            cases c.registered s <;> rfl
      have hstep : c.clearRunning.deliverAll (d :: ds) = (c.clearRunning.deliver d).deliverAll ds :=
        rfl
      rw [hstep, hd, ih]
      rfl

theorem deliverAll_of_not_live (hlive : c.impl.liveServer = none) (ds : List (Delivery ν)) :
    c.deliverAll ds = c := by
  induction ds with
  | nil => rfl
  | cons d ds ih => exact (congrArg (·.deliverAll ds) (deliver_of_not_live hlive d)).trans ih

/-- A `Stop` records the notifications that drain and that it returned. -/
theorem events_stop (c : ClientCallbackServer κ ν) (draining : List (Delivery ν)) :
    (c.stop draining).events = (c.deliverAll draining).events ++ [.stopped] := by
  cases hs : c.impl.server with
  | some s =>
      rw [stop_of_some draining hs, clearRunning_deliverAll]
      rfl
  | none =>
      have hlive : c.impl.liveServer = none := by simp [Impl.liveServer, hs]
      rw [stop_of_none draining hs, deliverAll_of_not_live hlive]
      rfl

/-- A start that builds a server records that. -/
theorem events_startServer {record : ClientCallbackServer κ ν → ClientCallbackServer κ ν}
    (hevents : ∀ c, (record c).events = c.events) (hi : Inv c.impl) (hrun : c.isRunning = false)
    (hb : env.Builds) :
    ∃ post, (Callback.startServer listenAddress port record env c).2.events =
      c.events ++ .serverStarted false :: post := by
  obtain ⟨es, hes, -⟩ := safelyExtends_deliverAll
    ((prepared listenAddress port c).newService.newServer listenAddress (env.boundPort port))
    env.early
  have hlive : (live listenAddress port record env c).events =
      c.events ++ .serverStarted false :: es := by
    refine (hevents _).trans (hes.trans ?_)
    have hdown : c.impl.liveServer.isSome = false := hi.running.symm.trans hrun
    show c.events ++ [.serverStarted c.impl.liveServer.isSome] ++ es = _
    rw [hdown, List.append_assoc, List.singleton_append]
  cases ht : env.makeThread with
  | error e =>
      rw [startServer_of_thread_error hrun hb ht]
      exact ⟨es, hlive⟩
  | ok u =>
      rw [startServer_of_thread hrun hb ht]
      refine ⟨es ++ [.threadAssigned (live listenAddress port record env c).impl.serverThread], ?_⟩
      show (live listenAddress port record env c).events ++ _ = _
      rw [hlive, List.append_assoc, List.cons_append]

/-- What the operations record: a notification to a running object is delivered and
answered by the callback its server was started with, one to an object that does not run
is not; a `Stop`, a callback set and a server built are recorded as such. -/
structure Records (c : ClientCallbackServer κ ν) : Prop where
  delivers : ∀ d : Delivery ν, c.isRunning = true → ∃ callback post,
    (told c.events).serving = some callback ∧ Answers callback d.notification post ∧
      (c.deliver d).events = c.events ++ .delivered d.notification :: post
  ignores : ∀ d : Delivery ν, c.isRunning = false → c.deliver d = c
  stops : ∀ draining, (c.stop draining).events = (c.deliverAll draining).events ++ [.stopped]
  sets : ∀ callback, c.isRunning = false →
    setSubscriptionMessageCallback callback (.ok ()) c =
      (.ok (), { c with
        impl.messageCallback := callback, events := c.events ++ [.callbackSet callback] })
  starts : ∀ listenAddress port (env : StartEnv ν), c.isRunning = false → env.Builds →
    ∃ post, (start listenAddress port env c).2.events = c.events ++ .serverStarted false :: post
  startsAuto : ∀ listenAddress (env : StartEnv ν), c.isRunning = false → env.Builds →
    ∃ post, (startWithAutoPort listenAddress env c).2.events =
      c.events ++ .serverStarted false :: post

theorem KeepsUp.records (h : KeepsUp c) (hi : Inv c.impl) : Records c where
  delivers d hrun := by
    obtain ⟨s, hlive⟩ := Option.isSome_iff_exists.1 (hi.running.symm.trans hrun)
    obtain ⟨service, hheld, hreg, hserving⟩ := h.up s hlive
    obtain ⟨ret, hret⟩ := onSubscriptionMessage_eq service d
    refine ⟨service.messageCallback, _, hserving, ⟨ret, ?_⟩,
      congrArg ClientCallbackServer.events (deliver_of_live hlive hheld hreg d)⟩
    rw [hret]
    cases service.messageCallback <;> exact List.prefix_rfl
  ignores d hrun := deliver_of_not_live (hi.idle hrun).liveServer d
  stops draining := events_stop c draining
  sets callback hrun := by
    have hrunning : c.impl.running = false := hrun
    simp [setSubscriptionMessageCallback, hrunning]
  starts listenAddress port env hrun hb := events_startServer (fun _ => rfl) hi hrun hb
  startsAuto listenAddress env hrun hb := events_startServer (fun _ => rfl) hi hrun hb

/-- **Notifications over the life of a callback server.**  After every history:
each notification delivered was handed, unchanged and once, to the callback set
last before the start of the server that was live, and callbacks ran on nothing
else; a callback set while the object runs is refused and changes nothing; after a
`Stop` no callback runs until a server is started; and the operations to come are
recorded as what they are. -/
theorem history_delivery (ops : List (Operation κ ν)) :
    let c : ClientCallbackServer κ ν := history.run ops
    EachEvent Handed c.events ∧
      (c.isRunning = true → ∀ callback copy,
        setSubscriptionMessageCallback callback copy c = (.error setWhileRunning, c)) ∧
      (∀ pre mid post, c.events = pre ++ .stopped :: mid ++ post → NoStart mid →
        ∀ callback n, .callbackRun callback n ∉ mid) ∧
      Records c := by
  intro c
  have hk : KeepsUp c := history_keepsUp ops
  refine ⟨hk.handed, fun hrun callback copy => ?_, fun pre mid post heq hmid callback n => ?_,
    hk.records (history_inv ops)⟩
  · exact setSubscriptionMessageCallback_of_running hrun callback copy
  · have hhanded : EachEvent Handed (pre ++ .stopped :: mid ++ post) := heq ▸ hk.handed
    exact silent_of_handed hhanded hmid callback n

end Callback
end ClientSdk
