/-
# What callback servers are for

`source/robot/client/client_callback_server.cpp`: any number of objects on a network are
mailboxes, and nothing more.

Behind an object stand a server and a service that registers with it, a copy of the
callback in it, a thread, recorded members that a start writes one by one and that a failed
one leaves half written.  Of all this a user is meant to see a box: it is opened where its
server is bound, for the callback set last, unless it is open; while it is open it hands on
what comes; and it is closed by `Stop`.  That is what there is to see (`network_refines`),
whatever addresses the servers share and wherever the network takes a push: what the
callbacks of all objects run on, over any operations of the objects and any pushes, is what
the readers of the boxes read.
-/

import ClientSdk.Callback.Network
import ClientSdk.Lib.Mailbox

namespace ClientSdk
namespace Callback

open Common Lib

variable {κ ν : Type}

/-! ### The mailbox of an object -/

/-- What an event handed to a callback. -/
def Event.handedOn : Event κ ν → Option (κ × ν)
  | .callbackRun callback notification => some (callback, notification)
  | _ => none

/-- What a user is meant to see of an object. -/
def ClientCallbackServer.mailbox (c : ClientCallbackServer κ ν) : Mailbox String κ ν where
  reader := c.impl.messageCallback
  opened := c.impl.liveServer.map fun s =>
    (endpoint s.host s.port, c.impl.serviceImpl.bind (·.messageCallback))
  read := c.events.filterMap Event.handedOn

/-- What an operation of the object `i` is for its mailbox. -/
def Operation.orders (i : ℕ) : Operation κ ν → List (Order String κ ν)
  | .start listenAddress port env =>
      if env.Builds then
        [.opens i (endpoint listenAddress (env.boundPort port))
          (env.early.map Delivery.notification)]
      else []
  | .startWithAutoPort listenAddress _ env =>
      if env.Builds then
        [.opens i (endpoint listenAddress (env.boundPort 0))
          (env.early.map Delivery.notification)]
      else []
  | .stop draining => [.closes i (draining.map Delivery.notification)]
  | .setCallback callback copy => if copy = .ok () then [.assigns i callback] else []
  | .deliver d => [.receives i d.notification]

/-- What happens on a network, for the mailboxes. -/
def Happening.orders : Happening κ ν → List (Order String κ ν)
  | .constructs => [.adds]
  | .performs i op => op.orders i
  | .pushes _ (some i) d => [.receives i d.notification]
  | .pushes _ none _ => []

/-! ### What an object does to its mailbox -/

/-- The service registered with a live server is the one held. -/
def Impl.Registered (i : Impl κ) : Prop :=
  ∀ s, i.liveServer = some s →
    ∃ service, i.serviceImpl = some service ∧ s.service = some service.id

variable {c c' : ClientCallbackServer κ ν}

/-- The mailbox is open while the object runs. -/
theorem Inv.opened_mailbox (h : Inv c.impl) : c.mailbox.opened.isSome = c.impl.running := by
  rw [h.running, ClientCallbackServer.mailbox, Option.isSome_map]

/-- Events are read from the callbacks they ran. -/
theorem mailbox_log (c : ClientCallbackServer κ ν) (es : List (Event κ ν)) :
    (c.log es).mailbox =
      { c.mailbox with read := c.mailbox.read ++ es.filterMap Event.handedOn } := by
  simp [ClientCallbackServer.mailbox, ClientCallbackServer.log]

/-- An event that runs no callback is not to be seen. -/
theorem mailbox_log_of_none (c : ClientCallbackServer κ ν) {e : Event κ ν}
    (he : e.handedOn = none) : (c.log [e]).mailbox = c.mailbox := by
  rw [mailbox_log, List.filterMap_cons_none he, List.filterMap_nil, List.append_nil]

/-- A notification is read as it comes. -/
theorem mailbox_deliver (h : c.impl.Registered) (d : Delivery ν) :
    (c.deliver d).mailbox = c.mailbox.receive d.notification := by
  cases hlive : c.impl.liveServer with
  | none =>
      have hclosed : c.mailbox.opened = none := by simp [ClientCallbackServer.mailbox, hlive]
      rw [deliver_of_not_live hlive, Mailbox.receive_of_closed hclosed]
  | some s =>
      obtain ⟨service, hheld, hreg⟩ := h s hlive
      obtain ⟨ret, hret⟩ := onSubscriptionMessage_eq service d
      have hreader : c.mailbox.opened = some (endpoint s.host s.port, service.messageCallback) := by
        simp [ClientCallbackServer.mailbox, hlive, hheld]
      rw [deliver_of_live hlive hheld hreg, mailbox_log, hret]
      cases hcb : service.messageCallback with
      | none =>
          have hnothing : List.filterMap (Event.handedOn : Event κ ν → Option (κ × ν))
              [.delivered d.notification, .acknowledged ret] = [] := rfl
          rw [Mailbox.receive_of_no_reader (hreader.trans (by rw [hcb])), hnothing,
            List.append_nil]
      | some callback =>
          rw [Mailbox.receive_of_reader (hreader.trans (by rw [hcb]))]
          rfl

theorem mailbox_deliverAll (h : c.impl.Registered) (ds : List (Delivery ν)) :
    (c.deliverAll ds).mailbox = c.mailbox.receiveAll (ds.map Delivery.notification) := by
  induction ds generalizing c with
  | nil => rfl
  | cons d ds ih =>
      have hd : (c.deliver d).impl.Registered := by rwa [ClientCallbackServer.impl_deliver]
      refine (ih hd).trans ?_
      rw [mailbox_deliver h]
      rfl

/-- A new server opens the mailbox for the callback held. -/
theorem mailbox_newServer (c : ClientCallbackServer κ ν) (host : String) (port : ℤ) :
    (c.newService.newServer host port).mailbox =
      { c.mailbox with opened := some (endpoint host port, c.mailbox.reader) } := by
  let c' := { c.newService with
    impl.server := some { service := some c.made, host := host, port := port } }
  exact mailbox_log_of_none c' (e := .serverStarted c.impl.liveServer.isSome) rfl

section Start

variable {listenAddress : String} {port : ℤ} {env : StartEnv ν}
  {record : ClientCallbackServer κ ν → ClientCallbackServer κ ν}

/-- What a failed start leaves half written is not to be seen. -/
theorem Failed.mailbox (h : Idle c.impl) (hf : Failed listenAddress port env c c') :
    c'.mailbox = c.mailbox := by
  have hclosed := h.liveServer
  have hclosed' := (h.failed hf).liveServer
  have hsame : c'.impl.messageCallback = c.impl.messageCallback ∧ c'.events = c.events := by
    cases hf <;> exact ⟨rfl, rfl⟩
  simp [ClientCallbackServer.mailbox, hclosed, hclosed', hsame]

/-- A start that built its server opened the mailbox. -/
theorem mailbox_live (h : Idle c.impl) (hr : ∀ c, (record c).mailbox = c.mailbox) :
    (live listenAddress port record env c).mailbox =
      c.mailbox.openAt (endpoint listenAddress (env.boundPort port))
        (env.early.map Delivery.notification) := by
  let c₀ := (prepared listenAddress port c).newService.newServer listenAddress (env.boundPort port)
  have hregistered : c₀.impl.Registered := by
    intro s hs
    obtain rfl := Option.some.inj hs
    exact ⟨_, rfl, rfl⟩
  have hclosed : c.mailbox.opened = none := by
    simp [ClientCallbackServer.mailbox, h.liveServer]
  have hopened : c₀.mailbox = { c.mailbox with
      opened := some (endpoint listenAddress (env.boundPort port), c.mailbox.reader) } :=
    mailbox_newServer (prepared listenAddress port c) listenAddress (env.boundPort port)
  calc (live listenAddress port record env c).mailbox
      = (record (c₀.deliverAll env.early)).mailbox := rfl
    _ = c₀.mailbox.receiveAll (env.early.map Delivery.notification) := by
        rw [hr, mailbox_deliverAll hregistered]
    _ = c.mailbox.openAt (endpoint listenAddress (env.boundPort port))
          (env.early.map Delivery.notification) := by
        rw [hopened, Mailbox.openAt, hclosed]
        rfl

/-- **A start opens the mailbox** where its server is bound, if it builds one. -/
theorem mailbox_startServer (h : Inv c.impl) (hr : ∀ c, (record c).mailbox = c.mailbox) :
    (startServer listenAddress port record env c).2.mailbox =
      if env.Builds then c.mailbox.openAt (endpoint listenAddress (env.boundPort port))
        (env.early.map Delivery.notification)
      else c.mailbox := by
  rcases startServer_cases listenAddress port record env c with
    ⟨hrun, he⟩ | ⟨hrun, hb, status, c', he, -, hf⟩ | ⟨hrun, hb, e, he⟩ | ⟨hrun, hb, he⟩ <;> rw [he]
  · have hopen : c.mailbox.opened.isSome = true := h.opened_mailbox.trans hrun
    rw [Mailbox.openAt, if_pos hopen, ite_self]
  · rw [if_neg hb]
    exact hf.mailbox (h.idle hrun)
  · rw [if_pos hb]
    exact mailbox_live (h.idle hrun) hr
  · rw [if_pos hb, ← mailbox_live (h.idle hrun) hr]
    exact mailbox_log_of_none (live listenAddress port record env c) rfl

end Start

/-- A server that is shut down takes nothing in. -/
theorem mailbox_shutdown (c : ClientCallbackServer κ ν) :
    c.shutdownServer.joinThread.mailbox = { c.mailbox with opened := none } := by
  have hdown : c.shutdownServer.joinThread.impl.liveServer = none := by
    cases hs : c.impl.server <;>
      simp [ClientCallbackServer.joinThread, ClientCallbackServer.shutdownServer, Impl.liveServer,
        hs]
  rw [ClientCallbackServer.mailbox, hdown]
  rfl

/-- **`Stop` closes the mailbox.** -/
theorem mailbox_stop (h : Inv c.impl) (draining : List (Delivery ν)) :
    (c.stop draining).mailbox = c.mailbox.close (draining.map Delivery.notification) := by
  cases hs : c.impl.server with
  | some s =>
      have hregistered : c.clearRunning.impl.Registered := h.service
      have hdrained : (c.clearRunning.deliverAll draining).mailbox =
          c.mailbox.receiveAll (draining.map Delivery.notification) :=
        mailbox_deliverAll hregistered draining
      rw [stop_of_some draining hs, mailbox_log_of_none _ rfl, mailbox_shutdown, hdrained,
        Mailbox.close]
  | none =>
      have hclosed : c.mailbox.opened = none := by
        simp [ClientCallbackServer.mailbox, Impl.liveServer, hs]
      have hsame : c.clearRunning.mailbox = c.mailbox := rfl
      rw [stop_of_none draining hs, mailbox_log_of_none _ rfl, Mailbox.close,
        Mailbox.receiveAll_of_closed hclosed, hsame, ← hclosed]

/-- **Setting the callback assigns the reader.** -/
theorem mailbox_setCallback (h : Inv c.impl) (callback : Option κ)
    (copy : Except StdException Unit) :
    (setSubscriptionMessageCallback callback copy c).2.mailbox =
      if copy = .ok () then c.mailbox.assign callback else c.mailbox := by
  have hopen := h.opened_mailbox
  unfold setSubscriptionMessageCallback Mailbox.assign
  cases hrun : c.impl.running with
  | true => simp [hopen, hrun]
  | false =>
      cases copy with
      | error e => simp
      | ok u =>
          rw [hrun] at hopen
          simp only [hopen, if_true]
          exact mailbox_log_of_none { c with impl.messageCallback := callback }
            (e := .callbackSet callback) rfl

/-! ### What a network does to its mailboxes -/

section Networks

variable {w : Network κ ν} {i : ℕ}

/-- An operation of an object that is not there is none for the mailboxes. -/
theorem map_perform_of_none (hc : w.objects[i]? = none) (op : Operation κ ν) :
    mailboxes.runFrom (w.objects.map ClientCallbackServer.mailbox) (op.orders i) =
      w.objects.map ClientCallbackServer.mailbox := by
  have hsame (f : Mailbox String κ ν → Mailbox String κ ν) :
      (w.objects.map ClientCallbackServer.mailbox).modify i f =
        w.objects.map ClientCallbackServer.mailbox := modify_of_none hc
  cases op with
  | stop draining => exact hsame _
  | deliver d => exact hsame _
  | _ =>
      rw [Operation.orders]
      split
      · exact hsame _
      · rfl

/-- What an operation does to its object's mailbox, it does to the mailboxes. -/
theorem map_set_of_ite {p : Prop} [Decidable p] {order : Order String κ ν}
    {f : Mailbox String κ ν → Mailbox String κ ν} (hc : w.objects[i]? = some c)
    (horder : ∀ bs : List (Mailbox String κ ν), order.perform bs = bs.modify i f)
    (hx : c'.mailbox = if p then f c.mailbox else c.mailbox) :
    (w.objects.set i c').map ClientCallbackServer.mailbox =
      mailboxes.runFrom (w.objects.map ClientCallbackServer.mailbox)
        (if p then [order] else []) := by
  split at hx
  · rename_i hp
    rw [if_pos hp, map_set_eq_modify hc hx]
    exact (horder _).symm
  · rename_i hp
    rw [if_neg hp]
    exact (map_set_eq_modify (f := id) hc hx).trans (List.modify_id _ _)

/-- **An operation of an object**, for the mailboxes. -/
theorem map_perform (h : w.Sound) (i : ℕ) (op : Operation κ ν) :
    (w.perform i op).objects.map ClientCallbackServer.mailbox =
      mailboxes.runFrom (w.objects.map ClientCallbackServer.mailbox) (op.orders i) := by
  cases hc : w.objects[i]? with
  | none => rw [perform_of_none hc, map_perform_of_none hc]
  | some c =>
      obtain ⟨hinv, -⟩ := h c (List.mem_of_getElem? hc)
      rw [objects_perform hc]
      cases op with
      | start listenAddress port env =>
          have hid (c : ClientCallbackServer κ ν) : (id c).mailbox = c.mailbox := rfl
          exact map_set_of_ite hc (fun _ => rfl) (mailbox_startServer hinv hid)
      | startWithAutoPort listenAddress assignedPort env =>
          have hinv' : Inv (c.setAssignedPort assignedPort).impl := hinv
          exact map_set_of_ite hc (fun _ => rfl) (mailbox_startServer hinv' fun _ => rfl)
      | stop draining => exact map_set_eq_modify hc (mailbox_stop hinv draining)
      | setCallback callback copy =>
          exact map_set_of_ite hc (fun _ => rfl) (mailbox_setCallback hinv callback copy)
      | deliver d => exact map_set_eq_modify hc (mailbox_deliver hinv.service d)

/-- **One happening**, for the mailboxes. -/
theorem map_next (h : w.Sound) (l : Happening κ ν) :
    (w.next l).objects.map ClientCallbackServer.mailbox =
      mailboxes.runFrom (w.objects.map ClientCallbackServer.mailbox) l.orders := by
  cases l with
  | constructs =>
      rw [Network.next, List.map_append]
      rfl
  | performs i op => exact map_perform h i op
  | pushes text target d =>
      cases target with
      | none => rfl
      | some i => exact map_perform h i (.deliver d)

end Networks

/-- A running object hands out where its mailbox is. -/
theorem Inv.isAt_getClientEndpoint (h : Inv c.impl) (hrun : c.isRunning = true)
    (hendpoint : c.getClientEndpoint ≠ "") : c.mailbox.isAt c.getClientEndpoint = true := by
  obtain ⟨hbound, htext⟩ := h.boundTo_of_running hrun hendpoint
  obtain ⟨s, hs, haddress⟩ := Option.map_eq_some_iff.1 hbound
  obtain ⟨hhost, hport⟩ : s.host = c.impl.listenAddress ∧ s.port = c.impl.listenPort :=
    Prod.mk.inj haddress
  rw [htext, ← hhost, ← hport]
  simp [Mailbox.isAt, ClientCallbackServer.mailbox, hs]

/-- **A network of callback servers is a table of mailboxes.**  After anything that can
happen, what there is to see of the objects is what the same orders make of mailboxes:
who is to be called back, where each is open and for whom, and what was handed to whom.
An object runs exactly if its mailbox is open, and the endpoint it hands out then, if it
hands one out, is where that is. -/
theorem network_refines (ls : List (Happening κ ν)) :
    let w := network.run ls
    w.objects.map ClientCallbackServer.mailbox = mailboxes.run (ls.flatMap Happening.orders) ∧
    ∀ c ∈ w.objects, c.isRunning = c.mailbox.opened.isSome ∧
      (c.isRunning = true → c.getClientEndpoint ≠ "" →
        c.mailbox.isAt c.getClientEndpoint = true) := by
  intro w
  refine ⟨?_, fun c hc => ?_⟩
  · exact Machine.run_refines (fun w : Network κ ν => w.objects.map ClientCallbackServer.mailbox)
      Happening.orders (network_sound []) (fun _ l h => h.next l) rfl (fun _ l h => map_next h l) ls
  · have hinv : Inv c.impl := (network_sound ls c hc).1
    exact ⟨hinv.opened_mailbox.symm, hinv.isAt_getClientEndpoint⟩

/-- An endpoint outlives its server: who starts there next is called back for it. -/
example : (network.run [.constructs, .constructs,
      .performs 0 (.setCallback (some "first") (.ok ())),
      .performs 1 (.setCallback (some "second") (.ok ())),
      .performs 0 (.start "0.0.0.0" 50052 untroubled),
      .pushes "0.0.0.0:50052" (some 0) { notification := 7 }, .performs 0 (.stop []),
      .performs 1 (.start "0.0.0.0" 50052 untroubled),
      .pushes "0.0.0.0:50052" (some 1) { notification := 8 }]).objects.map
        (fun c => c.mailbox.read) = [[("first", 7)], [("second", 8)]] := by decide

end Callback
end ClientSdk
