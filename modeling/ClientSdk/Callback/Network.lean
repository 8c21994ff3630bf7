/-
# Callback servers on a network

`source/robot/client/client_callback_server.cpp`: any number of objects, and whoever
pushes notifications to an endpoint one of them handed out with `GetClientEndpoint`, as a
subscription does.

Which starts build a server and whose server a push is taken to is the network's to
decide.  What is taken of it is said where it is needed: that no server is built where
another object's live one could be called in its place (`BindsApart`; gRPC as it is
configured by default lets several servers share a port), and that a push is taken to a
server that can be called under its text, if there is one (`Routes`).  That an endpoint
then names one object is the code's own doing: its text is the address and the port, and
can be read back (`endpoint_inj`), and what an object says of itself is where its server
is bound.
-/

import ClientSdk.Callback.Delivery
import ClientSdk.Callback.Endpoint
import ClientSdk.Common.Decimal
import ClientSdk.Lib.Pool
import ClientSdk.Lib.Text

namespace ClientSdk
namespace Callback

open Common Lib

/-! ### The text of an endpoint -/

/-- The decimal form of a number has no colon in it. -/
theorem colon_notMem_toString (v : ℤ) : ':' ∉ (toString v).toList := by
  intro hmem
  cases v with
  | ofNat n =>
      have hdigit : (':').isDigit = true :=
        Nat.isDigit_of_mem_toDigits (by decide) (by decide)
          (show ':' ∈ Nat.toDigits 10 n by simpa [toString, Int.repr] using hmem)
      cases hdigit
  | negSucc n =>
      have hdigit : (':').isDigit = true :=
        Nat.isDigit_of_mem_toDigits (by decide) (by decide)
          (show ':' ∈ Nat.toDigits 10 (n + 1) by simpa [toString, Int.repr] using hmem)
      cases hdigit

theorem toString_inj {v v' : ℤ} (h : toString v = toString v') : v = v' := by
  obtain ⟨p, hp, rfl⟩ := exists_spelling_toString v
  obtain ⟨p', hp', rfl⟩ := exists_spelling_toString v'
  have hread : some p.value = some p'.value := by
    rw [← p.decimalPrefix_toList, ← p'.decimalPrefix_toList, hp, hp', h]
  exact Option.some.inj hread

/-- **An endpoint is read back**, whatever colons are in the address. -/
theorem endpoint_inj {host host' : String} {port port' : ℤ}
    (h : endpoint host port = endpoint host' port') : host = host' ∧ port = port' := by
  have hchars := congrArg String.toList h
  simp only [endpoint, String.toList_append] at hchars
  have hcolon : (":" : String).toList = [':'] := rfl
  rw [hcolon, List.append_assoc, List.append_assoc] at hchars
  obtain ⟨hhost, hport⟩ :=
    append_separator_inj (colon_notMem_toString port) (colon_notMem_toString port') hchars
  exact ⟨String.toList_inj.1 hhost, toString_inj (String.toList_inj.1 hport)⟩

variable {κ ν : Type} {c : ClientCallbackServer κ ν}

/-! ### The network -/

/-- Where the live server of an object is bound. -/
def ClientCallbackServer.boundTo (c : ClientCallbackServer κ ν) : Option (String × ℤ) :=
  c.impl.liveServer.map fun s => (s.host, s.port)

/-- Where an operation binds the server it builds. -/
def Operation.binds : Operation κ ν → Option (String × ℤ)
  | .start listenAddress port env => some (listenAddress, env.boundPort port)
  | .startWithAutoPort listenAddress _ env => some (listenAddress, env.boundPort 0)
  | _ => none

/-- The operation builds a server. -/
def Operation.Builds : Operation κ ν → Prop
  | .start _ _ env | .startWithAutoPort _ _ env => env.Builds
  | _ => False

instance (env : StartEnv ν) : Decidable env.Builds :=
  decidable_of_iff
    (env.storeAddress = .ok () ∧ env.makeService = .ok () ∧ env.buildAndStart = .ok true)
    ⟨fun ⟨ha, hs, hb⟩ => ⟨ha, hs, hb⟩, fun h => ⟨h.storeAddress, h.makeService, h.buildAndStart⟩⟩

instance (op : Operation κ ν) : Decidable op.Builds :=
  match op with
  | .start _ _ env | .startWithAutoPort _ _ env => inferInstanceAs (Decidable env.Builds)
  | .stop _ | .setCallback _ _ | .deliver _ => .isFalse id

/-- The objects there are, in the order of their construction. -/
structure Network (κ ν : Type) where
  objects : List (ClientCallbackServer κ ν) := []

/-- What happens on a network. -/
inductive Happening (κ ν : Type) where
  | constructs
  /-- An operation of the object `i`, or a notification that reaches it directly. -/
  | performs (i : ℕ) (op : Operation κ ν)
  /-- Somebody pushes a notification to an endpoint, and the network takes it to the
  server of the object `target`, or to none. -/
  | pushes (text : String) (target : Option ℕ) (d : Delivery ν)

namespace Network

variable (w : Network κ ν)

/-- The object `i` performs `op`. -/
def perform (i : ℕ) (op : Operation κ ν) : Network κ ν :=
  match w.objects[i]? with
  | none => w
  | some c => { objects := w.objects.set i (op.perform c) }

/-- One step. -/
def next : Happening κ ν → Network κ ν
  | .constructs => { objects := w.objects ++ [{}] }
  | .performs i op => w.perform i op
  | .pushes _ (some i) d => w.perform i (.deliver d)
  | .pushes _ none _ => w

end Network

/-- A network from its first object on. -/
def network : Machine (Network κ ν) (Happening κ ν) where
  init := {}
  next := Network.next

/-! ### What is taken of the network -/

section Assumptions

/-! A server that is bound to an address `answers` to a text if a call to the text can get
to it.  One that is bound to all addresses answers to more than its own endpoint. -/

variable (answers : String → String × ℤ → Prop)

/-- The live server of an object answers to a text. -/
def ClientCallbackServer.AnswersTo (c : ClientCallbackServer κ ν) (text : String) : Prop :=
  ∃ address, c.boundTo = some address ∧ answers text address

/-- A call can get to a server at either of the addresses. -/
def Clash (address address' : String × ℤ) : Prop :=
  ∃ text, answers text address ∧ answers text address'

/-- No start builds a server whose address clashes with that of another object's live
server. -/
def BindsApart (w : Network κ ν) : Happening κ ν → Prop
  | .performs i op =>
      ∀ c ∈ w.objects[i]?, c.isRunning = false → op.Builds → ∀ address ∈ op.binds,
        ∀ x ∈ w.objects.eraseIdx i, ∀ address' ∈ x.boundTo, ¬ Clash answers address address'
  | _ => True

/-- The network takes a push to a live server that answers to its text, if there is one. -/
def Routes (w : Network κ ν) (text : String) (target : Option ℕ) : Prop :=
  (∃ c ∈ w.objects, c.AnswersTo answers text) →
    ∃ i c, target = some i ∧ w.objects[i]? = some c ∧ c.AnswersTo answers text

/-- No two live servers are bound to addresses that clash. -/
def Apart (w : Network κ ν) : Prop :=
  ∀ (i j : ℕ) (c c' : ClientCallbackServer κ ν) (address address' : String × ℤ),
    w.objects[i]? = some c → w.objects[j]? = some c' → c.boundTo = some address →
      c'.boundTo = some address' → Clash answers address address' → i = j

end Assumptions

/-! ### Where an operation leaves the server -/

theorem boundTo_of_idle (h : Idle c.impl) : c.boundTo = none := by
  simp [ClientCallbackServer.boundTo, h.liveServer]

@[simp] theorem boundTo_deliver (d : Delivery ν) : (c.deliver d).boundTo = c.boundTo := by
  simp [ClientCallbackServer.boundTo]

/-- Where a start leaves the server of an object in order: where it was, nowhere, or where
the start binds it. -/
theorem boundTo_startServer (h : Inv c.impl) {listenAddress : String} {port recorded : ℤ}
    {record : ClientCallbackServer κ ν → ClientCallbackServer κ ν} {env : StartEnv ν}
    (hl : (live listenAddress port record env c).impl =
      liveImpl listenAddress recorded (env.boundPort port) c) :
    let c' := (startServer listenAddress port record env c).2
    c'.boundTo = c.boundTo ∨ c'.boundTo = none ∨ c.isRunning = false ∧
      env.Builds ∧ c'.boundTo = some (listenAddress, env.boundPort port) := by
  have hbound : (live listenAddress port record env c).boundTo =
      some (listenAddress, env.boundPort port) := by
    rw [ClientCallbackServer.boundTo, hl]
    rfl
  rcases startServer_cases listenAddress port record env c with
    ⟨-, he⟩ | ⟨hrun, -, status, c', he, -, hf⟩ | ⟨hrun, hb, e, he⟩ | ⟨hrun, hb, he⟩ <;> rw [he]
  · exact Or.inl rfl
  · exact Or.inr (Or.inl (boundTo_of_idle ((h.idle hrun).failed hf)))
  · exact Or.inr (Or.inr ⟨hrun, hb, hbound⟩)
  · exact Or.inr (Or.inr ⟨hrun, hb, hbound⟩)

/-- **Where an operation leaves the server.** -/
theorem boundTo_perform (h : Inv c.impl) (op : Operation κ ν) :
    (op.perform c).boundTo = c.boundTo ∨ (op.perform c).boundTo = none ∨
      c.isRunning = false ∧ op.Builds ∧ (op.perform c).boundTo = op.binds := by
  cases op with
  | start listenAddress port env => exact boundTo_startServer h impl_live_start
  | startWithAutoPort listenAddress assignedPort env =>
      exact boundTo_startServer (c := c.setAssignedPort assignedPort) h impl_live_auto
  | stop draining => exact Or.inr (Or.inl (boundTo_of_idle (h.stop draining)))
  | setCallback callback copy =>
      refine Or.inl ?_
      rcases setSubscriptionMessageCallback_cases callback copy c with ⟨e, he⟩ | ⟨-, he⟩
      · rw [Operation.perform, he]
      · rw [Operation.perform, he]
        rfl
  | deliver d => exact Or.inl (boundTo_deliver d)

/-- A running object stays as it is until it is stopped. -/
theorem impl_perform_of_running (hrun : c.impl.running = true) {op : Operation κ ν}
    (hop : ∀ draining, op ≠ .stop draining) : (op.perform c).impl = c.impl := by
  cases op with
  | start listenAddress port env => rw [Operation.perform, start, startServer_of_running hrun]
  | startWithAutoPort listenAddress assignedPort env =>
      have hrun' : (c.setAssignedPort assignedPort).impl.running = true := hrun
      rw [Operation.perform, startWithAutoPort, startServer_of_running hrun']
      rfl
  | stop draining => exact absurd rfl (hop draining)
  | setCallback callback copy =>
      rw [Operation.perform, setSubscriptionMessageCallback_of_running hrun]
  | deliver d => exact ClientCallbackServer.impl_deliver d

/-! ### What holds on a network -/

/-- The objects are in order. -/
def Network.Sound (w : Network κ ν) : Prop := ∀ c ∈ w.objects, Inv c.impl ∧ KeepsUp c

section Sound

variable {w : Network κ ν} {i : ℕ} {answers : String → String × ℤ → Prop}

/-- An object that is not there performs nothing. -/
theorem perform_of_none (hc : w.objects[i]? = none) (op : Operation κ ν) : w.perform i op = w := by
  simp [Network.perform, hc]

theorem objects_perform (hc : w.objects[i]? = some c) (op : Operation κ ν) :
    (w.perform i op).objects = w.objects.set i (op.perform c) := by
  simp [Network.perform, hc]

theorem Network.Sound.perform (h : w.Sound) (i : ℕ) (op : Operation κ ν) :
    (w.perform i op).Sound := by
  cases hc : w.objects[i]? with
  | none =>
      rw [perform_of_none hc]
      exact h
  | some c =>
      obtain ⟨hinv, hup⟩ := h c (List.mem_of_getElem? hc)
      intro x hx
      rw [objects_perform hc] at hx
      rcases List.mem_or_eq_of_mem_set hx with hx | rfl
      · exact h x hx
      · exact ⟨hinv.perform op, hup.perform hinv op⟩

theorem Network.Sound.next (h : w.Sound) (l : Happening κ ν) : (w.next l).Sound := by
  cases l with
  | performs i op => exact h.perform i op
  | pushes text target d =>
      cases target with
      | none => exact h
      | some i => exact h.perform i (.deliver d)
  | constructs =>
      intro x hx
      rcases List.mem_append.1 hx with hx | hx
      · exact h x hx
      · obtain rfl := List.mem_singleton.1 hx
        exact ⟨inv_init, keepsUp_init⟩

theorem network_sound (ls : List (Happening κ ν)) : (network.run ls).Sound :=
  Machine.run_invariant (I := fun w : Network κ ν => w.Sound) (fun x hx => by cases hx)
    (fun _ l h => h.next l) ls

theorem Clash.symm {address address' : String × ℤ} (h : Clash answers address address') :
    Clash answers address' address := by
  obtain ⟨text, htext, htext'⟩ := h
  exact ⟨text, htext', htext⟩

/-- An operation that builds no server in the place of another keeps them apart. -/
theorem Apart.perform (h : Apart answers w) (hs : w.Sound) {op : Operation κ ν}
    (hop : BindsApart answers w (.performs i op)) : Apart answers (w.perform i op) := by
  cases hc : w.objects[i]? with
  | none =>
      rw [perform_of_none hc]
      exact h
  | some c =>
      obtain ⟨hinv, -⟩ := hs c (List.mem_of_getElem? hc)
      -- An address the object has after the operation clashes with no other object's.
      have hnew {j : ℕ} {x : ClientCallbackServer κ ν} {address address' : String × ℤ}
          (hj : w.objects[j]? = some x) (hx : x.boundTo = some address')
          (hmine : (op.perform c).boundTo = some address)
          (hclash : Clash answers address address') : j = i := by
        rcases boundTo_perform hinv op with hsame | hnone | ⟨hrun, hb, hbinds⟩
        · exact (h i j c x address address' hc hj (hsame ▸ hmine) hx hclash).symm
        · rw [hnone] at hmine
          cases hmine
        · by_contra hne
          have hmem : x ∈ w.objects.eraseIdx i := List.mem_eraseIdx_iff_getElem?.2 ⟨j, hne, hj⟩
          exact hop c hc hrun hb address (hbinds ▸ hmine) x hmem address' hx hclash
      intro j k x y address address' hj hk hx hy hclash
      rw [objects_perform hc] at hj hk
      rcases (pool_set_iff hc).1 hj with ⟨hji, rfl⟩ | ⟨-, hj'⟩
      · rcases (pool_set_iff hc).1 hk with ⟨hki, -⟩ | ⟨-, hk'⟩
        · exact hji.trans hki.symm
        · exact hji.trans (hnew hk' hy hx hclash).symm
      · rcases (pool_set_iff hc).1 hk with ⟨hki, rfl⟩ | ⟨-, hk'⟩
        · exact (hnew hj' hx hy hclash.symm).trans hki.symm
        · exact h j k x y address address' hj' hk' hx hy hclash

/-- **Servers stay apart** as long as none is built in the place of another. -/
theorem Apart.next (h : Apart answers w) (hs : w.Sound) {l : Happening κ ν}
    (hl : BindsApart answers w l) : Apart answers (w.next l) := by
  cases l with
  | performs i op => exact h.perform hs hl
  | pushes text target d =>
      cases target with
      | none => exact h
      | some i => exact h.perform hs fun c _ _ hbuilds => hbuilds.elim
  | constructs =>
      intro j k x y address address' hj hk hx hy hclash
      rcases pool_spawn_iff.1 hj with ⟨-, rfl⟩ | hj
      · cases hx
      · rcases pool_spawn_iff.1 hk with ⟨-, rfl⟩ | hk
        · cases hy
        · exact h j k x y address address' hj hk hx hy hclash

theorem network_apart {ls : List (Happening κ ν)}
    (hls : network.EveryStep (fun w l _ => BindsApart answers w l) ls) :
    Apart answers (network.run ls) := by
  have hinit : Apart answers (network.init : Network κ ν) := by
    intro j k x y address address' hj
    cases hj
  have hboth := Machine.everyState_of_everyStep
    (I := fun w : Network κ ν => w.Sound ∧ Apart answers w) (M := network)
    ⟨network_sound [], hinit⟩ (fun _ l ⟨hs, h⟩ hl => ⟨hs.next l, h.next hs hl⟩) ls hls
  exact (hboth ls [] (List.append_nil ls).symm).2

/-- **A push gets to one object**, the one that answers to its text. -/
theorem Routes.eq (h : Apart answers w) {text : String} {target : Option ℕ}
    (hroutes : Routes answers w text target) (hc : w.objects[i]? = some c)
    (hanswers : c.AnswersTo answers text) : target = some i := by
  obtain ⟨j, x, rfl, hx, address', hx', htext'⟩ :=
    hroutes ⟨c, List.mem_of_getElem? hc, hanswers⟩
  obtain ⟨address, hbound, htext⟩ := hanswers
  rw [h i j c x address address' hc hx hbound hx' ⟨text, htext, htext'⟩]

/-- A running object that is not stopped stays as it is, whatever happens on the network. -/
theorem impl_next_of_running (hc : w.objects[i]? = some c) (hrun : c.impl.running = true)
    {l : Happening κ ν} (hl : ∀ draining, l ≠ .performs i (.stop draining)) :
    ∃ c', (w.next l).objects[i]? = some c' ∧ c'.impl = c.impl := by
  have hperform {j : ℕ} {op : Operation κ ν}
      (hop : j = i → ∀ draining, op ≠ .stop draining) :
      ∃ c', (w.perform j op).objects[i]? = some c' ∧ c'.impl = c.impl := by
    cases hj : w.objects[j]? with
    | none =>
        rw [perform_of_none hj]
        exact ⟨c, hc, rfl⟩
    | some x =>
        rw [objects_perform hj]
        by_cases hij : j = i
        · subst hij
          obtain rfl : c = x := Option.some.inj (hc.symm.trans hj)
          refine ⟨op.perform c, ?_, impl_perform_of_running hrun (hop rfl)⟩
          exact (pool_set_iff hj).2 (Or.inl ⟨rfl, rfl⟩)
        · exact ⟨c, (pool_set_iff hj).2 (Or.inr ⟨Ne.symm hij, hc⟩), rfl⟩
  cases l with
  | constructs => exact ⟨c, pool_spawn_iff.2 (Or.inr hc), rfl⟩
  | performs j op =>
      refine hperform fun hji draining he => hl draining ?_
      rw [hji, he]
  | pushes text target d =>
      cases target with
      | none => exact ⟨c, hc, rfl⟩
      | some j => exact hperform fun _ draining => nofun

theorem impl_runFrom_of_running (hc : w.objects[i]? = some c) (hrun : c.impl.running = true)
    {ls : List (Happening κ ν)} (hls : ∀ draining, .performs i (.stop draining) ∉ ls) :
    ∃ c', (network.runFrom w ls).objects[i]? = some c' ∧ c'.impl = c.impl := by
  induction ls generalizing w c with
  | nil => exact ⟨c, hc, rfl⟩
  | cons l ls ih =>
      obtain ⟨c₁, hc₁, himpl⟩ := impl_next_of_running hc hrun (l := l) fun draining he =>
        hls draining (he ▸ List.mem_cons_self)
      obtain ⟨c', hc', himpl'⟩ := ih hc₁ (by rw [himpl]; exact hrun) fun draining hm =>
        hls draining (List.mem_cons_of_mem _ hm)
      exact ⟨c', hc', himpl'.trans himpl⟩

end Sound

/-- A running object that hands out an endpoint is bound to what the endpoint says. -/
theorem Inv.boundTo_of_running (h : Inv c.impl) (hrun : c.isRunning = true)
    (hendpoint : c.getClientEndpoint ≠ "") :
    c.boundTo = some (c.impl.listenAddress, c.impl.listenPort) ∧
      c.getClientEndpoint = endpoint c.impl.listenAddress c.impl.listenPort := by
  have hrecorded : ¬ c.impl.Unrecorded := fun hu =>
    hendpoint (getClientEndpoint_of_unrecorded hu)
  obtain ⟨s, hs, hhost, hport⟩ := h.bound_of_running hrun hrecorded
  refine ⟨?_, getClientEndpoint_of_not_unrecorded hrecorded⟩
  rw [ClientCallbackServer.boundTo, hs, Option.map_some, hhost, hport]

/-- **A subscription lasts until `Stop`.**  Let an object run and hand out its endpoint.
Whatever happens on the network then but a `Stop` of the object, it goes on handing out
that endpoint.  If no server is ever built in the place of another, and the object's
answers to its endpoint, then no other running object hands out the same, and a
notification pushed to it is handed on once and unchanged to the callback the server was
started with, and to no other object. -/
theorem network_subscription {before later : List (Happening κ ν)} {i : ℕ}
    (hc : (network.run before).objects[i]? = some c) (hrun : c.isRunning = true)
    (hendpoint : c.getClientEndpoint ≠ "")
    (hlater : ∀ draining, .performs i (.stop draining) ∉ later) :
    let w := network.run (before ++ later)
    ∃ (c' : ClientCallbackServer κ ν) (service : ClientCallbackServiceImpl κ),
      w.objects[i]? = some c' ∧ c'.isRunning = true ∧
      c'.getClientEndpoint = c.getClientEndpoint ∧
      (told c.events).serving = some service.messageCallback ∧
      ∀ answers : String → String × ℤ → Prop,
        network.EveryStep (fun w l _ => BindsApart answers w l) (before ++ later) →
        answers c.getClientEndpoint (c.getListenAddress, c.getListenPort) →
          (∀ j x, w.objects[j]? = some x → x.isRunning = true →
            x.getClientEndpoint = c.getClientEndpoint → j = i) ∧
          ∀ target d, Routes answers w c.getClientEndpoint target →
            (w.next (.pushes c.getClientEndpoint target d)).objects = w.objects.set i
              (c'.log (.delivered d.notification :: service.onSubscriptionMessage d)) := by
  intro w
  have hsound : w.Sound := network_sound (before ++ later)
  obtain ⟨hinv, hup⟩ := network_sound before c (List.mem_of_getElem? hc)
  obtain ⟨c', hc', himpl⟩ : ∃ c', w.objects[i]? = some c' ∧ c'.impl = c.impl := by
    have hafter := impl_runFrom_of_running hc hrun hlater
    rwa [← Machine.run_append] at hafter
  obtain ⟨hat, htext⟩ := hinv.boundTo_of_running hrun hendpoint
  obtain ⟨s, hs, -⟩ := Option.map_eq_some_iff.1 hat
  obtain ⟨service, hservice, hid, hserving⟩ := hup.up s hs
  have hrun' : c'.isRunning = true := by rw [ClientCallbackServer.isRunning, himpl]; exact hrun
  have hsame : c'.getClientEndpoint = c.getClientEndpoint := by
    simp only [ClientCallbackServer.getClientEndpoint, himpl]
  have hbound : c'.boundTo = some (c.impl.listenAddress, c.impl.listenPort) := by
    rw [ClientCallbackServer.boundTo, himpl]
    exact hat
  refine ⟨c', service, hc', hrun', hsame, hserving, fun answers hls hanswers => ⟨?_, ?_⟩⟩
  · intro j x hx hxrun hxtext
    obtain ⟨hxinv, -⟩ := hsound x (List.mem_of_getElem? hx)
    obtain ⟨hxat, hxendpoint⟩ := hxinv.boundTo_of_running hxrun (hxtext ▸ hendpoint)
    -- The text tells the address, so the two are bound to the same.
    obtain ⟨hhost, hport⟩ := endpoint_inj (hxendpoint.symm.trans (hxtext.trans htext))
    rw [hhost, hport] at hxat
    exact network_apart hls j i x c' _ _ hx hc' hxat hbound ⟨_, hanswers, hanswers⟩
  · intro target d hroutes
    obtain rfl := hroutes.eq (network_apart hls) hc' ⟨_, hbound, hanswers⟩
    have hlive : c'.impl.liveServer = some s := by rw [himpl, hs]
    have hheld : c'.impl.serviceImpl = some service := by rw [himpl, hservice]
    rw [← deliver_of_live hlive hheld hid]
    exact objects_perform hc' (.deliver d)

/-! ### Servers that answer to their own endpoint only -/

/-- A server that is bound to one address answers to its endpoint. -/
def exactly (text : String) (address : String × ℤ) : Prop :=
  text = endpoint address.1 address.2

theorem clash_exactly {address address' : String × ℤ} :
    Clash exactly address address' ↔ address = address' := by
  constructor
  · rintro ⟨text, rfl, htext⟩
    obtain ⟨hhost, hport⟩ := endpoint_inj htext
    exact Prod.ext hhost hport
  · rintro rfl
    exact ⟨_, rfl, rfl⟩

instance (address address' : String × ℤ) : Decidable (Clash exactly address address') :=
  decidable_of_iff _ clash_exactly.symm

instance (w : Network κ ν) (l : Happening κ ν) : Decidable (BindsApart exactly w l) :=
  match l with
  | .performs i op =>
      inferInstanceAs (Decidable (∀ c ∈ w.objects[i]?, c.isRunning = false → op.Builds →
        ∀ address ∈ op.binds, ∀ x ∈ w.objects.eraseIdx i, ∀ address' ∈ x.boundTo,
          ¬ Clash exactly address address'))
  | .constructs | .pushes _ _ _ => .isTrue trivial

/-- Two objects; the first gets a callback and starts. -/
def firstStarts : List (Happening String ℕ) :=
  [.constructs, .constructs, .performs 0 (.setCallback (some "first") (.ok ())),
    .performs 0 (.startWithAutoPort "127.0.0.1" 0 untroubled)]

/-- The second gets a callback and starts at another port, and the first is started again. -/
def secondStarts : List (Happening String ℕ) :=
  [.performs 1 (.setCallback (some "second") (.ok ())),
    .performs 1 (.start "127.0.0.1" 50052 untroubled),
    .performs 0 (.start "127.0.0.1" 50052 untroubled)]

/-- What is pushed to the first object then is for its callback. -/
theorem network_subscription_two :
    let w := network.run (firstStarts ++ secondStarts)
    ∃ c', w.objects[0]? = some c' ∧ ∀ target, Routes exactly w "127.0.0.1:40001" target →
      (w.next (.pushes "127.0.0.1:40001" target { notification := 7 })).objects =
        w.objects.set 0 (c'.log [.delivered 7, .callbackRun "first" 7, .acknowledged 0]) := by
  intro w
  obtain ⟨c', service, hc', -, -, hserving, hnet⟩ := @network_subscription String ℕ _ firstStarts
    secondStarts 0 rfl rfl (by decide) (by simp [secondStarts])
  obtain ⟨-, hpushed⟩ := hnet exactly (by decide) rfl
  have hfirst : service.messageCallback = some "first" := (Option.some.inj hserving).symm
  have hevents : (service.onSubscriptionMessage { notification := 7 } : List (Event String ℕ)) =
      [.callbackRun "first" 7, .acknowledged 0] := by
    simp [ClientCallbackServiceImpl.onSubscriptionMessage, hfirst]
  refine ⟨c', hc', fun target hroutes => ?_⟩
  rw [← hevents]
  exact hpushed target { notification := 7 } hroutes

/-- Two servers that share a port hand out one endpoint. -/
example : (network.run (firstStarts ++
      [.performs 1 (.start "127.0.0.1" 40001 untroubled)])).objects.map
        ClientCallbackServer.getClientEndpoint = ["127.0.0.1:40001", "127.0.0.1:40001"] := by
  decide

end Callback
end ClientSdk
