/-
# The callback server

`source/robot/client/client_callback_server.cpp`: `ClientCallbackServer`, its
private implementation and the gRPC service it registers.

The object owns a gRPC server, the service registered with it, and the thread
that waits on it.  A start builds a service around a copy of the message
callback, builds the server, and launches the thread; `Stop` shuts the server
down and joins the thread, and leaves the server object, the service and the
recorded address where they are.

What gRPC and the standard library decide is a parameter of each call: which of
its steps raise, whether a server comes out of `BuildAndStart`, the port the
system picks for a request of port 0, and the notifications that arrive while
the call is under way.  A server built for a port other than 0 is bound to that
port.  The events of an object record what the claims about its life are about:
the starts of servers, the fate of the thread object, the callbacks set and the
notifications delivered and handed on.

Not modelled: the log output.  The thread's own body, which waits for the shutdown
of the server, takes its steps in `ClientSdk.Callback.Thread`.
-/

import ClientSdk.Common.Status
import ClientSdk.Lib.Body
import Mathlib.Tactic.SplitIfs

namespace ClientSdk
namespace Callback

open Common Lib

/-- `ClientCallbackServiceImpl`: a service object and the callback it was made
with. -/
structure ClientCallbackServiceImpl (κ : Type) where
  id : ℕ
  messageCallback : Option κ

/-- A `grpc::Server`: the service registered with it, where it is bound, and
whether it was shut down. -/
structure GrpcServer where
  service : Option ℕ
  host : String
  port : ℤ
  isShutdown : Bool := false
deriving DecidableEq, Repr

/-- `ClientCallbackServer::Impl`.  The thread is kept as whether it is
joinable. -/
structure Impl (κ : Type) where
  server : Option GrpcServer := none
  serviceImpl : Option (ClientCallbackServiceImpl κ) := none
  listenAddress : String := ""
  listenPort : ℤ := 0
  running : Bool := false
  serverThread : Bool := false
  messageCallback : Option κ := none

/-- The server held, if it was not shut down. -/
def Impl.liveServer {κ : Type} (i : Impl κ) : Option GrpcServer :=
  i.server.filter fun s => !s.isShutdown

/-- What an object did, or gRPC did to it. -/
inductive Event (κ ν : Type) where
  /-- A server was started; whether another one was live then. -/
  | serverStarted (whileLive : Bool)
  /-- `server_thread_` was assigned to; whether it was joinable then. -/
  | threadAssigned (whileJoinable : Bool)
  /-- `server_thread_` was destroyed; whether it was joinable then. -/
  | threadDestroyed (whileJoinable : Bool)
  /-- A call of `SetSubscriptionMessageCallback` returned normally. -/
  | callbackSet (callback : Option κ)
  /-- The live server was delivered a notification. -/
  | delivered (notification : ν)
  /-- The service the notification went to was no longer there. -/
  | serviceGone (notification : ν)
  /-- A callback was handed a notification. -/
  | callbackRun (callback : κ) (notification : ν)
  /-- A notification was answered. -/
  | acknowledged (ret : ℤ)
  /-- `Stop` returned. -/
  | stopped

/-- An object with its events so far.  `made` counts its service objects, and
`assignedPort` is the variable the caller of `StartWithAutoPort` passes in. -/
structure ClientCallbackServer (κ ν : Type) where
  impl : Impl κ := {}
  made : ℕ := 0
  assignedPort : ℤ := 0
  events : List (Event κ ν) := []

/-- A notification that arrives, and what the callback raises on it, if it
raises. -/
structure Delivery (ν : Type) where
  notification : ν
  raised : Option StdException := none

variable {κ ν : Type}

/-- `OnSubscriptionMessage`: the events of one call.  An exception of the
callback is caught and answered with an error. -/
def ClientCallbackServiceImpl.onSubscriptionMessage (service : ClientCallbackServiceImpl κ)
    (d : Delivery ν) : List (Event κ ν) :=
  match service.messageCallback with
  | none => [.acknowledged 0]
  | some callback =>
      match d.raised with
      | some _ => [.callbackRun callback d.notification, .acknowledged (-0o600060001)]
      | none => [.callbackRun callback d.notification, .acknowledged 0]

namespace ClientCallbackServer

/-- The events `es` happen. -/
def log (es : List (Event κ ν)) (c : ClientCallbackServer κ ν) : ClientCallbackServer κ ν :=
  { c with events := c.events ++ es }

/-- The service object registered with `server`, if it is still there. -/
def registered (server : GrpcServer) (c : ClientCallbackServer κ ν) :
    Option (ClientCallbackServiceImpl κ) :=
  c.impl.serviceImpl.filter fun service => server.service = some service.id

/-- A notification arrives: the live server, if there is one, calls the service
registered with it. -/
def deliver (d : Delivery ν) (c : ClientCallbackServer κ ν) : ClientCallbackServer κ ν :=
  match c.impl.liveServer with
  | none => c
  | some server =>
      match c.registered server with
      | some service =>
          c.log (.delivered d.notification :: service.onSubscriptionMessage d)
      | none => c.log [.delivered d.notification, .serviceGone d.notification]

/-- Notifications arrive one after the other. -/
def deliverAll (ds : List (Delivery ν)) (c : ClientCallbackServer κ ν) :
    ClientCallbackServer κ ν := ds.foldl (fun c d => c.deliver d) c

/-- `listen_address_ = address`. -/
def setListenAddress (address : String) (c : ClientCallbackServer κ ν) :
    ClientCallbackServer κ ν := { c with impl.listenAddress := address }

/-- `listen_port_ = port`. -/
def setListenPort (port : ℤ) (c : ClientCallbackServer κ ν) : ClientCallbackServer κ ν :=
  { c with impl.listenPort := port }

/-- `service_impl_ = make_unique<ClientCallbackServiceImpl>(message_callback_)`. -/
def newService (c : ClientCallbackServer κ ν) : ClientCallbackServer κ ν :=
  { c with
    impl.serviceImpl := some ⟨c.made, c.impl.messageCallback⟩
    made := c.made + 1 }

/-- `server_ = nullptr`. -/
def dropServer (c : ClientCallbackServer κ ν) : ClientCallbackServer κ ν :=
  { c with impl.server := none }

/-- A server is started with the service held registered, and stored in
`server_`. -/
def newServer (host : String) (port : ℤ) (c : ClientCallbackServer κ ν) :
    ClientCallbackServer κ ν :=
  { c with
    impl.server := some { service := c.impl.serviceImpl.map (·.id), host := host, port := port }
    events := c.events ++ [.serverStarted c.impl.liveServer.isSome] }

/-- `running_ = true`. -/
def setRunning (c : ClientCallbackServer κ ν) : ClientCallbackServer κ ν :=
  { c with impl.running := true }

/-- `server_thread_ = std::thread(…)`. -/
def newThread (c : ClientCallbackServer κ ν) : ClientCallbackServer κ ν :=
  { c with
    impl.serverThread := true
    events := c.events ++ [.threadAssigned c.impl.serverThread] }

/-- `assigned_port = port`. -/
def setAssignedPort (port : ℤ) (c : ClientCallbackServer κ ν) : ClientCallbackServer κ ν :=
  { c with assignedPort := port }

end ClientCallbackServer

/-! ### Starting -/

/-- What one start meets. -/
structure StartEnv (ν : Type) where
  /-- Raised by storing the listen address. -/
  storeAddress : Except StdException Unit
  /-- Raised by building the address string or the service object. -/
  makeService : Except StdException Unit
  /-- Raised by preparing the builder or by `BuildAndStart`, else whether a
  server comes out of it. -/
  buildAndStart : Except StdException Bool
  /-- The port the system picks for a request of port 0. -/
  pickedPort : {port : ℤ // 0 < port}
  /-- The notifications that arrive before the start returns. -/
  early : List (Delivery ν)
  /-- Raised by the construction of the thread. -/
  makeThread : Except StdException Unit

/-- A start all of whose steps succeed. -/
def untroubled : StartEnv ν where
  storeAddress := .ok ()
  makeService := .ok ()
  buildAndStart := .ok true
  pickedPort := ⟨40001, by decide⟩
  early := []
  makeThread := .ok ()

/-- The port a server asked for `requested` is bound to. -/
def StartEnv.boundPort (env : StartEnv ν) (requested : ℤ) : ℤ :=
  if requested = 0 then env.pickedPort else requested

/-- The status of a start refused because the server is running. -/
def alreadyRunning : Status := .error .operationNotPermitted "Server is already running"

/-- The status of a start without a server. -/
def notStarted : Status :=
  .error .addressNotAvailable "Failed to start gRPC callback server"

/-- The status of a start left by an exception. -/
def startFailed (e : StdException) : Status :=
  .error .operationNotSupported ("Failed to start callback server: " ++ e.what)

/-- The body of both starts.  They differ in the port they ask for and in what
they record once the server is built. -/
def startServer (listenAddress : String) (port : ℤ)
    (record : ClientCallbackServer κ ν → ClientCallbackServer κ ν) (env : StartEnv ν) :
    ClientCallbackServer κ ν → Except StdException Status × ClientCallbackServer κ ν :=
  Body.call do
    let running ← Body.gets (·.impl.running)
    if running then Body.ret alreadyRunning
    else
      Body.tryCatch
        (do
          Body.lift env.storeAddress
          Body.modify (·.setListenAddress listenAddress)
          Body.modify (·.setListenPort port)
          Body.lift env.makeService
          Body.modify ClientCallbackServer.newService
          let built ← Body.lift env.buildAndStart
          if built then
            Body.modify (·.newServer listenAddress (env.boundPort port))
            Body.modify (·.deliverAll env.early)
            Body.modify record
            Body.modify ClientCallbackServer.setRunning
            Body.lift env.makeThread
            Body.modify ClientCallbackServer.newThread
            Body.ret {}
          else
            Body.modify ClientCallbackServer.dropServer
            Body.ret notStarted)
        (fun e => Body.ret (startFailed e))

/-- `Start(listen_address, port)`. -/
def start (listenAddress : String) (port : ℤ) (env : StartEnv ν) :
    ClientCallbackServer κ ν → Except StdException Status × ClientCallbackServer κ ν :=
  startServer listenAddress port id env

/-- `StartWithAutoPort(listen_address, assigned_port)`: the port selected is
assigned to the caller's variable, and recorded. -/
def startWithAutoPort (listenAddress : String) (env : StartEnv ν) :
    ClientCallbackServer κ ν → Except StdException Status × ClientCallbackServer κ ν :=
  startServer listenAddress 0
    (fun c => (c.setAssignedPort (env.boundPort 0)).setListenPort (env.boundPort 0)) env

/-! ### The other operations -/

namespace ClientCallbackServer

/-- `running_ = false`, the first step of `Stop`. -/
def clearRunning (c : ClientCallbackServer κ ν) : ClientCallbackServer κ ν :=
  { c with impl.running := false }

/-- `server_->Shutdown()` returns. -/
def shutdownServer (c : ClientCallbackServer κ ν) : ClientCallbackServer κ ν :=
  { c with impl.server := c.impl.server.map fun s => { s with isShutdown := true } }

/-- `server_thread_.join()` returns, if the thread was joinable. -/
def joinThread (c : ClientCallbackServer κ ν) : ClientCallbackServer κ ν :=
  { c with impl.serverThread := false }

/-- `Stop`, with the notifications that arrive before the server is down. -/
def stop (draining : List (Delivery ν)) (c : ClientCallbackServer κ ν) :
    ClientCallbackServer κ ν :=
  let c := c.clearRunning
  if c.impl.server.isSome then
    ((c.deliverAll draining).shutdownServer.joinThread).log [.stopped]
  else c.log [.stopped]

/-- The destructor: `Stop`, and the end of the thread object. -/
def destroy (draining : List (Delivery ν)) (c : ClientCallbackServer κ ν) :
    ClientCallbackServer κ ν :=
  let c := c.stop draining
  c.log [.threadDestroyed c.impl.serverThread]

/-- `IsRunning`. -/
def isRunning (c : ClientCallbackServer κ ν) : Bool := c.impl.running

/-- `GetListenAddress`. -/
def getListenAddress (c : ClientCallbackServer κ ν) : String := c.impl.listenAddress

/-- `GetListenPort`. -/
def getListenPort (c : ClientCallbackServer κ ν) : ℤ := c.impl.listenPort

/-- `GetClientEndpoint`. -/
def getClientEndpoint (c : ClientCallbackServer κ ν) : String :=
  if c.impl.listenAddress.isEmpty || c.impl.listenPort = 0 then ""
  else c.impl.listenAddress ++ ":" ++ toString c.impl.listenPort

end ClientCallbackServer

/-- The exception of a callback set while the server runs. -/
def setWhileRunning : StdException :=
  .other ("Cannot set callback while server is running. " ++
    "Please set callback before starting the server.")

/-- `SetSubscriptionMessageCallback(callback)`; `copy` is what copying the
callback raises. -/
def setSubscriptionMessageCallback (callback : Option κ) (copy : Except StdException Unit)
    (c : ClientCallbackServer κ ν) : Except StdException Unit × ClientCallbackServer κ ν :=
  if c.impl.running then (.error setWhileRunning, c)
  else
    match copy with
    | .error e => (.error e, c)
    | .ok () =>
        (.ok (), { c with
          impl.messageCallback := callback
          events := c.events ++ [.callbackSet callback] })

/-- `CreateCallbackServer`: the new object, and the status of its start. -/
def createCallbackServer (listenAddress : String) (port : ℤ) (messageCallback : Option κ)
    (copy : Except StdException Unit) (env : StartEnv ν) :
    Except StdException Status × ClientCallbackServer κ ν :=
  let (set, c) := if messageCallback.isSome then
      setSubscriptionMessageCallback messageCallback copy {}
    else (.ok (), {})
  match set with
  | .error e => (.error e, c)
  | .ok () =>
      if port = 0 then startWithAutoPort listenAddress env c else start listenAddress port env c

end Callback
end ClientSdk
