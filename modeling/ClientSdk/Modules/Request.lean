/-
# What a robot reads from a request

A request travels in a dictionary of dictionaries: the command code under
`command_id`, and below `data` the serialized message under a key of its own.  The
functions build it with `insert` and `emplace`, neither of which overwrites, so
that each entry is there depends on its key being new.

`request_readBack` says that it is: what is written is read back as the command
code of the function and the request it was called with, so requests that differ
in either are never written alike.
-/

import ClientSdk.Modules.Api

namespace ClientSdk
namespace Modules

open Common Lib Client Control Navigation

variable {R M : Type} {client : InterfacesClientImpl} {env : CallEnv} {r : SendRequest}

/-- `r` has the two keys of a request and no other, its command code is `commandId`,
and the one entry of its data is under `key` and decodes to `request`. -/
structure Encodes (commandId : ℤ) (key : String) (rt : MessageType R) (request : R)
    (r : SendRequest) : Prop where
  keys : r.input.map Prod.fst = ["command_id", "data"]
  command : ∃ v, r.input.find "command_id" = some v ∧ v.int32value = commandId
  data : ∃ v value, r.input.find "data" = some v ∧ v.dictvalue = [(key, value)] ∧
    rt.decode value.bytevalue = some request

/-- The entries of a whole request. -/
theorem commandRequest_input (commandId : ℤ) (key : String) (bytes : Bytes) :
    (commandRequest commandId key bytes).input =
      [("command_id", .int32Value commandId), ("data", .dictValue [(key, .byteValue bytes)])] :=
  rfl

/-- **A whole request is read back.** -/
theorem encodes_commandRequest (commandId : ℤ) (key : String) {rt : MessageType R}
    (hrt : rt.RoundTrips) {request : R} {bytes : Bytes}
    (hs : rt.serialize request = some bytes) :
    Encodes commandId key rt request (commandRequest commandId key bytes) where
  keys := rfl
  command := ⟨.int32Value commandId, rfl, rfl⟩
  data := ⟨.dictValue [(key, .byteValue bytes)], .byteValue bytes, rfl, rfl,
    hrt request bytes hs⟩

/-- Whole requests that are equal have one command code and one payload. -/
theorem commandRequest_inj {commandId commandId' : ℤ} {key key' : String} {bytes bytes' : Bytes}
    (h : commandRequest commandId key bytes = commandRequest commandId' key' bytes') :
    commandId = commandId' ∧ bytes = bytes' := by
  have hinput := congrArg SendRequest.input h
  simp only [commandRequest_input, List.cons.injEq, Prod.mk.injEq, Variant.int32Value.injEq,
    Variant.dictValue.injEq, Variant.byteValue.injEq] at hinput
  obtain ⟨⟨-, hcommand⟩, ⟨-, ⟨-, hbytes⟩, -⟩, -⟩ := hinput
  exact ⟨hcommand, hbytes⟩

/-! ### Which requests are written -/

theorem write_mem_closing (env : StreamEnv) : .write r ∉ closing env := by
  unfold closing
  cases env.writesDone <;> simp

theorem write_mem_opening (client : InterfacesClientImpl) (timeoutMs : ℤ) (env : StreamEnv) :
    .write r ∉ opening client timeoutMs env := by
  unfold opening
  split <;> simp

theorem write_mem_sending {a : Command R M} {bytes : Bytes} :
    .write r ∈ sending a bytes client env.toStreamEnv ↔
      opens client env.toStreamEnv = .ok true ∧ r = commandRequest a.commandId a.key bytes := by
  unfold sending transmitting
  rcases opens client env.toStreamEnv with e | _ | _
  · simp [write_mem_opening]
  · simp [write_mem_opening]
  · rcases env.write with e | _ | _ <;> simp [write_mem_opening, write_mem_closing]

theorem write_mem_navigation_sending {sent : SendRequest} :
    .write r ∈ Navigation.sending client sent env.toStreamEnv ↔
      opens client env.toStreamEnv = .ok true ∧ r = sent := by
  unfold Navigation.sending exchanging
  rcases opens client env.toStreamEnv with e | _ | _
  · simp [write_mem_opening]
  · simp [write_mem_opening]
  · rcases env.write with e | _ | _
    · simp [write_mem_opening]
    · simp [write_mem_opening, write_mem_closing]
    · rcases env.read with e | _ <;> simp [write_mem_opening, write_mem_closing]

/-- The text that answers writes nothing. -/
theorem Text.Answers.write_mem {text : Text} {status : ResponseStatus} {t : MessageType M}
    {sendResp : SendResponse} {report : Report M}
    (h : Text.Answers text status t env sendResp report) : .write r ∉ report.ops := by
  cases h with
  | noData hc hl hd => cases text <;> simp [write_mem_closing]
  | decoded => exact write_mem_closing _
  | unclosed => exact write_mem_closing _
  | noCode => simp
  | interrupted => simp
  | undecoded => simp

/-- A control function writes its whole request as soon as there is a stream, and
nothing else. -/
theorem control_write_iff (f : ControlFunction) (status : ResponseStatus)
    (codes : ControlCommandCode) (client : InterfacesClientImpl) (env : CallEnv) (a : Messages)
    (response : a.M) {bytes : Bytes} (hs : a.serialized = some bytes) :
    .write r ∈ (f.call status codes client env a response).2.ops ↔
      opens client env.toStreamEnv = .ok true ∧
        r = commandRequest (f.commandCode codes) f.key bytes := by
  rw [(f.call_report status codes client env a response).ops, List.nil_append,
    ← f.command_commandId codes a, ← f.command_key codes a]
  have hser : (f.command codes a).request.serialize a.request = some bytes := by
    rw [f.command_request]
    exact hs
  have hway := f.text.report_way status (f.command codes a) client env a.request
  rw [← ControlFunction.report] at hway
  generalize f.report status codes client env a = report at hway
  cases hway with
  | unserialized hs' => cases hser.symm.trans hs'
  | @raised bytes' hs' e ht =>
      obtain rfl : bytes = bytes' := Option.some.inj (hser.symm.trans hs')
      exact write_mem_sending
  | @unanswered bytes' hs' ht =>
      obtain rfl : bytes = bytes' := Option.some.inj (hser.symm.trans hs')
      exact write_mem_sending
  | @answered bytes' hs' sendResp ht report ha =>
      obtain rfl : bytes = bytes' := Option.some.inj (hser.symm.trans hs')
      simp [Report.after, write_mem_sending, ha.write_mem]

/-- So does a navigation function. -/
theorem navigation_write_iff (f : NavigationFunction) (status : ResStatus)
    (codes : NavigationCommandCode) (client : InterfacesClientImpl) (env : CallEnv)
    (a : Messages) (result : a.M) {bytes : Bytes} (hs : a.serialized = some bytes) :
    .write r ∈ (f.call status codes client env a result).2.ops ↔
      opens client env.toStreamEnv = .ok true ∧
        r = commandRequest (f.commandCode codes) "request_data" bytes := by
  have hser : a.requestType.serialize a.request = some bytes := hs
  have hbuild : buildSendRequest (f.commandCode codes) a.requestType a.request =
      commandRequest (f.commandCode codes) "request_data" bytes := by
    rw [buildSendRequest, hser]
  rw [(f.call_report status codes client env a result).ops, List.nil_append,
    NavigationFunction.report]
  have hway := Navigation.report_way status (f.commandCode codes) a.requestType a.responseType
    client env a.request
  rw [hway.ops, hbuild]
  exact write_mem_navigation_sending

/-! ### Reading requests back -/

/-- Two requests of which one was sent for `commandId` with `bytes` and the other
for another command or with another payload differ. -/
theorem commandRequest_ne {commandId commandId' : ℤ} {key key' : String} {bytes bytes' : Bytes}
    (h : commandId ≠ commandId' ∨ bytes ≠ bytes') :
    commandRequest commandId key bytes ≠ commandRequest commandId' key' bytes' := by
  intro heq
  obtain ⟨hcommand, hbytes⟩ := commandRequest_inj heq
  rcases h with h | h
  · exact h hcommand
  · exact h hbytes

section

variable (statusC : ResponseStatus) (codesC : ControlCommandCode) (statusN : ResStatus)
  (codesN : NavigationCommandCode)

/-- **A request is read back as what was asked for.**  For a request that serializes, a
control or a navigation function that is given a stream writes one request to it, and
else none.  It has the two keys of a request, the function's command code, and the
request under its key.  So two calls of a module that differ in the command code or in
the serialized payload write nothing alike. -/
theorem request_readBack (a : Messages) (hrt : a.requestType.RoundTrips) {bytes : Bytes}
    (hs : a.serialized = some bytes) :
    (∀ (f : ControlFunction) client env response r,
      (.write r ∈ (f.call statusC codesC client env a response).2.ops ↔
        opens client env.toStreamEnv = .ok true ∧
          r = commandRequest (f.commandCode codesC) f.key bytes) ∧
      (.write r ∈ (f.call statusC codesC client env a response).2.ops →
        Encodes (f.commandCode codesC) f.key a.requestType a.request r ∧
        ∀ (f' : ControlFunction) client' env' (a' : Messages) response' bytes' r',
          a'.serialized = some bytes' →
            (f.commandCode codesC ≠ f'.commandCode codesC ∨ bytes ≠ bytes') →
              .write r' ∈ (f'.call statusC codesC client' env' a' response').2.ops → r ≠ r')) ∧
    (∀ (f : NavigationFunction) client env result r,
      (.write r ∈ (f.call statusN codesN client env a result).2.ops ↔
        opens client env.toStreamEnv = .ok true ∧
          r = commandRequest (f.commandCode codesN) "request_data" bytes) ∧
      (.write r ∈ (f.call statusN codesN client env a result).2.ops →
        Encodes (f.commandCode codesN) "request_data" a.requestType a.request r ∧
        ∀ (f' : NavigationFunction) client' env' (a' : Messages) result' bytes' r',
          a'.serialized = some bytes' →
            (f.commandCode codesN ≠ f'.commandCode codesN ∨ bytes ≠ bytes') →
              .write r' ∈ (f'.call statusN codesN client' env' a' result').2.ops → r ≠ r')) := by
  constructor
  · intro f client env response r
    have hwrite := control_write_iff (r := r) f statusC codesC client env a response hs
    refine ⟨hwrite, fun hr => ?_⟩
    obtain ⟨-, rfl⟩ := hwrite.1 hr
    refine ⟨encodes_commandRequest _ _ hrt hs, ?_⟩
    intro f' client' env' a' response' bytes' r' hs' hne hr'
    obtain ⟨-, rfl⟩ := (control_write_iff f' statusC codesC client' env' a' response' hs').1 hr'
    exact commandRequest_ne hne
  · intro f client env result r
    have hwrite := navigation_write_iff (r := r) f statusN codesN client env a result hs
    refine ⟨hwrite, fun hr => ?_⟩
    obtain ⟨-, rfl⟩ := hwrite.1 hr
    refine ⟨encodes_commandRequest _ _ hrt hs, ?_⟩
    intro f' client' env' a' result' bytes' r' hs' hne hr'
    obtain ⟨-, rfl⟩ := (navigation_write_iff f' statusN codesN client' env' a' result' hs').1 hr'
    exact commandRequest_ne hne

end

theorem roundTrips_byteMessage : byteMessage.RoundTrips := by
  intro m bytes h
  obtain rfl : [m] = bytes := Option.some.inj h
  rfl

/-- The requests of an emergency stop and of a question for the pose, with one byte of
payload, are written and read back. -/
theorem request_readBack_seven :
    (.write (commandRequest 101 "request_emergency_stop" [7]) ∈
        (ControlFunction.call .emergencyStop Control.sampleStatus sampleCodes connectedClient
          answersEmpty ⟨byteMessage, byteMessage, 7⟩ (42 : UInt8)).2.ops ∧
      Encodes 101 "request_emergency_stop" byteMessage (7 : UInt8)
        (commandRequest 101 "request_emergency_stop" [7])) ∧
    (.write (commandRequest 201 "request_data" [7]) ∈
        (NavigationFunction.call .getCurrentPose Navigation.sampleStatus
          ⟨201, 202, 203, 204, 205, 206, 207⟩ connectedClient answersEmpty
          ⟨byteMessage, byteMessage, 7⟩ (42 : UInt8)).2.ops ∧
      Encodes 201 "request_data" byteMessage (7 : UInt8)
        (commandRequest 201 "request_data" [7])) := by
  obtain ⟨hcontrol, hnavigation⟩ := request_readBack Control.sampleStatus sampleCodes
    Navigation.sampleStatus ⟨201, 202, 203, 204, 205, 206, 207⟩ ⟨byteMessage, byteMessage, 7⟩
    roundTrips_byteMessage rfl
  obtain ⟨hwrite, hread⟩ := hcontrol .emergencyStop connectedClient answersEmpty (42 : UInt8)
    (commandRequest 101 "request_emergency_stop" [7])
  obtain ⟨hwrite', hread'⟩ := hnavigation .getCurrentPose connectedClient answersEmpty
    (42 : UInt8) (commandRequest 201 "request_data" [7])
  have hmem := hwrite.2 ⟨rfl, rfl⟩
  have hmem' := hwrite'.2 ⟨rfl, rfl⟩
  exact ⟨⟨hmem, (hread hmem).1⟩, hmem', (hread' hmem').1⟩

end Modules
end ClientSdk
