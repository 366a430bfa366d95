/-
The server as a system: the export registry, every connection with its session, and the
cleanup tasks of disconnected sessions, moved by a labelled step function.

The daemon's side is `handle_bind_device` and `handle_unbind_device` (`api_server.rs`), as far
as they act on the registry: what `unbind_device` returns is reported to the caller and used
for nothing else. The clients' side is `handle_connection` (`connection.rs`) for each accepted
connection (`engine.rs`). A move of a connection is one `await` of the handler; a move of its
session is a move of `Session.step`, and sessions go on after the handler has returned, as
their tasks do.

Timers fire at any time after they are set: the model has no clock of its own, and the
instants the registry reads are part of the actions. The clients are bytes: each connection is
accepted with all its peer will ever send, and a read that fails may happen at any time. So a
run is any interleaving of any number of clients, honest or not, with the daemon's calls.

The limit on connections and the acceptance of TLS are left out; both only decide whether a
connection is made at all. `calls` and `grants` are the history of the calls on the registry
and of the connections that were granted a device.
-/

import Extender.Server.Connection

namespace Extender.Server

open Extender.Protocol

/-- The state of the server: the registry, the connections in the order they were accepted,
the cleanup tasks that have not run, and the history. -/
structure ServerEngine where
  registry : ExportRegistry
  conns : List Connection
  /-- The cleanup tasks that have not fired. -/
  timers : List (String × SessionId)
  /-- History: the calls made on the registry. -/
  calls : List ExportRegistry.Call
  /-- History: the connections that acquired a device, in order. -/
  grants : List Nat

namespace ServerEngine

/-- `ServerEngine::new_with_session_timeout`: nothing is bound and nobody is connected. -/
def start (timeoutSecs : UInt64) : ServerEngine :=
  { registry := .withSessionTimeout timeoutSecs, conns := [], timers := [], calls := []
    grants := [] }

inductive Action where
  | bindDevice (busId : String) (enumerated : Except ServerError (List LocalUsbDevice))
      (opened : Except ServerError ManagedDevice)
  | bindDeviceWith (busId : String) (device : LocalUsbDevice) (handle : ManagedDevice)
  | unbindDevice (busId : String)
  | expire (timer : Nat)
  | accept (input : List UInt8)
  | readOp (conn : Nat)
  | readOpFail (conn : Nat)
  | listDevices (conn : Nat) (written : Bool)
  | acquire (conn : Nat) (now : Instant)
  | reply (conn : Nat) (written : Bool)
  | session (conn : Nat) (a : Session.Action)
  | release (conn : Nat) (now : Instant)

/-- Make a call on the registry, and append it to the history, which no step reads. -/
def call (s : ServerEngine) (c : ExportRegistry.Call) : ServerEngine :=
  { s with registry := s.registry.apply c, calls := s.calls ++ [c] }

def setConn (s : ServerEngine) (i : Nat) (c : Connection) : ServerEngine :=
  { s with conns := s.conns.set i c }

/-- `handle_unbind_device`: the entry goes, and the sessions that came through it are noted as
revoked, which nothing in the source does. -/
def handleUnbindDevice (s : ServerEngine) (busId : String) : ServerEngine :=
  match (s.registry.unbindDevice busId).1 with
  | .error _ => s.call (.unbindDevice busId)
  | .ok _ =>
      { s.call (.unbindDevice busId) with conns := s.conns.map (Connection.revoke busId) }

/-- `handle_devlist`; the list may fail to convert and the reply may fail to be
written. -/
def handleDevlist (s : ServerEngine) (i : Nat) (c : Connection) (written : Bool) : ServerEngine :=
  match s.registry.listDevices with
  | .ok devices =>
      s.setConn i
        { c with
          pc := .returned
          sent := if written then c.sent ++ [.repDevlist { status := 0, devices }] else c.sent }
  | .error _ => s.setConn i { c with pc := .returned }

/-- The first half of `handle_import`: the acquisition. A device that was obtained is
remembered; an error leads to the reply that refuses the import. -/
def acquire (s : ServerEngine) (i : Nat) (c : Connection) (now : Instant) (busId : String) :
    ServerEngine :=
  match (s.registry.tryAcquireExt now busId).1 with
  | .ok (handle, device, sessionId, _) =>
      { (s.call (.tryAcquireExt now busId)).setConn i
          { c with
            pc := .granted busId handle device sessionId
            obtained := some (busId, sessionId) } with
        grants := s.grants ++ [i] }
  | .error _ => (s.call (.tryAcquireExt now busId)).setConn i { c with pc := .refused }

/-- One move of the daemon, of a connection, of its session or of a timer; there is no other
state they share than the registry. -/
def step (s : ServerEngine) : Action → Option ServerEngine
  | .bindDevice busId enumerated opened => some (s.call (.bindDevice busId enumerated opened))
  | .bindDeviceWith busId device handle => some (s.call (.bindDeviceWith busId device handle))
  | .unbindDevice busId => some (s.handleUnbindDevice busId)
  | .expire timer =>
      match s.timers[timer]? with
      | some (busId, sessionId) =>
          some { s.call (.expireDisconnectedSession busId sessionId) with
            timers := s.timers.eraseIdx timer }
      | none => none
  | .accept input => some { s with conns := s.conns ++ [Connection.accept input] }
  | .readOp i =>
      match s.conns[i]? with
      | some c =>
          if c.pc = .accepted then
            match readOpMessage c.input with
            | .ok (msg, rest) => some (s.setConn i ({ c with input := rest }.dispatch msg))
            | .error _ => some (s.setConn i { c with pc := .returned })
          else none
      | none => none
  | .readOpFail i =>
      match s.conns[i]? with
      | some c => if c.pc = .accepted then some (s.setConn i { c with pc := .returned }) else none
      | none => none
  | .listDevices i written =>
      match s.conns[i]? with
      | some c => if c.pc = .devlist then some (s.handleDevlist i c written) else none
      | none => none
  | .acquire i now =>
      match s.conns[i]? with
      | some c =>
          match c.pc with
          | .importing busId => some (s.acquire i c now busId)
          | _ => none
      | none => none
  | .reply i written =>
      match s.conns[i]? with
      | some c =>
          match c.pc with
          | .granted busId handle device sessionId =>
              if written then
                some (s.setConn i
                  { c with
                    sent := c.sent ++ [.repImport { status := 0, device := some device }]
                    session := some (.start c.input)
                    pc := .running busId handle sessionId })
              else some (s.setConn i { c with pc := .returned })
          | .refused =>
              some (s.setConn i
                { c with
                  pc := .returned
                  sent := if written then c.sent ++ [.repImport { status := 1, device := none }]
                    else c.sent })
          | _ => none
      | none => none
  | .session i a =>
      match s.conns[i]? with
      | some c =>
          match c.session with
          | some session =>
              (session.step a).map fun session' => s.setConn i { c with session := some session' }
          | none => none
      | none => none
  | .release i now =>
      match s.conns[i]? with
      | some c =>
          match c.pc, c.session with
          | .running busId _ sessionId, some session =>
              if session.reader = .returned then
                let (_, timer) := s.registry.release now busId sessionId
                some { (s.call (.release now busId sessionId)).setConn i
                    { c with pc := .returned, released := true } with
                  timers := s.timers ++ timer.toList }
              else none
          | _, _ => none
      | none => none

end ServerEngine

end Extender.Server
