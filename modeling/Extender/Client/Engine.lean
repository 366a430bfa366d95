/-
The client engine on macOS (`ClientEngine` of `engine.rs`): its table of attached devices and
of the tasks that forward their requests.

Here the driver is known by its answers: nothing in the engine depends on how the driver comes
to them, and with the shipped driver every attach fails (`Attach`), so its answers are inputs
of the results about the engine. What the engine does outside itself is returned as a list of
effects, in order: calls into the driver, tasks spawned and tasks aborted.

An engine that has attached a device has it in its registry and the task in its table, and a
detach then aborts that task and destroys the device. A new engine has neither
(`detachDevice_new`), which is what the daemon's handlers run into: they make one for each
request (`Daemon.AttachApi`).
-/

import Extender.Client.Attach

namespace Extender.Client

open Extender.Protocol Extender.Driver

/-- The errors of the engine's methods. -/
inductive ClientError where
  | vhciNotAvailable (reason : String)
  | portNotAttached (port : UInt32)
  | attach (e : AttachError)
deriving DecidableEq, Repr

/-- What the engine does to the driver and to the runtime; tasks are known by number. -/
inductive Effect where
  | createDevice (deviceType devid : UInt32)
  | configureDevice (devid : UInt32)
  | destroyDevice (devid : UInt32)
  | spawnTask (task : Nat) (devid : UInt32)
  | abortTask (task : Nat)
deriving DecidableEq, Repr

/-- The driver's answers to the calls of one method, whichever of them are made. -/
structure DriverAnswers where
  create : IOReturn
  configure : IOReturn
  destroy : IOReturn
deriving DecidableEq, Repr

/-- The engine: what is attached under which port, and the task that forwards for it. -/
structure ClientEngine where
  registry : AList (fun _ : UInt32 => RegistryEntry)
  urbTasks : AList (fun _ : UInt32 => Nat)
deriving DecidableEq

namespace ClientEngine

/-- `ClientEngine::new`, when the driver could be opened: its registry and its table of tasks
are empty. -/
def new : ClientEngine := { registry := ∅, urbTasks := ∅ }

/-- The part of `attach_device_macos` behind the import; `task` is the number the runtime
gives to the next task. -/
def attachImported (engine : ClientEngine) (answers : DriverAnswers) (task : Nat)
    (addr busid : String) (device : UsbDevice) :
    Except ClientError AttachedDevice × ClientEngine × List Effect :=
  let (deviceType, devid) := createArguments device
  match checkKr answers.create "create_device" with
  | .error e => (.error (.attach e), engine, [.createDevice deviceType devid])
  | .ok () =>
      match checkKr answers.configure "configure_device" with
      | .error e =>
          (.error (.attach e), engine,
            [.createDevice deviceType devid, .configureDevice devid, .destroyDevice devid])
      | .ok () =>
          (.ok { port := devid, busid, serverAddr := addr, idVendor := device.idVendor
                 idProduct := device.idProduct, speed := device.speed },
            { registry := engine.registry.insert devid
                { serverAddr := addr, busid, idVendor := device.idVendor
                  idProduct := device.idProduct, speed := device.speed }
              urbTasks := engine.urbTasks.insert devid task },
            [.createDevice deviceType devid, .configureDevice devid, .spawnTask task devid])

/-- `attach_device`: the import over the network, then the device in the driver; the task is
spawned last. -/
def attachDevice (engine : ClientEngine) (answers : DriverAnswers) (task : Nat)
    (addr busid : String) (connect : Connect) :
    Except ClientError AttachedDevice × ClientEngine × List Effect :=
  match busidFromStr busid with
  | .error _ => (.error (.attach (.invalidBusId busid)), engine, [])
  | .ok _ =>
      match connect with
      | .timedOut => (.error (.attach (.connectTimeout addr connectTimeoutSecs)), engine, [])
      | .failed kind => (.error (.attach (.io kind)), engine, [])
      | .connected (.error e) _ => (.error (.attach (.protocol (.error e))), engine, [])
      | .connected (.ok ()) input =>
          match importedDevice busid input with
          | .error e => (.error (.attach e), engine, [])
          | .ok device => engine.attachImported answers task addr busid device

/-- `detach_device`: a port that is not in the registry is refused; otherwise the task is
aborted first, then the device destroyed. -/
def detachDevice (engine : ClientEngine) (destroy : IOReturn) (port : UInt32) :
    Except ClientError Unit × ClientEngine × List Effect :=
  if port ∉ engine.registry then (.error (.portNotAttached port), engine, [])
  else
    let aborted := (engine.urbTasks.lookup port).toList.map Effect.abortTask
    let engine := { engine with urbTasks := engine.urbTasks.erase port }
    match checkKr destroy "destroy_device" with
    | .error e => (.error (.attach e), engine, aborted ++ [.destroyDevice port])
    | .ok () =>
        (.ok (), { engine with registry := engine.registry.erase port },
          aborted ++ [.destroyDevice port])

/-- A new engine has nothing to detach: every port is refused, and nothing is done. -/
theorem detachDevice_new (destroy : IOReturn) (port : UInt32) :
    new.detachDevice destroy port = (.error (.portNotAttached port), new, []) :=
  if_pos (AList.notMem_empty port)

end ClientEngine

end Extender.Client
