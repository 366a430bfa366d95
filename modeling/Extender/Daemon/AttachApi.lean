/-
Attaching and detaching through the API (`handle_attach_device` and `handle_detach_device` of
`api_server.rs`).

Both handlers build a client engine of their own, which is gone when the request is answered.
The task an attach has spawned goes on, since dropping its handle detaches it. The next
request has a new engine, whose registry is empty: it knows of no device and of no task, and a
detach that finds no entry in its registry is refused before it does anything.

The system is any number of requests, each at one of its steps, with the tasks of the runtime
and a journal of what each request did to the driver and to the tasks. What the network, the
driver and the opening of the driver answer is in the labels of the steps. Requests interleave
freely, and an attach that waits for the network holds its engine meanwhile.

A detach counts as one only if it aborted a task of the device and destroyed the device
(`Detaches`). That none ever does is an invariant about the journal: everything in it was done
by an attach request (`DoneByAttach`).

* `detach_never_succeeds` — no detach request is answered without an error.
* `detach_without_effect` — no detach request ever calls the driver or aborts a task.
* `detach_never_detaches` — so none detaches the device it names, in any run.
* `attached_not_detached` — a device that was attached cannot be detached.
-/

import Extender.Api.Framing
import Extender.Client.Engine
import Extender.Lib.Transition

namespace Extender.Daemon

open Extender.Api Extender.Client Extender.Protocol Extender.Driver

/-! ### Requests -/

/-- The parameters of `attach_device`; a field is absent if it is missing or has another
JSON type. -/
structure AttachParams where
  host : Option String
  port : Option UInt64
  busId : Option String
deriving DecidableEq, Repr

/-- The parameters of `detach_device`, read in the same way. -/
structure DetachParams where
  port : Option UInt64
deriving DecidableEq, Repr

/-- What an attach is answered with when it succeeds. -/
structure AttachAnswer where
  port : UInt32
  busId : String
deriving DecidableEq, Repr

/-- Where a request stands. An attach that waits for the network holds its engine. An
answered detach keeps the port it was for and the error that was logged. -/
inductive ApiRequest where
  | attachReceived (params : Option AttachParams)
  | attachConnecting (addr busId : String) (engine : ClientEngine)
  | attachAnswered (result : Except JsonRpcError AttachAnswer)
  | detachReceived (params : Option DetachParams)
  | detachAnswered (port : Option UInt32) (cause : Option ClientError)
      (result : Except JsonRpcError UInt32)
deriving DecidableEq

/-- A request that has just arrived. -/
inductive Received where
  | attach (params : Option AttachParams)
  | detach (params : Option DetachParams)
deriving DecidableEq, Repr

/-- A request at its first step. -/
def Received.request : Received → ApiRequest
  | .attach params => .attachReceived params
  | .detach params => .detachReceived params

/-- A forwarding task of the runtime: the device it forwards for, and whether it still
runs. -/
structure UrbTask where
  devid : UInt32
  running : Bool
deriving DecidableEq, Repr

/-- The part of the daemon the two requests share: nothing but the runtime and the driver. -/
structure ApiDaemon where
  requests : Nat → Option ApiRequest
  tasks : List UrbTask
  journal : List (Nat × Effect)

namespace ApiDaemon

/-- A daemon with no requests and no tasks. -/
def start : ApiDaemon := { requests := fun _ => none, tasks := [], journal := [] }

/-- The request `i` moves on. -/
def setRequest (s : ApiDaemon) (i : Nat) (request : ApiRequest) : ApiDaemon :=
  { s with requests := Function.update s.requests i (some request) }

/-- What an effect does to the tasks: one is spawned or aborted, and calls of the driver do
nothing to them. -/
def runTasks (tasks : List UrbTask) : Effect → List UrbTask
  | .spawnTask _ devid => tasks ++ [{ devid, running := true }]
  | .abortTask task => tasks.modify task fun t => { t with running := false }
  | .createDevice _ _ => tasks
  | .configureDevice _ => tasks
  | .destroyDevice _ => tasks

/-- The request `i` does `effects`, which are journalled under its number. -/
def perform (s : ApiDaemon) (i : Nat) (effects : List Effect) : ApiDaemon :=
  { s with
    tasks := effects.foldl runTasks s.tasks
    journal := s.journal ++ effects.map fun effect => (i, effect) }

/-! ### The handlers -/

section Handlers

-- `parseAddr` is `SocketAddr::from_str`; nothing depends on what it accepts.
variable (parseAddr : String → Except String String)

/-- The checks of `handle_attach_device`: the address and the bus id. The port is cast to 16
bits. -/
def attachArguments (params : Option AttachParams) : Except JsonRpcError (String × String) :=
  match params with
  | none => .error (.invalidParams "missing params")
  | some params =>
      match params.host with
      | none => .error (.invalidParams "missing 'host'")
      | some host =>
          match params.port with
          | none => .error (.invalidParams "missing 'port'")
          | some port =>
              match params.busId with
              | none => .error (.invalidParams "missing 'bus_id'")
              | some busId =>
                  match parseAddr (host ++ ":" ++ toString port.toUInt16) with
                  | .error e => .error (.invalidParams ("invalid address: " ++ e))
                  | .ok addr => .ok (addr, busId)

/-- `handle_attach_device` up to the network; `opened` is the outcome of opening the driver,
which the new engine does. -/
def beginAttach (params : Option AttachParams) (opened : Except ClientError Unit) : ApiRequest :=
  match attachArguments parseAddr params with
  | .error e => .attachAnswered (.error e)
  | .ok (addr, busId) =>
      match opened with
      | .error _ => .attachAnswered (.error (.internalError "client initialization failed"))
      | .ok () => .attachConnecting addr busId .new

/-- The rest of it, and what it does: the import, the device in the driver, the task. -/
def finishAttach (addr busId : String) (engine : ClientEngine) (connect : Connect)
    (answers : DriverAnswers) (task : Nat) : ApiRequest × List Effect :=
  match engine.attachDevice answers task addr busId connect with
  | (.error _, _, effects) =>
      (.attachAnswered (.error (.internalError "attach device failed")), effects)
  | (.ok attached, _, effects) => (.attachAnswered (.ok { port := attached.port, busId }), effects)

/-- `handle_detach_device`, and what it does: a new engine is asked to detach. The port is
cast to 32 bits. -/
def handleDetachDevice (params : Option DetachParams) (opened : Except ClientError Unit)
    (destroy : IOReturn) : ApiRequest × List Effect :=
  match params with
  | none => (.detachAnswered none none (.error (.invalidParams "missing params")), [])
  | some params =>
      match params.port with
      | none => (.detachAnswered none none (.error (.invalidParams "missing 'port'")), [])
      | some port =>
          let port := port.toUInt32
          match opened with
          | .error e =>
              (.detachAnswered (some port) (some e)
                (.error (.internalError "client initialization failed")), [])
          | .ok () =>
              match ClientEngine.new.detachDevice destroy port with
              | (.error e, _, effects) =>
                  (.detachAnswered (some port) (some e)
                    (.error (.internalError "detach device failed")), effects)
              | (.ok (), _, effects) => (.detachAnswered (some port) none (.ok port), effects)

/-- A request arrives, an attach begins or ends, a detach is handled, or a task ends by
itself. -/
inductive Action where
  | receive (i : Nat) (received : Received)
  | begin (i : Nat) (opened : Except ClientError Unit)
  | connected (i : Nat) (connect : Connect) (answers : DriverAnswers)
  | detach (i : Nat) (opened : Except ClientError Unit) (destroy : IOReturn)
  | taskEnds (task : Nat)

def step (s : ApiDaemon) (a : Action) : Option ApiDaemon :=
  match a with
  | .receive i received =>
      match s.requests i with
      | none => some (s.setRequest i received.request)
      | some _ => none
  | .begin i opened =>
      match s.requests i with
      | some (.attachReceived params) => some (s.setRequest i (beginAttach parseAddr params opened))
      | _ => none
  | .connected i connect answers =>
      match s.requests i with
      | some (.attachConnecting addr busId engine) =>
          let (request, effects) :=
            finishAttach addr busId engine connect answers s.tasks.length
          some ((s.perform i effects).setRequest i request)
      | _ => none
  | .detach i opened destroy =>
      match s.requests i with
      | some (.detachReceived params) =>
          let (request, effects) := handleDetachDevice params opened destroy
          some ((s.perform i effects).setRequest i request)
      | _ => none
  | .taskEnds task =>
      some { s with tasks := s.tasks.modify task fun t => { t with running := false } }

end Handlers

/-! ### What a detach request does -/

/-- An attach request has answered with this port, so the caller may ask for its detach. -/
def Attached (s : ApiDaemon) (port : UInt32) : Prop :=
  ∃ i busId, s.requests i = some (.attachAnswered (.ok { port, busId }))

/-- The detach request `i` has detached the port: it did not fail for want of an entry, it
aborted a task of the device, and it destroyed the device. -/
def Detaches (s : ApiDaemon) (i : Nat) (port : UInt32) : Prop :=
  (∃ cause result, s.requests i = some (.detachAnswered (some port) cause result) ∧
      cause ≠ some (.portNotAttached port)) ∧
    (∃ task t, s.tasks[task]? = some t ∧ t.devid = port ∧ (i, Effect.abortTask task) ∈ s.journal) ∧
    (i, Effect.destroyDevice port) ∈ s.journal

/-- The effects of a detach request are those of a new engine: none. -/
theorem handleDetachDevice_effects (params : Option DetachParams)
    (opened : Except ClientError Unit) (destroy : IOReturn) :
    (handleDetachDevice params opened destroy).2 = [] := by
  unfold handleDetachDevice
  split
  · rfl
  · split
    · rfl
    · simp only
      split
      · rfl
      · rw [ClientEngine.detachDevice_new]

/-- The request is one of `attach_device`, wherever it stands. -/
def IsAttach : ApiRequest → Prop
  | .attachReceived _ => True
  | .attachConnecting _ _ _ => True
  | .attachAnswered _ => True
  | .detachReceived _ => False
  | .detachAnswered _ _ _ => False

theorem isAttach_beginAttach (parseAddr : String → Except String String)
    (params : Option AttachParams) (opened : Except ClientError Unit) :
    IsAttach (beginAttach parseAddr params opened) := by
  unfold beginAttach
  split
  · trivial
  · split
    all_goals trivial

theorem isAttach_finishAttach (addr busId : String) (engine : ClientEngine) (connect : Connect)
    (answers : DriverAnswers) (task : Nat) :
    IsAttach (finishAttach addr busId engine connect answers task).1 := by
  unfold finishAttach
  split
  all_goals trivial

/-- Whatever was done to the driver or the tasks, an attach request did it, and so none of it
was a detach. -/
def DoneByAttach (s : ApiDaemon) : Prop :=
  ∀ e ∈ s.journal, ∃ request, s.requests e.1 = some request ∧ IsAttach request

section Keeps

variable {s : ApiDaemon}

/-- A request that did nothing yet, or that stays what it is, may move on. -/
theorem DoneByAttach.setRequest (h : s.DoneByAttach) {i : Nat} {request : ApiRequest}
    (hkind : ∀ old, s.requests i = some old → IsAttach old → IsAttach request) :
    (s.setRequest i request).DoneByAttach := by
  intro e he
  obtain ⟨old, hold, hattach⟩ := h e he
  show ∃ r, Function.update s.requests i (some request) e.1 = some r ∧ IsAttach r
  rw [Function.update_apply]
  split
  · rename_i heq
    rw [heq] at hold
    exact ⟨request, rfl, hkind old hold hattach⟩
  · exact ⟨old, hold, hattach⟩

theorem DoneByAttach.perform (h : s.DoneByAttach) {i : Nat} {request : ApiRequest}
    (hrequest : s.requests i = some request) (hattach : IsAttach request)
    (effects : List Effect) : (s.perform i effects).DoneByAttach := by
  intro e he
  rcases List.mem_append.mp he with he | he
  · exact h e he
  · obtain ⟨effect, -, rfl⟩ := List.mem_map.mp he
    exact ⟨request, hrequest, hattach⟩

/-- One step: whatever is done, an attach request does it. -/
theorem DoneByAttach.step {parseAddr : String → Except String String} {s' : ApiDaemon}
    {a : Action} (h : s.DoneByAttach) (hstep : step parseAddr s a = some s') :
    s'.DoneByAttach := by
  unfold ApiDaemon.step at hstep
  cases a with
  | receive i received =>
      simp only at hstep
      split at hstep
      · rename_i hnone
        cases hstep
        refine h.setRequest fun old hold _ => ?_
        rw [hnone] at hold
        cases hold
      · cases hstep
  | begin i opened =>
      simp only at hstep
      split at hstep
      · cases hstep
        exact h.setRequest fun _ _ _ => isAttach_beginAttach ..
      · cases hstep
  | connected i connect answers =>
      simp only at hstep
      split at hstep
      · rename_i addr busId engine hrequest
        cases hstep
        exact (h.perform hrequest trivial _).setRequest fun _ _ _ => isAttach_finishAttach ..
      · cases hstep
  | detach i opened destroy =>
      simp only at hstep
      split at hstep
      · rename_i params hrequest
        rw [handleDetachDevice_effects] at hstep
        cases hstep
        -- a detach request has no entry in the journal, and makes none
        have hsame : (s.perform i []).DoneByAttach := by
          unfold ApiDaemon.perform
          rw [List.map_nil, List.append_nil]
          exact h
        refine hsame.setRequest fun old hold hattach => ?_
        cases hrequest.symm.trans hold
        exact hattach.elim
      · cases hstep
  | taskEnds task =>
      cases hstep
      exact h

end Keeps

/-! ### No detach succeeds -/

/-- An answered detach request has failed; any other request is of no concern here. -/
def FailsDetach : ApiRequest → Prop
  | .detachAnswered _ _ (.ok _) => False
  | _ => True

theorem failsDetach_of_isAttach {request : ApiRequest} (h : IsAttach request) :
    FailsDetach request := by
  cases request with
  | attachReceived | attachConnecting | attachAnswered | detachReceived => trivial
  | detachAnswered => exact h.elim

/-- The handler fails whatever it is called with: its engine is new. -/
theorem failsDetach_handleDetachDevice (params : Option DetachParams)
    (opened : Except ClientError Unit) (destroy : IOReturn) :
    FailsDetach (handleDetachDevice params opened destroy).1 := by
  unfold handleDetachDevice
  split
  · trivial
  · split
    · trivial
    · simp only
      split
      · trivial
      · rw [ClientEngine.detachDevice_new]
        trivial

theorem failsDetach_step {parseAddr : String → Except String String} {s s' : ApiDaemon}
    {a : Action} (h : ∀ i request, s.requests i = some request → FailsDetach request)
    (hstep : step parseAddr s a = some s') :
    ∀ i request, s'.requests i = some request → FailsDetach request := by
  have hset : ∀ i request, FailsDetach request →
      ∀ j r, Function.update s.requests i (some request) j = some r → FailsDetach r := by
    intro i request hrequest j r hr
    rw [Function.update_apply] at hr
    split at hr
    · cases hr
      exact hrequest
    · exact h j r hr
  unfold ApiDaemon.step at hstep
  cases a with
  | receive i received =>
      simp only at hstep
      split at hstep
      · cases hstep
        cases received with
        | attach | detach => exact hset i _ trivial
      · cases hstep
  | begin i opened =>
      simp only at hstep
      split at hstep
      · cases hstep
        exact hset i _ (failsDetach_of_isAttach (isAttach_beginAttach ..))
      · cases hstep
  | connected i connect answers =>
      simp only at hstep
      split at hstep
      · cases hstep
        exact hset i _ (failsDetach_of_isAttach (isAttach_finishAttach ..))
      · cases hstep
  | detach i opened destroy =>
      simp only at hstep
      split at hstep
      · cases hstep
        exact hset i _ (failsDetach_handleDetachDevice ..)
      · cases hstep
  | taskEnds task =>
      cases hstep
      exact h

/-- No detach request succeeds, in any run. -/
theorem detach_never_succeeds {parseAddr : String → Except String String} {as : List Action}
    {s : ApiDaemon} (hrun : Transition.run (step parseAddr) start as = some s) (i : Nat)
    (port : Option UInt32) (cause : Option ClientError) (answer : UInt32) :
    s.requests i ≠ some (.detachAnswered port cause (.ok answer)) := by
  intro hrequest
  have hstart : ∀ i request, start.requests i = some request → FailsDetach request := by
    intro i request h
    cases h
  have hfails := Transition.run_invariant_of_step
    (fun s : ApiDaemon => ∀ i request, s.requests i = some request → FailsDetach request)
    (fun _ _ _ h hstep => failsDetach_step h hstep) hstart hrun
  exact hfails i _ hrequest

/-! ### No detach detaches -/

/-- A detach request leaves no trace outside itself, in any run: the journal has nothing under
its number. -/
theorem detach_without_effect {parseAddr : String → Except String String} {as : List Action}
    {s : ApiDaemon} (hrun : Transition.run (step parseAddr) start as = some s) {i : Nat}
    {request : ApiRequest} (hrequest : s.requests i = some request) (hdetach : ¬ IsAttach request)
    (effect : Effect) : (i, effect) ∉ s.journal := by
  have hstart : start.DoneByAttach := fun _ he => nomatch he
  have hdone : s.DoneByAttach := Transition.run_invariant_of_step DoneByAttach
    (fun _ _ _ h hstep => h.step hstep) hstart hrun
  intro hmem
  obtain ⟨request', hrequest', hattach⟩ := hdone _ hmem
  cases hrequest.symm.trans hrequest'
  exact hdetach hattach

/-- **Detaching through the API.** In every run of attach and detach requests, in any
interleaving and whatever the driver, the network and the tasks do, no detach request
detaches the device it names. -/
theorem detach_never_detaches (parseAddr : String → Except String String) (as : List Action)
    (s : ApiDaemon) (hrun : Transition.run (step parseAddr) start as = some s) (i : Nat)
    (port : UInt32) : ¬ s.Detaches i port := by
  rintro ⟨⟨cause, result, hrequest, -⟩, -, hdestroy⟩
  exact detach_without_effect hrun hrequest id _ hdestroy

/-- A keyboard whose device id is a slot of the driver. -/
def attachedKeyboard : UsbDevice := { sampleUsbDevice with busnum := 0, interfaces := [] }

/-- The id it is attached under. -/
def samplePort : UInt32 := (createArguments attachedKeyboard).2

/-- A device is attached; the driver accepts every call. -/
def sampleAttach : List Action :=
  [.receive 1 (.attach (some
      { host := some "10.0.0.2", port := some 3240, busId := some "1-2" })),
    .begin 1 (.ok ()),
    .connected 1
      (.connected (.ok ())
        (OpMessage.encode (.repImport { status := 0, device := some attachedKeyboard })))
      { create := .success, configure := .success, destroy := .success }]

/-- It is detached. -/
def sampleDetach : List Action :=
  [.receive 2 (.detach (some { port := some samplePort.toUInt64 })), .detach 2 (.ok ()) .success]

/-- The attach request has answered with its port. -/
def SampleAttached (s : ApiDaemon) : Prop :=
  s.requests 1 = some (.attachAnswered (.ok { port := samplePort, busId := "1-2" })) ∧
    s.requests 2 = none

instance : DecidablePred SampleAttached := fun _ => inferInstanceAs (Decidable (_ ∧ _))

/-- The detach request has failed for want of an entry. -/
def SampleRefused (s : ApiDaemon) : Prop :=
  s.requests 2 = some (.detachAnswered (some samplePort) (some (.portNotAttached samplePort))
    (.error (.internalError "detach device failed")))

instance : DecidablePred SampleRefused := fun _ => inferInstanceAs (Decidable (_ = _))

/-- The attach succeeds, with its port as the answer. -/
theorem exists_sampleAttached :
    ∃ s, Transition.run (step .ok) start sampleAttach = some s ∧ s.SampleAttached ∧
      ∃ s', Transition.run (step .ok) s sampleDetach = some s' ∧ s'.SampleRefused := by
  obtain ⟨s, hrun, hattached, hrefused⟩ := Transition.exists_run_of_any (step .ok) start
    sampleAttach
    (fun s => s.SampleAttached ∧
      (Transition.run (step .ok) s sampleDetach).any (fun s' => decide s'.SampleRefused) = true)
    (by decide +kernel)
  exact ⟨s, hrun, hattached, Transition.exists_run_of_any (step .ok) s sampleDetach _ hrefused⟩

/-- The device that was attached is not detached by the request that asks for it. -/
theorem detach_never_detaches_sample :
    ∃ s, Transition.run (step .ok) start (sampleAttach ++ sampleDetach) = some s ∧
      s.SampleRefused ∧ ¬ s.Detaches 2 samplePort := by
  obtain ⟨s, hrun, hrefused⟩ := Transition.exists_run_of_any (step .ok) start
    (sampleAttach ++ sampleDetach) SampleRefused (by decide +kernel)
  exact ⟨s, hrun, hrefused, detach_never_detaches .ok _ s hrun 2 samplePort⟩

/-- After an attach has answered with a port and no detach of it has succeeded, a detach of
that port does not detach it. -/
theorem attached_not_detached :
    ¬ ∀ (parseAddr : String → Except String String) (as as' : List Action) (s s' : ApiDaemon)
      (i : Nat) (port : UInt32) (cause : Option ClientError)
      (result : Except JsonRpcError UInt32),
      Transition.run (step parseAddr) start as = some s → s.Attached port →
      s.requests i = none → Transition.run (step parseAddr) s as' = some s' →
      (∀ j cause, j ≠ i → s'.requests j ≠ some (.detachAnswered (some port) cause (.ok port))) →
      s'.requests i = some (.detachAnswered (some port) cause result) → s'.Detaches i port := by
  intro hall
  obtain ⟨s, hrun, ⟨hattached, hnew⟩, s', hrun', hrefused⟩ := exists_sampleAttached
  have hwhole : Transition.run (step .ok) start (sampleAttach ++ sampleDetach) = some s' := by
    rw [Transition.run_append, hrun]
    exact hrun'
  obtain ⟨⟨cause, result, hrequest, hcause⟩, -, -⟩ :=
    hall .ok sampleAttach sampleDetach s s' 2 samplePort _ _ hrun ⟨1, "1-2", hattached⟩ hnew
      hrun' (fun j cause _ => detach_never_succeeds hwhole j _ cause _) hrefused
  cases hrefused.symm.trans hrequest
  exact hcause rfl

end ApiDaemon

end Extender.Daemon
