/-
Acquisitions that fail (`try_acquire_ext`).

A device that is not bound or is in use is refused before anything is written. The third way
to fail comes after the entry has been marked: the descriptor is converted last, and its
failure is returned with the mark in place. The caller has no session id to release, so the
device stays in use.

When a descriptor converts is a matter of its bus id alone, which has to fit the 32-byte field
and be ASCII (`FitsBusidField`). A device found by enumeration always has such an id; one
bound with `bind_device_with` need not.

* `keepsSessionsOnError_iff` — a failing acquisition leaves the sessions alone iff the device
  is not bound, in use, or its bus id fits. It is stated of every registry some history leads
  to, at every reading of the clock.
* `keepsSessionsOnError_sampleInUse` — an acquisition that is refused, of a device in use.
* `failed_acquisition_marks` — one that fails and marks.
-/

import Extender.Server.BusId
import Extender.Server.ExportLease

namespace Extender.Server

open Extender.Protocol

namespace ExportRegistry

variable {reg : ExportRegistry} {busId : String} {e : ExportedDevice}

/-- `active_session` and `session_state` of the entry of `busId`, if there is one. -/
def sessionFields (reg : ExportRegistry) (busId : String) :
    Option (Option SessionId × Option SessionState) :=
  (reg.devices.lookup busId).map fun e => (e.activeSession, e.sessionState)

/-- If the acquisition fails, every entry's session is the one from before: a failed call has
no effect anyone can see. -/
def KeepsSessionsOnError (reg : ExportRegistry) (now : Instant) (busId : String) : Prop :=
  (∃ err, (reg.tryAcquireExt now busId).1 = .error err) →
    ∀ other, (reg.tryAcquireExt now busId).2.sessionFields other = reg.sessionFields other

theorem sessionFields_marked_ne (hlookup : reg.devices.lookup busId = some e)
    (hstate : ∀ s, e.sessionState ≠ some (.active s)) (next : UInt64) (s : SessionId) :
    ({ reg.put busId (marked e s) with nextSessionId := next } : ExportRegistry).sessionFields
      busId ≠ reg.sessionFields busId := by
  intro h
  simp only [sessionFields, lookup_put_self, hlookup, Option.map_some, Option.some.injEq,
    Prod.mk.injEq] at h
  exact hstate s h.2.symm

/-- On an entry that is not in use only a bus id that does not fit makes the acquisition
fail, and by then the entry is marked. -/
theorem keepsSessionsOnError_inactive_iff (hlookup : reg.devices.lookup busId = some e)
    (he : e.Consistent busId) (hstate : ∀ s, e.sessionState ≠ some (.active s)) (now : Instant) :
    reg.KeepsSessionsOnError now busId ↔ FitsBusidField e.device.busId := by
  obtain ⟨isReconnect, heq⟩ := tryAcquireExt_inactive hlookup he hstate now
  rw [← toProtocolDevice_converts_iff]
  unfold KeepsSessionsOnError
  rw [heq]
  constructor
  · intro hkeeps
    cases hproto : e.device.toProtocolDevice with
    | ok record => exact ⟨record, rfl⟩
    | error err =>
        rw [hproto] at hkeeps
        exact absurd (hkeeps ⟨err, rfl⟩ busId) (sessionFields_marked_ne hlookup hstate _ _)
  · rintro ⟨record, hrecord⟩ ⟨err, herr⟩
    rw [hrecord] at herr
    cases herr

/-- **Failed acquisitions.** In every reachable registry a failing acquisition leaves every
entry's session as it was iff the device asked for is in use, or has a bus id that fits
the field of its wire record, or is not bound. -/
theorem keepsSessionsOnError_iff (hreg : reg.Reachable) (now : Instant) (busId : String) :
    reg.KeepsSessionsOnError now busId ↔
      ∀ e, reg.devices.lookup busId = some e →
        (∃ s, e.sessionState = some (.active s)) ∨ FitsBusidField e.device.busId := by
  cases hlookup : reg.devices.lookup busId with
  | none =>
      have hsame : (reg.tryAcquireExt now busId).2 = reg := by
        simp only [tryAcquireExt, hlookup]
      refine iff_of_true ?_ ?_
      · intro _ other
        rw [hsame]
      · rintro e ⟨⟩
  | some e =>
      have he := hreg.consistent busId e hlookup
      simp only [Option.some.injEq, forall_eq']
      by_cases hactive : ∃ s, e.sessionState = some (.active s)
      · obtain ⟨s, hs⟩ := hactive
        refine iff_of_true ?_ (Or.inl ⟨s, hs⟩)
        intro _ other
        rw [tryAcquireExt_active hlookup he hs now]
      · rw [or_iff_right hactive]
        exact keepsSessionsOnError_inactive_iff hlookup he (fun s hs => hactive ⟨s, hs⟩) now

/-- A device in use by session 1. -/
def sampleInUse : ExportRegistry :=
  (withSessionTimeout 30).applyAll
    [.bindDeviceWith "1-1" sampleDevice sampleHandle, .tryAcquireExt 0 "1-1"]

/-- A second acquisition of it fails, and it stays in use by session 1. -/
theorem keepsSessionsOnError_sampleInUse :
    sampleInUse.sessionFields "1-1" = some (some 1, some (.active 1)) ∧
    (∃ err, (sampleInUse.tryAcquireExt 1 "1-1").1 = .error err) ∧
    sampleInUse.KeepsSessionsOnError 1 "1-1" := by
  have hfields : sampleInUse.sessionFields "1-1" = some (some 1, some (.active 1)) := by
    decide +kernel
  refine ⟨hfields, ⟨.deviceInUse "1-1", by decide +kernel⟩, ?_⟩
  have hreach : sampleInUse.Reachable := ⟨30, _, rfl⟩
  refine (keepsSessionsOnError_iff hreach 1 "1-1").mpr ?_
  intro e hlookup
  rw [sessionFields, hlookup] at hfields
  exact Or.inl ⟨1, (Prod.mk.inj (Option.some.inj hfields)).2⟩

/-- A keyboard under a bus id of 33 characters, bound by `bind_device_with`, which does not
look at the length. -/
def longBusIdDevice : LocalUsbDevice :=
  { sampleDevice with busId := "1-1111111111111111111111111111111" }

def longBusIdRegistry : ExportRegistry :=
  (withSessionTimeout 30).applyAll
    [.bindDeviceWith longBusIdDevice.busId longBusIdDevice sampleHandle]

/-- Importing it fails, as its record does not convert, and leaves it in use by session 1,
which nobody has. -/
theorem failed_acquisition_marks :
    longBusIdRegistry.Reachable ∧
    longBusIdRegistry.sessionFields longBusIdDevice.busId = some (none, none) ∧
    (longBusIdRegistry.tryAcquireExt 0 longBusIdDevice.busId).2.sessionFields
      longBusIdDevice.busId = some (some 1, some (.active 1)) ∧
    ¬ longBusIdRegistry.KeepsSessionsOnError 0 longBusIdDevice.busId := by
  have hreach : longBusIdRegistry.Reachable := ⟨30, _, rfl⟩
  have hlookup : longBusIdRegistry.devices.lookup longBusIdDevice.busId =
      some (freshEntry longBusIdDevice sampleHandle) := by
    decide +kernel
  refine ⟨hreach, by decide +kernel, by decide +kernel, ?_⟩
  rw [keepsSessionsOnError_inactive_iff hlookup (hreach.consistent _ _ hlookup)
    (fun _ => nofun) 0]
  decide +kernel

end ExportRegistry

end Extender.Server
