/-
Isochronous playback (`write_audio`).

The loop cuts the samples into packets of the endpoint's size, at most 32 of them, while the
payload, the declared length and the reported count are those of all the samples. A call with
more samples than 32 packets hold therefore declares bytes that are in none of its packets,
and reports them as played.

What a submission has to be is stated about the submission alone (`Packetised`): its packets
lie in a row from 0 to its length (`Tiles`), they are as many as announced, and the payload is
the front of the caller's samples. The loop is followed by what is left for it: `n` packets
remain exactly when the samples behind the offset need `n` more (`Remaining`). One packet
takes one from both, and at 0 the offset has come to the end.

* `tiles_playbackDescriptors` — the loop, as long as the packets suffice: one step keeps
  `Remaining`, and from it the packets lie gapless from the first sample to the last.
* `remaining_packetCount` — the number of packets is right to begin with, up to the limit.
* `requests_writeAudio`, `count_writeAudio` — the one submission of a call, and its count.
* `writeAudio_packetised_iff` — the packets carry exactly the payload iff it fits 32 packets.
-/

import Extender.Client.Audio

namespace Extender.Client.Audio

open Dialogue Extender.Protocol

/-! ### Packets in a row -/

/-- The packets lie one behind the other from `start` to `stop`, none of them empty and none
above `maxPkt`. -/
inductive Tiles (maxPkt stop : Nat) : Nat → List IsoPacketDescriptor → Prop where
  | nil : Tiles maxPkt stop stop []
  | cons {p : IsoPacketDescriptor} {ps : List IsoPacketDescriptor} :
      1 ≤ p.length.toNat → p.length.toNat ≤ maxPkt →
      Tiles maxPkt stop (p.offset.toNat + p.length.toNat) ps →
      Tiles maxPkt stop p.offset.toNat (p :: ps)

namespace Tiles

variable {maxPkt start stop : Nat} {ps : List IsoPacketDescriptor}

/-- Packets in a row reach no further than their number times their size. -/
theorem stop_le (h : Tiles maxPkt stop start ps) : stop ≤ start + ps.length * maxPkt := by
  induction h with
  | nil => exact Nat.le_add_right _ _
  | cons _ hmax _ ih =>
      rw [List.length_cons, Nat.add_mul]
      omega

theorem start_le (h : Tiles maxPkt stop start ps) : start ≤ stop := by
  induction h with
  | nil => exact Nat.le_refl _
  | cons _ _ _ ih => omega

theorem within (h : Tiles maxPkt stop start ps) :
    ∀ p ∈ ps, p.offset.toNat + p.length.toNat ≤ stop := by
  induction h with
  | nil => exact nofun
  | cons _ _ htail ih =>
      intro p hp
      rcases List.mem_cons.mp hp with rfl | hp
      · exact htail.start_le
      · exact ih p hp

end Tiles

/-! ### The loop -/

/-- The loop makes as many packets as it is told to. -/
@[simp] theorem length_playbackDescriptors (len maxPkt n : Nat) (offset : UInt32) :
    (playbackDescriptors len maxPkt n offset).length = n := by
  induction n generalizing offset with
  | zero => rfl
  | succ n ih => rw [playbackDescriptors, List.length_cons, ih]

/-- The samples behind `offset` take exactly `n` more packets: `n` of them suffice, and one
fewer would not. -/
structure Remaining (len maxPkt n offset : Nat) : Prop where
  offset_le : offset ≤ len
  enough : len ≤ offset + n * maxPkt
  needed : offset + n * maxPkt < len + maxPkt

/-- One packet: it has at least a sample, and one packet fewer remains. The induction over the
loop is on their number. -/
theorem Remaining.step {len maxPkt n offset : Nat} (h : Remaining len maxPkt (n + 1) offset) :
    1 ≤ min (len - offset) maxPkt ∧
      Remaining len maxPkt n (offset + min (len - offset) maxPkt) := by
  obtain ⟨hle, henough, hneeded⟩ := h
  rw [Nat.add_mul, Nat.one_mul] at henough hneeded
  by_cases hfull : maxPkt ≤ len - offset
  · rw [Nat.min_eq_right hfull]
    exact ⟨by omega, by omega, by omega, by omega⟩
  · rw [Nat.min_eq_left (by omega)]
    -- the last packet, and the only one that is not full
    have hlast : n = 0 := by
      by_contra hn
      have hmul : 1 * maxPkt ≤ n * maxPkt := Nat.mul_le_mul_right maxPkt (Nat.pos_of_ne_zero hn)
      omega
    subst hlast
    exact ⟨by omega, by omega, by omega, by omega⟩

theorem tiles_playbackDescriptors {len maxPkt : Nat} (hlen : len < 2 ^ 32) (n : Nat)
    (offset : UInt32) (h : Remaining len maxPkt n offset.toNat) :
    Tiles maxPkt len offset.toNat (playbackDescriptors len maxPkt n offset) := by
  induction n generalizing offset with
  | zero =>
      obtain ⟨hle, henough, -⟩ := h
      have hend : offset.toNat = len := by omega
      rw [hend]
      exact .nil
  | succ n ih =>
      obtain ⟨hpos, hrest⟩ := h.step
      have hpkt : (UInt32.ofNat (min (len - offset.toNat) maxPkt)).toNat =
          min (len - offset.toNat) maxPkt :=
        UInt32.toNat_ofNat_of_lt' (by
          have := Nat.min_le_left (len - offset.toNat) maxPkt
          change _ < 2 ^ 32
          omega)
      have hnext : (offset + UInt32.ofNat (min (len - offset.toNat) maxPkt)).toNat =
          offset.toNat + min (len - offset.toNat) maxPkt := by
        rw [UInt32.toNat_add, hpkt]
        exact Nat.mod_eq_of_lt (Nat.lt_of_le_of_lt hrest.offset_le hlen)
      have htail := ih (offset + UInt32.ofNat (min (len - offset.toNat) maxPkt))
        (by rw [hnext]; exact hrest)
      rw [hnext] at htail
      refine .cons (p := ⟨offset, UInt32.ofNat (min (len - offset.toNat) maxPkt), 0, 0⟩) ?_ ?_ ?_
      · rw [hpkt]
        exact hpos
      · rw [hpkt]
        exact Nat.min_le_right _ _
      · rw [hpkt]
        exact htail

/-- The number of packets without the limit is the least that suffices, which is where the
loop begins. -/
theorem remaining_packetCount {len maxPkt : Nat} (hmax : 0 < maxPkt) (hfits : len ≤ 32 * maxPkt) :
    Remaining len maxPkt (packetCount len maxPkt) 0 := by
  have hdiv := Nat.div_add_mod (len + maxPkt - 1) maxPkt
  have hmod := Nat.mod_lt (len + maxPkt - 1) hmax
  have hcap : (len + maxPkt - 1) / maxPkt ≤ 32 := by
    rw [← Nat.lt_succ_iff, Nat.div_lt_iff_lt_mul hmax]
    omega
  rw [packetCount, Nat.min_eq_left hcap]
  rw [Nat.mul_comm] at hdiv
  exact ⟨Nat.zero_le _, by omega, by omega⟩

/-! ### The submission -/

/-- What `write_audio` asks for. -/
def playbackTransfer (f : Fields) (ep : UInt8) (data : List UInt8) : Transfer :=
  { direction := 0, ep := endpointNumber ep, length := UInt32.ofNat data.length, setup := noSetup
    numberOfPackets := UInt32.ofNat (packetCount data.length f.maxPacketSize.toNat), interval := 1
    payload := data
    packets := playbackDescriptors data.length f.maxPacketSize.toNat
      (packetCount data.length f.maxPacketSize.toNat) 0 }

/-- Its submission, under the next number of the device. -/
def playbackSubmission (d : ClassDevice Fields) (ep : UInt8) (data : List UInt8) : CmdSubmit :=
  (playbackTransfer d.fields ep data).submission d.devid d.nextSeqnum

section Call

variable {d d' : ClassDevice Fields} {conversation : List DriverEvent} {data : List UInt8}
  {result : Except DriverError Nat}

/-- A configured device has an endpoint and a packet size. -/
theorem isoEndpoint_ok {f : Fields} {ep : UInt8} (hep : f.epPlayback = some ep)
    (hmax : f.maxPacketSize ≠ 0) (missing : String) :
    isoEndpoint f.epPlayback missing f = .ok (endpointNumber ep, f.maxPacketSize.toNat) := by
  simp only [isoEndpoint, hep, hmax, if_false]

/-- Without an endpoint or a packet size nothing is sent. -/
theorem ends_writeAudio_unconfigured
    (h : d.fields.epPlayback = none ∨ d.fields.maxPacketSize = 0)
    (hends : Script.Ends (writeAudio data) d conversation d' result) :
    requests conversation = [] ∧ ∃ e, result = .error e := by
  have hiso : ∃ e, isoEndpoint d.fields.epPlayback "no playback endpoint configured" d.fields =
      .error e := by
    unfold isoEndpoint
    split
    · exact ⟨_, rfl⟩
    · rename_i ep hep
      have hzero : d.fields.maxPacketSize = 0 := h.resolve_left (by rw [hep]; nofun)
      rw [if_pos hzero]
      exact ⟨_, rfl⟩
  obtain ⟨e, he⟩ := hiso
  change Script.Ends (Script.liftExcept (isoEndpoint d.fields.epPlayback _ d.fields) >>= _) d
    conversation d' result at hends
  rw [he] at hends
  rcases Script.ends_bind.mp hends with ⟨e', ⟨rfl, -, -⟩, rfl⟩ |
    ⟨first, rest, a, d₁, -, ⟨-, -, ha⟩, -⟩
  · exact ⟨rfl, e', rfl⟩
  · cases ha

/-- The call with an endpoint and a packet size: one submission, and the wait for its
return. -/
theorem ends_writeAudio {ep : UInt8} (hep : d.fields.epPlayback = some ep)
    (hmax : d.fields.maxPacketSize ≠ 0) :
    Script.Ends (writeAudio data) d conversation d' result ↔
      Script.Ends (submit (playbackTransfer d.fields ep data) >>= fun _ =>
        awaitReturn .audio "ISO OUT transfer" >>= fun _ => pure data.length) d conversation d'
        result := by
  change Script.Ends (Script.liftExcept (isoEndpoint d.fields.epPlayback _ d.fields) >>= _) d
    conversation d' result ↔ _
  rw [isoEndpoint_ok hep hmax]
  rfl

/-- A call that has ended has sent that submission and no other. -/
theorem requests_writeAudio {ep : UInt8} (hep : d.fields.epPlayback = some ep)
    (hmax : d.fields.maxPacketSize ≠ 0)
    (h : Script.Ends (writeAudio data) d conversation d' result) :
    requests conversation = [playbackSubmission d ep data] :=
  requests_submit (fun _ => (silent_awaitReturn _ _).bind fun _ => .pure _)
    ((ends_writeAudio hep hmax).mp h)

/-- A call that succeeds reports all the samples it was given. -/
theorem count_writeAudio {ep : UInt8} {n : Nat} (hep : d.fields.epPlayback = some ep)
    (hmax : d.fields.maxPacketSize ≠ 0)
    (h : Script.Ends (writeAudio data) d conversation d' (.ok n)) : n = data.length := by
  obtain ⟨_, rest, _, d₁, -, -, hrest⟩ := Script.ends_bind_ok.mp ((ends_writeAudio hep hmax).mp h)
  obtain ⟨_, _, _, _, -, -, -, -, hn⟩ := Script.ends_bind_ok.mp hrest
  exact Except.ok.inj hn

/-- The submission reaches the connection, whether or not the write then succeeds; a failed
write ends the call there. -/
theorem ends_writeAudio_unwritten {ep : UInt8} (hep : d.fields.epPlayback = some ep)
    (hmax : d.fields.maxPacketSize ≠ 0) :
    Script.Ends (writeAudio data) d [.wrote (playbackSubmission d ep data) false] d.advance
      (.error .io) := by
  rw [ends_writeAudio hep hmax]
  exact Script.ends_bind.mpr (Or.inl ⟨.io, ends_submit.mpr ⟨false, rfl, rfl, rfl⟩, rfl⟩)

end Call

/-- The submission's packets carry its payload, which is the front of `data`: they lie in
a row from 0 to its length, as many as announced and at most 32, and the loop that cut them
neither subtracted below zero nor added beyond 32 bits. -/
structure Packetised (maxPkt : Nat) (data : List UInt8) (q : CmdSubmit) : Prop where
  tiles : Tiles maxPkt q.transferBufferLength.toNat 0 q.isoPacketDescriptors
  announced : q.numberOfPackets.toNat = q.isoPacketDescriptors.length
  count_le : q.isoPacketDescriptors.length ≤ 32
  payload : q.transferBuffer = data.take q.transferBufferLength.toNat ∧
    q.transferBufferLength.toNat ≤ data.length
  no_underflow : ∀ p ∈ q.isoPacketDescriptors, p.offset.toNat ≤ data.length
  no_overflow : ∀ p ∈ q.isoPacketDescriptors, p.offset.toNat + p.length.toNat < 2 ^ 32

theorem packetCount_le (len maxPkt : Nat) : packetCount len maxPkt ≤ 32 := Nat.min_le_right _ _

section Submission

variable {d : ClassDevice Fields} {ep : UInt8} {data : List UInt8}

/-- The payload is all of the samples, and the packets are at most 32. -/
theorem Packetised.fits
    (h : Packetised d.fields.maxPacketSize.toNat data (playbackSubmission d ep data)) :
    data.length ≤ 32 * d.fields.maxPacketSize.toNat := by
  have hstop := h.tiles.stop_le
  have hmul := Nat.mul_le_mul_right d.fields.maxPacketSize.toNat h.count_le
  have hall : data.length ≤ (playbackSubmission d ep data).transferBufferLength.toNat := by
    have hlength := congrArg List.length h.payload.1
    rw [List.length_take] at hlength
    change data.length = _ at hlength
    omega
  omega

theorem packetised_playbackSubmission (hmax : d.fields.maxPacketSize ≠ 0)
    (hfits : data.length ≤ 32 * d.fields.maxPacketSize.toNat) :
    Packetised d.fields.maxPacketSize.toNat data (playbackSubmission d ep data) := by
  have hsize := d.fields.maxPacketSize.toNat_lt
  have hpos : 0 < d.fields.maxPacketSize.toNat :=
    Nat.pos_of_ne_zero fun h => hmax (UInt16.toNat_inj.mp h)
  have hlen : data.length < 2 ^ 32 := by omega
  have hword : (playbackSubmission d ep data).transferBufferLength.toNat = data.length :=
    UInt32.toNat_ofNat_of_lt' hlen
  have hcount := packetCount_le data.length d.fields.maxPacketSize.toNat
  have htiles : Tiles d.fields.maxPacketSize.toNat data.length 0
      (playbackSubmission d ep data).isoPacketDescriptors :=
    tiles_playbackDescriptors hlen _ 0 (remaining_packetCount hpos hfits)
  have hlength : (playbackSubmission d ep data).isoPacketDescriptors.length =
      packetCount data.length d.fields.maxPacketSize.toNat := length_playbackDescriptors ..
  refine ⟨?_, ?_, ?_, ?_, ?_, ?_⟩
  · rw [hword]
    exact htiles
  · rw [hlength]
    exact UInt32.toNat_ofNat_of_lt' (Nat.lt_of_le_of_lt hcount (by decide))
  · rw [hlength]
    exact hcount
  · rw [hword, List.take_length]
    exact ⟨rfl, Nat.le_refl _⟩
  · intro p hp
    have := htiles.within p hp
    omega
  · intro p hp
    have := htiles.within p hp
    omega

end Submission

/-- Everything a call sends is packetised, and the count it reports on success is the length
it declared. -/
def SendsPacketised (data : List UInt8) (d : ClassDevice Fields) : Prop :=
  ∀ conversation d' result, Script.Ends (writeAudio data) d conversation d' result →
    (∀ q ∈ requests conversation, Packetised d.fields.maxPacketSize.toNat data q) ∧
    ∀ n, result = .ok n → ∃ q, requests conversation = [q] ∧ n = q.transferBufferLength.toNat

/-- A call that sends is packetised only if the samples fit. -/
theorem SendsPacketised.fits {data : List UInt8} {d : ClassDevice Fields} {ep : UInt8}
    (h : SendsPacketised data d) (hep : d.fields.epPlayback = some ep)
    (hmax : d.fields.maxPacketSize ≠ 0) : data.length ≤ 32 * d.fields.maxPacketSize.toNat := by
  have hq := (h _ _ _ (ends_writeAudio_unwritten hep hmax)).1 _ (List.mem_singleton.mpr rfl)
  exact Packetised.fits hq

/-- **Isochronous packets.** Everything `write_audio` sends is packetised, and on success the
count it reports is the length it declared, iff nothing is sent at all or the samples fit
32 packets. -/
theorem writeAudio_packetised_iff (data : List UInt8) (d : ClassDevice Fields) :
    SendsPacketised data d ↔ d.fields.epPlayback = none ∨ d.fields.maxPacketSize = 0 ∨
      data.length ≤ 32 * d.fields.maxPacketSize.toNat := by
  by_cases hidle : d.fields.epPlayback = none ∨ d.fields.maxPacketSize = 0
  · refine iff_of_true ?_ (hidle.elim Or.inl fun h => Or.inr (Or.inl h))
    intro conversation d' result hends
    obtain ⟨hnone, e, rfl⟩ := ends_writeAudio_unconfigured hidle hends
    rw [hnone]
    exact ⟨nofun, fun n => nofun⟩
  · obtain ⟨hsome, hmax⟩ := not_or.mp hidle
    obtain ⟨ep, hep⟩ := Option.ne_none_iff_exists'.mp hsome
    rw [or_iff_right hsome, or_iff_right hmax]
    constructor
    · intro h
      exact h.fits hep hmax
    · intro hfits conversation d' result hends
      have hsize := d.fields.maxPacketSize.toNat_lt
      rw [requests_writeAudio hep hmax hends]
      refine ⟨?_, ?_⟩
      · intro q hq
        rw [List.mem_singleton.mp hq]
        exact packetised_playbackSubmission hmax hfits
      · rintro n rfl
        refine ⟨_, rfl, ?_⟩
        rw [count_writeAudio hep hmax hends]
        exact (UInt32.toNat_ofNat_of_lt' (by change _ < 2 ^ 32; omega)).symm

/-- The device as `connect` leaves it, with packets of 192 bytes. -/
def sampleSpeaker : ClassDevice Fields := { devid := 0x10002, nextSeqnum := 1, fields := .initial }

/-- One byte more than 32 packets hold. -/
theorem capped_packets_miss_samples :
    ¬ SendsPacketised (List.replicate 6145 0) sampleSpeaker := by
  intro h
  have hfits : (List.replicate 6145 (0 : UInt8)).length ≤ 32 * 192 := h.fits rfl (by decide)
  rw [List.length_replicate] at hfits
  exact absurd hfits (by decide)

end Extender.Client.Audio
