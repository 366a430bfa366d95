/-
The receiving end of a byte stream whose read can be abandoned.

A peer writes a sequence of messages; its bytes arrive in chunks that need not be messages. A
reader polled on them either returns a message, fails, or takes what has arrived and waits for
more. The bytes it has taken live in the reader itself, in the buffer of a future that has not
completed: abandoning it (`cancel`, the losing branch of a `select!`) loses them, while the
bytes it has not taken yet stay in the socket.

A reader is described by what it needs, not by its code: `Framed` asks that it reads a message
from its spelling whatever follows, and asks for more on anything shorter. Everything here is
stated over any such reader, so that it applies to every framing of messages that has these
two properties.

* `Inbound` — bytes taken by the read in progress, bytes that arrived and were not taken,
  chunks still to come, and whether the peer has closed.
* `Intact` — nothing has been lost: what was handled and what is still to be read make up what
  was sent.
* `Intact.poll`, `Intact.cancel` — a poll keeps a stream intact whatever the chunking, and so
  does a cancellation that finds nothing taken.
* `Kept`, `Exact` — the invariant of a loop around such a reader, and what it yields: the
  messages handled are a front of those sent, and all of them once every byte was offered.
-/

import Extender.Lib.ByteReader

namespace ByteReader

variable {ε α : Type}

/-! ### The stream and its moves -/

/-- What lies between the peer's writes and the messages read. -/
structure Inbound where
  taken : List UInt8
  socket : List UInt8
  chunks : List (List UInt8)
  closed : Bool
deriving DecidableEq, Repr

/-- How a poll of the read ends. -/
inductive Polled (ε α : Type) where
  | done (a : α)
  | pending
  | failed (e : ε)
deriving DecidableEq, Repr

namespace Inbound

/-- Nothing has arrived yet; the chunks are what the peer is going to send. -/
def start (chunks : List (List UInt8)) : Inbound :=
  { taken := [], socket := [], chunks, closed := false }

/-- The next chunk arrives. -/
def arrive (s : Inbound) : Option Inbound :=
  match s.chunks with
  | [] => none
  | chunk :: chunks => some { s with socket := s.socket ++ chunk, chunks }

/-- The peer closes after its last byte. -/
def close (s : Inbound) : Option Inbound :=
  if s.chunks = [] then some { s with closed := true } else none

/-- Poll the read: it goes on with the bytes it holds and those that have arrived.
Short of bytes it keeps them and waits, unless none will come any more. -/
def poll (x : Reader ε α) (short : ε → Prop) [DecidablePred short] (s : Inbound) :
    Polled ε α × Inbound :=
  match x (s.taken ++ s.socket) with
  | .ok (a, rest) => (.done a, { s with taken := [], socket := rest })
  | .error e =>
    if short e ∧ s.closed = false then
      (.pending, { s with taken := s.taken ++ s.socket, socket := [] })
    else (.failed e, { s with taken := [], socket := [] })

theorem eq_of_empty {s : Inbound} (htaken : s.taken = []) (hsocket : s.socket = []) :
    { s with taken := [], socket := [] } = s := by
  obtain ⟨taken, socket, chunks, closed⟩ := s
  cases htaken
  cases hsocket
  rfl

/-- A read that fails leaves nothing of what it was given. -/
theorem eq_of_poll_failed {x : Reader ε α} {short : ε → Prop} [DecidablePred short]
    {s s' : Inbound} {e : ε} (h : s.poll x short = (.failed e, s')) :
    s' = { s with taken := [], socket := [] } := by
  unfold poll at h
  split at h
  · cases h
  · split at h
    · cases h
    · cases h
      rfl

/-- The read is dropped with the bytes it has taken: they are in no buffer any more. -/
def cancel (s : Inbound) : Inbound := { s with taken := [] }

/-- Every byte sent has been offered to the reader. -/
def Drained (s : Inbound) : Prop := s.socket = [] ∧ s.chunks = []

instance : DecidablePred Drained := fun _ => inferInstanceAs (Decidable (_ ∧ _))

end Inbound

/-! ### Readers of framed messages -/

/-- `x` reads one message from its spelling, whatever follows, and asks for more on
anything shorter. -/
structure Framed (x : Reader ε α) (short : ε → Prop) (enc : α → List UInt8)
    (valid : α → Prop) : Prop where
  incremental : Incremental short x
  reads : ∀ a, valid a → ∀ rest, x (enc a ++ rest) = .ok (a, rest)
  empty : ∃ e, x [] = .error e ∧ short e

/-- The front of a stream of messages: too short for the first one, or starting
with it. -/
theorem Framed.front {x : Reader ε α} {short : ε → Prop} {enc : α → List UInt8}
    {valid : α → Prop} (hx : Framed x short enc valid) {w later : List UInt8} {sent : List α}
    (hvalid : ∀ a ∈ sent, valid a) (hw : w ++ later = sent.flatMap enc) :
    (∃ e, x w = .error e ∧ short e ∧ (later = [] → sent = [])) ∨
      ∃ a sent' rest, sent = a :: sent' ∧ x w = .ok (a, rest) ∧
        rest ++ later = sent'.flatMap enc := by
  cases sent with
  | nil =>
      obtain ⟨e, hxe, he⟩ := hx.empty
      have hnil : w = [] := (List.append_eq_nil_iff.mp hw).1
      rw [hnil]
      exact Or.inl ⟨e, hxe, he, fun _ => rfl⟩
  | cons a sent' =>
      have ha := hx.reads a (hvalid a List.mem_cons_self)
      rw [List.flatMap_cons, List.append_eq_append_iff] at hw
      rcases hw with ⟨q, henc, hlater⟩ | ⟨rest, hw, hrest⟩
      · by_cases hq : q = []
        · subst hq
          rw [List.append_nil] at henc
          refine Or.inr ⟨a, sent', [], rfl, ?_, hlater⟩
          rw [← henc, ← List.append_nil (enc a)]
          exact ha []
        · have hcut : x (w ++ q) = .ok (a, []) := by
            rw [← henc, ← List.append_nil (enc a)]
            exact ha []
          obtain ⟨e, hxe, he⟩ := hx.incremental.short_of_cut hcut hq
          refine Or.inl ⟨e, hxe, he, fun h => ?_⟩
          rw [h] at hlater
          exact absurd (List.append_eq_nil_iff.mp hlater.symm).1 hq
      · rw [hw]
        exact Or.inr ⟨a, sent', rest, rfl, ha rest, hrest.symm⟩

/-! ### Nothing is lost -/

/-- What was handled and what the stream still holds make up what was sent, and the
read in progress holds less than a message. -/
structure Intact (x : Reader ε α) (short : ε → Prop) (enc : α → List UInt8)
    (sent handled : List α) (s : Inbound) : Prop where
  remaining : ∃ rest, sent = handled ++ rest ∧
    s.taken ++ (s.socket ++ s.chunks.flatten) = rest.flatMap enc
  waiting : ∃ e, x s.taken = .error e ∧ short e
  closed : s.closed = true → s.chunks = []

namespace Intact

variable {x : Reader ε α} {short : ε → Prop} {enc : α → List UInt8} {valid : α → Prop}
  {sent handled : List α} {s s' : Inbound}

theorem start (hx : Framed x short enc valid) {chunks : List (List UInt8)}
    (hchunks : chunks.flatten = sent.flatMap enc) :
    Intact x short enc sent [] (Inbound.start chunks) where
  remaining := ⟨sent, rfl, hchunks⟩
  waiting := hx.empty
  closed := by
    intro h
    cases h

theorem arrive (h : Intact x short enc sent handled s) (hs : s.arrive = some s') :
    Intact x short enc sent handled s' := by
  unfold Inbound.arrive at hs
  split at hs
  · cases hs
  · rename_i chunk chunks hchunks
    cases hs
    obtain ⟨rest, hsent, hbytes⟩ := h.remaining
    refine ⟨⟨rest, hsent, ?_⟩, h.waiting, fun hc => ?_⟩
    · rw [hchunks, List.flatten_cons] at hbytes
      rw [← hbytes]
      simp only [List.append_assoc]
    · rw [h.closed hc] at hchunks
      cases hchunks

theorem close (h : Intact x short enc sent handled s) (hs : s.close = some s') :
    Intact x short enc sent handled s' := by
  unfold Inbound.close at hs
  split at hs
  · rename_i hnone
    cases hs
    exact ⟨h.remaining, h.waiting, fun _ => hnone⟩
  · cases hs

/-- A cancellation between two messages loses nothing. -/
theorem cancel (h : Intact x short enc sent handled s) (htaken : s.taken = []) :
    Intact x short enc sent handled s.cancel := by
  have hsame : s.cancel = s := by
    unfold Inbound.cancel
    rw [← htaken]
  rw [hsame]
  exact h

/-- **One poll.** A message returned is the next one sent; a read that waits keeps
every byte; a read can only fail once everything sent has been handled. -/
theorem poll [DecidablePred short] (hx : Framed x short enc valid)
    (hvalid : ∀ a ∈ sent, valid a) (h : Intact x short enc sent handled s) :
    (∃ a s', s.poll x short = (.done a, s') ∧ Intact x short enc sent (handled ++ [a]) s') ∨
    (∃ s', s.poll x short = (.pending, s') ∧ Intact x short enc sent handled s') ∨
    (∃ e s', s.poll x short = (.failed e, s') ∧ handled = sent) := by
  obtain ⟨rest, hsent, hbytes⟩ := h.remaining
  have hrest : ∀ a ∈ rest, valid a := by
    intro a ha
    apply hvalid
    rw [hsent]
    exact List.mem_append_right _ ha
  rw [← List.append_assoc] at hbytes
  unfold Inbound.poll
  rcases hx.front hrest hbytes with ⟨e, hxe, he, hlast⟩ | ⟨a, rest', left, rfl, hxa, hleft⟩
  · rw [hxe]
    by_cases hopen : s.closed = false
    · refine Or.inr (Or.inl ⟨_, if_pos ⟨he, hopen⟩, ⟨rest, hsent, ?_⟩, ⟨e, hxe, he⟩, h.closed⟩)
      rw [List.nil_append, hbytes]
    · -- the peer has closed: no chunk is left, so there was nothing more to read
      refine Or.inr (Or.inr ⟨e, _, if_neg fun hc => hopen hc.2, ?_⟩)
      have hchunks := h.closed (Bool.not_eq_false _ ▸ hopen)
      rw [hsent, hlast (by rw [hchunks]; rfl), List.append_nil]
  · rw [hxa]
    refine Or.inl ⟨a, _, rfl, ⟨rest', ?_, hleft⟩, hx.empty, h.closed⟩
    rw [hsent, List.append_assoc]
    rfl

/-- The peer sends one more message, in chunks of its choice. -/
theorem send (h : Intact x short enc sent handled s) {a : α} {chunks : List (List UInt8)}
    (hchunks : chunks.flatten = enc a) (hopen : s.closed = false) :
    Intact x short enc (sent ++ [a]) handled { s with chunks := s.chunks ++ chunks } := by
  obtain ⟨rest, hsent, hbytes⟩ := h.remaining
  refine ⟨⟨rest ++ [a], ?_, ?_⟩, h.waiting, fun hclosed => ?_⟩
  · rw [hsent, List.append_assoc]
  · rw [List.flatMap_append, ← hbytes, List.flatten_append, hchunks, List.flatMap_singleton]
    simp only [List.append_assoc]
  · rw [hopen] at hclosed
    cases hclosed

/-- Once everything sent has been handled, no byte is on its way. -/
theorem bytes_eq_nil (h : Intact x short enc sent handled s)
    (hall : handled.length = sent.length) :
    s.taken = [] ∧ s.socket = [] ∧ s.chunks.flatten = [] := by
  obtain ⟨rest, hsent, hbytes⟩ := h.remaining
  have hrest : rest = [] := by
    have hlen := congrArg List.length hsent
    rw [List.length_append] at hlen
    exact List.eq_nil_of_length_eq_zero (by omega)
  rw [hrest, List.flatMap_nil, List.append_eq_nil_iff, List.append_eq_nil_iff] at hbytes
  exact hbytes

theorem handled_isPrefix (h : Intact x short enc sent handled s) : handled <+: sent := by
  obtain ⟨rest, hsent, -⟩ := h.remaining
  exact ⟨rest, hsent.symm⟩

/-- Once every byte has been offered to the reader, everything sent was handled. -/
theorem handled_eq (hx : Framed x short enc valid) (hvalid : ∀ a ∈ sent, valid a)
    (h : Intact x short enc sent handled s) (hdrained : s.Drained) : handled = sent := by
  obtain ⟨rest, hsent, hbytes⟩ := h.remaining
  rw [hdrained.1, hdrained.2, List.flatten_nil, List.append_nil, List.append_nil] at hbytes
  cases rest with
  | nil => rw [hsent, List.append_nil]
  | cons a rest =>
      have ha : valid a := by
        apply hvalid
        rw [hsent]
        exact List.mem_append_right _ List.mem_cons_self
      obtain ⟨e, hxe, -⟩ := h.waiting
      rw [hbytes, List.flatMap_cons, hx.reads a ha] at hxe
      cases hxe

end Intact

/-! ### A loop around the reader -/

/-- What a loop that reads messages is doing: still reading, ended because a read
failed, or ended for a reason of its own. -/
inductive ReadStatus where
  | reading
  | failed
  | stopped
deriving DecidableEq, Repr

/-- The messages handled are those sent: always the first of them, in order; all of
them when a read fails, and all of them once the loop has been offered every byte. -/
def Exact (sent handled : List α) (status : ReadStatus) (s : Inbound) : Prop :=
  handled <+: sent ∧ (status = .failed → handled = sent) ∧
    (status = .reading → s.Drained → handled = sent)

instance [DecidableEq α] (sent handled : List α) (status : ReadStatus) (s : Inbound) :
    Decidable (Exact sent handled status s) :=
  inferInstanceAs (Decidable (_ ∧ _ ∧ _))

/-- The invariant of such a loop: while it reads, the stream is intact; once a read has
failed, everything sent was handled; a loop that left for a reason of its own has handled a
front of it. -/
def Kept (x : Reader ε α) (short : ε → Prop) (enc : α → List UInt8) (sent handled : List α) :
    ReadStatus → Inbound → Prop
  | .reading, s => Intact x short enc sent handled s
  | .failed, _ => handled = sent
  | .stopped, _ => handled <+: sent

/-- While the loop reads, its invariant is that of the stream. -/
theorem kept_iff_of_reading {x : Reader ε α} {short : ε → Prop} {enc : α → List UInt8}
    {sent handled : List α} {status : ReadStatus} {s : Inbound} (h : status = .reading) :
    Kept x short enc sent handled status s ↔ Intact x short enc sent handled s := by
  rw [h]
  exact Iff.rfl

theorem Kept.exact {x : Reader ε α} {short : ε → Prop} {enc : α → List UInt8}
    {valid : α → Prop} {sent handled : List α} {status : ReadStatus} {s : Inbound}
    (hx : Framed x short enc valid) (hvalid : ∀ a ∈ sent, valid a)
    (h : Kept x short enc sent handled status s) : Exact sent handled status s := by
  cases status with
  | reading =>
      refine ⟨h.handled_isPrefix, ?_, fun _ hdrained => h.handled_eq hx hvalid hdrained⟩
      intro hfailed
      cases hfailed
  | failed =>
      have heq : handled = sent := h
      exact ⟨heq ▸ List.prefix_refl _, fun _ => heq, fun _ _ => heq⟩
  | stopped =>
      refine ⟨h, ?_, ?_⟩
      · intro hfailed
        cases hfailed
      · intro hreading
        cases hreading

end ByteReader
