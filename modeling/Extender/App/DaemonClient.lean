/-
The macOS app's side of the daemon's API (`JSONRPCClient.swift`).

`sendReceive` writes a request and reads the response over a Unix socket, with the framing of
the daemon's `write_message`. The system decides how many bytes each `read` and each `write`
moves; both are loops until all bytes are moved. The socket here is a function that bounds
what each call moves (`split`), so that a result for every socket is one for every chunking,
in both directions.

The app checks the length it reads with `< 65536`, where the daemon sends up to and including
65536 bytes. It also refuses the length 0, which no response has. A request is written without
a limit, except that its length must convert to 32 bits, or the app traps.

Each of the two loops ends because every call moves at least one byte, and a call that moves
none is an error; so they are recursive in the number of bytes left, and no fuel is needed.

* `Socket.writeAll_ok`, `Socket.readExact_ok` — the loops move all their bytes, whatever the
  portions are.
* `sendReceive_response` — what the app returns for a response the daemon wrote.
* `sendReceive_agrees_iff` — a response the daemon sends is returned exactly when it is
  shorter than 65536 bytes; the daemon sends that length too.
-/

import Extender.Api.Framing

namespace Extender.App

open BigEndian Extender.Api

/-- The errors of the app's client. -/
inductive DaemonError where
  | connectionFailed (reason : String)
  | rpcError (code : Int) (message : String)
  | noResult
  | invalidResponse (reason : String)
deriving DecidableEq, Repr

/-! ### The socket -/

/-- A connected socket. `split k` bounds what the `k`-th call moves, and `error` is the text
of `errno` when a call fails. -/
structure Socket where
  sent : List UInt8
  unread : List UInt8
  calls : Nat
  split : Nat → Nat
  error : String

namespace Socket

/-- `write`: how many bytes the socket takes of `bytes`. -/
def write (s : Socket) (bytes : List UInt8) : Nat × Socket :=
  let moved := bytes.take (s.split s.calls)
  (moved.length, { s with sent := s.sent ++ moved, calls := s.calls + 1 })

/-- `read` of at most `count` bytes; no bytes at the end of the stream. -/
def read (s : Socket) (count : Nat) : List UInt8 × Socket :=
  let moved := s.unread.take (min count (s.split s.calls))
  (moved, { s with unread := s.unread.drop moved.length, calls := s.calls + 1 })

/-- `writeAll`, with `data` what is left to write; a call that takes nothing is an error. -/
def writeAll (s : Socket) (data : List UInt8) : Except DaemonError Unit × Socket :=
  if data.length = 0 then (.ok (), s)
  else
    match s.write data with
    | (0, s') => (.error (.connectionFailed ("write failed: " ++ s.error)), s')
    | (written + 1, s') => s'.writeAll (data.drop (written + 1))
termination_by data.length
decreasing_by
  rw [List.length_drop]
  omega

/-- `readExact`, with `count` the bytes still to read and `buffer` those read. -/
def readExact (s : Socket) (count : Nat) (buffer : List UInt8) :
    Except DaemonError (List UInt8) × Socket :=
  if count = 0 then (.ok buffer, s)
  else
    match s.read count with
    | ([], s') => (.error (.connectionFailed "read failed: connection closed"), s')
    | (b :: bytes, s') => s'.readExact (count - (b :: bytes).length) (buffer ++ b :: bytes)
termination_by count
decreasing_by
  rw [List.length_cons]
  omega

end Socket

/-! ### `sendReceive` -/

/-- A request whose length `UInt32(data.count)` can convert; a longer one traps. -/
abbrev RequestData : Type := { data : List UInt8 // data.length < 2 ^ 32 }

/-- What the system answers to `socket` and `connect`, and the socket if both succeed. -/
structure Endpoint where
  socketPath : String
  socketError : Option String
  connectError : Option String
  socket : Socket

/-- `sendReceive`: open, connect, write length and request, read length and response. -/
def sendReceive (endpoint : Endpoint) (data : RequestData) :
    Except DaemonError (List UInt8) × Socket :=
  let s := endpoint.socket
  match endpoint.socketError, endpoint.connectError with
  | some text, _ => (.error (.connectionFailed ("socket() failed: " ++ text)), s)
  | none, some text =>
      (.error (.connectionFailed
        ("connect() to " ++ endpoint.socketPath ++ " failed: " ++ text)), s)
  | none, none =>
      match s.writeAll (u32Bytes (UInt32.ofNat data.val.length)) with
      | (.error e, s) => (.error e, s)
      | (.ok (), s) =>
          match s.writeAll data.val with
          | (.error e, s) => (.error e, s)
          | (.ok (), s) =>
              match s.readExact 4 [] with
              | (.error e, s) => (.error e, s)
              | (.ok responseLengthData, s) =>
                  let responseLength := ofBytes responseLengthData
                  if responseLength > 0 ∧ responseLength < 65536 then
                    s.readExact responseLength []
                  else
                    (.error (.invalidResponse
                      ("response length " ++ toString responseLength ++ " out of range")), s)

/-! ### Partial transfers -/

namespace Socket

/-- The loop writes everything to a socket that always takes something, and reads nothing. -/
theorem writeAll_ok (s : Socket) (hsplit : ∀ k, 0 < s.split k) (data : List UInt8) :
    ∃ s', s.writeAll data = (.ok (), s') ∧ s'.sent = s.sent ++ data ∧ s'.unread = s.unread ∧
      s'.split = s.split := by
  induction hn : data.length using Nat.strong_induction_on generalizing s data with
  | _ n ih =>
      rw [writeAll]
      by_cases hzero : data.length = 0
      · rw [if_pos hzero, List.length_eq_zero_iff.mp hzero]
        exact ⟨s, rfl, (List.append_nil _).symm, rfl, rfl⟩
      · rw [if_neg hzero]
        obtain ⟨written, hwritten⟩ : ∃ written, (data.take (s.split s.calls)).length =
            written + 1 := by
          refine Nat.exists_eq_add_one.mpr ?_
          have hpos := hsplit s.calls
          rw [List.length_take]
          omega
        have hmoved : data.take (s.split s.calls) = data.take (written + 1) := by
          rw [← hwritten, List.length_take, List.take_eq_take_iff]
          omega
        have hwrite : s.write data = (written + 1,
            { s with sent := s.sent ++ data.take (written + 1), calls := s.calls + 1 }) := by
          simp only [write, hwritten]
          rw [hmoved]
        rw [hwrite]
        obtain ⟨s', hrest, hsent, hunread, hsplit'⟩ :=
          ih (data.drop (written + 1)).length (by rw [List.length_drop]; omega)
            { s with sent := s.sent ++ data.take (written + 1), calls := s.calls + 1 } hsplit
            (data.drop (written + 1)) rfl
        refine ⟨s', hrest, ?_, hunread, hsplit'⟩
        rw [hsent, List.append_assoc, List.take_append_drop]

/-- The loop reads as many bytes as it is asked for, whatever the portions they come in. -/
theorem readExact_ok (s : Socket) (hsplit : ∀ k, 0 < s.split k) {p later : List UInt8}
    (hp : s.unread = p ++ later) (buffer : List UInt8) :
    ∃ s', s.readExact p.length buffer = (.ok (buffer ++ p), s') ∧ s'.unread = later ∧
      s'.split = s.split := by
  induction hn : p.length using Nat.strong_induction_on generalizing s p buffer with
  | _ n ih =>
      subst hn
      rw [readExact]
      by_cases hzero : p.length = 0
      · obtain rfl := List.length_eq_zero_iff.mp hzero
        exact ⟨s, by simp, hp, rfl⟩
      · rw [if_neg hzero]
        -- one call moves a portion of `p`, and not an empty one
        obtain ⟨m, hm, hpos, hle⟩ : ∃ m, m = min p.length (s.split s.calls) ∧ 0 < m ∧
            m ≤ p.length := by
          have := hsplit s.calls
          exact ⟨_, rfl, by omega, Nat.min_le_left _ _⟩
        have hread : s.read p.length =
            (p.take m, { s with unread := p.drop m ++ later, calls := s.calls + 1 }) := by
          simp only [read, ← hm, hp, List.take_append_of_le_length hle, List.length_take,
            Nat.min_eq_left hle, List.drop_append_of_le_length hle]
        obtain ⟨b, bytes, hcons⟩ : ∃ b bytes, p.take m = b :: bytes := by
          refine List.exists_cons_of_length_pos ?_
          rw [List.length_take]
          omega
        have hleft : p.length - (b :: bytes).length = (p.drop m).length := by
          rw [← hcons, List.length_take, List.length_drop, Nat.min_eq_left hle]
        obtain ⟨s', hrest, hunread, hsplit'⟩ :=
          ih (p.drop m).length (by rw [List.length_drop]; omega)
            { s with unread := p.drop m ++ later, calls := s.calls + 1 } hsplit rfl
            (buffer ++ b :: bytes) rfl
        refine ⟨s', ?_, hunread, hsplit'⟩
        rw [hread, hcons]
        show readExact _ (p.length - (b :: bytes).length) _ = _
        rw [hleft, hrest, ← hcons, List.append_assoc, List.take_append_drop]

end Socket

/-! ### Agreement with the daemon -/

/-- The system opened the socket, connected it, and moves something in every call. -/
structure Endpoint.Works (endpoint : Endpoint) : Prop where
  opened : endpoint.socketError = none
  connected : endpoint.connectError = none
  moves : ∀ k, 0 < endpoint.socket.split k

/-- On such an endpoint `sendReceive` reads a frame after its request is written, and checks
its length. -/
theorem sendReceive_eq {endpoint : Endpoint} (hworks : endpoint.Works) (data : RequestData)
    (len : UInt32) {rest : List UInt8} (hunread : endpoint.socket.unread = u32Bytes len ++ rest) :
    ∃ s, s.unread = rest ∧ (∀ k, 0 < s.split k) ∧
      sendReceive endpoint data =
        if len.toNat > 0 ∧ len.toNat < 65536 then s.readExact len.toNat []
        else
          (.error (.invalidResponse
            ("response length " ++ toString len.toNat ++ " out of range")), s) := by
  obtain ⟨s₁, hlength, -, hunread₁, hsplit₁⟩ :=
    endpoint.socket.writeAll_ok hworks.moves (u32Bytes (UInt32.ofNat data.val.length))
  have hmoves₁ : ∀ k, 0 < s₁.split k := hsplit₁ ▸ hworks.moves
  obtain ⟨s₂, hdata, -, hunread₂, hsplit₂⟩ := s₁.writeAll_ok hmoves₁ data.val
  have hmoves₂ : ∀ k, 0 < s₂.split k := hsplit₂ ▸ hmoves₁
  have hstream : s₂.unread = u32Bytes len ++ rest := by
    rw [hunread₂, hunread₁, hunread]
  obtain ⟨s₃, hread, hunread₃, hsplit₃⟩ := s₂.readExact_ok hmoves₂ hstream []
  have hvalue : ofBytes (u32Bytes len) = len.toNat := ofBytes_toBytes (w := 4) len.toNat_lt
  rw [length_u32Bytes] at hread
  refine ⟨s₃, hunread₃, hsplit₃ ▸ hmoves₂, ?_⟩
  unfold sendReceive
  simp only [hworks.opened, hworks.connected, hlength, hdata, hread, List.nil_append, hvalue]

/-- Of a response the daemon wrote, the client returns as much as the length in front of it
says, if it takes that length. -/
theorem sendReceive_response {endpoint : Endpoint} (hworks : endpoint.Works) (data : RequestData)
    {payload bytes later : List UInt8} (hwritten : writeMessage payload = .ok bytes)
    (hunread : endpoint.socket.unread = bytes ++ later) :
    (sendReceive endpoint data).1 =
      if payload.length % 2 ^ 32 > 0 ∧ payload.length % 2 ^ 32 < 65536 then
        .ok (payload.take (payload.length % 2 ^ 32))
      else
        .error (.invalidResponse
          ("response length " ++ toString (payload.length % 2 ^ 32) ++ " out of range")) := by
  have hbytes : bytes = u32Bytes (UInt32.ofNat payload.length) ++ payload := by
    unfold writeMessage at hwritten
    simp only at hwritten
    split at hwritten
    · cases hwritten
    · exact (Except.ok.inj hwritten).symm
  rw [hbytes, List.append_assoc] at hunread
  obtain ⟨s, hrest, hmoves, hresult⟩ := sendReceive_eq hworks data _ hunread
  have hlen : (UInt32.ofNat payload.length).toNat = payload.length % 2 ^ 32 :=
    UInt32.toNat_ofNat'
  have hsplit : s.unread = payload.take (payload.length % 2 ^ 32) ++
      (payload.drop (payload.length % 2 ^ 32) ++ later) := by
    rw [← List.append_assoc, List.take_append_drop, hrest]
  have htaken : (payload.take (payload.length % 2 ^ 32)).length = payload.length % 2 ^ 32 := by
    rw [List.length_take]
    exact Nat.min_eq_left (Nat.mod_le _ _)
  obtain ⟨s', hread, -, -⟩ := s.readExact_ok hmoves hsplit []
  rw [htaken] at hread
  rw [hresult, hlen]
  split
  · rw [hread]
    rfl
  · rfl

/-- **Agreement.** For every payload the daemon's `write_message` accepts, the empty one
apart, every way of the system to split reads and writes, and whatever else is on the socket
behind it: `sendReceive` returns the payload if and only if it is shorter than 65536
bytes. -/
theorem sendReceive_agrees_iff (endpoint : Endpoint) (data : RequestData)
    (payload bytes later : List UInt8) (hworks : endpoint.Works) (hne : payload ≠ [])
    (hwritten : writeMessage payload = .ok bytes)
    (hunread : endpoint.socket.unread = bytes ++ later) :
    (sendReceive endpoint data).1 = .ok payload ↔ payload.length < 65536 := by
  have hpos : 0 < payload.length := List.length_pos_iff.mpr hne
  rw [sendReceive_response hworks data hwritten hunread]
  constructor
  · intro hresult
    split at hresult
    · rename_i hrange
      have hwhole := congrArg List.length (Except.ok.inj hresult)
      rw [List.length_take] at hwhole
      omega
    · cases hresult
  · intro hlt
    have hmod : payload.length % 2 ^ 32 = payload.length := Nat.mod_eq_of_lt (by omega)
    rw [hmod, if_pos ⟨hpos, hlt⟩, List.take_length]

/-- A socket that moves one byte in each call, with `response` to be read. -/
def sampleEndpoint (response : List UInt8) : Endpoint :=
  { socketPath := "/tmp/extender.sock", socketError := none, connectError := none
    socket := { sent := [], unread := response, calls := 0, split := fun _ => 1, error := "" } }

/-- Such an endpoint works, a byte at a time. -/
theorem works_sampleEndpoint (response : List UInt8) : (sampleEndpoint response).Works :=
  { opened := rfl, connected := rfl, moves := fun _ => Nat.one_pos }

/-- An empty object comes through. -/
theorem sendReceive_agrees_sample :
    writeMessage [123, 125] = .ok [0, 0, 0, 2, 123, 125] ∧
      (sendReceive (sampleEndpoint [0, 0, 0, 2, 123, 125]) ⟨[], by decide⟩).1 =
        .ok [123, 125] := by
  have hwritten : writeMessage [123, 125] = .ok [0, 0, 0, 2, 123, 125] := by decide
  exact ⟨hwritten, (sendReceive_agrees_iff _ _ [123, 125] _ [] (works_sampleEndpoint _)
    (by decide) hwritten rfl).mpr (by decide)⟩

/-- The longest response the daemon sends is refused by the app, which allows one byte
less. -/
theorem longest_response_refused :
    ¬ ∀ (endpoint : Endpoint) (data : RequestData) (payload bytes later : List UInt8),
      endpoint.Works → payload ≠ [] → writeMessage payload = .ok bytes →
      endpoint.socket.unread = bytes ++ later → (sendReceive endpoint data).1 = .ok payload := by
  intro hall
  let payload : List UInt8 := List.replicate 65536 32
  have hlen : payload.length = 65536 := List.length_replicate
  have hwritten := writeMessage_of_fits (show Fits payload from hlen.le)
  have hne : payload ≠ [] := List.ne_nil_of_length_pos (by rw [hlen]; decide)
  have hunread : (sampleEndpoint (frame payload)).socket.unread = frame payload ++ [] :=
    (List.append_nil _).symm
  have hresult := hall _ ⟨[], by decide⟩ payload _ [] (works_sampleEndpoint _) hne hwritten hunread
  rw [sendReceive_response (works_sampleEndpoint _) _ hwritten hunread, hlen, if_neg (by decide)]
    at hresult
  cases hresult

end Extender.App
