/-
One inbound connection (`connection.rs`): the bus id of an import request, and the states
`handle_connection` goes through.

The handler reads one discovery message. A device list request is answered and the connection
is over; an import request acquires the device, writes the reply, runs a session and releases
the device. Any other message, and a bus id that is not valid, ends the connection. The state
machine itself is in `Extender.Server.Engine`, because acquiring and releasing act on the
registry all connections share.

A bus id arrives as 32 bytes. `extract_bus_id` takes them up to the first NUL and decodes them
with `String::from_utf8_lossy`, which never fails: what is not UTF-8 becomes U+FFFD. The lossy
decoder is written out, since the text it yields is compared and looked up.

What a connection has obtained, whether it gave it back and how much it had executed when its
device was unbound are kept as history; the handler reads none of them.
-/

import Extender.Server.Export
import Extender.Server.Session

namespace Extender.Server

open BigEndian Extender.Protocol

/-! ### Bus ids -/

/-- The first character `String::from_utf8_lossy` makes of some bytes, and how many
it takes: a maximal ill-formed piece becomes one U+FFFD. -/
def decodeLossy : List UInt8 → Char × Nat
  | [] => ('\uFFFD', 1)
  | b0 :: rest =>
      let continues (low high : Nat) (offset : Nat) : Bool :=
        match rest[offset]? with
        | some b => low ≤ b.toNat ∧ b.toNat ≤ high
        | none => false
      let tail (offset : Nat) : Nat := (rest.getD offset 0).toNat % 64
      let b := b0.toNat
      if b < 0x80 then (Char.ofNat b, 1)
      else if 0xC2 ≤ b ∧ b ≤ 0xDF then
        if continues 0x80 0xBF 0 then (Char.ofNat (b % 32 * 64 + tail 0), 2) else ('\uFFFD', 1)
      else if 0xE0 ≤ b ∧ b ≤ 0xEF then
        let low := if b = 0xE0 then 0xA0 else 0x80
        let high := if b = 0xED then 0x9F else 0xBF
        if ¬ continues low high 0 then ('\uFFFD', 1)
        else if ¬ continues 0x80 0xBF 1 then ('\uFFFD', 2)
        else (Char.ofNat (b % 16 * 4096 + tail 0 * 64 + tail 1), 3)
      else if 0xF0 ≤ b ∧ b ≤ 0xF4 then
        let low := if b = 0xF0 then 0x90 else 0x80
        let high := if b = 0xF4 then 0x8F else 0xBF
        if ¬ continues low high 0 then ('\uFFFD', 1)
        else if ¬ continues 0x80 0xBF 1 then ('\uFFFD', 2)
        else if ¬ continues 0x80 0xBF 2 then ('\uFFFD', 3)
        else (Char.ofNat (b % 8 * 262144 + tail 0 * 4096 + tail 1 * 64 + tail 2), 4)
      else ('\uFFFD', 1)

/-- At most `fuel` characters of the lossy decoding; an invalid sequence becomes one
replacement character. -/
def decodeLossyChars : Nat → List UInt8 → List Char
  | 0, _ => []
  | _, [] => []
  | fuel + 1, bytes =>
      let (c, taken) := decodeLossy bytes
      c :: decodeLossyChars fuel (bytes.drop taken)

/-- `String::from_utf8_lossy`; every step takes a byte, so there are no more
characters than bytes. -/
def fromUtf8Lossy (bytes : List UInt8) : String :=
  String.ofList (decodeLossyChars bytes.length bytes)

/-- `extract_bus_id`: the field up to its first NUL, or all of its 32 bytes, decoded
lossily. -/
def extractBusId (busid : BusId) : String :=
  fromUtf8Lossy (busid.val.takeWhile (· ≠ 0))

/-- `is_valid_bus_id`: `[0-9]+-[0-9]+(\.[0-9]+)*`, by splitting at the dash and at the dots. -/
def isValidBusId (busId : String) : Bool :=
  let busPart := busId.toList.takeWhile (· ≠ '-')
  if busPart.isEmpty ∨ ¬ busPart.all Char.isDigit then false
  else
    match busId.toList.dropWhile (· ≠ '-') with
    | [] => false
    | _ :: devPart =>
        if devPart.isEmpty then false
        else (devPart.splitOn '.').all fun segment => ¬ segment.isEmpty ∧ segment.all Char.isDigit

/-! ### The handler -/

/-- Where `handle_connection` stands: reading the first message, answering a device
list request, about to acquire a device, about to write a reply that grants or one
that refuses the import, running the session, over. -/
inductive ConnPc where
  | accepted
  | devlist
  | importing (busId : String)
  | granted (busId : String) (handle : ManagedDevice) (device : UsbDevice) (sessionId : SessionId)
  | refused
  | running (busId : String) (handle : ManagedDevice) (sessionId : SessionId)
  | returned
deriving DecidableEq, Repr

/-- A connection: the bytes of its peer, where its handler stands, what was sent, its session,
and the history of what it held. -/
structure Connection where
  /-- The bytes the peer sends, up to the end of the stream. -/
  input : List UInt8
  pc : ConnPc
  /-- The discovery replies the peer has received. -/
  sent : List OpMessage
  /-- The import session. Its tasks live on after the handler has returned. -/
  session : Option Session
  /-- History: the bus id and session id `try_acquire_ext` returned to this
  connection. -/
  obtained : Option (String × SessionId)
  /-- History: it has given them to `release`. -/
  released : Bool
  /-- History: how many submissions its session had read when the device it imported
  was unbound. -/
  revokedAt : Option Nat

namespace Connection

def accept (input : List UInt8) : Connection :=
  { input, pc := .accepted, sent := [], session := none, obtained := none, released := false
    revokedAt := none }

/-- How many transfer tasks the session has spawned, one for each submission read. It numbers
them, for the results about one of them. -/
def submissions (c : Connection) : Nat :=
  match c.session with
  | some session => session.tasks.length
  | none => 0

/-- The handler has read its first message: a list request, an import request, or something it
does not serve. -/
def dispatch (c : Connection) : OpMessage → Connection
  | .reqDevlist => { c with pc := .devlist }
  | .reqImport req =>
      let busId := extractBusId req.busid
      if isValidBusId busId then { c with pc := .importing busId } else { c with pc := .refused }
  | _ => { c with pc := .returned }

/-- The import that has not been revoked goes through the binding that is now removed; how far
its session was is recorded. -/
def revoke (busId : String) (c : Connection) : Connection :=
  match c.obtained, c.revokedAt with
  | some (imported, _), none =>
      if imported = busId then { c with revokedAt := some c.submissions } else c
  | _, _ => c

end Connection

end Extender.Server
