/-
The import exchange seen from both ends.

A client sends an import request and reads one reply (`attach_device` of `engine.rs`); the
server answers it in the middle of whatever else it is doing (`handle_connection` and
`handle_import` of `connection.rs`). The two ends share no state but the bytes. The client
takes what it reads for granted: it goes on to send submissions for the device in the reply,
and on a refusal it gives up. So the server had better have a session for it in the one case,
and none in the other.

The exchange is followed at one connection of the server, while any number of other clients
connect, import and leave, devices are bound and unbound, and sessions expire. That the device
in the reply is the one that was granted is stated by the history of calls of the registry: at
some call of it the entry under the requested bus id had this record, and was granted to this
session (`Granted`).

The record a client reads has no interfaces, since the reply carries none; apart from them it
is the record of the device.

* `ConnMoves` — what one step of the server can do to one connection, with the reply it
  writes. `Extender.Server.ServerEngine.Moves` forgets the replies.
* `Stage` — how far the exchange has come: the place of the handler, what was written so far,
  and what the registry answered.
* `Stage.moves`, `Stage.run` — one step keeps the exchange on its way, and so does a run.
* `import_agreement` — in every run, a client that reads a granted import has a session of its
  own at the server, on the device whose record it reads; a client that reads a refusal has
  none.
-/

import Extender.Client.Attach
import Extender.Server.EngineMoves
import Extender.Server.Revocation

namespace Extender.System

open Extender.Protocol Extender.Server Extender.Client

/-! ### One connection -/

/-- What a step from `s` to `s'` can do to a connection, by the place of its handler, with
what it writes. -/
inductive ConnMoves (s s' : ServerEngine) (c : Connection) : Connection → Prop where
  | kept : ConnMoves s s' c c
  | revoked {busId : String} : ConnMoves s s' c (c.revoke busId)
  | read {msg : OpMessage} {rest : List UInt8} :
      c.pc = .accepted → readOpMessage c.input = .ok (msg, rest) →
      ConnMoves s s' c ({ c with input := rest }.dispatch msg)
  | unread : c.pc = .accepted → ConnMoves s s' c { c with pc := .returned }
  | listed {sent : List OpMessage} :
      c.pc = .devlist → ConnMoves s s' c { c with pc := .returned, sent }
  | acquired {now : Instant} {busId : String} {handle : ManagedDevice} {device : UsbDevice}
      {sid : SessionId} {isReconnect : Bool} :
      c.pc = .importing busId →
      (s.registry.tryAcquireExt now busId).1 = .ok (handle, device, sid, isReconnect) →
      s'.calls = s.calls ++ [.tryAcquireExt now busId] →
      ConnMoves s s' c
        { c with pc := .granted busId handle device sid, obtained := some (busId, sid) }
  | rejected {busId : String} :
      c.pc = .importing busId → ConnMoves s s' c { c with pc := .refused }
  | replied {busId : String} {handle : ManagedDevice} {device : UsbDevice} {sid : SessionId} :
      c.pc = .granted busId handle device sid →
      ConnMoves s s' c
        { c with
          sent := c.sent ++ [.repImport { status := 0, device := some device }]
          session := some (.start c.input)
          pc := .running busId handle sid }
  | replyLost {busId : String} {handle : ManagedDevice} {device : UsbDevice}
      {sid : SessionId} :
      c.pc = .granted busId handle device sid → ConnMoves s s' c { c with pc := .returned }
  | turnedAway (written : Bool) :
      c.pc = .refused →
      ConnMoves s s' c
        { c with
          pc := .returned
          sent := if written then c.sent ++ [.repImport { status := 1, device := none }]
            else c.sent }
  | session {session session' : Session} {a : Session.Action} :
      c.session = some session → session.step a = some session' →
      ConnMoves s s' c { c with session := some session' }
  | released {busId : String} {handle : ManagedDevice} {sid : SessionId} :
      c.pc = .running busId handle sid →
      ConnMoves s s' c { c with pc := .returned, released := true }

section Step

variable {s s' : ServerEngine} {i : Nat} {c : Connection}

/-- A step that writes connection `j` moves that one and keeps the others. -/
theorem exists_moved_of_set {j : Nat} {d d' : Connection} (hc : s.conns[i]? = some c)
    (hd : s.conns[j]? = some d) (hconns : s'.conns = s.conns.set j d')
    (hmove : ConnMoves s s' d d') :
    ∃ c', s'.conns[i]? = some c' ∧ ConnMoves s s' c c' := by
  rw [hconns]
  by_cases hij : j = i
  · subst hij
    rw [hc] at hd
    cases hd
    have hlt : j < s.conns.length := (List.getElem?_eq_some_iff.mp hc).1
    exact ⟨d', by rw [List.getElem?_set_self hlt], hmove⟩
  · exact ⟨c, by rw [List.getElem?_set_ne hij, hc], .kept⟩

/-- A step that writes no connection keeps them all. -/
theorem exists_moved_of_eq (hc : s.conns[i]? = some c) (hconns : s'.conns = s.conns) :
    ∃ c', s'.conns[i]? = some c' ∧ ConnMoves s s' c c' :=
  ⟨c, by rw [hconns, hc], .kept⟩

/-- **Inversion.** Every step of the server makes one of the moves above at each of its
connections. -/
theorem exists_moved {a : ServerEngine.Action} (hc : s.conns[i]? = some c)
    (hstep : s.step a = some s') :
    ∃ c', s'.conns[i]? = some c' ∧ ConnMoves s s' c c' := by
  cases a with
  | bindDevice busId enumerated opened =>
      cases hstep
      exact exists_moved_of_eq hc rfl
  | bindDeviceWith busId device handle =>
      cases hstep
      exact exists_moved_of_eq hc rfl
  | unbindDevice busId =>
      cases hstep
      unfold ServerEngine.handleUnbindDevice
      split
      case h_1 => exact exists_moved_of_eq hc rfl
      case h_2 => exact ⟨c.revoke busId, by simp [hc], .revoked⟩
  | expire timer =>
      simp only [ServerEngine.step] at hstep
      split at hstep
      case h_2 => cases hstep
      case h_1 =>
        cases hstep
        exact exists_moved_of_eq hc rfl
  | accept input =>
      cases hstep
      have hlt : i < s.conns.length := (List.getElem?_eq_some_iff.mp hc).1
      exact ⟨c, by rw [List.getElem?_append_left hlt, hc], .kept⟩
  | readOp j =>
      simp only [ServerEngine.step] at hstep
      split at hstep
      case h_2 => cases hstep
      case h_1 d hd =>
        split at hstep
        case isFalse => cases hstep
        case isTrue hpc =>
          split at hstep
          case h_1 msg rest hread =>
            cases hstep
            exact exists_moved_of_set hc hd rfl (.read hpc hread)
          case h_2 =>
            cases hstep
            exact exists_moved_of_set hc hd rfl (.unread hpc)
  | readOpFail j =>
      simp only [ServerEngine.step] at hstep
      split at hstep
      case h_2 => cases hstep
      case h_1 d hd =>
        split at hstep
        case isFalse => cases hstep
        case isTrue hpc =>
          cases hstep
          exact exists_moved_of_set hc hd rfl (.unread hpc)
  | listDevices j written =>
      simp only [ServerEngine.step] at hstep
      split at hstep
      case h_2 => cases hstep
      case h_1 d hd =>
        split at hstep
        case isFalse => cases hstep
        case isTrue hpc =>
          cases hstep
          unfold ServerEngine.handleDevlist
          split
          all_goals exact exists_moved_of_set hc hd rfl (.listed hpc)
  | acquire j now =>
      simp only [ServerEngine.step] at hstep
      split at hstep
      case h_2 => cases hstep
      case h_1 d hd =>
        split at hstep
        case h_2 => cases hstep
        case h_1 busId hpc =>
          cases hstep
          unfold ServerEngine.acquire
          split
          case h_1 handle device sid isReconnect hok =>
            exact exists_moved_of_set hc hd rfl (.acquired hpc hok rfl)
          case h_2 => exact exists_moved_of_set hc hd rfl (.rejected hpc)
  | reply j written =>
      simp only [ServerEngine.step] at hstep
      split at hstep
      case h_2 => cases hstep
      case h_1 d hd =>
        split at hstep
        case h_1 busId handle device sid hpc =>
          cases written with
          | true =>
              cases hstep
              exact exists_moved_of_set hc hd rfl (.replied hpc)
          | false =>
              cases hstep
              exact exists_moved_of_set hc hd rfl (.replyLost hpc)
        case h_2 hpc =>
          cases hstep
          exact exists_moved_of_set hc hd rfl (.turnedAway written hpc)
        case h_3 => cases hstep
  | session j a =>
      simp only [ServerEngine.step] at hstep
      split at hstep
      case h_2 => cases hstep
      case h_1 d hd =>
        split at hstep
        case h_2 => cases hstep
        case h_1 session hsession =>
          obtain ⟨session', hmove, rfl⟩ := Option.map_eq_some_iff.mp hstep
          exact exists_moved_of_set hc hd rfl (.session hsession hmove)
  | release j now =>
      simp only [ServerEngine.step] at hstep
      split at hstep
      case h_2 => cases hstep
      case h_1 d hd =>
        split at hstep
        case h_2 => cases hstep
        case h_1 busId handle sid session hpc hsession =>
          split at hstep
          case isFalse => cases hstep
          case isTrue =>
            cases hstep
            exact exists_moved_of_set hc hd rfl (.released hpc)

theorem calls_isPrefixOf {a : ServerEngine.Action} (hstep : s.step a = some s') :
    s.calls <+: s'.calls := by
  cases ServerEngine.moves_of_step hstep with
  | bind => exact List.prefix_append _ _
  | unbind => exact List.prefix_append _ _
  | unbindFail => exact List.prefix_append _ _
  | expire => exact List.prefix_append _ _
  | acquired => exact List.prefix_append _ _
  | rejected => exact List.prefix_append _ _
  | release => exact List.prefix_append _ _
  | accept => exact List.prefix_rfl
  | discover => exact List.prefix_rfl
  | replied => exact List.prefix_rfl
  | replyLost => exact List.prefix_rfl
  | session => exact List.prefix_rfl

end Step

/-! ### What was granted -/

/-- Some call of the history granted `busId` to the session `sid`: the device then bound
under that id has the wire record `record`. -/
def Granted (timeoutSecs : UInt64) (calls : List ExportRegistry.Call) (busId : String)
    (sid : SessionId) (record : UsbDevice) : Prop :=
  ∃ before now exported isReconnect,
    before ++ [.tryAcquireExt now busId] <+: calls ∧
    let reg := (ExportRegistry.withSessionTimeout timeoutSecs).applyAll before
    reg.devices.lookup busId = some exported ∧
      exported.device.toProtocolDevice = .ok record ∧
      (reg.tryAcquireExt now busId).1 = .ok (exported.handle, record, sid, isReconnect)

/-- What was granted stays granted, however the history goes on. -/
theorem Granted.mono {timeoutSecs : UInt64} {calls calls' : List ExportRegistry.Call}
    {busId : String} {sid : SessionId} {record : UsbDevice}
    (h : Granted timeoutSecs calls busId sid record) (hle : calls <+: calls') :
    Granted timeoutSecs calls' busId sid record := by
  obtain ⟨before, now, exported, isReconnect, hprefix, hgrant⟩ := h
  exact ⟨before, now, exported, isReconnect, hprefix.trans hle, hgrant⟩

/-- A grant is of the entry under the id: its handle, and the record of its device. -/
theorem grant_ok {reg : ExportRegistry} {busId : String} {exported : ExportedDevice}
    {resumes : Bool} {handle : ManagedDevice} {record : UsbDevice} {sid : SessionId}
    {isReconnect : Bool}
    (h : (reg.grant busId exported resumes).1 = .ok (handle, record, sid, isReconnect)) :
    exported.handle = handle ∧ exported.device.toProtocolDevice = .ok record := by
  unfold ExportRegistry.grant at h
  cases hrecord : exported.device.toProtocolDevice with
  | error e =>
      rw [hrecord] at h
      cases h
  | ok protoDevice =>
      rw [hrecord] at h
      cases h
      exact ⟨rfl, rfl⟩

/-- Without a grace period in the way, only a free entry is granted. -/
theorem acquireFresh_ok {reg : ExportRegistry} {busId : String} {exported : ExportedDevice}
    {handle : ManagedDevice} {record : UsbDevice} {sid : SessionId} {isReconnect : Bool}
    (h : (reg.acquireFresh busId exported).1 = .ok (handle, record, sid, isReconnect)) :
    exported.handle = handle ∧ exported.device.toProtocolDevice = .ok record := by
  unfold ExportRegistry.acquireFresh at h
  split at h
  case isTrue => cases h
  case isFalse => exact grant_ok h

/-- An acquisition that succeeds is of an entry of the registry, and has its record. -/
theorem tryAcquireExt_entry {reg : ExportRegistry} {now : Instant} {busId : String}
    {handle : ManagedDevice} {record : UsbDevice} {sid : SessionId} {isReconnect : Bool}
    (h : (reg.tryAcquireExt now busId).1 = .ok (handle, record, sid, isReconnect)) :
    ∃ exported, reg.devices.lookup busId = some exported ∧ exported.handle = handle ∧
      exported.device.toProtocolDevice = .ok record := by
  unfold ExportRegistry.tryAcquireExt at h
  split at h
  case h_1 => cases h
  case h_2 exported hlookup =>
    refine ⟨exported, hlookup, ?_⟩
    split at h
    case h_1 =>
      split at h
      case isTrue => exact grant_ok h
      case isFalse =>
        -- the entry whose grace period is over differs in its session fields only
        have hcleared := acquireFresh_ok h
        exact hcleared
    case h_2 => exact acquireFresh_ok h

/-- The registry of a run makes its grants by its history: the call that granted is the last
one of it. -/
theorem granted_of_acquired {timeoutSecs : UInt64} {s s' : ServerEngine} {now : Instant}
    {busId : String} {handle : ManagedDevice} {record : UsbDevice} {sid : SessionId}
    {isReconnect : Bool}
    (hreg : s.registry = (ExportRegistry.withSessionTimeout timeoutSecs).applyAll s.calls)
    (hok : (s.registry.tryAcquireExt now busId).1 = .ok (handle, record, sid, isReconnect))
    (hcalls : s'.calls = s.calls ++ [.tryAcquireExt now busId]) :
    Granted timeoutSecs s'.calls busId sid record := by
  obtain ⟨exported, hlookup, rfl, hrecord⟩ := tryAcquireExt_entry hok
  rw [hreg] at hok hlookup
  exact ⟨s.calls, now, exported, isReconnect, by rw [hcalls], hlookup, hrecord, hok⟩

/-! ### The exchange -/

section Exchange

-- The request of the client, and what the client sends after it.
variable (timeoutSecs : UInt64) (req : OpReqImport) (rest : List UInt8)

/-- How far the exchange has come, at the connection that carries it: the request is to be
read, to be decided, granted, answered with an import or a refusal, or the handler has gone
without an answer. -/
inductive Stage (calls : List ExportRegistry.Call) (c : Connection) : Prop where
  | asking :
      c.pc = .accepted → c.input = OpMessage.encode (.reqImport req) ++ rest → c.sent = [] →
      c.session = none → c.obtained = none → Stage calls c
  | deciding :
      c.pc = .importing (extractBusId req.busid) ∨ c.pc = .refused → c.input = rest →
      c.sent = [] → c.session = none → c.obtained = none → Stage calls c
  | granted (handle : ManagedDevice) (record : UsbDevice) (sid : SessionId) :
      c.pc = .granted (extractBusId req.busid) handle record sid →
      Granted timeoutSecs calls (extractBusId req.busid) sid record → c.input = rest →
      c.sent = [] → c.session = none →
      c.obtained = some (extractBusId req.busid, sid) → Stage calls c
  | imported (record : UsbDevice) (sid : SessionId) (session : Session) :
      (∃ handle, c.pc = .running (extractBusId req.busid) handle sid) ∨ c.pc = .returned →
      Granted timeoutSecs calls (extractBusId req.busid) sid record →
      c.sent = [.repImport { status := 0, device := some record }] →
      c.session = some session → Transition.Reaches Session.step (.start rest) session →
      c.obtained = some (extractBusId req.busid, sid) → Stage calls c
  | refused :
      c.pc = .returned → c.sent = [.repImport { status := 1, device := none }] →
      c.session = none → c.obtained = none → Stage calls c
  | dropped : c.pc = .returned → c.sent = [] → c.session = none → Stage calls c

variable {timeoutSecs req rest} {s s' : ServerEngine} {c c' : Connection}

/-- What a step appends to the history does not change how far an exchange is. -/
theorem Stage.mono {calls calls' : List ExportRegistry.Call}
    (h : Stage timeoutSecs req rest calls c) (hle : calls <+: calls') :
    Stage timeoutSecs req rest calls' c := by
  cases h with
  | asking hpc hinput hsent hsession hobtained =>
      exact .asking hpc hinput hsent hsession hobtained
  | deciding hpc hinput hsent hsession hobtained =>
      exact .deciding hpc hinput hsent hsession hobtained
  | granted handle record sid hpc hgrant hinput hsent hsession hobtained =>
      exact .granted handle record sid hpc (hgrant.mono hle) hinput hsent hsession hobtained
  | imported record sid session hpc hgrant hsent hsession hreaches hobtained =>
      exact .imported record sid session hpc (hgrant.mono hle) hsent hsession hreaches hobtained
  | refused hpc hsent hsession hobtained => exact .refused hpc hsent hsession hobtained
  | dropped hpc hsent hsession => exact .dropped hpc hsent hsession

theorem Stage.dispatch (calls : List ExportRegistry.Call) (hsent : c.sent = [])
    (hsession : c.session = none) (hobtained : c.obtained = none) (hinput : c.input = rest) :
    Stage timeoutSecs req rest calls (c.dispatch (.reqImport req)) := by
  simp only [Connection.dispatch]
  split
  · exact .deciding (Or.inl rfl) hinput hsent hsession hobtained
  · exact .deciding (Or.inr rfl) hinput hsent hsession hobtained

/-- An unbinding changes only the history of a connection. -/
theorem Stage.revoke {calls : List ExportRegistry.Call} {busId : String}
    (h : Stage timeoutSecs req rest calls c) :
    Stage timeoutSecs req rest calls (c.revoke busId) := by
  have hinput : (c.revoke busId).input = c.input := by
    unfold Connection.revoke
    grind
  have hsent : (c.revoke busId).sent = c.sent := by
    unfold Connection.revoke
    grind
  cases h with
  | asking h1 h2 h3 h4 h5 =>
      exact .asking (by simpa) (by rw [hinput, h2]) (by rw [hsent, h3]) (by simpa) (by simpa)
  | deciding h1 h2 h3 h4 h5 =>
      exact .deciding (by simpa) (by rw [hinput, h2]) (by rw [hsent, h3]) (by simpa) (by simpa)
  | granted handle record sid h1 hgrant h2 h3 h4 h5 =>
      exact .granted handle record sid (by simpa) hgrant (by rw [hinput, h2])
        (by rw [hsent, h3]) (by simpa) (by simpa)
  | imported record sid session h1 hgrant h3 h4 hreaches h5 =>
      exact .imported record sid session (by simpa) hgrant (by rw [hsent, h3]) (by simpa)
        hreaches (by simpa)
  | refused h1 h3 h4 h5 =>
      exact .refused (by simpa) (by rw [hsent, h3]) (by simpa) (by simpa)
  | dropped h1 h3 h4 => exact .dropped (by simpa) (by rw [hsent, h3]) (by simpa)

/-- **One step of the server keeps the exchange on its way**, whichever connection it is a
step of. -/
theorem Stage.moves (h : Stage timeoutSecs req rest s.calls c)
    (hreg : s.registry = (ExportRegistry.withSessionTimeout timeoutSecs).applyAll s.calls)
    (hle : s.calls <+: s'.calls) (hmove : ConnMoves s s' c c') :
    Stage timeoutSecs req rest s'.calls c' := by
  have hstage := h.mono hle
  cases hmove with
  | kept => exact hstage
  | revoked => exact hstage.revoke
  | read hpc hread =>
      cases hstage with
      | asking _ hinput hsent hsession hobtained =>
          rw [hinput, readOpMessage_encode (m := .reqImport req) trivial rest] at hread
          cases hread
          exact .dispatch _ hsent hsession hobtained rfl
      | _ => simp_all
  | unread hpc =>
      cases hstage with
      | asking _ _ hsent hsession _ => exact .dropped rfl hsent hsession
      | _ => simp_all
  | listed hpc =>
      cases hstage
      all_goals simp_all
  | @acquired now busId handle device sid isReconnect hpc hok hcalls =>
      cases hstage with
      | deciding hplace hinput hsent hsession _ =>
          have hbus : busId = extractBusId req.busid := by simpa [hpc] using hplace
          subst hbus
          exact .granted _ _ _ rfl (granted_of_acquired hreg hok hcalls) hinput hsent hsession rfl
      | _ => simp_all
  | rejected hpc =>
      cases hstage with
      | deciding _ hinput hsent hsession hobtained =>
          exact .deciding (Or.inr rfl) hinput hsent hsession hobtained
      | _ => simp_all
  | @replied busId handle record sid hpc =>
      cases hstage with
      | granted _ _ _ hplace hgrant hinput hsent hsession hobtained =>
          rw [hpc] at hplace
          cases hplace
          refine .imported record sid _ (Or.inl ⟨handle, rfl⟩) hgrant ?_ rfl ?_ hobtained
          · rw [hsent]
            rfl
          · rw [hinput]
            exact .refl _
      | _ => simp_all
  | replyLost hpc =>
      cases hstage with
      | granted _ _ _ _ _ _ hsent hsession _ => exact .dropped rfl hsent hsession
      | _ => simp_all
  | turnedAway written hpc =>
      cases hstage with
      | deciding _ _ hsent hsession hobtained =>
          cases written with
          | true => exact .refused rfl (by rw [if_pos rfl, hsent]; rfl) hsession hobtained
          | false => exact .dropped rfl hsent hsession
      | _ => simp_all
  | session hsession hmove =>
      cases hstage with
      | imported record sid session hplace hgrant hsent hheld hreaches hobtained =>
          rw [hsession] at hheld
          cases hheld
          exact .imported record sid _ hplace hgrant hsent rfl
            (hreaches.trans (.single hmove)) hobtained
      | _ => simp_all
  | released hpc =>
      cases hstage with
      | imported record sid session _ hgrant hsent hsession hreaches hobtained =>
          exact .imported record sid session (Or.inr rfl) hgrant hsent hsession hreaches hobtained
      | _ => simp_all

/-- **A run of the server keeps it on its way**, however the clients and the daemon are
interleaved. -/
theorem Stage.run {i : Nat} {actions : List ServerEngine.Action}
    (hreg : s.registry = (ExportRegistry.withSessionTimeout timeoutSecs).applyAll s.calls)
    (h : ∃ c, s.conns[i]? = some c ∧ Stage timeoutSecs req rest s.calls c)
    (hrun : Transition.run ServerEngine.step s actions = some s') :
    ∃ c, s'.conns[i]? = some c ∧ Stage timeoutSecs req rest s'.calls c := by
  refine (Transition.run_invariant_of_step
    (fun s : ServerEngine =>
      s.registry = (ExportRegistry.withSessionTimeout timeoutSecs).applyAll s.calls ∧
        ∃ c, s.conns[i]? = some c ∧ Stage timeoutSecs req rest s.calls c)
    ?_ ⟨hreg, h⟩ hrun).2
  rintro s a s' ⟨hreg, c, hc, hstage⟩ hstep
  obtain ⟨c', hc', hmove⟩ := exists_moved hc hstep
  exact ⟨ServerEngine.registry_moves hreg (ServerEngine.moves_of_step hstep), c', hc',
    hstage.moves hreg (calls_isPrefixOf hstep) hmove⟩

end Exchange

/-! ### The client's end -/

/-- The bytes the client receives before the session's: the encodings of what the handler has
written. -/
def replyBytes (c : Connection) : List UInt8 := c.sent.flatMap OpMessage.encode

/-- A refused client reads status 1, and reports that the import was rejected. -/
theorem importedDevice_refusal (busid : String) :
    importedDevice busid (OpMessage.encode (.repImport { status := 1, device := none })) =
      .error (.importRejected busid 1) := by
  have hread := readOpMessage_encode (m := .repImport { status := 1, device := none })
    (by decide) []
  rw [List.append_nil] at hread
  rw [importedDevice, hread]
  rfl

/-- A client that receives nothing is neither granted nor refused: it gets an error of the
connection. -/
theorem importedDevice_nil (busid : String) :
    ∃ failure, importedDevice busid [] = .error (.protocol failure) :=
  ⟨_, rfl⟩

/-- What the client reads and what the server did, for an import request with `rest` behind
it. `busid` is what the client calls the device. -/
structure Agreed (timeoutSecs : UInt64) (calls : List ExportRegistry.Call) (req : OpReqImport)
    (rest : List UInt8) (busid : String) (c : Connection) : Prop where
  /-- A device that is read is the record, without its interfaces, of the device that was
  bound under the requested id when the registry granted it; it was granted to this
  connection, and the connection's session is one that reads `rest`. -/
  imported : ∀ device, importedDevice busid (replyBytes c) = .ok device →
    ∃ record sid session, device = { record with interfaces := [] } ∧
      Granted timeoutSecs calls (extractBusId req.busid) sid record ∧
      c.obtained = some (extractBusId req.busid, sid) ∧
      c.session = some session ∧ Transition.Reaches Session.step (.start rest) session
  /-- There is a session only with a client that reads a device. -/
  serves : c.session ≠ none → ∃ device, importedDevice busid (replyBytes c) = .ok device
  /-- A rejection that is read has status 1, and the connection was given nothing. -/
  rejected : ∀ status,
    importedDevice busid (replyBytes c) = .error (.importRejected busid status) →
    status = 1 ∧ c.obtained = none ∧ c.session = none
  /-- A client that reads neither was sent nothing. -/
  silent : (∀ device, importedDevice busid (replyBytes c) ≠ .ok device) →
    importedDevice busid (replyBytes c) ≠ .error (.importRejected busid 1) → c.sent = []

section Agreement

variable {timeoutSecs : UInt64} {calls : List ExportRegistry.Call} {req : OpReqImport}
  {rest : List UInt8} {c : Connection}

/-- As long as nothing was written there is nothing to disagree on. -/
theorem agreed_of_silent (busid : String) (hsent : c.sent = []) (hsession : c.session = none) :
    Agreed timeoutSecs calls req rest busid c := by
  obtain ⟨failure, hread⟩ : ∃ failure,
      importedDevice busid (replyBytes c) = .error (.protocol failure) := by
    rw [replyBytes, hsent]
    exact importedDevice_nil busid
  refine ⟨?_, fun h => absurd hsession h, ?_, fun _ _ => hsent⟩
  · intro device hdevice
    rw [hread] at hdevice
    cases hdevice
  · intro status hstatus
    rw [hread] at hstatus
    cases hstatus

/-- At every stage the two ends agree, and that is read off the stage without its history. -/
theorem Stage.agreed (h : Stage timeoutSecs req rest calls c) (busid : String) :
    Agreed timeoutSecs calls req rest busid c := by
  cases h with
  | asking _ _ hsent hsession _ => exact agreed_of_silent busid hsent hsession
  | deciding _ _ hsent hsession _ => exact agreed_of_silent busid hsent hsession
  | granted _ _ _ _ _ _ hsent hsession _ => exact agreed_of_silent busid hsent hsession
  | dropped _ hsent hsession => exact agreed_of_silent busid hsent hsession
  | imported record sid session _ hgrant hsent hsession hreaches hobtained =>
      have hread : importedDevice busid (replyBytes c) =
          .ok { record with interfaces := [] } := by
        rw [replyBytes, hsent, List.flatMap_singleton, ← importedDevice_reply record busid [],
          List.append_nil]
      refine ⟨?_, fun _ => ⟨_, hread⟩, ?_, fun h => absurd hread (h _)⟩
      · intro device hdevice
        rw [hread] at hdevice
        cases hdevice
        exact ⟨record, sid, session, rfl, hgrant, hobtained, hsession, hreaches⟩
      · intro status hstatus
        rw [hread] at hstatus
        cases hstatus
  | refused _ hsent hsession hobtained =>
      have hread : importedDevice busid (replyBytes c) = .error (.importRejected busid 1) := by
        rw [replyBytes, hsent, List.flatMap_singleton, importedDevice_refusal]
      refine ⟨?_, fun h => absurd hsession h, ?_, fun _ h => absurd hread h⟩
      · intro device hdevice
        rw [hread] at hdevice
        cases hdevice
      · intro status hstatus
        rw [hread] at hstatus
        cases hstatus
        exact ⟨rfl, hobtained, hsession⟩

end Agreement

/-- **Agreement on an import.** In every run of the server in which a client connects and
sends an import request, whatever the server does for other clients and for the daemon
before and after, the client's reading of the reply and the server's side of the
connection agree at every point. -/
theorem import_agreement {timeoutSecs : UInt64} {before after : List ServerEngine.Action}
    {s₀ s : ServerEngine} (req : OpReqImport) (rest : List UInt8) (busid : String)
    (hbefore : Transition.run ServerEngine.step (.start timeoutSecs) before = some s₀)
    (hafter : Transition.run ServerEngine.step s₀
      (.accept (OpMessage.encode (.reqImport req) ++ rest) :: after) = some s) :
    ∃ c, s.conns[s₀.conns.length]? = some c ∧
      Agreed timeoutSecs s.calls req rest busid c := by
  obtain ⟨s₁, haccept, hrun⟩ := Transition.run_cons_eq_some.mp hafter
  have hreg := ServerEngine.registry_moves (ServerEngine.run_registry hbefore)
    (ServerEngine.moves_of_step haccept)
  have hnew : s₁.conns[s₀.conns.length]? =
      some (Connection.accept (OpMessage.encode (.reqImport req) ++ rest)) := by
    cases haccept
    exact List.getElem?_concat_length
  have hasking : Stage timeoutSecs req rest s₁.calls
      (Connection.accept (OpMessage.encode (.reqImport req) ++ rest)) :=
    .asking rfl rfl rfl rfl rfl
  obtain ⟨c, hc, hstage⟩ := Stage.run hreg ⟨_, hnew, hasking⟩ hrun
  exact ⟨c, hc, hstage.agreed busid⟩

/-- The request of `Extender.Server.ServerEngine.imported`. -/
def sampleRequest : OpReqImport :=
  { busid := BigEndian.Bytes.zeroPadded [49, 45, 49] ServerEngine.length_importBusid }

/-- A second client asks for the same device. -/
def askedAgain : List ServerEngine.Action :=
  [.accept (OpMessage.encode (.reqImport sampleRequest) ++ []), .readOp 1, .acquire 1 3,
    .reply 1 true]

/-- The first client has the device and the second a refusal. -/
theorem import_agreement_contended :
    ∃ s, Transition.run ServerEngine.step (.start 30)
        (ServerEngine.imported [] ++ askedAgain) = some s ∧
      (∃ c, s.conns[0]? = some c ∧ c.session ≠ none ∧
        Agreed 30 s.calls sampleRequest [] "1-1" c) ∧
      ∃ c, s.conns[1]? = some c ∧
        importedDevice "1-1" (replyBytes c) = .error (.importRejected "1-1" 1) ∧
        Agreed 30 s.calls sampleRequest [] "1-1" c := by
  obtain ⟨s, hrun, ⟨c, hc, hserved⟩, d, hd, hsent⟩ :=
    Transition.exists_run_of_any ServerEngine.step (.start 30)
      (ServerEngine.imported [] ++ askedAgain)
      (fun s => (∃ c ∈ s.conns[0]?, c.session.isSome) ∧
        ∃ d ∈ s.conns[1]?, d.sent = [.repImport { status := 1, device := none }])
      (by decide +kernel)
  -- the first client connects after the device is bound
  obtain ⟨s₀, hbound, hfirst⟩ := Transition.run_cons_eq_some.mp hrun
  have hbefore := Transition.run_cons_eq_some.mpr
    ⟨s₀, hbound, (rfl : Transition.run ServerEngine.step s₀ [] = some s₀)⟩
  obtain ⟨c', hc', hagreed⟩ := import_agreement sampleRequest [] "1-1" hbefore hfirst
  have hzero : s₀.conns.length = 0 := by
    cases hbound
    rfl
  rw [hzero, hc] at hc'
  cases hc'
  -- the second one after the first is served
  have hsplit := hrun
  rw [Transition.run_append] at hsplit
  obtain ⟨s₁, himported, hsecond⟩ := Option.bind_eq_some_iff.mp hsplit
  obtain ⟨d', hd', hagreed'⟩ := import_agreement sampleRequest [] "1-1" himported hsecond
  obtain ⟨s₂, himported', hone⟩ := Transition.exists_run_of_any ServerEngine.step (.start 30)
    (ServerEngine.imported []) (fun s => s.conns.length = 1) (by decide +kernel)
  rw [himported] at himported'
  cases himported'
  rw [hone, hd] at hd'
  cases hd'
  have hrefused : importedDevice "1-1" (replyBytes d) = .error (.importRejected "1-1" 1) := by
    rw [replyBytes, hsent, List.flatMap_singleton, importedDevice_refusal]
  exact ⟨s, hrun, ⟨c, hc, by simpa [Option.isSome_iff_ne_none] using hserved, hagreed⟩, d, hd,
    hrefused, hagreed'⟩

end Extender.System
