/-
Driver sessions over a connection.

A class driver of the client runs against a device that is exported by a server: its
submissions are encoded, read by the session, executed by tasks of the server, and answered
through a channel and the connection. The system of `Extender.System.RemoteDevice` has all of
these parties in it, and steps them in any order. The connection holds: it loses nothing, and
neither end closes it. Buffers are within `bufferLimit`, 983040 bytes, so that no submission
and no answer is refused by the codec.

The system always gets on: what a driver waits for can be brought before it by the other
parties, whatever state they are in. Where a submission is at any moment, with a task, in the
channel or before the driver, is said by `Holding`, and each lemma about it moves it one stage
on. With the invariant of `RemoteDevice` this compares a whole session, calls of a driver's
methods one after the other, with the same calls on a device next to it.

* `Remote.Headed.exists_done` — from everywhere on its way the system can be brought to its
  end.
* `Remote.Headed.outcome_of_done` — and at its end it is where it was headed.
* `remote_eq_local` — however the parties are interleaved, over a connection that holds, every
  call of a session returns what it returns when the transfers are made on the device
  directly.
-/

import Extender.System.DriverRequests
import Extender.System.RemoteDevice

namespace Extender.System

open Dialogue Extender.Protocol Extender.Server

namespace Remote

section Progress

variable {g : Gadget} {σ ε α ν : Type} {N : Numbering σ CmdSubmit (Except Failure UrbMessage) ν}
  {result : Option (g.State × σ × Except ε α)} {r r' : Remote g σ ε α}

/-! ### Getting on -/

/-- The parties other than the driver can bring the system to a state that satisfies `P`. -/
def Leads (r : Remote g σ ε α) (P : Remote g σ ε α → Prop) : Prop :=
  ∃ r', Transition.Reaches Remote.step r r' ∧ r'.client = r.client ∧ P r'

section Leads

variable {P Q : Remote g σ ε α → Prop}

theorem Leads.here (h : P r) : Leads r P := ⟨r, .refl r, rfl, h⟩

/-- One step of another party, and then the rest. -/
theorem Leads.after {a : Action} (hstep : r.step a = some r') (hclient : r'.client = r.client)
    (h : Leads r' P) : Leads r P := by
  obtain ⟨r'', hreach, hsame, hP⟩ := h
  exact ⟨r'', (Transition.Reaches.single hstep).trans hreach, hsame.trans hclient, hP⟩

theorem Leads.andThen (h : Leads r P) (hnext : ∀ r', P r' → Leads r' Q) : Leads r Q := by
  obtain ⟨r', hreach, hsame, hP⟩ := h
  obtain ⟨r'', hreach', hsame', hQ⟩ := hnext r' hP
  exact ⟨r'', hreach.trans hreach', hsame'.trans hsame, hQ⟩

end Leads

/-- The submission is with a task, in the channel or before the driver, and nothing else is
under way. -/
def Holding (N : Numbering σ CmdSubmit (Except Failure UrbMessage) ν)
    (result : Option (g.State × σ × Except ε α)) (live : List Task)
    (channel delivered : List Response) (r : Remote g σ ε α) : Prop :=
  ∃ done unread peer pending,
    Heading N result r done live unread channel delivered .awaiting peer pending

theorem Holding.advance {t t' : Task} {channel delivered : List Response}
    {P : Remote g σ ε α → Prop} (h : Holding N result [t] channel delivered r) (m : Task.Move)
    (hmove : t.move m = some t') (hm : ∀ answer, m ≠ .complete answer)
    (hnext : ∀ r', Holding N result [t'] channel delivered r' → Leads r' P) : Leads r P := by
  obtain ⟨done, unread, peer, pending, h⟩ := h
  have hstep : r.step (.server (.task done.length m)) =
      some { r with session := r.session.setTask done.length t', inbox := r.inbox ++ [] } := by
    have hallowed : allowed r.session (.task done.length m) = true := by
      cases m with
      | complete answer => exact absurd rfl (hm answer)
      | _ => rfl
    simp only [Remote.step, hallowed, if_true, Session.step, h.laid.getElem?_live, hmove,
      Option.map_some]
    rfl
  refine .after hstep rfl (hnext _ ⟨done, unread, peer, pending, ?_, h.carried.move hmove hm,
    h.paced, h.asks, h.outcome⟩)
  rw [List.append_nil]
  exact h.laid.setTask t'

theorem Holding.working {t : Task} {channel delivered : List Response}
    (h : Holding N result [t] channel delivered r) : t.Working := by
  obtain ⟨done, unread, peer, pending, h⟩ := h
  rcases h.carried.length_live with hnil | ⟨u, hu, hworking⟩
  · cases hnil
  · cases hu
    exact hworking

theorem Holding.polled {t : Task} {channel delivered : List Response}
    {P : Remote g σ ε α → Prop} (h : Holding N result [t] channel delivered r)
    (hnext : ∀ r', Holding N result [{ t with polled := true }] channel delivered r' →
      Leads r' P) : Leads r P := by
  by_cases hpolled : t.polled = true
  · refine hnext r ?_
    rw [← hpolled]
    exact h
  · refine h.advance .poll (if_pos ⟨hpolled, ?_, ?_⟩) (by simp) hnext
    · rw [h.working.1]
      decide
    · simp only [Server.Task.ended]
      grind [h.working, Server.Task.Working]

/-- The transfer of the task at work can be made. -/
theorem Holding.execute {t : Task} {channel delivered : List Response}
    (h : Holding N result [t] channel delivered r) :
    Leads r fun r' => ∃ t' answer, t'.outcome = some answer ∧
      Holding N result [t'] channel delivered r' := by
  have hexecuting : ∀ {t : Task} {r : Remote g σ ε α}, t.blocking = some .executing →
      Holding N result [t] channel delivered r →
      Leads r fun r' => ∃ t' answer, t'.outcome = some answer ∧
        Holding N result [t'] channel delivered r' := by
    intro t r hblocking h
    obtain ⟨done, unread, peer, pending, h⟩ := h
    have hmove : t.move (.complete (g.transfer r.device t.cmd).1) =
        some { t with blocking := some (.done (g.transfer r.device t.cmd).1) } := if_pos hblocking
    have hstep : r.step (.perform done.length) = some
        { r with
          session := r.session.setTask done.length
            { t with blocking := some (.done (g.transfer r.device t.cmd).1) }
          device := (g.transfer r.device t.cmd).2 } := by
      simp only [Remote.step, Session.step, h.laid.getElem?_live, hmove, Option.map_some]
    exact .after hstep rfl (.here ⟨_, _, rfl, done, unread, peer, pending, h.laid.setTask _,
      h.carried.complete hmove, h.paced, h.asks, h.outcome⟩)
  have hqueued : ∀ {t : Task} {r : Remote g σ ε α}, t.blocking = some .queued →
      Holding N result [t] channel delivered r →
      Leads r fun r' => ∃ t' answer, t'.outcome = some answer ∧
        Holding N result [t'] channel delivered r' := by
    intro t r hblocking h
    exact h.advance .begin (if_pos hblocking) (by simp) fun r' h' => hexecuting rfl h'
  cases hblocking : t.blocking with
  | none =>
      have hpc : t.pc = .spawned := by
        grind [h.working, Server.Task.Working]
      refine h.polled fun r' h' => ?_
      exact h'.advance .spawnBlocking (if_pos ⟨rfl, hpc⟩) (by simp) fun r'' h'' => hqueued rfl h''
  | some blocking =>
      cases blocking with
      | queued => exact hqueued hblocking h
      | executing => exact hexecuting hblocking h
      | done answer =>
          refine .here ⟨t, answer, ?_, h⟩
          rw [Server.Task.outcome, hblocking]

/-- The reply of a task whose transfer is made can be put into the channel. -/
theorem Holding.reply {t : Task} {answer : Option UsbAnswer} (houtcome : t.outcome = some answer)
    (h : Holding N result [t] [] [] r) :
    Leads r fun r' => ∃ response, Holding N result [] [response] [] r' := by
  have hsending : ∀ {t : Task} {answer : Option UsbAnswer} {r : Remote g σ ε α},
      Holding N result [t] [] [] r → t.pc = .sending answer → t.polled = true →
      Leads r fun r' => ∃ response, Holding N result [] [response] [] r' := by
    intro t answer r h hpc hpolled
    obtain ⟨done, unread, peer, pending, h⟩ := h
    have hqueue : r.session.queue = [] := by
      have hchannel := h.laid.channel
      unfold Session.inChannel at hchannel
      split at hchannel
      · cases hchannel
      · exact hchannel
    have hstep : r.step (.server (.send done.length)) = some
        { r with
          session := (r.session.put (.submitted t.cmd answer)).setTask done.length
            { t with pc := .removing }
          inbox := r.inbox ++ [] } := by
      simp only [Remote.step, Session.step, h.laid.getElem?_live, hpc, hpolled, h.laid.isOpen,
        hqueue]
      rfl
    obtain ⟨done', hlaid, hcarried⟩ := h.laid.send h.carried h.laid.getElem?_live hpc
      (r.session.trace ++ [.put (.submitted t.cmd answer)])
    refine .after hstep rfl (.here ⟨_, done', unread, peer, pending, ?_, hcarried, h.paced, h.asks,
      h.outcome⟩)
    rw [List.append_nil]
    exact hlaid
  have hblocking : t.blocking = some (.done answer) := by
    grind [Server.Task.outcome]
  refine h.polled fun r' h' => ?_
  obtain ⟨-, ⟨-, hnone⟩ | ⟨hpc, -⟩ | ⟨answer', hpc, -⟩⟩ := h.working
  · rw [hblocking] at hnone
    cases hnone
  · have hjoin : ({ t with polled := true } : Task).move .joinBlocking =
        some { t with polled := true, pc := .sending answer } := by
      simp only [Server.Task.move, hblocking, hpc, and_self, if_true]
    exact h'.advance .joinBlocking hjoin (by simp) fun r'' h'' => hsending h'' rfl rfl
  · exact hsending h' hpc rfl

/-- A response in the channel can be brought before the driver. -/
theorem Holding.deliver {response : Response} (h : Holding N result [] [response] [] r) :
    Leads r fun r' => Holding N result [] [] [response] r' := by
  have hwriting : ∀ {r : Remote g σ ε α}, r.session.writer = .writing response →
      Holding N result [] [response] [] r →
      Leads r fun r' => Holding N result [] [] [response] r' := by
    intro r hwriter h
    obtain ⟨done, unread, peer, pending, h⟩ := h
    have hstep : r.step (.server .write) = some
        { r with
          session := { r.session with writer := .idle, wire := r.session.wire ++ [response] }
          inbox := r.inbox ++ response.message.encode } := by
      simp only [Remote.step, Session.step, hwriter, written, allowed]
      rfl
    obtain ⟨hlaid, hcarried⟩ := h.laid.write h.carried hwriter
    exact .after hstep rfl
      (.here ⟨done, unread, peer, pending, hlaid, hcarried, h.paced, h.asks, h.outcome⟩)
  obtain ⟨done, unread, peer, pending, hheading⟩ := h
  have hchannel := hheading.laid.channel
  unfold Session.inChannel at hchannel
  cases hwriter : r.session.writer with
  | writing r' =>
      rw [hwriter] at hchannel
      obtain ⟨rfl, -⟩ := List.cons.inj hchannel
      exact hwriting hwriter ⟨done, unread, peer, pending, hheading⟩
  | idle =>
      rw [hwriter] at hchannel
      have hstep : r.step (.server .recv) = some
          { r with
            session := { r.session with writer := .writing response, queue := [] }
            inbox := r.inbox ++ [] } := by
        simp only [Remote.step, Session.step, hwriter, hchannel, allowed]
        rfl
      have hlaid := hheading.laid
      refine .after hstep rfl (hwriting rfl ⟨done, unread, peer, pending, ?_, hheading.carried,
        hheading.paced, hheading.asks, hheading.outcome⟩)
      rw [List.append_nil]
      exact ⟨hlaid.tasks, hlaid.spent, hlaid.input, rfl, rfl, hlaid.inbox, hlaid.reader⟩
  | exited =>
      have hopen := hheading.laid.isOpen
      rw [Session.isOpen, hwriter] at hopen
      cases hopen

/-- What is before the driver is a whole message. -/
theorem Holding.readable {response : Response} (h : Holding N result [] [] [response] r) :
    ∃ msg rest, readUrbMessage r.inbox = .ok (msg, rest) := by
  obtain ⟨done, unread, peer, pending, h⟩ := h
  have hcarried := h.carried
  have hinbox := h.laid.inbox
  cases hcarried with
  | @delivered cmd answer hcmd hanswer =>
      refine ⟨.retSubmit (handleSubmit cmd answer), [], ?_⟩
      rw [hinbox, List.flatMap_singleton, ← List.append_nil (UrbMessage.encode _)]
      exact readUrbMessage_framed.reads _ (handleSubmit_wellFormed hcmd hanswer) []

/-- What a driver waits for can be brought before it, by moves of the other parties alone. -/
theorem Headed.arrive (h : Headed N result r) {s : σ}
    {next : Except Failure UrbMessage → Point σ CmdSubmit (Except Failure UrbMessage) ε α}
    (hclient : r.client = .read s next) :
    Leads r fun r' => ∃ response, Holding N result [] [] [response] r' := by
  have hrunning : ∀ {t : Task} {r : Remote g σ ε α}, Holding N result [t] [] [] r →
      Leads r fun r' => ∃ response, Holding N result [] [] [response] r' := by
    intro t r h
    refine h.execute.andThen ?_
    rintro r₁ ⟨t₁, answer, houtcome, h₁⟩
    refine (h₁.reply houtcome).andThen ?_
    rintro r₂ ⟨response, h₂⟩
    refine h₂.deliver.andThen fun r₃ h₃ => ?_
    exact .here ⟨response, h₃⟩
  have hready : ∀ {done : List Task} {cmd : CmdSubmit} {peer : g.State}
      {pending : Option (Except Failure UrbMessage)} {r : Remote g σ ε α},
      r.session.reader = .ready → Heading N result r done [] [cmd] [] [] .awaiting peer pending →
      Leads r fun r' => ∃ response, Holding N result [] [] [response] r' := by
    intro done cmd peer pending r hreader h
    have hread : readUrbMessage r.session.input = .ok (.cmdSubmit cmd, []) := by
      have hcmd : Accepted cmd := by
        cases h.carried with
        | sent hcmd => exact hcmd
      rw [h.laid.input, List.flatMap_singleton, ← List.append_nil (UrbMessage.encode _)]
      exact readUrbMessage_framed.reads _ (accepted_iff.mp hcmd) []
    have hsession : r.session.step .read = some (r.session.dispatch (.cmdSubmit cmd) []) := by
      simp only [Session.step, hreader, if_true, hread]
    have hallowed : allowed r.session .read = true := by
      simp only [allowed, hread]
    have hstep : r.step (.server .read) = some
        { r with session := r.session.dispatch (.cmdSubmit cmd) [], inbox := r.inbox ++ [] } := by
      simp only [Remote.step, hallowed, if_true, hsession]
      rfl
    obtain ⟨live, hlaid, hcarried⟩ := h.laid.read h.carried hallowed hsession
    obtain ⟨t, rfl⟩ : ∃ t, live = [t] := by
      cases hcarried with
      | running => exact ⟨_, rfl⟩
      | executed => exact ⟨_, rfl⟩
    refine .after hstep rfl (hrunning ⟨done, [], peer, pending, ?_, hcarried, h.paced, h.asks,
      h.outcome⟩)
    rw [List.append_nil]
    exact hlaid
  obtain ⟨done, live, unread, channel, delivered, phase, peer, pending, h⟩ := h
  obtain ⟨n, hpaced⟩ := h.paced
  rw [hclient] at hpaced
  have hcarried := h.carried
  have hlaid := h.laid
  cases hcarried with
  | idle => exact hpaced.elim
  | sent =>
      rcases hlaid.reader with hreader | ⟨i, hi, hreader⟩
      · exact hready hreader h
      · -- the reader has not inserted the handle of the task before
        have hstep : r.step (.server .insert) = some
            { r with
              session :=
                { r.session with
                  inFlight := r.session.inFlight.insert (r.session.tasks[i]).seqnum i
                  reader := .ready }
              inbox := r.inbox ++ [] } := by
          simp only [Remote.step, Session.step, hreader, List.getElem?_eq_getElem hi, allowed]
          rfl
        rw [List.append_nil] at hstep
        have hlaid' := hlaid.insert (r.session.inFlight.insert (r.session.tasks[i]).seqnum i)
        exact .after hstep rfl (hready rfl ⟨hlaid', h.carried, h.paced, h.asks, h.outcome⟩)
  | running => exact hrunning ⟨done, [], _, _, h⟩
  | executed => exact hrunning ⟨done, [], _, _, h⟩
  | replied =>
      refine (Holding.deliver ⟨done, [], _, _, h⟩).andThen fun r' h' => ?_
      exact .here ⟨_, h'⟩
  | delivered => exact .here ⟨_, done, [], _, _, h⟩

/-- **Completion.** From everywhere on its way the system can be brought to its end. -/
theorem Headed.exists_done (h : Headed N result r) :
    ∃ r' s outcome, Transition.Reaches Remote.step r r' ∧ r'.client = .done s outcome := by
  generalize hclient : r.client = p
  -- on the script: every step of the driver goes into a smaller one
  induction p generalizing r with
  | done s outcome => exact ⟨r, s, outcome, .refl r, hclient⟩
  | write s cmd next ih =>
      have hstep : ∃ r', r.step .client = some r' := by
        simp only [Remote.step, hclient]
        exact ⟨_, rfl⟩
      obtain ⟨r', hstep⟩ := hstep
      obtain ⟨hnext, h'⟩ := h.write hclient hstep
      obtain ⟨r'', s', outcome, hreach, hdone⟩ := ih true h' hnext
      exact ⟨r'', s', outcome, (Transition.Reaches.single hstep).trans hreach, hdone⟩
  | read s next ih =>
      obtain ⟨r₁, hreach₁, hclient₁, response, h₁⟩ := h.arrive hclient
      rw [hclient] at hclient₁
      obtain ⟨msg, rest, hread⟩ := h₁.readable
      have hstep : r₁.step .client = some { r₁ with client := next (.ok msg), inbox := rest } := by
        simp only [Remote.step, hclient₁, hread]
      have hheaded : Headed N result r₁ := by
        obtain ⟨done, unread, peer, pending, h₁⟩ := h₁
        exact ⟨done, [], unread, [], [response], .awaiting, peer, pending, h₁⟩
      obtain ⟨message, hnext, h₂⟩ := hheaded.read hclient₁ hstep
      obtain ⟨r₃, s', outcome, hreach, hdone⟩ := ih message h₂ hnext
      exact ⟨r₃, s', outcome, (hreach₁.trans (.single hstep)).trans hreach, hdone⟩

/-- At its end the system is where it was headed: the result, the device and the fields are
those of the script. -/
theorem Headed.outcome_of_done (h : Headed N result r) {s : σ} {outcome : Except ε α}
    (hdone : r.client = .done s outcome) : result = some (r.device, s, outcome) := by
  obtain ⟨done, live, unread, channel, delivered, phase, peer, pending, h⟩ := h
  obtain ⟨n, hpaced⟩ := h.paced
  have houtcome := h.outcome
  have hcarried := h.carried
  rw [hdone] at hpaced houtcome
  have hidle : phase = .idle := by
    cases outcome with
    | ok a => exact hpaced.1
    | error e => exact hpaced.1
  subst hidle
  cases hcarried with
  | idle => exact houtcome.symm

end Progress

end Remote

/-! ### Sessions -/

section Sessions

open Extender.Client

/-- Calls of a driver's methods one after the other, each however the ones before it ended. -/
def callAll (d : Driver) (calls : List d.Method) :
    ClassScript d.Fields (List (Except DriverError Output)) :=
  Script.attemptAll (calls.map d.script)

/-- In every run of a session the system is on its way to the end the calls have on the
device itself. -/
theorem headed_run {d : Driver} {calls : List d.Method}
    (hcalls : ∀ m ∈ calls, AsksAccepted (d.script m)) {imported : ClassDevice d.Fields}
    {g : Gadget} {device : g.State} {actions : List Action}
    {r : Remote g (ClassDevice d.Fields) DriverError (List (Except DriverError Output))}
    (hrun : Transition.run Remote.step (Remote.start device (callAll d calls imported)) actions =
      some r) :
    Remote.Headed seqnums.lenient ((callAll d calls imported).outcome g.answer device none) r := by
  have hpaced : Script.Paced seqnums.lenient .idle .idle (callAll d calls) := by
    refine Script.Paced.attemptAll fun x hx => ?_
    obtain ⟨m, -, rfl⟩ := List.mem_map.mp hx
    exact d.paced m
  have hasks : AsksAccepted (callAll d calls) := by
    refine Script.Asks.attemptAll fun x hx => ?_
    obtain ⟨m, hm, rfl⟩ := List.mem_map.mp hx
    exact hcalls m hm
  exact Transition.run_invariant_of_step (Remote.Headed seqnums.lenient _)
    (fun _ _ _ h hstep => h.step hstep) (Remote.headed_start hpaced hasks imported) hrun

/-- **Remote is local.** For every class driver, every sequence of calls whose buffers have at
most 983040 bytes (`bufferLimit`), every device, and every interleaving of the client, the
session's parties and the device over a connection that holds (it loses no byte and is not
closed): when the calls are through they have returned what they return when each transfer is
made on the device as it is submitted, and the device and the driver's fields are left as they
are left then; and whatever has happened so far, the calls can be brought to their end. -/
theorem remote_eq_local (overflowChecks : Bool) (kind : DeviceClass)
    (calls : List (driverOf overflowChecks kind).Method)
    (hcalls : ∀ m ∈ calls, (callBuffer overflowChecks kind m).length ≤ bufferLimit)
    (imported : ClassDevice (driverOf overflowChecks kind).Fields) (g : Gadget) (device : g.State)
    (actions : List Action)
    (r : Remote g (ClassDevice (driverOf overflowChecks kind).Fields) DriverError
      (List (Except DriverError Output)))
    (hrun : Transition.run Remote.step
      (Remote.start device (callAll (driverOf overflowChecks kind) calls imported)) actions =
        some r) :
    (∀ fields results, r.client = .done fields results →
      (callAll (driverOf overflowChecks kind) calls imported).outcome g.answer device none =
        some (r.device, fields, results)) ∧
    ∃ more r' fields results, Transition.run Remote.step r more = some r' ∧
      r'.client = .done fields results := by
  have hheaded := headed_run
    (fun m hm => driver_asks_accepted overflowChecks kind m (hcalls m hm)) hrun
  constructor
  · intro fields results hdone
    exact hheaded.outcome_of_done hdone
  · obtain ⟨r', fields, results, ⟨more, hmore⟩, hdone⟩ := hheaded.exists_done
    exact ⟨more, r', fields, results, hmore, hdone⟩

/-- A device that returns on its IN endpoint what was last written to its OUT endpoint. -/
def echo : Gadget where
  State := List UInt8
  perform last
    | .writeControl _ _ _ _ data => (some (.ok (data.length, [])), last)
    | .readControl _ _ _ _ _ => (some (.error .pipe), last)
    | .writeBulk _ data => (some (.ok (data.length, [])), data)
    | .readBulk _ n =>
        (some (.ok (min last.length n, last.take n ++ List.replicate (n - last.length) 0)), last)
  admits last call answer h := by
    cases call with
    | writeControl => cases h; exact ⟨Nat.le_refl _, fun hread => absurd hread Bool.false_ne_true⟩
    | readControl => cases h; trivial
    | writeBulk => cases h; exact ⟨Nat.le_refl _, fun hread => absurd hread Bool.false_ne_true⟩
    | readBulk endpoint n =>
        cases h
        refine ⟨Nat.min_le_right _ _, fun _ => ?_⟩
        simp only [List.length_append, List.length_take, List.length_replicate, Server.UsbCall.size]
        omega

/-- The life of task `i` with its transfer, from the submission to the bytes of its reply. -/
def taskLife (i : Nat) : List Action :=
  [.client, .server .read, .server .insert, .server (.task i .poll),
    .server (.task i .spawnBlocking), .server (.task i .begin), .perform i,
    .server (.task i .joinBlocking), .server (.send i), .server .recv, .server .write, .client]

/-- How the calls of a system that is through have ended. -/
def resultsOf {g : Gadget} {σ ε α : Type} (r : Remote g σ ε α) : Option (Except ε α) :=
  match r.client with
  | .done _ results => some results
  | _ => none

/-- A report is written to the device and read back: over the connection, and so without it. -/
theorem remote_eq_local_echo :
    ∃ r fields, Transition.run Remote.step
        (Remote.start (g := echo) []
          (callAll (driverOf true .hid) [.writeReport [7, 8], .readReport]
            { devid := 0x10004, nextSeqnum := 1, fields := .initial }))
        (taskLife 0 ++ taskLife 1) = some r ∧
      (callAll (driverOf true .hid) [.writeReport [7, 8], .readReport]
        { devid := 0x10004, nextSeqnum := 1, fields := .initial }).outcome echo.answer [] none =
          some (r.device, fields, .ok [.ok .unit, .ok (.bytes [7, 8])]) := by
  obtain ⟨r, hrun, hresults⟩ := Transition.exists_run_of_any Remote.step
    (Remote.start (g := echo) []
      (callAll (driverOf true .hid) [.writeReport [7, 8], .readReport]
        { devid := 0x10004, nextSeqnum := 1, fields := .initial }))
    (taskLife 0 ++ taskLife 1)
    (fun r => resultsOf r = some (.ok [.ok .unit, .ok (.bytes [7, 8])])) (by decide +kernel)
  cases hclient : r.client with
  | done fields results =>
      rw [resultsOf, hclient] at hresults
      cases hresults
      have hcalls : ∀ m ∈ [Hid.Call.writeReport [7, 8], .readReport],
          (hidBuffer m).length ≤ bufferLimit := by
        decide
      exact ⟨r, fields, hrun,
        (remote_eq_local true .hid _ hcalls _ echo [] _ r hrun).1 fields _ hclient⟩
  | write s cmd next => simp [resultsOf, hclient] at hresults
  | read s next => simp [resultsOf, hclient] at hresults

end Sessions

end Extender.System
