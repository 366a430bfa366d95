/-
Completed transfers.

A RET_UNLINK with status 0 tells the client that there was nothing left to cancel. If the
client had submitted the transfer and not unlinked it before, its RET_SUBMIT is then already
in the channel, and the client reads it first (`completed_before_unlinked`).

The argument follows one entry of `in_flight`: the reader inserts it before it reads another
message, and it goes away only when the task removes it, after its send, or when an unlink
takes it out. So a lookup that finds nothing under the number of an earlier submission finds
it after the send, or after an earlier unlink. `Tracked` says this of one task, `Ordered` of
all of them and of the replies that were put; the reader is part of the invariant, because
between reading a message and acting on it the table is one entry behind (`handled`).

That a response was put before another is carried over to the client by the channel, which
keeps the order (`exists_put_of_wire`). Nothing is said of a session that has lost its writer:
what is put then is not sent.
-/

import Extender.Server.Unlink

namespace Extender.Server

open Indexed Extender.Protocol

namespace Session

/-- The RET_SUBMIT of `sub` is in the history of what was put, whether or not the client has
received it. -/
def Returned (trace : List Event) (sub : CmdSubmit) : Prop :=
  ∃ answer, .put (.submitted sub answer) ∈ trace

/-- One of the messages is an unlink of `q`, which is then allowed to be without a task. -/
def Unlinks (msgs : List UrbMessage) (q : UInt32) : Prop :=
  ∃ cmd, .cmdUnlink cmd ∈ msgs ∧ cmd.unlinkSeqnum = q

/-- `cmd` is the last message read, and if it is the first to unlink its target
then every earlier submission of the target has been returned. -/
def CompletedBefore (trace : List Event) (cmd : CmdUnlink) : Prop :=
  ∃ earlier, reads trace = earlier ++ [.cmdUnlink cmd] ∧
    (¬ Unlinks earlier cmd.unlinkSeqnum →
      ∀ sub, .cmdSubmit sub ∈ earlier → sub.header.seqnum = cmd.unlinkSeqnum → Returned trace sub)

/-- The messages the reader has acted on: all it has read, but for an unlink that
it has not looked up yet. -/
def handled (reader : ReaderPc) (trace : List Event) : List UrbMessage :=
  match reader with
  | .unlinking _ => (reads trace).dropLast
  | _ => reads trace

/-- Where the reply of a task can be looked for: a task past its send has returned,
and one that has not returned is in the table, unless it was unlinked or the
session is over. -/
structure Tracked (reader : ReaderPc) (inFlight : AList (fun _ : UInt32 => Nat))
    (trace : List Event) (i : Nat) (t : Task) : Prop where
  sent : t.pc = .removing ∨ t.pc = .finished → Returned trace t.cmd
  listed : inFlight.lookup t.seqnum = some i ∨ reader = .inserting i ∨ Returned trace t.cmd ∨
    Unlinks (handled reader trace) t.seqnum ∨ PastLoop reader

/-- The invariant: every submission read has its task, every task can be looked for as
`Tracked` says, and every reply of status 0 that was put came after the returns it stands for. -/
structure Ordered (reader : ReaderPc) (tasks : List Task)
    (inFlight : AList (fun _ : UInt32 => Nat)) (trace : List Event) (isOpen : Bool) : Prop where
  submits : ∀ sub, .cmdSubmit sub ∈ reads trace → ∃ i, At tasks i fun t => t.cmd = sub
  tracked : isOpen = true → All tasks (Tracked reader inFlight trace)
  unlinking : ∀ cmd, reader = .unlinking cmd → ∃ earlier, reads trace = earlier ++ [.cmdUnlink cmd]
  replying : ∀ cmd, reader = .replying cmd 0 → isOpen = true → CompletedBefore trace cmd
  answered : ∀ pre post cmd, trace = pre ++ .put (.unlinked cmd 0) :: post →
    CompletedBefore pre cmd

/-! ### Growing histories -/

section Growing

variable {trace : List Event} {e : Event}

theorem Returned.append {sub : CmdSubmit} (h : Returned trace sub) (e : Event) :
    Returned (trace ++ [e]) sub := by
  obtain ⟨answer, hmem⟩ := h
  exact ⟨answer, List.mem_append_left _ hmem⟩

theorem Unlinks.mono {msgs msgs' : List UrbMessage} {q : UInt32} (h : Unlinks msgs q)
    (hsub : msgs ⊆ msgs') : Unlinks msgs' q := by
  obtain ⟨cmd, hmem, hq⟩ := h
  exact ⟨cmd, hsub hmem, hq⟩

theorem CompletedBefore.put {cmd : CmdUnlink} (h : CompletedBefore trace cmd) (r : Response) :
    CompletedBefore (trace ++ [.put r]) cmd := by
  obtain ⟨earlier, hreads, hreturned⟩ := h
  refine ⟨earlier, by rw [reads_append, reads_put, List.append_nil, hreads], ?_⟩
  intro hfirst sub hsub hseq
  exact (hreturned hfirst sub hsub hseq).append _

/-- A put of an unlink reply is the newest event or an older one. -/
theorem append_eq_split {pre post : List Event} {x : Event} (h : trace ++ [e] = pre ++ x :: post) :
    (pre = trace ∧ x = e) ∨ ∃ post', trace = pre ++ x :: post' := by
  rcases List.eq_nil_or_concat post with rfl | ⟨post', last, rfl⟩
  · obtain ⟨hpre, hx⟩ := List.append_inj' h rfl
    cases hx
    exact Or.inl ⟨hpre.symm, rfl⟩
  · rw [List.concat_eq_append, ← List.cons_append, ← List.append_assoc] at h
    exact Or.inr ⟨post', (List.append_inj' h rfl).1⟩

theorem handled_subset (reader : ReaderPc) (trace : List Event) :
    handled reader trace ⊆ reads trace := by
  intro msg hmsg
  cases reader with
  | unlinking cmd => exact List.dropLast_subset _ hmsg
  | _ => exact hmsg

end Growing

namespace Ordered

variable {reader : ReaderPc} {tasks : List Task} {inFlight : AList (fun _ : UInt32 => Nat)}
  {trace : List Event} {isOpen : Bool}

theorem of_closed (h : Ordered reader tasks inFlight trace isOpen) {isOpen' : Bool}
    (himp : isOpen' = true → isOpen = true) : Ordered reader tasks inFlight trace isOpen' :=
  ⟨h.submits, fun ho => h.tracked (himp ho), h.unlinking,
    fun cmd hr ho => h.replying cmd hr (himp ho), h.answered⟩

/-- The reader leaves its loop: nothing is asked of the table any more. -/
theorem leave (h : Ordered reader tasks inFlight trace isOpen) {reader' : ReaderPc}
    {tasks' : List Task} (inFlight' : AList (fun _ : UInt32 => Nat)) (hpast : PastLoop reader')
    (hsubmits : ∀ sub, .cmdSubmit sub ∈ reads trace → ∃ i, At tasks' i fun t => t.cmd = sub)
    (hsent : isOpen = true → All tasks' fun _ t =>
      t.pc = .removing ∨ t.pc = .finished → Returned trace t.cmd) :
    Ordered reader' tasks' inFlight' trace isOpen := by
  refine ⟨hsubmits, ?_, ?_, ?_, h.answered⟩
  · intro ho i t ht
    exact ⟨hsent ho i t ht, Or.inr (Or.inr (Or.inr (Or.inr hpast)))⟩
  · rintro cmd rfl
    simp [PastLoop] at hpast
  · rintro cmd rfl
    simp [PastLoop] at hpast

theorem read (h : Ordered .ready tasks inFlight trace isOpen) {msg : UrbMessage}
    {reader' : ReaderPc} {tasks' : List Task}
    (hhandled : reads trace ⊆ handled reader' (trace ++ [Event.read msg]))
    (hreader : ∀ cmd, reader' = .unlinking cmd → msg = .cmdUnlink cmd)
    (hreplying : ∀ cmd, reader' ≠ .replying cmd 0)
    (hsubmits : ∀ sub, .cmdSubmit sub ∈ reads trace ++ [msg] →
      ∃ i, At tasks' i fun t => t.cmd = sub)
    (htasks : All tasks (Tracked reader' inFlight (trace ++ [Event.read msg])) →
      All tasks' (Tracked reader' inFlight (trace ++ [Event.read msg]))) :
    Ordered reader' tasks' inFlight (trace ++ [Event.read msg]) isOpen := by
  refine ⟨?_, ?_, ?_, fun cmd hr => absurd hr (hreplying cmd), ?_⟩
  · intro sub hsub
    rw [reads_append] at hsub
    exact hsubmits sub hsub
  · intro ho
    refine htasks ((h.tracked ho).imp ?_)
    rintro i t _ ⟨hsent, hlisted⟩
    refine ⟨fun hpc => (hsent hpc).append _, ?_⟩
    rcases hlisted with hl | hl | hl | hl | hl
    · exact Or.inl hl
    · cases hl
    · exact Or.inr (Or.inr (Or.inl (hl.append _)))
    · exact Or.inr (Or.inr (Or.inr (Or.inl (hl.mono hhandled))))
    · simp [PastLoop] at hl
  · intro cmd hr
    rw [hreader cmd hr]
    exact ⟨reads trace, by rw [reads_append, reads_read]⟩
  · intro pre post cmd hsplit
    rcases append_eq_split hsplit with ⟨_, hx⟩ | ⟨post', hold⟩
    · cases hx
    · exact h.answered pre post' cmd hold

/-- The reader inserts the handle of the task it has just spawned. -/
theorem insert {i : Nat} {t : Task} (h : Ordered (.inserting i) tasks inFlight trace isOpen)
    (hnodup : (tasks.map Task.seqnum).Nodup) (ht : tasks[i]? = some t) :
    Ordered .ready tasks (inFlight.insert t.seqnum i) trace isOpen := by
  refine ⟨h.submits, ?_, by simp, by simp, h.answered⟩
  intro ho j u hu
  obtain ⟨hsent, hlisted⟩ := h.tracked ho j u hu
  refine ⟨hsent, ?_⟩
  by_cases hseq : u.seqnum = t.seqnum
  · obtain rfl := index_eq_of_seqnum hnodup hu ht hseq
    exact Or.inl (by rw [hseq, AList.lookup_insert])
  · rcases hlisted with hl | hl | hl | hl | hl
    · exact Or.inl (by rw [AList.lookup_insert_ne hseq, hl])
    · cases hl
      rw [ht] at hu
      cases hu
      exact absurd rfl hseq
    · exact Or.inr (Or.inr (Or.inl hl))
    · exact Or.inr (Or.inr (Or.inr (Or.inl hl)))
    · simp [PastLoop] at hl

/-- An unlink takes the entry of its target out: from then on the target counts as
unlinked. -/
theorem found {cmd : CmdUnlink} {tasks' : List Task}
    (h : Ordered (.unlinking cmd) tasks inFlight trace isOpen)
    (hsubmits : ∀ sub, .cmdSubmit sub ∈ reads trace → ∃ i, At tasks' i fun t => t.cmd = sub)
    (htasks : ∀ Q : Nat → Task → Prop, (∀ i t, Q i t → Q i t.abort) → All tasks Q →
      All tasks' Q) :
    Ordered (.replying cmd ECONNRESET) tasks' (inFlight.erase cmd.unlinkSeqnum) trace isOpen := by
  obtain ⟨earlier, hreads⟩ := h.unlinking cmd rfl
  refine ⟨hsubmits, ?_, by simp, by simp [ECONNRESET], h.answered⟩
  intro ho
  refine htasks _ (fun i t hQ => ⟨hQ.sent, hQ.listed⟩) ((h.tracked ho).imp ?_)
  rintro i t _ ⟨hsent, hlisted⟩
  refine ⟨hsent, ?_⟩
  by_cases hseq : t.seqnum = cmd.unlinkSeqnum
  · have hmem : .cmdUnlink cmd ∈ reads trace := by
      rw [hreads]
      exact List.mem_append_right _ List.mem_cons_self
    exact Or.inr (Or.inr (Or.inr (Or.inl ⟨cmd, hmem, hseq.symm⟩)))
  · rcases hlisted with hl | hl | hl | hl | hl
    · exact Or.inl (by rw [AList.lookup_erase_ne hseq, hl])
    · cases hl
    · exact Or.inr (Or.inr (Or.inl hl))
    · exact Or.inr (Or.inr (Or.inr (Or.inl (hl.mono (handled_subset _ _)))))
    · simp [PastLoop] at hl

/-- An unlink finds nothing: its target has returned, or was unlinked before. -/
theorem missing {cmd : CmdUnlink} (h : Ordered (.unlinking cmd) tasks inFlight trace isOpen)
    (hlookup : inFlight.lookup cmd.unlinkSeqnum = none) :
    Ordered (.replying cmd 0) tasks inFlight trace isOpen := by
  obtain ⟨earlier, hreads⟩ := h.unlinking cmd rfl
  have hhandled : handled (.unlinking cmd) trace = earlier := by
    rw [handled, hreads, List.dropLast_concat]
  refine ⟨h.submits, ?_, by simp, ?_, h.answered⟩
  · intro ho
    refine (h.tracked ho).imp ?_
    rintro i t _ ⟨hsent, hlisted⟩
    refine ⟨hsent, ?_⟩
    rcases hlisted with hl | hl | hl | hl | hl
    · exact Or.inl hl
    · cases hl
    · exact Or.inr (Or.inr (Or.inl hl))
    · exact Or.inr (Or.inr (Or.inr (Or.inl (hl.mono (handled_subset _ _)))))
    · simp [PastLoop] at hl
  · intro c hc ho
    cases hc
    refine ⟨earlier, hreads, ?_⟩
    intro hfirst sub hsub hseq
    obtain ⟨i, t, ht, rfl⟩ := h.submits sub (by rw [hreads]; exact List.mem_append_left _ hsub)
    have hseq : t.seqnum = cmd.unlinkSeqnum := hseq
    rcases (h.tracked ho i t ht).listed with hl | hl | hl | hl | hl
    · rw [hseq, hlookup] at hl
      cases hl
    · cases hl
    · exact hl
    · rw [hhandled, hseq] at hl
      exact absurd hl hfirst
    · simp [PastLoop] at hl

theorem put_unlinked {cmd : CmdUnlink} {status : Int32}
    (h : Ordered (.replying cmd status) tasks inFlight trace true) :
    Ordered .ready tasks inFlight (trace ++ [Event.put (.unlinked cmd status)]) true := by
  refine ⟨?_, ?_, by simp, by simp, ?_⟩
  · intro sub hsub
    rw [reads_append, reads_put, List.append_nil] at hsub
    exact h.submits sub hsub
  · intro ho
    refine (h.tracked ho).imp ?_
    rintro i t _ ⟨hsent, hlisted⟩
    refine ⟨fun hpc => (hsent hpc).append _, ?_⟩
    rcases hlisted with hl | hl | hl | hl | hl
    · exact Or.inl hl
    · cases hl
    · exact Or.inr (Or.inr (Or.inl (hl.append _)))
    · refine Or.inr (Or.inr (Or.inr (Or.inl (hl.mono ?_))))
      simp [handled]
    · simp [PastLoop] at hl
  · intro pre post c hsplit
    rcases append_eq_split hsplit with ⟨rfl, hx⟩ | ⟨post', hold⟩
    · cases hx
      exact h.replying _ rfl rfl
    · exact h.answered pre post' c hold

theorem put_submitted {i : Nat} {t : Task} {answer : Option UsbAnswer}
    (h : Ordered reader tasks inFlight trace isOpen) (ht : tasks[i]? = some t) :
    Ordered reader (tasks.set i { t with pc := .removing }) inFlight
      (trace ++ [Event.put (.submitted t.cmd answer)]) isOpen := by
  have hhandled : handled reader (trace ++ [Event.put (.submitted t.cmd answer)]) =
      handled reader trace := by
    simp [handled]
  have hnew : Returned (trace ++ [Event.put (.submitted t.cmd answer)]) t.cmd :=
    ⟨answer, List.mem_append_right _ List.mem_cons_self⟩
  refine ⟨?_, ?_, ?_, ?_, ?_⟩
  · intro sub hsub
    rw [reads_append, reads_put, List.append_nil] at hsub
    obtain ⟨j, hj⟩ := h.submits sub hsub
    exact ⟨j, hj.set ht id⟩
  · intro ho
    refine All.set ((h.tracked ho).imp ?_) ⟨fun _ => hnew, Or.inr (Or.inr (Or.inl hnew))⟩
    rintro j u _ ⟨hsent, hlisted⟩
    refine ⟨fun hpc => (hsent hpc).append _, ?_⟩
    rw [hhandled]
    exact hlisted.imp_right (Or.imp_right (Or.imp_left fun hl => hl.append _))
  · intro cmd hr
    rw [reads_append, reads_put, List.append_nil]
    exact h.unlinking cmd hr
  · intro cmd hr ho
    exact (h.replying cmd hr ho).put _
  · intro pre post cmd hsplit
    rcases append_eq_split hsplit with ⟨_, hx⟩ | ⟨post', hold⟩
    · cases hx
    · exact h.answered pre post' cmd hold

theorem move {i : Nat} {t t' : Task} (h : Ordered reader tasks inFlight trace isOpen)
    (ht : tasks[i]? = some t) (hcmd : t'.cmd = t.cmd)
    (hpc : isOpen = true → t'.pc = .removing ∨ t'.pc = .finished → t.pc = t'.pc) :
    Ordered reader (tasks.set i t') inFlight trace isOpen := by
  refine ⟨?_, ?_, h.unlinking, h.replying, h.answered⟩
  · intro sub hsub
    obtain ⟨j, hj⟩ := h.submits sub hsub
    exact ⟨j, hj.set ht fun he => hcmd.trans he⟩
  · intro ho
    obtain ⟨hsent, hlisted⟩ := h.tracked ho i t ht
    refine (h.tracked ho).set ⟨?_, ?_⟩
    · intro hpast
      rw [hcmd]
      exact hsent (by rwa [hpc ho hpast])
    · rw [hcmd, Task.seqnum, hcmd]
      exact hlisted

/-- A task that has sent removes itself from the table. -/
theorem remove {i : Nat} {t : Task} (h : Ordered reader tasks inFlight trace isOpen)
    (hnodup : (tasks.map Task.seqnum).Nodup) (ht : tasks[i]? = some t)
    (hpc : t.pc = .removing) :
    Ordered reader (tasks.set i { t with pc := .finished, polled := false })
      (inFlight.erase t.seqnum) trace isOpen := by
  refine ⟨?_, ?_, h.unlinking, h.replying, h.answered⟩
  · intro sub hsub
    obtain ⟨j, hj⟩ := h.submits sub hsub
    exact ⟨j, hj.set ht id⟩
  · intro ho j u hu
    have hreturned : Returned trace t.cmd := (h.tracked ho i t ht).sent (Or.inl hpc)
    by_cases hij : i = j
    · subst hij
      obtain ⟨t', ht', rfl⟩ := At.set_self (P := fun t' => t' =
        { t with pc := .finished, polled := false }) ht rfl
      rw [ht'] at hu
      cases hu
      exact ⟨fun _ => hreturned, Or.inr (Or.inr (Or.inl hreturned))⟩
    · rw [List.getElem?_set_ne hij] at hu
      obtain ⟨hsent, hlisted⟩ := h.tracked ho j u hu
      refine ⟨hsent, hlisted.imp_left ?_⟩
      intro hl
      rw [AList.lookup_erase_ne, hl]
      intro hseq
      exact hij (index_eq_of_seqnum hnodup ht hu hseq.symm)

theorem moves {s s' : Session} {a : Action} (hnodup : (s.tasks.map Task.seqnum).Nodup)
    (h : Ordered s.reader s.tasks s.inFlight s.trace s.isOpen) (hmove : Moves s a s') :
    Ordered s'.reader s'.tasks s'.inFlight s'.trace s'.isOpen := by
  have hsubmits : ∀ sub, .cmdSubmit sub ∈ reads s.trace →
      ∃ i, At s'.tasks i fun t => t.cmd = sub := by
    intro sub hsub
    obtain ⟨i, t, ht, hcmd⟩ := h.submits sub hsub
    exact ⟨i, (hmove.evolves ht).mono fun t' he => he.cmd.trans hcmd⟩
  have hsent : s.isOpen = true → All s.tasks fun _ t =>
      t.pc = .removing ∨ t.pc = .finished → Returned s.trace t.cmd :=
    fun ho => (h.tracked ho).imp fun _ _ _ ht => ht.sent
  cases hmove with
  | @readSubmit cmd rest hreader =>
      rw [hreader] at h
      refine h.read (by simp [handled]) (by simp) (by simp) ?_ ?_
      · intro sub hsub
        rcases List.mem_append.mp hsub with hsub | hsub
        · exact hsubmits sub hsub
        · simp only [List.mem_singleton, UrbMessage.cmdSubmit.injEq] at hsub
          subst hsub
          exact ⟨_, At.append_new rfl⟩
      · intro htracked
        exact htracked.append ⟨by simp [Task.spawn], Or.inr (Or.inl rfl)⟩
  | @readUnlink cmd rest hreader =>
      rw [hreader] at h
      refine h.read (by simp [handled]) (by simp) (by simp) ?_ id
      intro sub hsub
      exact h.submits sub (by simpa using hsub)
  | @readOther msg rest hreader _ hsubmit =>
      rw [hreader] at h ⊢
      refine h.read (by simp [handled]) (by simp) (by simp) ?_ id
      intro sub hsub
      rcases List.mem_append.mp hsub with hsub | hsub
      · exact h.submits sub hsub
      · exact absurd (List.mem_singleton.mp hsub).symm (hsubmit sub)
  | readError => exact h.leave _ (Or.inl rfl) h.submits hsent
  | @insert i t hreader ht =>
      rw [hreader] at h
      exact h.insert hnodup ht
  | @unlinkFound cmd i hreader hlookup =>
      rw [hreader] at h
      exact h.found hsubmits fun Q hQ hall => hall.modify hQ i
  | unlinkMissing hreader hlookup =>
      rw [hreader] at h
      exact h.missing hlookup
  | replyClosed => exact h.leave _ (Or.inl rfl) h.submits hsent
  | replyPut hreader hopen =>
      rw [hreader, hopen] at h
      exact (h.put_unlinked).of_closed fun _ => rfl
  | cancelAll =>
      exact h.leave _ (Or.inr (Or.inl rfl)) hsubmits
        fun ho => (hsent ho).mapIdx fun i t hQ => by
          by_cases hi : i ∈ s.inFlight.entries.map (·.2)
          · rw [if_pos hi]
            exact hQ
          · rw [if_neg hi]
            exact hQ
  | join => exact h.leave _ (Or.inr (Or.inr rfl)) h.submits hsent
  | task ht hmove => exact h.move ht (Task.move_cmd hmove) fun _ => Task.pc_of_move hmove
  | sendClosed ht hpc hpolled hclosed =>
      refine h.move ht rfl fun hopen => ?_
      rw [hclosed] at hopen
      cases hopen
  | sendPut ht => exact h.put_submitted ht
  | remove ht hpc => exact h.remove hnodup ht hpc
  | recv hwriter => exact h.of_closed fun _ => by simp [isOpen, hwriter]
  | write hwriter => exact h.of_closed fun _ => by simp [isOpen, hwriter]
  | writeFail => exact h.of_closed fun hopen => by simp [isOpen] at hopen
  | close => exact h.of_closed fun hopen => by simp [isOpen] at hopen

end Ordered

/-- A response the client has received was put; what it received before was put before, by the
order of the channel. -/
theorem exists_put_of_wire {trace : List Event} {w w' : List Response} {r : Response}
    (h : w ++ r :: w' <+: puts trace) :
    ∃ pre post, trace = pre ++ Event.put r :: post ∧ puts pre = w := by
  obtain ⟨rest, hputs⟩ := h
  rw [List.append_assoc, List.cons_append] at hputs
  obtain ⟨left, right, rfl, hleft, hright⟩ := List.filterMap_eq_append_iff.mp hputs.symm
  obtain ⟨skip, e, post, rfl, hskip, he, _⟩ := List.filterMap_eq_cons_iff.mp hright
  cases e with
  | read msg => cases he
  | put r' =>
      cases he
      refine ⟨left ++ skip, post, by rw [List.append_assoc], ?_⟩
      have hskip' : puts skip = [] := List.filterMap_eq_nil_iff.mpr hskip
      rw [puts_append, hskip', List.append_nil]
      exact hleft

/-- **No lost completion.** In every run with distinct sequence numbers: when a
RET_UNLINK with status 0 is put for the first unlink of an earlier submission, the
RET_SUBMIT of the submission was put before it; and when the client receives the
RET_UNLINK, it has received the RET_SUBMIT before. -/
theorem completed_before_unlinked {input : List UInt8} {actions : List Action} {s : Session}
    (hrun : Transition.run step (start input) actions = some s) (hdistinct : s.DistinctSubmits) :
    (∀ pre post cmd, s.trace = pre ++ .put (.unlinked cmd 0) :: post → CompletedBefore pre cmd) ∧
    ∀ w w' cmd, s.wire = w ++ .unlinked cmd 0 :: w' →
      ∃ earlier, earlier ++ [.cmdUnlink cmd] <+: reads s.trace ∧
        (¬ Unlinks earlier cmd.unlinkSeqnum →
          ∀ sub, .cmdSubmit sub ∈ earlier → sub.header.seqnum = cmd.unlinkSeqnum →
            ∃ answer, .submitted sub answer ∈ w) := by
  have hstart : Ordered .ready [] ∅ [] true := by
    refine ⟨by simp [reads], fun _ => ?_, by simp, by simp, by simp⟩
    intro i t ht
    simp at ht
  have hordered : Ordered s.reader s.tasks s.inFlight s.trace s.isOpen :=
    run_invariant_distinct
      (fun s : Session => Ordered s.reader s.tasks s.inFlight s.trace s.isOpen)
      (fun _ _ _ hnodup h _ hmove => h.moves hnodup hmove) hstart
      (Transition.meets_true step _ _) hrun hdistinct
  refine ⟨hordered.answered, ?_⟩
  intro w w' cmd hwire
  have hprefix := wire_prefix_puts hrun
  rw [hwire] at hprefix
  obtain ⟨pre, post, htrace, hw⟩ := exists_put_of_wire hprefix
  obtain ⟨earlier, hreads, hreturned⟩ := hordered.answered pre post cmd htrace
  refine ⟨earlier, ?_, ?_⟩
  · rw [← hreads, htrace, reads_append]
    exact List.prefix_append _ _
  · intro hfirst sub hsub hseq
    obtain ⟨answer, hmem⟩ := hreturned hfirst sub hsub hseq
    exact ⟨answer, hw ▸ mem_puts.mpr hmem⟩

/-- The task is through, and out of the table, before the unlink is looked up. -/
def completedFirst : List Action :=
  [.read, .insert] ++ untilSent 0 ++
    [.remove 0, .read, .unlink, .reply, .recv, .write, .recv, .write]

theorem completed_before_unlinked_completedFirst :
    ∃ s, Transition.run step (start submitThenUnlink) completedFirst = some s ∧
      s.wire = [.submitted (sampleSubmit 1) sampleReport] ++
        .unlinked (sampleUnlink 2 1) 0 :: [] ∧
      ∃ earlier, earlier ++ [.cmdUnlink (sampleUnlink 2 1)] <+: reads s.trace ∧
        (¬ Unlinks earlier 1 → ∀ sub, .cmdSubmit sub ∈ earlier → sub.header.seqnum = 1 →
          ∃ answer, .submitted sub answer ∈
            [Response.submitted (sampleSubmit 1) sampleReport]) := by
  obtain ⟨s, hrun, hdistinct, hwire⟩ :=
    Transition.exists_run_of_any step (start submitThenUnlink) completedFirst
      (fun s => s.DistinctSubmits ∧ s.wire = [.submitted (sampleSubmit 1) sampleReport] ++
        .unlinked (sampleUnlink 2 1) 0 :: []) (by decide +kernel)
  exact ⟨s, hrun, hwire, (completed_before_unlinked hrun hdistinct).2 _ _ _ hwire⟩

end Session

end Extender.Server
