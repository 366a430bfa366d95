/-
The PID file that keeps a second daemon from starting (`privileges.rs`).

`create_pid_file` looks at the file at the path, removes it when the process it names is not
running, and then creates a new one; `remove_pid_file` removes the file when it names the
caller. Each call is a sequence of system calls, and any number of processes make them on one
path, in any order. A process can exit at any point.

`Path::exists`, `read`, `kill`, `unlink`, `open` with `O_EXCL` and `write` are one step each.
The label of a step says whether the system call fails; for `kill` that means that the process
is not running, or cannot be signalled. A file has an inode and a history beside its text,
which no call reads: they let the property say whose file is at the path, also when a file is
removed and another one created in its place.

The creation is exclusive, but what is removed before it is whatever file is at the path by
then. The condition is therefore on the removals: none of them takes away the file of a live
process that has created it and not removed it since (`SparesOwner`). Under it every such
process finds its own file at the path (`HasFile`), and there is only one path.

* `advance_cases` — what one system call can do to the file, by what its process claims.
* `single_holder` — as long as no step removes the file of a live process that has created it
  and not removed it, at most one live process is past `create_pid_file`.
* `two_holders` — two processes that find the same stale file can both start.
-/

import Extender.Lib.Text
import Extender.Lib.Transition
import Mathlib.Logic.Function.Basic

namespace Extender.Daemon

open Text

/-! ### Files and processes -/

/-- A file at the path. Its text is absent if it is not UTF-8; `creator` is the history of
the file, which no call reads. -/
structure PidFile where
  inode : Nat
  creator : UInt32
  text : Option (List Char)
deriving DecidableEq, Repr

/-- The errors of the two functions. -/
inductive PrivilegeError where
  | io
  | pidFileStale (path : String) (pid : UInt32)
deriving DecidableEq, Repr

/-- The next system call of a process, by the function it is in. -/
inductive PidFileCall where
  | idle
  | createExists
  | createRead
  | createKill (oldPid : UInt32)
  | createRemove
  | createNew
  | createWrite (inode : Nat)
  | removeExists
  | removeRead
  | removeRemove
deriving DecidableEq, Repr

/-- A live process: where it is, what its last `create_pid_file` returned, and the file it
has created and not removed since. -/
structure DaemonProcess where
  call : PidFileCall
  returned : Option (Except PrivilegeError Unit)
  owned : Option Nat
deriving DecidableEq, Repr

/-- A process that has made no call. -/
def DaemonProcess.fresh : DaemonProcess := { call := .idle, returned := none, owned := none }

/-- The path and the live processes, by their process ids; there is one file at the path, or
none. -/
structure PidFileSystem where
  path : String
  file : Option PidFile
  nextInode : Nat
  processes : UInt32 → Option DaemonProcess

namespace PidFileSystem

/-- No process has started yet. -/
def start (path : String) (file : Option PidFile) : PidFileSystem :=
  { path, file, nextInode := (file.map fun f => f.inode + 1).getD 0, processes := fun _ => none }

/-- The process moves on. -/
def setProcess (s : PidFileSystem) (pid : UInt32) (p : DaemonProcess) : PidFileSystem :=
  { s with processes := Function.update s.processes pid (some p) }

/-! ### The calls -/

/-- `content.trim().parse::<u32>()`. -/
def parsePid (text : List Char) : Option UInt32 :=
  match fromStrRadix 10 (2 ^ 32) (trim text) with
  | .ok n => some (UInt32.ofNat n)
  | .error _ => none

/-- What `writeln!(file, "{}", pid)` writes: the number in decimal, and a line feed. -/
def pidLine (pid : UInt32) : List Char := Nat.toDigits 10 pid.toNat ++ ['\n']

/-- `read_to_string` and `parse`: the process id in the file, if there is one. -/
def readPid (s : PidFileSystem) (fails : Bool) : Option UInt32 :=
  if fails then none else (s.file.bind PidFile.text).bind parsePid

/-- The text of an open file is replaced; a file without a name is out of sight. -/
def writeFile (s : PidFileSystem) (inode : Nat) (text : List Char) : PidFileSystem :=
  { s with file := s.file.map fun f => if f.inode = inode then { f with text := some text } else f }

/-- The system call a process is at. `fails` is the answer of the system to it. -/
def advance (s : PidFileSystem) (pid : UInt32) (p : DaemonProcess) (fails : Bool) :
    Option PidFileSystem :=
  let go (call : PidFileCall) := some (s.setProcess pid { p with call })
  let fail (s : PidFileSystem) (e : PrivilegeError) :=
    some (s.setProcess pid { p with call := .idle, returned := some (.error e) })
  match p.call with
  | .idle => none
  | .createExists => if s.file.isSome ∧ fails = false then go .createRead else go .createNew
  | .createRead =>
      match s.readPid fails with
      | some oldPid => go (.createKill oldPid)
      | none => go .createRemove
  | .createKill oldPid =>
      if fails then go .createRemove else fail s (.pidFileStale s.path oldPid)
  | .createRemove =>
      if s.file.isSome ∧ fails = false then
        some ({ s with file := none }.setProcess pid { p with call := .createNew })
      else fail s .io
  | .createNew =>
      if fails then fail s .io
      else if s.file.isSome then fail s (.pidFileStale s.path 0)
      else
        some ({ s with
            file := some { inode := s.nextInode, creator := pid, text := some [] }
            nextInode := s.nextInode + 1 }.setProcess pid
          { p with call := .createWrite s.nextInode })
  | .createWrite inode =>
      if fails then fail s .io
      else
        some ((s.writeFile inode (pidLine pid)).setProcess pid
          { call := .idle, returned := some (.ok ()), owned := some inode })
  | .removeExists =>
      if s.file.isSome ∧ fails = false then go .removeRead
      else some (s.setProcess pid { p with call := .idle, owned := none })
  | .removeRead =>
      if s.readPid fails = some pid then go .removeRemove
      else some (s.setProcess pid { p with call := .idle, owned := none })
  | .removeRemove =>
      let s := if fails then s else { s with file := none }
      some (s.setProcess pid { p with call := .idle, owned := none })

/-- A process starts or exits, begins one of the two functions, or makes its next system
call. -/
inductive Action where
  | spawn (pid : UInt32)
  | exit (pid : UInt32)
  | createPidFile (pid : UInt32)
  | removePidFile (pid : UInt32)
  | advance (pid : UInt32) (fails : Bool)
deriving DecidableEq, Repr

/-- A process makes one call at a time: it enters a function only when it is in none. -/
def begin (s : PidFileSystem) (pid : UInt32) (call : PidFileCall) : Option PidFileSystem :=
  match s.processes pid with
  | some p => if p.call = .idle then some (s.setProcess pid { p with call }) else none
  | none => none

/-- One step of the system. -/
def step (s : PidFileSystem) : Action → Option PidFileSystem
  | .spawn pid => if s.processes pid = none then some (s.setProcess pid .fresh) else none
  | .exit pid => some { s with processes := Function.update s.processes pid none }
  | .createPidFile pid => s.begin pid .createExists
  | .removePidFile pid => s.begin pid .removeExists
  | .advance pid fails =>
      match s.processes pid with
      | some p => s.advance pid p fails
      | none => none

/-! ### Owners of the file -/

end PidFileSystem

/-- The process has created the file `inode`, and has neither failed to write it nor removed
it since. -/
def DaemonProcess.Claims (p : DaemonProcess) (inode : Nat) : Prop :=
  p.owned = some inode ∨ p.call = .createWrite inode

instance (p : DaemonProcess) (inode : Nat) : Decidable (p.Claims inode) :=
  inferInstanceAs (Decidable (_ ∨ _))

namespace PidFileSystem

/-- A live process is past a successful `create_pid_file`, without a `remove_pid_file`: it
believes that it is the daemon. -/
def Holds (s : PidFileSystem) (pid : UInt32) : Prop :=
  ∃ p, s.processes pid = some p ∧ p.owned.isSome

instance (s : PidFileSystem) (pid : UInt32) : Decidable (s.Holds pid) :=
  decidable_of_iff ((s.processes pid).any fun p => p.owned.isSome) (by
    simp [Holds, Option.any_eq_true_iff_get, Option.eq_some_iff_get_eq])

/-- Which file is at the path, and who created it; two files with one text are still two. -/
def named (s : PidFileSystem) : Option (Nat × UInt32) :=
  s.file.map fun f => (f.inode, f.creator)

/-- The live process the file at the path belongs to: it has created this very file, and not
removed it. -/
def owner (s : PidFileSystem) : Option UInt32 :=
  match s.named with
  | some (inode, creator) =>
      if ∃ p ∈ s.processes creator, p.Claims inode then some creator else none
  | none => none

/-- A step that removes the file at the path, of which `owner` is the owner, may do so:
there is none, or it is the caller of `remove_pid_file`. -/
def Spares (pid : UInt32) (owner : Option UInt32) : PidFileCall → Prop
  | .createRemove => owner = none
  | .removeRemove => owner = none ∨ owner = some pid
  | _ => True

instance (pid : UInt32) (owner : Option UInt32) : DecidablePred (Spares pid owner)
  | .createRemove => inferInstanceAs (Decidable (_ = _))
  | .removeRemove => inferInstanceAs (Decidable (_ ∨ _))
  | .idle | .createExists | .createRead | .createKill _ | .createNew | .createWrite _
  | .removeExists | .removeRead => isTrue trivial

/-- No step removes the file of another live process, nor `create_pid_file` one's own. It is a
condition on the state before the step. -/
def SparesOwner (s : PidFileSystem) : Action → Prop
  | .advance pid false => ∀ p ∈ s.processes pid, Spares pid s.owner p.call
  | _ => True

instance (s : PidFileSystem) : DecidablePred s.SparesOwner
  | .advance pid false =>
      inferInstanceAs (Decidable (∀ p ∈ s.processes pid, Spares pid s.owner p.call))
  | .advance _ true | .spawn _ | .exit _ | .createPidFile _ | .removePidFile _ => isTrue trivial

/-- Whoever has created a file and not removed it finds it at the path, which is why there is
only one of them. -/
def HasFile (s : PidFileSystem) : Prop :=
  ∀ pid p inode, s.processes pid = some p → p.Claims inode → s.named = some (inode, pid)

/-- Such a process is the owner of the file. -/
theorem HasFile.owner {s : PidFileSystem} (h : s.HasFile) {pid : UInt32} {p : DaemonProcess}
    {inode : Nat} (hp : s.processes pid = some p) (hclaim : p.Claims inode) :
    s.owner = some pid := by
  unfold PidFileSystem.owner
  rw [h pid p inode hp hclaim]
  exact if_pos ⟨p, hp, hclaim⟩

/-! ### What a step does to the file -/

/-- What one system call of the process `pid` can do to the file at the path, by what the
process claims before and after. -/
inductive FileMove (s s' : PidFileSystem) (pid : UInt32) (p p' : DaemonProcess) (fails : Bool) :
    Prop where
  | kept (named : s'.named = s.named) (claims : ∀ i, p'.Claims i → p.Claims i)
  | created (absent : s.named = none) (inode : Nat) (named : s'.named = some (inode, pid))
      (claims : ∀ i, p'.Claims i → p.Claims i ∨ i = inode)
  | replaced (call : p.call = .createRemove) (worked : fails = false) (named : s'.named = none)
      (claims : ∀ i, p'.Claims i → p.Claims i)
  | removed (call : p.call = .removeRemove) (worked : fails = false) (named : s'.named = none)
      (claims : ∀ i, ¬ p'.Claims i)

/-- A process that is not about to write claims what it owns. -/
theorem claims_iff_owned {p : DaemonProcess} (hcall : ∀ i, p.call ≠ .createWrite i) (i : Nat) :
    p.Claims i ↔ p.owned = some i :=
  or_iff_left (hcall i)

theorem named_writeFile (s : PidFileSystem) (inode : Nat) (text : List Char) :
    (s.writeFile inode text).named = s.named := by
  unfold named writeFile
  cases s.file with
  | none => rfl
  | some f =>
      simp only [Option.map_some]
      split
      all_goals rfl

section Advance

variable {s s' : PidFileSystem} {pid : UInt32} {p : DaemonProcess} {fails : Bool}

/-- The process goes on to a call that is not the writing of a new file. -/
theorem fileMove_go {p' : DaemonProcess} (howned : ∀ i, p'.owned = some i → p.owned = some i)
    (hcall : ∀ i, p'.call ≠ .createWrite i) :
    FileMove s (s.setProcess pid p') pid p p' fails :=
  .kept rfl fun i h => Or.inl (howned i ((claims_iff_owned hcall i).mp h))

/-- One system call of a process, as a move of the file at the path: it is kept, created or
removed, and the claims of the process go with it. -/
theorem advance_cases (h : s.advance pid p fails = some s') :
    ∃ p', s'.processes = Function.update s.processes pid (some p') ∧
      FileMove s s' pid p p' fails := by
  unfold advance at h
  cases hcall : p.call with
  | idle =>
      rw [hcall] at h
      cases h
  | createExists | createRead | createKill =>
      simp only [hcall] at h
      split at h
      all_goals
        cases h
        exact ⟨_, rfl, fileMove_go (fun _ => id) (fun _ => by simp)⟩
  | createRemove =>
      simp only [hcall] at h
      split at h
      · rename_i hfile
        cases h
        refine ⟨_, rfl, .replaced hcall hfile.2 rfl fun i hi => ?_⟩
        have hi' := (claims_iff_owned (fun _ => by simp) i).mp hi
        exact Or.inl hi'
      · cases h
        exact ⟨_, rfl, fileMove_go (fun _ => id) (fun _ => by simp)⟩
  | createNew =>
      simp only [hcall] at h
      split at h
      · cases h
        exact ⟨_, rfl, fileMove_go (fun _ => id) (fun _ => by simp)⟩
      · split at h
        · cases h
          exact ⟨_, rfl, fileMove_go (fun _ => id) (fun _ => by simp)⟩
        · rename_i habsent
          cases h
          refine ⟨_, rfl, .created ?_ s.nextInode rfl fun i hi => ?_⟩
          · rw [named, Option.not_isSome_iff_eq_none.mp habsent]
            rfl
          · rcases hi with hi | hi
            · exact Or.inl (Or.inl hi)
            · exact Or.inr (PidFileCall.createWrite.inj hi).symm
  | createWrite inode =>
      simp only [hcall] at h
      split at h
      · cases h
        exact ⟨_, rfl, fileMove_go (fun _ => id) (fun _ => by simp)⟩
      · cases h
        refine ⟨_, rfl, .kept (named_writeFile s inode _) fun i hi => Or.inr ?_⟩
        have hi' := (claims_iff_owned (fun _ => by simp) i).mp hi
        rw [hcall, Option.some.inj hi']
  | removeExists | removeRead =>
      simp only [hcall] at h
      split at h
      all_goals
        cases h
        exact ⟨_, rfl, fileMove_go (fun _ => by simp) (fun _ => by simp)⟩
  | removeRemove =>
      simp only [hcall] at h
      cases h
      cases fails with
      | true => exact ⟨_, rfl, fileMove_go (fun _ => by simp) (fun _ => by simp)⟩
      | false =>
          refine ⟨_, rfl, .removed hcall rfl rfl fun i hi => ?_⟩
          have hi' := (claims_iff_owned (fun _ => by simp) i).mp hi
          cases hi'

end Advance

/-! ### At most one holder -/

section Keeps

variable {s s' : PidFileSystem}

/-- A process whose claims shrink, with the file as it was, keeps every file in place. -/
theorem HasFile.of_kept (h : s.HasFile) {pid : UInt32} {entry : Option DaemonProcess}
    (hprocesses : s'.processes = Function.update s.processes pid entry)
    (hnamed : s'.named = s.named)
    (hclaims : ∀ p' ∈ entry, ∀ i, p'.Claims i → ∃ p, s.processes pid = some p ∧ p.Claims i) :
    s'.HasFile := by
  intro q proc i hq hclaim
  rw [hnamed]
  rw [hprocesses, Function.update_apply] at hq
  split at hq
  · rename_i heq
    obtain ⟨p, hp, hpi⟩ := hclaims proc hq i hclaim
    rw [heq]
    exact h pid p i hp hpi
  · exact h q proc i hq hclaim

/-- With no file at the path nobody has created one that is not removed, so a new one may be
created. -/
theorem HasFile.not_claims (h : s.HasFile) (habsent : s.named = none) {pid : UInt32}
    {p : DaemonProcess} (hp : s.processes pid = some p) (i : Nat) : ¬ p.Claims i := by
  intro hclaim
  have hnamed := h pid p i hp hclaim
  rw [habsent] at hnamed
  cases hnamed

/-- One system call keeps every file in place, if it spares the owner, by the cases of what it
can do to the file. -/
theorem HasFile.advance (h : s.HasFile) {pid : UInt32} {p : DaemonProcess} {fails : Bool}
    (hp : s.processes pid = some p) (hspares : fails = false → Spares pid s.owner p.call)
    (hstep : s.advance pid p fails = some s') : s'.HasFile := by
  obtain ⟨p', hprocesses, hmove⟩ := advance_cases hstep
  cases hmove with
  | kept hnamed hclaims =>
      refine h.of_kept hprocesses hnamed fun q hq i hi => ⟨p, hp, ?_⟩
      cases hq
      exact hclaims i hi
  | created habsent inode hnamed hclaims =>
      intro q proc i hq hclaim
      rw [hprocesses, Function.update_apply] at hq
      split at hq
      · rename_i heq
        cases hq
        rcases hclaims i hclaim with hold | rfl
        · exact absurd hold (h.not_claims habsent hp i)
        · rw [heq, hnamed]
      · exact absurd hclaim (h.not_claims habsent hq i)
  | replaced hcall hworked hnamed hclaims =>
      -- whoever claims a file owns the one at the path, which has no owner
      have hnone : s.owner = none := by
        have hspare := hspares hworked
        rwa [hcall] at hspare
      intro q proc i hq hclaim
      rw [hprocesses, Function.update_apply] at hq
      split at hq
      · cases hq
        rw [h.owner hp (hclaims i hclaim)] at hnone
        cases hnone
      · rw [h.owner hq hclaim] at hnone
        cases hnone
  | removed hcall hworked hnamed hclaims =>
      have hmine : s.owner = none ∨ s.owner = some pid := by
        have hspare := hspares hworked
        rwa [hcall] at hspare
      intro q proc i hq hclaim
      rw [hprocesses, Function.update_apply] at hq
      split at hq
      · cases hq
        exact absurd hclaim (hclaims i)
      · rename_i hne
        rw [h.owner hq hclaim] at hmine
        rcases hmine with hmine | hmine
        · cases hmine
        · exact absurd (Option.some.inj hmine) hne

theorem HasFile.begin (h : s.HasFile) {pid : UInt32} {call : PidFileCall}
    (hcall : ∀ i, call ≠ .createWrite i) (hstep : s.begin pid call = some s') : s'.HasFile := by
  unfold PidFileSystem.begin at hstep
  split at hstep
  · rename_i p hp
    split at hstep
    · cases hstep
      refine h.of_kept rfl rfl fun q hq i hi => ⟨p, hp, ?_⟩
      cases hq
      have hi' := (claims_iff_owned hcall i).mp hi
      exact Or.inl hi'
    · cases hstep
  · cases hstep

/-- One step, if it spares the owner. -/
theorem HasFile.step (h : s.HasFile) {a : Action} (hspares : s.SparesOwner a)
    (hstep : s.step a = some s') : s'.HasFile := by
  cases a with
  | spawn pid =>
      unfold PidFileSystem.step at hstep
      simp only at hstep
      split at hstep
      · cases hstep
        refine h.of_kept rfl rfl fun q hq i hi => ?_
        cases hq
        rcases hi with hi | hi
        all_goals cases hi
      · cases hstep
  | exit pid =>
      cases hstep
      exact h.of_kept rfl rfl fun q hq => nomatch hq
  | createPidFile pid => exact h.begin (fun _ => by simp) hstep
  | removePidFile pid => exact h.begin (fun _ => by simp) hstep
  | advance pid fails =>
      unfold PidFileSystem.step at hstep
      simp only at hstep
      split at hstep
      · rename_i p hp
        refine h.advance hp (fun hworked => ?_) hstep
        subst hworked
        exact hspares p hp
      · cases hstep

end Keeps

/-- **Single daemon.** For every file at the path to begin with and every interleaving of
calls and exits of any number of processes in which no step removes the file of a live
process that has created it and not removed it, at most one live process is past a
successful `create_pid_file` without a `remove_pid_file`. -/
theorem single_holder (path : String) (file : Option PidFile) (as : List Action)
    (s : PidFileSystem) (hspares : Transition.Meets step SparesOwner (start path file) as)
    (hrun : Transition.run step (start path file) as = some s) (p q : UInt32)
    (hp : s.Holds p) (hq : s.Holds q) : p = q := by
  have hstart : (start path file).HasFile := fun _ _ _ hnone => nomatch hnone
  have hfile : s.HasFile := Transition.run_invariant HasFile
    (fun _ _ _ h hspares hstep => h.step hspares hstep) hstart hspares hrun
  obtain ⟨proc, hproc, howned⟩ := hp
  obtain ⟨i, hi⟩ := Option.isSome_iff_exists.mp howned
  obtain ⟨proc', hproc', howned'⟩ := hq
  obtain ⟨j, hj⟩ := Option.isSome_iff_exists.mp howned'
  have hnamed := hfile p proc i hproc (Or.inl hi)
  rw [hfile q proc' j hproc' (Or.inl hj)] at hnamed
  cases hnamed
  rfl

/-- The file of a process 7 that is gone. -/
def staleFile : PidFile := { inode := 3, creator := 7, text := some ['7', '\n'] }

/-- A call of `create_pid_file` up to the check of the process 7. -/
def findsStale (pid : UInt32) : List Action :=
  [.createPidFile pid, .advance pid false, .advance pid false, .advance pid true]

/-- The rest of the call: `remove_file`, `create_new` and the write. -/
def takesOver (pid : UInt32) : List Action :=
  [.advance pid false, .advance pid false, .advance pid false]

/-- A call of `create_pid_file` that meets a live process or no file. -/
def creates (pid : UInt32) : List Action :=
  [.createPidFile pid, .advance pid false, .advance pid false, .advance pid false]

/-- A call of `remove_pid_file`. -/
def removes (pid : UInt32) : List Action :=
  [.removePidFile pid, .advance pid false, .advance pid false, .advance pid false]

/-- Two daemons, one after the other. -/
def sampleSchedule : List Action :=
  .spawn 100 :: .spawn 200 :: findsStale 100 ++ takesOver 100 ++ creates 200 ++ removes 100 ++
    creates 200

/-- The first daemon takes over a stale file, the second is turned away until the first has
removed its own. -/
theorem single_holder_sampleSchedule :
    ∃ s, Transition.run step (start "/run/extender.pid" (some staleFile)) sampleSchedule =
        some s ∧ s.Holds 200 ∧ ∀ p, s.Holds p → p = 200 := by
  obtain ⟨s, hrun, hholds⟩ := Transition.exists_run_of_any step
    (start "/run/extender.pid" (some staleFile)) sampleSchedule (fun s => s.Holds 200)
    (by decide +kernel)
  exact ⟨s, hrun, hholds, fun p hp =>
    single_holder _ _ sampleSchedule s (by decide +kernel) hrun p 200 hp hholds⟩

/-- Two daemons find the same stale file. The second removes what the first has put in its
place, and both have started. -/
theorem two_holders :
    ¬ ∀ (path : String) (file : Option PidFile) (as : List Action) (s : PidFileSystem),
      Transition.run step (start path file) as = some s →
      ∀ p q, s.Holds p → s.Holds q → p = q := by
  intro hall
  obtain ⟨s, hrun, hfirst, hsecond⟩ := Transition.exists_run_of_any step
    (start "/run/extender.pid" (some staleFile))
    (.spawn 100 :: .spawn 200 :: findsStale 100 ++ findsStale 200 ++ takesOver 100 ++
      takesOver 200)
    (fun s => s.Holds 100 ∧ s.Holds 200) (by decide +kernel)
  exact absurd (hall _ _ _ s hrun 100 200 hfirst hsecond) (by decide)

end PidFileSystem

end Extender.Daemon
