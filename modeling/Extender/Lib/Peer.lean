/-
Scripts and a peer that answers them.

A peer answers a request from a state of its own: a device, a server, a file. `Point.outcome`
is the run of a script with nothing between the two: a request is answered where it is
written, and the answer waits to be read. It is what the run of a script over a network is
compared with, where requests and answers are on their way for a while and other parties act
in between.

Two kinds of facts are derived along the text of a script. What it asks (`Asks`): a condition
on every request it can come to write, whatever it is answered, such as that a length stays
within what the other side accepts. And what it returns (`Yields`): against this peer the
script comes to its end with a value, the two states it leaves and the answer that is still
unread. The rules of both are those of the monad, so that a method composed of others inherits
them.

* `Point.outcome` — the peer's state, the script's state and its result at the end.
* `Point.Asks` — every request a script can come to write satisfies a condition.
* `Point.Yields` — a script started with this answer unread returns a value and leaves that
  one; `Yields.outcome` reads off its run.
* `Script.attemptAll` — scripts one after the other, as a caller makes calls that may fail:
  what each of them returned is the result, and pacing is that of the single scripts.
-/

import Extender.Lib.Dialogue

namespace Dialogue

variable {σ ρ π ε ν α β δ : Type}

/-! ### The run of a script -/

/-- Run a script against a peer, given the answer that has not been read yet. There is no
run where an answer would be lost or is missing. -/
def Point.outcome (answer : δ → ρ → π × δ) :
    Point σ ρ π ε α → δ → Option π → Option (δ × σ × Except ε α)
  | .done s result, peer, none => some (peer, s, result)
  | .write _ request next, peer, none =>
      (next true).outcome answer (answer peer request).2 (some (answer peer request).1)
  | .read _ next, peer, some message => (next message).outcome answer peer none
  | .done _ _, _, some _ => none
  | .write _ _ _, _, some _ => none
  | .read _ _, _, none => none

/-! ### What a script asks -/

/-- Every request written from here on satisfies `P`. -/
def Point.Asks (P : ρ → Prop) : Point σ ρ π ε α → Prop
  | .done _ _ => True
  | .write _ request next => P request ∧ ∀ written, (next written).Asks P
  | .read _ next => ∀ message, (next message).Asks P

theorem Point.Asks.andThen {P : ρ → Prop} {p : Point σ ρ π ε α} {f : α → Script σ ρ π ε β}
    (hp : p.Asks P) (hf : ∀ a s, (f a s).Asks P) : (p.andThen f).Asks P := by
  induction p with
  | done s result =>
      cases result with
      | ok a => exact hf a s
      | error e => trivial
  | write s request next ih => exact ⟨hp.1, fun written => ih written (hp.2 written)⟩
  | read s next ih => exact fun message => ih message (hp message)

namespace Script

/-- Every request of a script satisfies `P`, in whatever state it starts. -/
def Asks (P : ρ → Prop) (x : Script σ ρ π ε α) : Prop := ∀ s, (x s).Asks P

namespace Asks

variable {P : ρ → Prop} {x : Script σ ρ π ε α}

theorem pure (a : α) : Asks P (Pure.pure a : Script σ ρ π ε α) := fun _ => trivial

theorem bind {f : α → Script σ ρ π ε β} (hx : Asks P x) (hf : ∀ a, Asks P (f a)) :
    Asks P (x >>= f) :=
  fun s => (hx s).andThen hf

theorem get : Asks P (get : Script σ ρ π ε σ) := fun _ => trivial

theorem modify (f : σ → σ) : Asks P (modify f : Script σ ρ π ε Unit) := fun _ => trivial

theorem throw (e : ε) : Asks P (throw e : Script σ ρ π ε α) := fun _ => trivial

theorem liftExcept (result : Except ε α) : Asks P (liftExcept result : Script σ ρ π ε α) :=
  fun _ => trivial

/-- What comes after a value knows the value. -/
theorem liftExcept_bind {result : Except ε α} {f : α → Script σ ρ π ε β}
    (hf : ∀ a, result = .ok a → Asks P (f a)) : Asks P (Script.liftExcept result >>= f) := by
  intro s
  cases result with
  | ok a => exact hf a rfl s
  | error e => trivial

theorem ite {c : Prop} [Decidable c] {y : Script σ ρ π ε α} (hx : c → Asks P x)
    (hy : ¬ c → Asks P y) : Asks P (if c then x else y) := by
  split
  · exact hx ‹_›
  · exact hy ‹_›

theorem receive : Asks P (receive : Script σ ρ π ε π) := fun _ _ => trivial

theorem request (failed : ε) {advance : σ → σ} {build : σ → ρ} (hbuild : ∀ s, P (build s)) :
    Asks P (fun s => send failed (build s) (advance s) : Script σ ρ π ε Unit) :=
  fun s => ⟨hbuild s, fun _ => trivial⟩

end Asks

end Script

/-! ### Going on after an error -/

/-- The end of a script as a value: an error no longer ends what comes after it. -/
def Point.attempt : Point σ ρ π ε α → Point σ ρ π ε (Except ε α)
  | .done s result => .done s (.ok result)
  | .write s request next => .write s request fun written => (next written).attempt
  | .read s next => .read s fun message => (next message).attempt

theorem Point.Asks.attempt {P : ρ → Prop} {p : Point σ ρ π ε α} (h : p.Asks P) :
    p.attempt.Asks P := by
  induction p with
  | done s result => trivial
  | write s request next ih => exact ⟨h.1, fun written => ih written (h.2 written)⟩
  | read s next ih => exact fun message => ih message (h message)

/-- The numbering with every message accepted: an answer that would have ended a script is
a value of the attempt. -/
def Numbering.lenient (N : Numbering σ ρ π ν) : Numbering σ ρ π ν :=
  { N with accepts := fun _ => True }

theorem Point.Paced.attempt {N : Numbering σ ρ π ν} {phase : Phase} {n : ν}
    {p : Point σ ρ π ε α} (h : p.Paced N .idle phase n) :
    p.attempt.Paced N.lenient .idle phase n := by
  induction p generalizing phase n with
  | done s result =>
      cases result with
      | ok a => exact h
      | error e => exact h
  | write s request next ih =>
      cases phase with
      | idle =>
          obtain ⟨hnumber, hcounter, hdone, hfailed⟩ := h
          exact ⟨hnumber, hcounter, ih true hdone, ih false hfailed⟩
      | awaiting => exact h.elim
  | read s next ih =>
      cases phase with
      | idle => exact h.elim
      | awaiting =>
          exact ⟨h.1, fun message => ⟨ih message (h.2 message).1, fun hrefused =>
            absurd trivial hrefused⟩⟩

namespace Script

/-- Run a script and return how it ended, as the caller of a method that may fail sees it. -/
def attempt (x : Script σ ρ π ε α) : Script σ ρ π ε (Except ε α) := fun s => (x s).attempt

/-- Run scripts one after the other, each however the ones before it ended. -/
def attemptAll : List (Script σ ρ π ε α) → Script σ ρ π ε (List (Except ε α))
  | [] => pure []
  | x :: xs => do
    let result ← x.attempt
    let results ← attemptAll xs
    pure (result :: results)

theorem Asks.attempt {P : ρ → Prop} {x : Script σ ρ π ε α} (hx : Asks P x) :
    Asks P x.attempt :=
  fun s => (hx s).attempt

theorem Paced.attemptAll {N : Numbering σ ρ π ν} {xs : List (Script σ ρ π ε α)}
    (hxs : ∀ x ∈ xs, Paced N .idle .idle x) :
    Paced N.lenient .idle .idle (Script.attemptAll xs) := by
  induction xs with
  | nil => exact .pure _
  | cons x xs ih =>
      refine Paced.bind (fun s => (hxs x List.mem_cons_self s).attempt) fun _ => ?_
      exact (ih fun y hy => hxs y (List.mem_cons_of_mem x hy)).bind fun _ => .pure _

theorem Asks.attemptAll {P : ρ → Prop} {xs : List (Script σ ρ π ε α)}
    (hxs : ∀ x ∈ xs, Asks P x) : Asks P (Script.attemptAll xs) := by
  induction xs with
  | nil => exact .pure _
  | cons x xs ih =>
      refine (hxs x List.mem_cons_self).attempt.bind fun _ => ?_
      exact (ih fun y hy => hxs y (List.mem_cons_of_mem x hy)).bind fun _ => .pure _

end Script

/-! ### Values -/

/-- From here the script returns a value, with these states of script and peer and this answer
unread; there is no way for it to fail. -/
inductive Point.Yields (answer : δ → ρ → π × δ) :
    Point σ ρ π ε α → δ → Option π → σ → δ → Option π → α → Prop where
  | done (s : σ) (peer : δ) (pending : Option π) (a : α) :
      Yields answer (.done s (.ok a)) peer pending s peer pending a
  | write {s s' : σ} {peer peer' : δ} {pending : Option π} {request : ρ}
      {next : Bool → Point σ ρ π ε α} {a : α} :
      Yields answer (next true) (answer peer request).2 (some (answer peer request).1) s' peer'
        pending a →
      Yields answer (.write s request next) peer none s' peer' pending a
  | read {s s' : σ} {peer peer' : δ} {pending : Option π} {message : π}
      {next : π → Point σ ρ π ε α} {a : α} :
      Yields answer (next message) peer none s' peer' pending a →
      Yields answer (.read s next) peer (some message) s' peer' pending a

section Yields

variable {answer : δ → ρ → π × δ} {p : Point σ ρ π ε α} {f : α → Script σ ρ π ε β}
  {s s' : σ} {peer mid peer' : δ} {pending unread pending' : Option π} {a : α} {b : β}

theorem Point.Yields.andThen (hp : p.Yields answer peer pending s mid unread a)
    (hf : (f a s).Yields answer mid unread s' peer' pending' b) :
    (p.andThen f).Yields answer peer pending s' peer' pending' b := by
  induction hp with
  | done => exact hf
  | write _ ih => exact .write (ih hf)
  | read _ ih => exact .read (ih hf)

theorem Point.Yields.attempt (hp : p.Yields answer peer pending s' peer' pending' a) :
    p.attempt.Yields answer peer pending s' peer' pending' (.ok a) := by
  induction hp with
  | done => exact .done _ _ _ _
  | write _ ih => exact .write ih
  | read _ ih => exact .read ih

/-- The run of a script that returns a value with nothing unread. -/
theorem Point.Yields.outcome (hp : p.Yields answer peer pending s' peer' none a) :
    p.outcome answer peer pending = some (peer', s', .ok a) := by
  generalize hnone : (none : Option π) = unread at hp
  induction hp with
  | done =>
      subst hnone
      rfl
  | write _ ih => exact ih hnone
  | read _ ih => exact ih hnone

end Yields

namespace Script

/-- Started in `s`, a script returns a value and leaves `s'`. -/
def Yields (answer : δ → ρ → π × δ) (x : Script σ ρ π ε α) (s : σ) (peer : δ)
    (pending : Option π) (s' : σ) (peer' : δ) (pending' : Option π) (a : α) : Prop :=
  (x s).Yields answer peer pending s' peer' pending' a

namespace Yields

variable {answer : δ → ρ → π × δ} {x : Script σ ρ π ε α} {f : α → Script σ ρ π ε β}
  {s s₁ s' : σ} {peer peer₁ peer' : δ} {pending pending₁ pending' : Option π} {a : α} {b : β}

theorem pure (a : α) :
    Yields answer (Pure.pure a : Script σ ρ π ε α) s peer pending s peer pending a :=
  .done _ _ _ _

theorem bind (hx : Yields answer x s peer pending s₁ peer₁ pending₁ a)
    (hf : Yields answer (f a) s₁ peer₁ pending₁ s' peer' pending' b) :
    Yields answer (x >>= f) s peer pending s' peer' pending' b :=
  Point.Yields.andThen hx hf

theorem attempt (hx : Yields answer x s peer pending s' peer' pending' a) :
    Yields answer x.attempt s peer pending s' peer' pending' (.ok a) :=
  Point.Yields.attempt hx

theorem get : Yields answer (get : Script σ ρ π ε σ) s peer pending s peer pending s :=
  .done _ _ _ _

theorem modify (g : σ → σ) :
    Yields answer (modify g : Script σ ρ π ε Unit) s peer pending (g s) peer pending () :=
  .done _ _ _ _

theorem liftExcept {result : Except ε α} (h : result = .ok a) :
    Yields answer (liftExcept result : Script σ ρ π ε α) s peer pending s peer pending a := by
  subst h
  exact .done _ _ _ _

theorem request (failed : ε) (advance : σ → σ) (build : σ → ρ) :
    Yields answer (fun s => send failed (build s) (advance s) : Script σ ρ π ε Unit) s peer none
      (advance s) (answer peer (build s)).2 (some (answer peer (build s)).1) () :=
  .write (.done _ _ _ _)

theorem receive (message : π) :
    Yields answer (receive : Script σ ρ π ε π) s peer (some message) s peer none message :=
  .read (.done _ _ _ _)

end Yields

end Script

end Dialogue
