/-
Computations that converse with a peer.

A driver that asks a device, a client that asks a server: the computation works on a state of
its own, writes requests and reads messages. Between two of these it runs on without a stop,
and a `Point` is where it waits, with the state as it left it: abandoning the computation
there leaves that state behind and nothing else. A write may fail, and the script is told so.

The monad is a free one, so that a run may be driven from outside, step by step and
interleaved with whatever else a system does; the results here are about the text of a script,
and hold for every such run.

* `Script` — the monad of such computations; an error ends a script.
* `Script.Paced` — every request takes the next number of a counter in the state, its answer
  is read before anything else is written, and an answer that is not accepted ends the script.
  The rules derive it along the text of a script: a script may end with an answer still to be
  read, which the one behind it then has to read.
* `Script.Ends` — a whole conversation, its end and the state it leaves; `ends_bind` takes the
  conversation of a composed script apart. `Script.Opens` and `Script.Silent` say what is
  written first, and that nothing is.

`Script.Paced` is about the order of messages, `Script.Ends` about their content; a claim
about what a method sends is usually one of each.
-/

namespace Dialogue

variable {σ ρ π ε ν α β : Type}

/-! ### Scripts -/

/-- Where a script waits: for nothing any more, for a request to be written, or for a message.
The state is the one that is left behind if nobody goes on from here; a write that failed goes
on with `false`. -/
inductive Point (σ ρ π ε α : Type) where
  | done (s : σ) (result : Except ε α)
  | write (s : σ) (request : ρ) (next : Bool → Point σ ρ π ε α)
  | read (s : σ) (next : π → Point σ ρ π ε α)

namespace Point

/-- The state a script that is abandoned here leaves behind. -/
def state : Point σ ρ π ε α → σ
  | .done s _ => s
  | .write s _ _ => s
  | .read s _ => s

/-- Go on with `f` once there is a value. -/
def andThen (f : α → σ → Point σ ρ π ε β) : Point σ ρ π ε α → Point σ ρ π ε β
  | .done s (.ok a) => f a s
  | .done s (.error e) => .done s (.error e)
  | .write s request next => .write s request fun written => (next written).andThen f
  | .read s next => .read s fun message => (next message).andThen f

/-- The script has ended with an error. -/
def Failed (p : Point σ ρ π ε α) : Prop := ∃ s e, p = .done s (.error e)

theorem Failed.andThen {p : Point σ ρ π ε α} (h : p.Failed) (f : α → σ → Point σ ρ π ε β) :
    (p.andThen f).Failed := by
  obtain ⟨s, e, rfl⟩ := h
  exact ⟨s, e, rfl⟩

end Point

/-- A computation on a state, started in it: up to its first waiting point it has already run. -/
def Script (σ ρ π ε α : Type) : Type := σ → Point σ ρ π ε α

namespace Script

instance : Monad (Script σ ρ π ε) where
  pure a := fun s => .done s (.ok a)
  bind x f := fun s => (x s).andThen f

def get : Script σ ρ π ε σ := fun s => .done s (.ok s)

def modify (f : σ → σ) : Script σ ρ π ε Unit := fun s => .done (f s) (.ok ())

def throw (e : ε) : Script σ ρ π ε α := fun s => .done s (.error e)

def liftExcept (result : Except ε α) : Script σ ρ π ε α := fun s => .done s result

/-- Write a request; a write that fails ends the script with `failed`. -/
def send (failed : ε) (request : ρ) : Script σ ρ π ε Unit := fun s =>
  .write s request fun written => .done s (if written then .ok () else .error failed)

def receive : Script σ ρ π ε π := fun s => .read s fun message => .done s (.ok message)

end Script

/-! ### Pacing -/

/-- How requests are numbered, and which messages are accepted as answers: the counter in the
state, the number a request carries, and what comes after a number. -/
structure Numbering (σ ρ π ν : Type) where
  counter : σ → ν
  number : ρ → ν
  succ : ν → ν
  accepts : π → Prop

/-- Whether an answer is still to be read. -/
inductive Phase where
  | idle
  | awaiting
deriving DecidableEq, Repr

variable {N : Numbering σ ρ π ν}

/-- From here on, with the counter at `n`: requests and answers alternate, the requests are
numbered on from `n`, an answer that is not accepted ends the script, and a value is only
returned in the phase `after`. -/
def Point.Paced (N : Numbering σ ρ π ν) (after : Phase) : Phase → ν → Point σ ρ π ε α → Prop
  | phase, n, .done s (.ok _) => phase = after ∧ N.counter s = n
  | phase, n, .done s (.error _) => phase = .idle ∧ N.counter s = n
  | .idle, n, .write s request next => N.number request = n ∧ N.counter s = N.succ n ∧
      (next true).Paced N after .awaiting (N.succ n) ∧
      (next false).Paced N after .idle (N.succ n)
  | .awaiting, n, .read s next => N.counter s = n ∧ ∀ message,
      (next message).Paced N after .idle n ∧ (¬ N.accepts message → (next message).Failed)
  | .awaiting, _, .write _ _ _ => False
  | .idle, _, .read _ _ => False

/-- A script that ends with nothing to be read and waits for an answer is about to read it. -/
theorem Point.Paced.exists_read {n : ν} {p : Point σ ρ π ε α}
    (h : p.Paced N .idle .awaiting n) : ∃ s next, p = .read s next ∧ N.counter s = n := by
  cases p with
  | done s result =>
      cases result with
      | ok a => cases h.1
      | error e => cases h.1
  | write s request next => exact h.elim
  | read s next => exact ⟨s, next, rfl, h.1⟩

theorem Point.Paced.andThen {mid after phase : Phase} {n : ν} {p : Point σ ρ π ε α}
    {f : α → Script σ ρ π ε β} (hp : p.Paced N mid phase n)
    (hf : ∀ a s, (f a s).Paced N after mid (N.counter s)) :
    (p.andThen f).Paced N after phase n := by
  induction p generalizing phase n with
  | done s result =>
      cases result with
      | ok a =>
          obtain ⟨rfl, rfl⟩ := hp
          exact hf a s
      | error e => exact hp
  | write s request next ih =>
      cases phase with
      | idle =>
          obtain ⟨hnumber, hcounter, hdone, hfailed⟩ := hp
          exact ⟨hnumber, hcounter, ih true hdone, ih false hfailed⟩
      | awaiting => exact hp.elim
  | read s next ih =>
      cases phase with
      | idle => exact hp.elim
      | awaiting =>
          refine ⟨hp.1, fun message => ⟨ih message (hp.2 message).1, fun hrefused => ?_⟩⟩
          exact ((hp.2 message).2 hrefused).andThen f

namespace Script

/-- Started in the phase `before`, a script is paced and ends in the phase `after`. -/
def Paced (N : Numbering σ ρ π ν) (before after : Phase) (x : Script σ ρ π ε α) : Prop :=
  ∀ s, (x s).Paced N after before (N.counter s)

namespace Paced

variable {before mid after : Phase} {x : Script σ ρ π ε α}

theorem pure (a : α) : Paced N before before (Pure.pure a : Script σ ρ π ε α) :=
  fun _ => ⟨rfl, rfl⟩

theorem bind {f : α → Script σ ρ π ε β} (hx : Paced N before mid x)
    (hf : ∀ a, Paced N mid after (f a)) : Paced N before after (x >>= f) :=
  fun s => (hx s).andThen hf

theorem get : Paced N before before (get : Script σ ρ π ε σ) := fun _ => ⟨rfl, rfl⟩

theorem modify {f : σ → σ} (hf : ∀ s, N.counter (f s) = N.counter s) :
    Paced N before before (modify f : Script σ ρ π ε Unit) :=
  fun s => ⟨rfl, hf s⟩

theorem throw (e : ε) : Paced N .idle after (throw e : Script σ ρ π ε α) :=
  fun _ => ⟨rfl, rfl⟩

theorem liftExcept (result : Except ε α) :
    Paced N .idle .idle (liftExcept result : Script σ ρ π ε α) := by
  intro s
  cases result with
  | ok a => exact ⟨rfl, rfl⟩
  | error e => exact ⟨rfl, rfl⟩

theorem ite {c : Prop} [Decidable c] {y : Script σ ρ π ε α} (hx : c → Paced N before after x)
    (hy : ¬ c → Paced N before after y) : Paced N before after (if c then x else y) := by
  split
  · exact hx ‹_›
  · exact hy ‹_›

/-- A request built from the state under the number it takes. -/
theorem request (failed : ε) {advance : σ → σ} {build : σ → ρ}
    (hadvance : ∀ s, N.counter (advance s) = N.succ (N.counter s))
    (hbuild : ∀ s, N.number (build s) = N.counter s) :
    Paced N .idle .awaiting
      (fun s => send failed (build s) (advance s) : Script σ ρ π ε Unit) :=
  fun s => ⟨hbuild s, hadvance s, ⟨rfl, hadvance s⟩, rfl, hadvance s⟩

/-- The answer is read and judged at once: what is not accepted fails. -/
theorem answer {f : π → Script σ ρ π ε α} (hf : ∀ message, Paced N .idle after (f message))
    (hrefused : ∀ message, ¬ N.accepts message → ∀ s, (f message s).Failed) :
    Paced N .awaiting after (receive >>= f) :=
  fun s => ⟨rfl, fun message => ⟨hf message s, fun h => hrefused message h s⟩⟩

end Paced

end Script

/-! ### Conversations -/

/-- What is said at a waiting point: a request is written, or the write fails; a message
arrives. A conversation is a list of these. -/
inductive Event (ρ π : Type) where
  | wrote (request : ρ) (ok : Bool)
  | got (message : π)
deriving DecidableEq, Repr

/-- The requests of a conversation, those whose write failed included. -/
def requests : List (Event ρ π) → List ρ
  | [] => []
  | .wrote request _ :: conversation => request :: requests conversation
  | .got _ :: conversation => requests conversation

/-- The messages of a conversation. -/
def messages : List (Event ρ π) → List π
  | [] => []
  | .wrote _ _ :: conversation => messages conversation
  | .got message :: conversation => message :: messages conversation

theorem requests_append (a b : List (Event ρ π)) :
    requests (a ++ b) = requests a ++ requests b := by
  induction a with
  | nil => rfl
  | cons event a ih =>
      cases event with
      | wrote request ok => simp only [List.cons_append, requests, ih]
      | got message => simp only [List.cons_append, requests, ih]

/-- From this point the conversation takes the script to its end. -/
def Point.Ends : Point σ ρ π ε α → List (Event ρ π) → σ → Except ε α → Prop
  | .done s result, conversation, s', result' => conversation = [] ∧ s' = s ∧ result' = result
  | .write _ request next, conversation, s', result' => ∃ ok rest,
      conversation = .wrote request ok :: rest ∧ (next ok).Ends rest s' result'
  | .read _ next, conversation, s', result' => ∃ message rest,
      conversation = .got message :: rest ∧ (next message).Ends rest s' result'

/-- A conversation of a composed script is one of the first that fails, or one of the first
that yields a value and then one of the second. -/
theorem Point.ends_andThen (p : Point σ ρ π ε α) (f : α → σ → Point σ ρ π ε β)
    (conversation : List (Event ρ π)) (s' : σ) (result : Except ε β) :
    (p.andThen f).Ends conversation s' result ↔
      (∃ e, p.Ends conversation s' (.error e) ∧ result = .error e) ∨
      ∃ first rest a s, conversation = first ++ rest ∧ p.Ends first s (.ok a) ∧
        (f a s).Ends rest s' result := by
  induction p generalizing conversation with
  | done s outcome =>
      cases outcome with
      | ok a =>
          simp only [Point.andThen, Point.Ends]
          constructor
          · intro h
            exact Or.inr ⟨[], conversation, a, s, rfl, ⟨rfl, rfl, rfl⟩, h⟩
          · rintro (⟨e, ⟨-, -, he⟩, -⟩ | ⟨first, rest, a', s₁, rfl, ⟨rfl, rfl, ha⟩, h⟩)
            · cases he
            · cases ha
              exact h
      | error e =>
          simp only [Point.andThen, Point.Ends]
          constructor
          · rintro ⟨rfl, rfl, rfl⟩
            exact Or.inl ⟨e, ⟨rfl, rfl, rfl⟩, rfl⟩
          · rintro (⟨e', ⟨rfl, rfl, he⟩, rfl⟩ | ⟨first, rest, a', s₁, -, ⟨-, -, ha⟩, -⟩)
            · cases he
              exact ⟨rfl, rfl, rfl⟩
            · cases ha
  | write s request next ih =>
      simp only [Point.andThen, Point.Ends]
      constructor
      · rintro ⟨ok, tail, rfl, h⟩
        rcases (ih ok tail).mp h with ⟨e, he, rfl⟩ | ⟨first, rest, a, s₁, rfl, ha, h⟩
        · exact Or.inl ⟨e, ⟨ok, tail, rfl, he⟩, rfl⟩
        · exact Or.inr ⟨.wrote request ok :: first, rest, a, s₁, rfl, ⟨ok, first, rfl, ha⟩, h⟩
      · rintro (⟨e, ⟨ok, tail, rfl, he⟩, rfl⟩ | ⟨_, rest, a, s₁, rfl, ⟨ok, first, rfl, ha⟩, h⟩)
        · exact ⟨ok, tail, rfl, (ih ok tail).mpr (Or.inl ⟨e, he, rfl⟩)⟩
        · exact ⟨ok, first ++ rest, rfl,
            (ih ok _).mpr (Or.inr ⟨first, rest, a, s₁, rfl, ha, h⟩)⟩
  | read s next ih =>
      simp only [Point.andThen, Point.Ends]
      constructor
      · rintro ⟨message, tail, rfl, h⟩
        rcases (ih message tail).mp h with ⟨e, he, rfl⟩ | ⟨first, rest, a, s₁, rfl, ha, h⟩
        · exact Or.inl ⟨e, ⟨message, tail, rfl, he⟩, rfl⟩
        · exact Or.inr ⟨.got message :: first, rest, a, s₁, rfl, ⟨message, first, rfl, ha⟩, h⟩
      · rintro (⟨e, ⟨message, tail, rfl, he⟩, rfl⟩ |
          ⟨_, rest, a, s₁, rfl, ⟨message, first, rfl, ha⟩, h⟩)
        · exact ⟨message, tail, rfl, (ih message tail).mpr (Or.inl ⟨e, he, rfl⟩)⟩
        · exact ⟨message, first ++ rest, rfl,
            (ih message _).mpr (Or.inr ⟨first, rest, a, s₁, rfl, ha, h⟩)⟩

namespace Script

/-- Started in `s`, the script ends after the conversation, in `s'` and with `result`. Writes
that failed are part of the conversation. -/
def Ends (x : Script σ ρ π ε α) (s : σ) (conversation : List (Event ρ π)) (s' : σ)
    (result : Except ε α) : Prop :=
  (x s).Ends conversation s' result

variable {x : Script σ ρ π ε α} {f : α → Script σ ρ π ε β} {s s' : σ}
  {conversation : List (Event ρ π)}

theorem ends_bind {result : Except ε β} :
    (x >>= f).Ends s conversation s' result ↔
      (∃ e, x.Ends s conversation s' (.error e) ∧ result = .error e) ∨
      ∃ first rest a s₁, conversation = first ++ rest ∧ x.Ends s first s₁ (.ok a) ∧
        (f a).Ends s₁ rest s' result :=
  Point.ends_andThen (x s) f conversation s' result

theorem ends_bind_ok {b : β} :
    (x >>= f).Ends s conversation s' (.ok b) ↔
      ∃ first rest a s₁, conversation = first ++ rest ∧ x.Ends s first s₁ (.ok a) ∧
        (f a).Ends s₁ rest s' (.ok b) := by
  rw [ends_bind]
  constructor
  · rintro (⟨e, -, he⟩ | h)
    · cases he
    · exact h
  · exact Or.inr

theorem ends_send {failed : ε} {request : ρ} {result : Except ε Unit} :
    (send failed request : Script σ ρ π ε Unit).Ends s conversation s' result ↔
      ∃ ok, conversation = [.wrote request ok] ∧ s' = s ∧
        result = if ok then .ok () else .error failed := by
  constructor
  · rintro ⟨ok, rest, rfl, rfl, rfl, rfl⟩
    exact ⟨ok, rfl, rfl, rfl⟩
  · rintro ⟨ok, rfl, rfl, rfl⟩
    exact ⟨ok, [], rfl, rfl, rfl, rfl⟩

/-- Whatever comes after, the script begins by writing `request`. -/
def Opens (x : Script σ ρ π ε α) (s : σ) (request : ρ) : Prop :=
  ∀ conversation s' result, x.Ends s conversation s' result →
    ∃ ok rest, conversation = .wrote request ok :: rest

theorem Opens.bind {request : ρ} (hx : x.Opens s request) : (x >>= f).Opens s request := by
  intro conversation s' result h
  rcases ends_bind.mp h with ⟨e, he, -⟩ | ⟨first, rest, a, s₁, rfl, hfirst, -⟩
  · exact hx _ _ _ he
  · obtain ⟨ok, tail, rfl⟩ := hx _ _ _ hfirst
    exact ⟨ok, tail ++ rest, rfl⟩

/-- The script writes nothing. -/
def Silent (x : Script σ ρ π ε α) : Prop :=
  ∀ s conversation s' result, x.Ends s conversation s' result → requests conversation = []

theorem Silent.pure (a : α) : (Pure.pure a : Script σ ρ π ε α).Silent := by
  rintro s conversation s' result ⟨rfl, -⟩
  rfl

theorem Silent.bind (hx : x.Silent) (hf : ∀ a, (f a).Silent) : (x >>= f).Silent := by
  intro s conversation s' result h
  rcases ends_bind.mp h with ⟨e, he, -⟩ | ⟨first, rest, a, s₁, rfl, hfirst, hrest⟩
  · exact hx _ _ _ _ he
  · rw [requests_append, hx _ _ _ _ hfirst, hf a _ _ _ _ hrest]
    rfl

end Script

end Dialogue
