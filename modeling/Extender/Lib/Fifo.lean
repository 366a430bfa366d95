/-
Bounded first-in first-out queues, and the ring that implements one.

`Queue` is the abstract queue: a list that never holds more than `capacity` items, the bound
being part of the value. An item is put at the end if there is room, and taken from the front.

What is done to a queue is a list of events: an item accepted, a request refused, an item
taken, or nothing there to take. An item may be more than the request it was made of, as when
the queue hands out numbers; `request` forgets what was added, and `admits` says which
requests a queue takes at all. `Run` is any sequence of operations, and `Run.conservation`
says that what was accepted is what was taken and what is still there, in the same order:
nothing is lost, made up, doubled or overtaken.

A ring keeps the items in an array, from a head index on and around its end. `contents` reads
them off in order, which is the abstraction from a ring to a queue.

* `Run.conservation` — what goes in comes out, first in first out.
* `contents_push`, `contents_pop` — writing behind the last slot, and advancing the head, are
  the two operations of the queue.
-/

import Mathlib.Algebra.Group.Fin.Basic
import Mathlib.Algebra.GroupWithZero.Nat
import Mathlib.Logic.Function.Basic

namespace Fifo

variable {α ρ : Type*} {capacity : Nat}

/-! ### The abstract queue -/

/-- A queue of at most `capacity` items, the next one to be taken first. -/
structure Queue (capacity : Nat) (α : Type*) where
  items : List α
  bounded : items.length ≤ capacity

namespace Queue

def empty : Queue capacity α := { items := [], bounded := Nat.zero_le _ }

/-- An item at the end, if there is room; a full queue takes none. -/
def enqueue (q : Queue capacity α) (a : α) : Option (Queue capacity α) :=
  if h : q.items.length < capacity then
    some { items := q.items ++ [a], bounded := by rw [List.length_append]; exact h }
  else none

/-- The item at the front, and the queue without it; an empty queue has none. -/
def dequeue (q : Queue capacity α) : Option (α × Queue capacity α) :=
  match q with
  | { items := [], .. } => none
  | { items := a :: rest, bounded } => some (a, { items := rest, bounded := Nat.le_of_lt bounded })

theorem enqueue_eq {q : Queue capacity α} (h : q.items.length < capacity) (a : α) :
    ∃ q', q.enqueue a = some q' ∧ q'.items = q.items ++ [a] :=
  ⟨_, dif_pos h, rfl⟩

theorem dequeue_eq {q : Queue capacity α} {a : α} {rest : List α} (h : q.items = a :: rest) :
    ∃ q', q.dequeue = some (a, q') ∧ q'.items = rest := by
  obtain ⟨items, bounded⟩ := q
  cases h
  exact ⟨_, rfl, rfl⟩

theorem dequeue_eq_none {q : Queue capacity α} (h : q.items = []) : q.dequeue = none := by
  obtain ⟨items, bounded⟩ := q
  cases h
  rfl

theorem items_of_enqueue {q q' : Queue capacity α} {a : α} (h : q.enqueue a = some q') :
    q'.items = q.items ++ [a] := by
  unfold enqueue at h
  split at h
  · cases h
    rfl
  · cases h

theorem items_of_dequeue {q q' : Queue capacity α} {a : α} (h : q.dequeue = some (a, q')) :
    q.items = a :: q'.items := by
  unfold dequeue at h
  split at h
  · cases h
  · cases h
    rfl

end Queue

/-- What is seen of one operation. A request that is refused has not become an item. -/
inductive Event (α ρ : Type*) where
  | accepted (a : α)
  | refused (r : ρ)
  | taken (a : α)
  | nothing

/-- The items that were accepted. -/
def accepted : List (Event α ρ) → List α :=
  List.filterMap fun
    | .accepted a => some a
    | _ => none

/-- The items that were taken. -/
def taken : List (Event α ρ) → List α :=
  List.filterMap fun
    | .taken a => some a
    | _ => none

theorem accepted_append (es es' : List (Event α ρ)) :
    accepted (es ++ es') = accepted es ++ accepted es' := List.filterMap_append

theorem taken_append (es es' : List (Event α ρ)) :
    taken (es ++ es') = taken es ++ taken es' := List.filterMap_append

/-- One operation: an item made of an admissible request is accepted if there is room, a
request is refused iff it is not admissible or there is none, the front is taken. -/
inductive Step (admits : ρ → Prop) (request : α → ρ) :
    Queue capacity α → Event α ρ → Queue capacity α → Prop where
  | accept {q q' : Queue capacity α} {a : α} :
      admits (request a) → q.enqueue a = some q' → Step admits request q (.accepted a) q'
  | refuse {q : Queue capacity α} {r : ρ} :
      ¬ admits r ∨ q.items.length = capacity → Step admits request q (.refused r) q
  | take {q q' : Queue capacity α} {a : α} :
      q.dequeue = some (a, q') → Step admits request q (.taken a) q'
  | idle {q : Queue capacity α} : q.dequeue = none → Step admits request q .nothing q

/-- Operations one after the other, each seen as one event. -/
inductive Run (admits : ρ → Prop) (request : α → ρ) :
    Queue capacity α → List (Event α ρ) → Queue capacity α → Prop where
  | nil (q : Queue capacity α) : Run admits request q [] q
  | cons {q q' q'' : Queue capacity α} {e : Event α ρ} {es : List (Event α ρ)} :
      Step admits request q e q' → Run admits request q' es q'' → Run admits request q (e :: es) q''

section Conservation

variable {admits : ρ → Prop} {request : α → ρ} {q q' : Queue capacity α}

theorem Step.conservation {e : Event α ρ} (h : Step admits request q e q') :
    q.items ++ accepted [e] = taken [e] ++ q'.items := by
  cases h with
  | accept _ henqueue => exact (Queue.items_of_enqueue henqueue).symm
  | refuse => exact List.append_nil _
  | take hdequeue => exact (List.append_nil _).trans (Queue.items_of_dequeue hdequeue)
  | idle => exact List.append_nil _

/-- **Conservation.** What was there and what was accepted is what was taken and what is
left, in this order. -/
theorem Run.conservation {es : List (Event α ρ)} (h : Run admits request q es q') :
    q.items ++ accepted es = taken es ++ q'.items := by
  induction h with
  | nil q => exact List.append_nil _
  | @cons q mid q' e es hstep _ ih =>
      rw [← List.singleton_append, accepted_append, taken_append, ← List.append_assoc,
        hstep.conservation, List.append_assoc, ih, List.append_assoc]

end Conservation

/-! ### The ring -/

section Ring

variable {n : Nat} [NeZero n] {slots : Fin n → α} {head : Fin n} {count : Nat}

/-- The slots of a ring from its head on, `count` of them, around the end of the array. -/
def contents (slots : Fin n → α) (head : Fin n) (count : Nat) : List α :=
  (List.range count).map fun k => slots (head + Fin.ofNat n k)

@[simp] theorem length_contents : (contents slots head count).length = count := by
  rw [contents, List.length_map, List.length_range]

/-- Within one round the places are different. -/
theorem place_inj {j k : Nat} (hj : j < n) (hk : k < n)
    (h : head + Fin.ofNat n j = head + Fin.ofNat n k) : j = k := by
  have hval := congrArg Fin.val (add_left_cancel h)
  rwa [Fin.val_ofNat, Fin.val_ofNat, Nat.mod_eq_of_lt hj, Nat.mod_eq_of_lt hk] at hval

theorem place_succ (head : Fin n) (k : Nat) :
    head + Fin.ofNat n (k + 1) = head + 1 + Fin.ofNat n k := by
  have hsucc : Fin.ofNat n (k + 1) = 1 + Fin.ofNat n k := by
    apply Fin.ext
    rw [Fin.val_add, Fin.val_ofNat, Fin.val_ofNat, Fin.val_one', ← Nat.add_mod, Nat.add_comm]
  rw [hsucc, add_assoc]

/-- Writing a slot that is not read changes nothing. -/
theorem contents_update {i : Fin n} (x : α) (h : ∀ k < count, head + Fin.ofNat n k ≠ i) :
    contents (Function.update slots i x) head count = contents slots head count := by
  apply List.map_congr_left
  intro k hk
  exact Function.update_of_ne (h k (List.mem_range.mp hk)) x slots

/-- Writing behind the last slot appends. -/
theorem contents_push (hcount : count < n) (x : α) :
    contents (Function.update slots (head + Fin.ofNat n count) x) head (count + 1) =
      contents slots head count ++ [x] := by
  have hfresh : ∀ k < count, head + Fin.ofNat n k ≠ head + Fin.ofNat n count := by
    intro k hk heq
    exact Nat.ne_of_lt hk (place_inj (Nat.lt_trans hk hcount) hcount heq)
  have hsplit : contents (Function.update slots (head + Fin.ofNat n count) x) head (count + 1) =
      contents (Function.update slots (head + Fin.ofNat n count) x) head count ++ [x] := by
    rw [contents, List.range_succ, List.map_append, List.map_singleton, Function.update_self]
    rfl
  rw [hsplit, contents_update x hfresh]

/-- Advancing the head takes the first slot off, which may then be written. -/
theorem contents_pop (hcount : count < n) (x : α) :
    contents slots head (count + 1) =
      slots head :: contents (Function.update slots head x) (head + 1) count := by
  have hpassed : ∀ k < count, head + 1 + Fin.ofNat n k ≠ head := by
    intro k hk heq
    rw [← place_succ] at heq
    have hzero : head + Fin.ofNat n (k + 1) = head + Fin.ofNat n 0 := by
      rw [heq]
      exact (add_zero head).symm
    exact Nat.succ_ne_zero k
      (place_inj (Nat.lt_of_le_of_lt (Nat.succ_le_of_lt hk) hcount) (Nat.pos_of_neZero n) hzero)
  rw [contents_update x hpassed]
  unfold contents
  rw [List.range_succ_eq_map, List.map_cons, List.map_map]
  congr 1
  · exact congrArg slots (add_zero head)
  · apply List.map_congr_left
    intro k _
    exact congrArg slots (place_succ head k)

end Ring

end Fifo
