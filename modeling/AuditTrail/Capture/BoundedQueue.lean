/-!
# Bounded queues

A queue that holds a limited number of items. Who finds it full is turned away or waits: the items
of those who wait enter in the order of their arrival, as soon as one is taken. A closed queue holds
nothing and takes nothing.
-/

namespace AuditTrail

/-- Why an item does not enter a queue. -/
inductive DispatchError where
  | full
  | closed
  deriving DecidableEq, Repr

/-- The message of a refusal. -/
def DispatchError.message : DispatchError → String
  | full => "audit queue is full"
  | closed => "audit dispatcher is shut down"

/-- A queue of at most `capacity` items. -/
structure BoundedQueue (α : Type) where
  capacity : Nat
  /-- The items in the queue, the oldest first. -/
  items : List α
  /-- The items of those who wait for room, the first to wait first. -/
  waiting : List α
  isOpen : Bool

namespace BoundedQueue

variable {α : Type}

/-- The open queue without items. -/
def empty (capacity : Nat) : BoundedQueue α :=
  ⟨capacity, [], [], true⟩

/-- One more item fits and nobody waits. -/
def hasRoom (queue : BoundedQueue α) : Bool :=
  queue.items.length < queue.capacity && queue.waiting.isEmpty

/-- The number of items that still fit. -/
def free (queue : BoundedQueue α) : Nat :=
  queue.capacity - queue.items.length

/-- The queue with an item, unless it is full or closed. -/
def offer (a : α) (queue : BoundedQueue α) : Except DispatchError (BoundedQueue α) :=
  if !queue.isOpen then .error .closed
  else if queue.hasRoom then .ok { queue with items := queue.items ++ [a] }
  else .error .full

/-- The queue with an item that waits if the queue is full, unless it is closed. -/
def enter (a : α) (queue : BoundedQueue α) : Except DispatchError (BoundedQueue α) :=
  match queue.offer a with
  | .error .full => .ok { queue with waiting := queue.waiting ++ [a] }
  | outcome => outcome

/-- The oldest item and the queue without it, which the first one who waits has entered. -/
def take? (queue : BoundedQueue α) : Option (α × BoundedQueue α) :=
  match queue.items with
  | [] => none
  | a :: items =>
    some (a, { queue with
      items := items ++ queue.waiting.take 1
      waiting := queue.waiting.drop 1 })

/-- The closed queue, whose items are lost. -/
def close (queue : BoundedQueue α) : BoundedQueue α :=
  { queue with items := [], waiting := [], isOpen := false }

/-- Everything that has been accepted or waits, in the order in which it will be taken. -/
def pending (queue : BoundedQueue α) : List α :=
  queue.items ++ queue.waiting

@[simp] theorem pending_empty (capacity : Nat) : (empty capacity : BoundedQueue α).pending = [] :=
  rfl

@[simp] theorem pending_close (queue : BoundedQueue α) : queue.close.pending = [] := rfl

theorem items_offer {a : α} {queue after : BoundedQueue α} (h : queue.offer a = .ok after) :
    after.items = queue.items ++ [a] := by
  unfold offer at h
  split at h
  · cases h
  · split at h <;> cases h
    rfl

theorem length_items_offer {a : α} {queue after : BoundedQueue α} (h : queue.offer a = .ok after) :
    after.items.length ≤ after.capacity := by
  unfold offer at h
  split at h
  · cases h
  · split at h
    next room =>
      cases h
      simp only [hasRoom, Bool.and_eq_true, decide_eq_true_eq] at room
      simp only [List.length_append, List.length_singleton]
      exact room.1
    · cases h

theorem waiting_offer {a : α} {queue after : BoundedQueue α} (h : queue.offer a = .ok after) :
    queue.waiting = [] ∧ after.waiting = [] := by
  unfold offer at h
  split at h
  · cases h
  · split at h
    next room =>
      cases h
      simp only [hasRoom, Bool.and_eq_true, List.isEmpty_iff] at room
      exact ⟨room.2, room.2⟩
    · cases h

theorem pending_offer {a : α} {queue after : BoundedQueue α} (h : queue.offer a = .ok after) :
    after.pending = queue.pending ++ [a] := by
  obtain ⟨before_eq, after_eq⟩ := waiting_offer h
  simp [pending, items_offer h, before_eq, after_eq]

theorem pending_take? {a : α} {queue after : BoundedQueue α} (h : queue.take? = some (a, after)) :
    queue.pending = a :: after.pending := by
  unfold take? at h
  split at h
  · cases h
  next items_eq =>
    cases h
    simp only [pending, items_eq, List.append_assoc, List.take_append_drop, List.cons_append]

end BoundedQueue

end AuditTrail
