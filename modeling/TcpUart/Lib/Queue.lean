import Mathlib.Data.List.Basic

/-! # Bounded queues
A first-in-first-out queue that never holds more than its capacity: a FreeRTOS queue, a bounded
channel. The bound is part of the type, so an overfull queue cannot be built. A send to a full queue
and a receive from an empty one are not possible; whether the caller waits or fails is up to it.

* `BoundedQueue` — the queue.
* `NumberedQueue` — a queue that numbers what is sent to it. The numbers are ghosts: they say which
  of two items was sent first, also when both have been received. -/

namespace Reactive

/-- A queue of at most `cap` items, the oldest first. -/
structure BoundedQueue (α : Type*) (cap : Nat) where
  /-- The items, the oldest first. -/
  items : List α
  /-- The capacity is kept. -/
  length_le : items.length ≤ cap

namespace BoundedQueue

variable {α : Type*} {cap : Nat} {q q' : BoundedQueue α cap} {a : α}

/-- The empty queue. -/
def empty : BoundedQueue α cap := ⟨[], Nat.zero_le cap⟩

/-- Whether nothing more can be sent. -/
def full (q : BoundedQueue α cap) : Bool := q.items.length = cap

/-- Send to the back of the queue, if there is room. -/
def push (q : BoundedQueue α cap) (a : α) : Option (BoundedQueue α cap) :=
  if h : q.items.length < cap then
    some ⟨q.items ++ [a], by rw [List.length_append]; exact h⟩
  else none

/-- Receive from the front of the queue, if there is anything. -/
def pop : BoundedQueue α cap → Option (α × BoundedQueue α cap)
  | ⟨[], _⟩ => none
  | ⟨a :: rest, h⟩ => some (a, ⟨rest, Nat.le_of_succ_le h⟩)

/-- Sending adds at the back; there was room. -/
theorem items_of_push (h : q.push a = some q') :
    q'.items = q.items ++ [a] ∧ q.items.length < cap := by
  unfold push at h
  split at h
  · rename_i hlt
    cases h
    exact ⟨rfl, hlt⟩
  · cases h

/-- Receiving takes the front. -/
theorem items_of_pop (h : q.pop = some (a, q')) : q.items = a :: q'.items := by
  obtain ⟨items, hle⟩ := q
  cases items with
  | nil => cases h
  | cons b rest =>
      cases h
      rfl

/-- Only an empty queue has nothing to receive. -/
theorem items_of_pop_none (h : q.pop = none) : q.items = [] := by
  obtain ⟨items, hle⟩ := q
  cases items with
  | nil => rfl
  | cons b rest => cases h

/-- A queue that is not full takes another item. -/
theorem exists_push (h : q.items.length < cap) (a : α) :
    ∃ q', q.push a = some q' ∧ q'.items = q.items ++ [a] := by
  refine ⟨⟨q.items ++ [a], by rw [List.length_append]; exact h⟩, ?_, rfl⟩
  rw [push, dif_pos h]

end BoundedQueue

/-- A bounded queue whose items are numbered as they are sent. -/
structure NumberedQueue (α : Type*) (cap : Nat) extends BoundedQueue (Nat × α) cap where
  /-- How many items were sent; the next one gets this number. -/
  sent : Nat
  /-- Older items have smaller numbers. -/
  sorted : (items.map Prod.fst).Pairwise (· < ·)
  /-- Numbers are given when an item is sent. -/
  below : ∀ x ∈ items, x.1 < sent

namespace NumberedQueue

variable {α : Type*} {cap : Nat} {q q' : NumberedQueue α cap} {n : Nat} {a : α}

/-- The queue to which nothing was sent. -/
def empty : NumberedQueue α cap := ⟨BoundedQueue.empty, 0, List.Pairwise.nil, nofun⟩

/-- Send to the back of the queue, if there is room. -/
def push (q : NumberedQueue α cap) (a : α) : Option (NumberedQueue α cap) :=
  if h : q.items.length < cap then
    some {
      items := q.items ++ [(q.sent, a)]
      length_le := by rw [List.length_append]; exact h
      sent := q.sent + 1
      sorted := by
        rw [List.map_append, List.pairwise_append]
        refine ⟨q.sorted, List.pairwise_singleton _ _, ?_⟩
        intro m hm k hk
        obtain ⟨x, hx, rfl⟩ := List.mem_map.mp hm
        obtain rfl := List.mem_singleton.mp hk
        exact q.below x hx
      below := by
        intro x hx
        rcases List.mem_append.mp hx with hx | hx
        · exact Nat.lt_succ_of_lt (q.below x hx)
        · obtain rfl := List.mem_singleton.mp hx
          exact Nat.lt_succ_self _ }
  else none

/-- Receive from the front of the queue, if there is anything. -/
def pop : NumberedQueue α cap → Option ((Nat × α) × NumberedQueue α cap)
  | ⟨⟨[], _⟩, _, _, _⟩ => none
  | ⟨⟨x :: rest, hle⟩, sent, hs, hb⟩ =>
      some (x, ⟨⟨rest, Nat.le_of_succ_le hle⟩, sent, (List.pairwise_cons.mp hs).2,
        fun y hy => hb y (List.mem_cons_of_mem x hy)⟩)

/-- Sending adds at the back, under the next number. -/
theorem items_of_push (h : q.push a = some q') :
    q'.items = q.items ++ [(q.sent, a)] ∧ q'.sent = q.sent + 1 := by
  unfold push at h
  split at h
  · cases h
    exact ⟨rfl, rfl⟩
  · cases h

/-- Receiving takes the front. -/
theorem items_of_pop (h : q.pop = some ((n, a), q')) :
    q.items = (n, a) :: q'.items ∧ q'.sent = q.sent := by
  obtain ⟨⟨items, hle⟩, sent, hs, hb⟩ := q
  cases items with
  | nil => cases h
  | cons x rest =>
      cases h
      exact ⟨rfl, rfl⟩

/-- **What is received later was sent later.** -/
theorem lt_of_pop (h : q.pop = some ((n, a), q')) : n < q.sent ∧ ∀ x ∈ q'.items, n < x.1 := by
  obtain ⟨hitems, -⟩ := items_of_pop h
  constructor
  · refine q.below (n, a) ?_
    rw [hitems]
    exact List.mem_cons_self
  · intro x hx
    have hsorted := q.sorted
    rw [hitems, List.map_cons, List.pairwise_cons] at hsorted
    exact hsorted.1 x.1 (List.mem_map_of_mem hx)

/-- Items sent after the `m`-th stay so when one is received. -/
theorem after_pop {m : Nat} (hm : m < q.sent ∧ ∀ x ∈ q.items, m < x.1)
    (h : q.pop = some ((n, a), q')) : m < q'.sent ∧ ∀ x ∈ q'.items, m < x.1 := by
  obtain ⟨hitems, hsent⟩ := items_of_pop h
  rw [hsent]
  refine ⟨hm.1, ?_⟩
  intro x hx
  apply hm.2
  rw [hitems]
  exact List.mem_cons_of_mem _ hx

/-- An item that is sent is sent after those that were. -/
theorem after_push {m : Nat} (hm : m < q.sent ∧ ∀ x ∈ q.items, m < x.1)
    (h : q.push a = some q') : m < q'.sent ∧ ∀ x ∈ q'.items, m < x.1 := by
  obtain ⟨hitems, hsent⟩ := items_of_push h
  rw [hsent, hitems]
  refine ⟨Nat.lt_succ_of_lt hm.1, ?_⟩
  intro x hx
  rcases List.mem_append.mp hx with hx | hx
  · exact hm.2 x hx
  · obtain rfl := List.mem_singleton.mp hx
    exact hm.1

end NumberedQueue

end Reactive
