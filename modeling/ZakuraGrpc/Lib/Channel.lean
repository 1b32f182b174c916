import Mathlib

/-!
# Bounded channels

A queue of at most `capacity` messages between one sender and one receiver.
What the receiver took is kept, so that everything ever sent can be read off a
state (`Channel.sent`): the queue is first in, first out, and loses nothing while
the receiver is there.
-/

/-- The queue, what was taken from it, and whether the receiver is there. -/
structure Channel (α : Type*) where
  capacity : Nat
  queue : List α := []
  taken : List α := []
  isOpen : Bool := true
  bounded : queue.length ≤ capacity

namespace Channel

variable {α : Type*} {channel channel' : Channel α} {message : α}

def new (capacity : Nat) : Channel α := { capacity := capacity, bounded := Nat.zero_le _ }

/-- Everything sent, in order. -/
def sent (channel : Channel α) : List α := channel.taken ++ channel.queue

/-- The answer to an attempt to send. -/
inductive TrySend (α : Type*) where
  | sent (channel : Channel α)
  | full
  | closed

def trySend (channel : Channel α) (message : α) : TrySend α :=
  if channel.isOpen then
    if hroom : channel.queue.length < channel.capacity then
      .sent { channel with queue := channel.queue ++ [message], bounded := by simpa using hroom }
    else .full
  else .closed

/-- The receiver takes the oldest message. -/
def take (channel : Channel α) : Option (Channel α) :=
  if channel.isOpen then
    match h : channel.queue with
    | [] => none
    | message :: queue => some
      { channel with
        queue := queue
        taken := channel.taken ++ [message]
        bounded := by
          have hbounded := channel.bounded
          rw [h] at hbounded
          exact Nat.le_of_succ_le hbounded }
  else none

/-- The receiver takes all there is. -/
def drain (channel : Channel α) : Channel α :=
  { channel with queue := [], taken := channel.sent, bounded := Nat.zero_le _ }

/-- The receiver goes away. -/
def close (channel : Channel α) : Channel α := { channel with isOpen := false }

@[simp] theorem sent_new (capacity : Nat) : (new capacity : Channel α).sent = [] := rfl

@[simp] theorem isOpen_new (capacity : Nat) : (new capacity : Channel α).isOpen = true := rfl

@[simp] theorem sent_close (channel : Channel α) : channel.close.sent = channel.sent := rfl

@[simp] theorem isOpen_close (channel : Channel α) : channel.close.isOpen = false := rfl

theorem trySend_sent (h : channel.trySend message = .sent channel') :
    channel.isOpen = true ∧ channel.queue.length < channel.capacity ∧
      channel'.sent = channel.sent ++ [message] ∧ channel'.isOpen = true ∧
      channel'.taken = channel.taken ∧ channel'.capacity = channel.capacity := by
  unfold trySend at h
  split at h
  · rename_i hopen
    split at h
    · rename_i hroom
      cases h
      exact ⟨hopen, hroom, (List.append_assoc _ _ _).symm, hopen, rfl, rfl⟩
    · cases h
  · cases h

theorem trySend_closed : channel.trySend message = .closed ↔ channel.isOpen = false := by
  unfold trySend
  cases channel.isOpen with
  | false => simp
  | true =>
    rw [if_pos rfl]
    split <;> simp

/-- A message fits, or the queue is full, or nobody receives. -/
theorem trySend_of_room (hopen : channel.isOpen = true)
    (hroom : channel.queue.length < channel.capacity) :
    ∃ channel', channel.trySend message = .sent channel' := by
  unfold trySend
  rw [if_pos hopen, dif_pos hroom]
  exact ⟨_, rfl⟩

theorem take_some (h : channel.take = some channel') :
    channel.isOpen = true ∧ channel'.isOpen = true ∧ channel'.sent = channel.sent ∧
      channel'.capacity = channel.capacity ∧ ∃ message, channel.queue = message :: channel'.queue ∧
        channel'.taken = channel.taken ++ [message] := by
  unfold take at h
  split at h
  · rename_i hopen
    split at h
    · cases h
    · rename_i message queue hqueue
      cases h
      refine ⟨hopen, hopen, ?_, rfl, message, hqueue, rfl⟩
      show (channel.taken ++ [message]) ++ queue = channel.taken ++ channel.queue
      rw [hqueue, List.append_assoc]
      rfl
  · cases h

theorem take_isSome (hopen : channel.isOpen = true) (hqueue : channel.queue ≠ []) :
    ∃ channel', channel.take = some channel' := by
  unfold take
  rw [if_pos hopen]
  split
  · rename_i hnil
    exact absurd hnil hqueue
  · exact ⟨_, rfl⟩

/-- What is drained in the end does not depend on what was taken before. -/
theorem take_drain (h : channel.take = some channel') : channel'.drain = channel.drain := by
  obtain ⟨hopen, hopen', hsent, hcapacity, -⟩ := take_some h
  simp only [drain, mk.injEq]
  exact ⟨hcapacity, trivial, hsent, hopen'.trans hopen.symm⟩

theorem drain_of_empty (h : channel.queue = []) : channel.drain = channel := by
  obtain ⟨capacity, queue, taken, isOpen, bounded⟩ := channel
  cases h
  simp only [drain, sent, List.append_nil]

@[simp] theorem sent_drain (channel : Channel α) : channel.drain.sent = channel.sent :=
  List.append_nil _

end Channel
