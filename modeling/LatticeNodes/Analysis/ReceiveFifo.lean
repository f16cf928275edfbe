import LatticeNodes.Analysis.ReceiveQueue

/-!
# The receive ring under interleaving

The callback runs in the WiFi task, the drain loop in the main task.  The loop takes an entry by
reference and moves the tail before it reads it, so the callback may run at any time between.
Each step of the two is a step of the ring between one producer and one consumer
(`ringState`), whose invariant gives `receive_fifo`.
-/

set_option autoImplicit false

namespace LatticeNodes.Analysis

open LatticeNodes.Program TransitionSystem SpscRing

namespace ReceiveFifo

/-- The node and what has happened to its queue: `inUse` is the slot of the entry that is being
handled, `accepted` what the callback stored, `handled` the entries that were taken, `reads`
what the handlers read, with the number of the handling. -/
structure State where
  mesh : Mesh
  inUse : Option (Fin recvQueueSize)
  accepted : List RecvQueueEntry
  handled : List RecvQueueEntry
  reads : List (ℕ × RecvQueueEntry)

inductive Event where
  /-- The WiFi task delivers a frame of `len` bytes. -/
  | callback (srcMac : MacAddress) (len : ℕ) (msg : MeshMessage)
  /-- The loop takes the entry at the tail and moves the tail. -/
  | take
  /-- The handler reads the entry. -/
  | read
  | finish
  /-- Whatever else the handlers and the loop do. -/
  | work (m' : Mesh)

/-- The callback leaves the queue as it is.
SOURCE: Mesh.cpp:548-555 -/
def Drops (m : Mesh) (srcMac : MacAddress) (len : ℕ) (msg : MeshMessage) : Prop :=
  (m.onDataRecvCallback srcMac len msg).recvQueue.head = m.recvQueue.head

instance (m : Mesh) (srcMac : MacAddress) (len : ℕ) (msg : MeshMessage) :
    Decidable (Drops m srcMac len msg) :=
  inferInstanceAs (Decidable (_ = _))

def step (s : State) : Event → Option State
  | .callback srcMac len msg =>
      some { s with
        mesh := s.mesh.onDataRecvCallback srcMac len msg
        accepted :=
          if Drops s.mesh srcMac len msg then s.accepted else s.accepted ++ [⟨srcMac, msg⟩] }
  | .take =>
      if s.inUse = none ∧ s.mesh.recvQueue.tail ≠ s.mesh.recvQueue.head then
        some { s with
          mesh := taken s.mesh
          inUse := some s.mesh.recvQueue.tail
          handled := s.handled ++ [current s.mesh] }
      else none
  | .read =>
      match s.inUse with
      | none => none
      | some i =>
          some { s with
            reads := s.reads ++ [(s.handled.length - 1, s.mesh.recvQueue.slots[i])] }
  | .finish => some { s with inUse := none }
  | .work m' =>
      if m'.recvQueue = s.mesh.recvQueue then some { s with mesh := m' } else none

/-- The empty ring. -/
structure Start (s : State) : Prop where
  empty : s.mesh.recvQueue.tail = s.mesh.recvQueue.head
  inUse : s.inUse = none
  accepted : s.accepted = []
  handled : s.handled = []
  reads : s.reads = []

def system : System State Event where
  Init := Start
  step := step

/-! ## The ring behind it -/

def ringState (s : State) : SpscRing.State RecvQueueEntry recvQueueSize :=
  ⟨ringOf s.mesh.recvQueue, s.inUse, s.accepted, s.handled, s.reads⟩

/-- The next index is another one. -/
theorem ne_succ_index (i : Fin recvQueueSize) : i + 1 ≠ i := by
  revert i
  decide

/-- A whole message is dropped exactly when seven are waiting.
SOURCE: Mesh.cpp:551-555 -/
theorem drops_iff {m : Mesh} {srcMac : MacAddress} {len : ℕ} {msg : MeshMessage}
    (hlen : Mesh.meshMessageSize ≤ len) :
    Drops m srcMac len msg ↔ (queued m.recvQueue).length = 7 := by
  have hcount : (queued m.recvQueue).length = 7 ↔
      (ringOf m.recvQueue).push ⟨srcMac, msg⟩ = none := by
    rw [Ring.push_eq_none_iff, queued, Ring.length_view]
    show _ ↔ _ = 8
    omega
  rw [Drops, onDataRecvCallback_push m srcMac msg hlen, hcount]
  cases hpush : (ringOf m.recvQueue).push ⟨srcMac, msg⟩ with
  | none => simp
  | some r =>
      have hhead : r.head = m.recvQueue.head + 1 := by
        unfold Ring.push at hpush
        split at hpush
        · cases hpush
        · cases hpush
          rfl
      simp only [hhead, reduceCtorEq, iff_false]
      exact ne_succ_index m.recvQueue.head

/-- **Every step is a step of the ring, or none at all.** -/
theorem step_ring {s s' : State} {e : Event} (hstep : system.step s e = some s') :
    ringState s' = ringState s ∨
      ∃ d, SpscRing.step (ringState s) d = some (ringState s') := by
  cases e with
  | callback srcMac len msg =>
      cases hstep
      by_cases hlen : Mesh.meshMessageSize ≤ len
      · right
        refine ⟨.push ⟨srcMac, msg⟩, ?_⟩
        have hdrops := @drops_iff s.mesh srcMac len msg hlen
        have hpush := onDataRecvCallback_push s.mesh srcMac msg hlen
        simp only [ringState, SpscRing.step, hpush]
        cases hring : (ringOf s.mesh.recvQueue).push ⟨srcMac, msg⟩ with
        | none =>
            rw [hring] at hpush
            have hdropped : Drops s.mesh srcMac len msg := by
              rw [Drops, hpush]
            simp only [hdropped, if_true]
        | some r =>
            have hroom : ¬Drops s.mesh srcMac len msg := by
              rw [hdrops, queued, Ring.length_view]
              intro hseven
              have hnone : (ringOf s.mesh.recvQueue).push ⟨srcMac, msg⟩ = none :=
                Ring.push_eq_none_iff.mpr (by rw [hseven])
              rw [hring] at hnone
              cases hnone
            simp only [hroom, if_false]
            rfl
      · left
        have hshort := onDataRecvCallback_short s.mesh srcMac msg (Nat.lt_of_not_le hlen)
        have hdropped : Drops s.mesh srcMac len msg := by
          rw [Drops, hshort]
        simp only [ringState, hshort, hdropped, if_true]
  | take =>
      change step s .take = some s' at hstep
      simp only [ReceiveFifo.step, Option.ite_none_right_eq_some, Option.some.injEq] at hstep
      obtain ⟨hidle, rfl⟩ := hstep
      exact .inr ⟨.take, if_pos hidle⟩
  | read =>
      right
      change step s .read = some s' at hstep
      simp only [ReceiveFifo.step] at hstep
      split at hstep
      · cases hstep
      · next i hi =>
        cases hstep
        refine ⟨.read, ?_⟩
        simp only [SpscRing.step, ringState, hi]
        rfl
  | finish =>
      cases hstep
      exact .inr ⟨.release, rfl⟩
  | work m' =>
      left
      change step s (.work m') = some s' at hstep
      simp only [ReceiveFifo.step, Option.ite_none_right_eq_some, Option.some.injEq] at hstep
      obtain ⟨hqueue, rfl⟩ := hstep
      simp only [ringState, hqueue]

/-- The queue is the library's ring in every reachable state. -/
theorem consistent_of_reachable {s : State} (h : system.Reachable s) :
    Consistent (ringState s) := by
  apply SpscRing.consistent_of_reachable
  refine h.simulate ringState ?_ fun s e s' hstep => step_ring hstep
  intro s hs
  exact ⟨hs.empty, hs.inUse, hs.accepted, hs.handled, hs.reads⟩

/-! ## Result -/

/-- The receive queue is a queue between the two tasks.
SOURCE: Mesh.cpp:544-604, Mesh.h:201-213 -/
structure Fifo (s : State) : Prop where
  /-- The entries handled so far and the waiting ones are the accepted frames, each once and
  in order of arrival. -/
  order : s.handled ++ queued s.mesh.recvQueue = s.accepted
  /-- Every read of handling `k` has returned accepted frame `k`. -/
  reads : ∀ k entry, (k, entry) ∈ s.reads → s.accepted[k]? = some entry
  /-- So would a read of the entry that is being handled. -/
  inUse : ∀ i, s.inUse = some i →
    s.accepted[s.handled.length - 1]? = some s.mesh.recvQueue.slots[i]
  /-- A whole message is dropped exactly when seven are waiting. -/
  drops : ∀ srcMac len msg, Mesh.meshMessageSize ≤ len →
    (Drops s.mesh srcMac len msg ↔ (queued s.mesh.recvQueue).length = 7)
  head : s.mesh.recvQueue.head.val < recvQueueSize
  tail : s.mesh.recvQueue.tail.val < recvQueueSize

/-- **Every interleaving of the callback with the drain loop keeps the receive queue in
order.** -/
theorem receive_fifo {s : State} (h : system.Reachable s) : Fifo s := by
  obtain ⟨hfifo, hheld, hreads⟩ := consistent_of_reachable h
  have hhandled : ∀ (k : ℕ) (entry : RecvQueueEntry), s.handled[k]? = some entry →
      s.accepted[k]? = some entry := by
    intro k entry hk
    have hsplit : s.accepted = s.handled ++ queued s.mesh.recvQueue := hfifo.symm
    obtain ⟨hlt, -⟩ := List.getElem?_eq_some_iff.mp hk
    rw [hsplit, List.getElem?_append_left hlt, hk]
  refine ⟨hfifo, fun k entry hmem => hhandled k entry (hreads k entry hmem), fun i hi => ?_,
    fun srcMac len msg hlen => drops_iff hlen, s.mesh.recvQueue.head.isLt,
    s.mesh.recvQueue.tail.isLt⟩
  apply hhandled
  rw [← List.getLast?_eq_getElem?]
  exact (hheld i hi).2

def idle : State := ⟨Mesh.new, none, [], [], []⟩

/-- An idle node is a start. -/
theorem start_idle : Start idle :=
  ⟨rfl, rfl, rfl, rfl, rfl⟩

/-- A second frame arrives between the taking of the first one and its reading. -/
theorem receive_fifo_between :
    ∃ s entry, system.Reachable s ∧ s.reads = [(0, entry)] ∧ s.accepted.length = 2 ∧ Fifo s := by
  have hrun : ∃ s entry, system.runFrom idle
      [.callback zeroMac 127 MeshMessage.zero, .take,
        .callback broadcastMac 127 MeshMessage.zero, .read] = some s ∧
      s.reads = [(0, entry)] ∧ s.accepted.length = 2 :=
    ⟨_, _, rfl, rfl, rfl⟩
  obtain ⟨s, entry, hrun, hreads, hcount⟩ := hrun
  have hreach := System.Reachable.runFrom (.init start_idle) hrun
  exact ⟨s, entry, hreach, hreads, hcount, receive_fifo hreach⟩

end ReceiveFifo

end LatticeNodes.Analysis
