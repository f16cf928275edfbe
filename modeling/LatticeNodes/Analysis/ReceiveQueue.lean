import LatticeNodes.Analysis.MeshFrames
import LatticeNodes.Library.SpscRing

/-!
# The receive queue as a list

The receive queue is a ring between the callback and the drain loop (`ringOf`), and a list of
waiting entries (`queued`): the callback appends to the list, and the loop takes entries from
its front.  `taken` is the object after one entry was taken out and before it is handled,
`current` that entry.  `drainRecvQueue_rule` is the induction over the entries a drain handles.
-/

set_option autoImplicit false

namespace LatticeNodes.Analysis

open LatticeNodes.Program SpscRing

/-! ## The ring -/

/-- SOURCE: Mesh.h:209-211 -/
def ringOf (q : RecvQueue) : Ring RecvQueueEntry recvQueueSize :=
  ⟨q.slots, q.head, q.tail⟩

/-- The waiting entries, the oldest first. -/
def queued (q : RecvQueue) : List RecvQueueEntry := (ringOf q).view

/-- The index arithmetic of the source.
SOURCE: Mesh.cpp:551, 567 -/
theorem val_succ_index (i : Fin recvQueueSize) : (i + 1).val = (i.val + 1) % recvQueueSize := by
  rw [Fin.val_add]
  rfl

/-- A frame that holds a whole message is pushed.
SOURCE: Mesh.cpp:544-561 -/
theorem onDataRecvCallback_push (m : Mesh) (srcMac : MacAddress) {len : ℕ} (msg : MeshMessage)
    (hlen : Mesh.meshMessageSize ≤ len) :
    m.onDataRecvCallback srcMac len msg = match (ringOf m.recvQueue).push ⟨srcMac, msg⟩ with
      | none => m
      | some r => { m with recvQueue := ⟨r.slots, r.head, r.tail⟩ } := by
  have hlong : ¬len < Mesh.meshMessageSize := Nat.not_lt.mpr hlen
  rw [Mesh.onDataRecvCallback, if_neg hlong, Ring.push]
  by_cases hfull : m.recvQueue.head + 1 = m.recvQueue.tail
  · have hring : (ringOf m.recvQueue).Full := hfull
    rw [if_pos hfull, if_pos hring]
  · have hring : ¬(ringOf m.recvQueue).Full := hfull
    rw [if_neg hfull, if_neg hring]
    rfl

/-- A frame that is too short is ignored.
SOURCE: Mesh.cpp:548-549 -/
theorem onDataRecvCallback_short (m : Mesh) (srcMac : MacAddress) {len : ℕ} (msg : MeshMessage)
    (hlen : len < Mesh.meshMessageSize) : m.onDataRecvCallback srcMac len msg = m :=
  if_pos hlen

/-! ## The drain loop -/

/-- The tail has moved past the entry.
SOURCE: Mesh.cpp:567 -/
def taken (m : Mesh) : Mesh :=
  { m with recvQueue := { m.recvQueue with tail := m.recvQueue.tail + 1 } }

/-- The entry the loop handles next.
SOURCE: Mesh.cpp:566 -/
def current (m : Mesh) : RecvQueueEntry :=
  (ringOf m.recvQueue).read m.recvQueue.tail

/-- An empty queue is drained without a step.
SOURCE: Mesh.cpp:563-604 -/
theorem drainEntries_of_empty {m : Mesh} (h : m.recvQueue.tail = m.recvQueue.head)
    (env : ℕ → Env) (n : ℕ) : m.drainEntries env n = (m, []) := by
  cases n with
  | zero => rfl
  | succ n => exact if_pos h

/-- One round of the loop.
SOURCE: Mesh.cpp:563-604 -/
theorem drainEntries_succ {m : Mesh} (h : m.recvQueue.tail ≠ m.recvQueue.head)
    (env : ℕ → Env) (n : ℕ) :
    m.drainEntries env (n + 1) =
      ((((taken m).handleEntry (env 0) (current m)).1.drainEntries (fun i => env (i + 1)) n).1,
        ((taken m).handleEntry (env 0) (current m)).2 ++
          (((taken m).handleEntry (env 0) (current m)).1.drainEntries
            (fun i => env (i + 1)) n).2) :=
  if_neg h

/-- A handled message leaves the queue alone. -/
theorem handleEntry_recvQueue (m : Mesh) (env : Env) (entry : RecvQueueEntry) :
    (m.handleEntry env entry).1.recvQueue = m.recvQueue := by
  cases hreceived : received m env entry with
  | none => rw [handleEntry_of_dropped hreceived]
  | some m' =>
      rw [handleEntry_of_received hreceived, (dispatch_handlerKept m' env entry.msg).recvQueue,
        received_frame hreceived]

/-- The waiting entries are the current one and those behind it. -/
theorem queued_eq_cons {m : Mesh} (h : m.recvQueue.tail ≠ m.recvQueue.head) :
    queued m.recvQueue = current m :: queued (taken m).recvQueue :=
  @Ring.view_advance _ _ _ (ringOf m.recvQueue) h

/-- One slot of the queue stays free. -/
theorem length_queued_lt (q : RecvQueue) : (queued q).length < recvQueueSize := by
  rw [queued, Ring.length_view]
  exact Ring.waiting_lt (ringOf q)

/-- The rule of the loop: what holds of an empty queue, and of a queue when it holds of the
rest after its first entry was handled, holds of the whole drain.
SOURCE: Mesh.cpp:563-604 -/
theorem drainEntries_rule {P : Mesh → (ℕ → Env) → List RecvQueueEntry → Mesh × List Effect → Prop}
    (hnil : ∀ m env, P m env [] (m, []))
    (hcons : ∀ m env entry entries rest,
      P ((taken m).handleEntry (env 0) entry).1 (fun i => env (i + 1)) entries rest →
        P m env (entry :: entries)
          (rest.1, ((taken m).handleEntry (env 0) entry).2 ++ rest.2))
    (m : Mesh) (env : ℕ → Env) (n : ℕ) (hn : (queued m.recvQueue).length ≤ n) :
    P m env (queued m.recvQueue) (m.drainEntries env n) := by
  induction n generalizing m env with
  | zero =>
      rw [List.length_eq_zero_iff.mp (Nat.le_zero.mp hn)]
      exact hnil m env
  | succ n ih =>
      by_cases hempty : m.recvQueue.tail = m.recvQueue.head
      · have hnone : queued m.recvQueue = [] := Ring.view_eq_nil_iff.mpr hempty
        rw [hnone, drainEntries_of_empty hempty]
        exact hnil m env
      · have hrest := queued_eq_cons hempty
        have hkept := handleEntry_recvQueue (taken m) (env 0) (current m)
        rw [hrest, List.length_cons] at hn
        rw [hrest, drainEntries_succ hempty, ← hkept]
        apply hcons
        apply ih
        rw [hkept]
        omega

/-- **Induction over a drain**: what holds of no frames, and of a frame and the rest, holds of the
whole queue.
SOURCE: Mesh.cpp:563-604 -/
theorem drainRecvQueue_rule
    {P : Mesh → (ℕ → Env) → List RecvQueueEntry → Mesh × List Effect → Prop}
    (hnil : ∀ m env, P m env [] (m, []))
    (hcons : ∀ m env entry entries rest,
      P ((taken m).handleEntry (env 0) entry).1 (fun i => env (i + 1)) entries rest →
        P m env (entry :: entries)
          (rest.1, ((taken m).handleEntry (env 0) entry).2 ++ rest.2))
    (m : Mesh) (env : ℕ → Env) : P m env (queued m.recvQueue) (m.drainRecvQueue env) :=
  drainEntries_rule hnil hcons m env recvQueueSize (length_queued_lt m.recvQueue).le

end LatticeNodes.Analysis
