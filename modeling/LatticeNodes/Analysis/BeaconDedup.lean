import Mathlib.Data.Prod.Lex
import LatticeNodes.Analysis.RelayStages
import LatticeNodes.Library.HighWaterMark
import LatticeNodes.Library.TransitionSystem

/-!
# The dedup of relayed beacons

A non-master node within a boot, with the list of the beacons it has accepted.
`lastRelayedEpoch` and `lastRelayedSeqNum` are one high-water mark of `(epochNum, seqNum)` for
all origins (`Marks`), so a new beacon of one master is relayed exactly when the other
masters' accepted beacons are all older than it (`beacon_pending_iff`).
-/

set_option autoImplicit false

namespace LatticeNodes.Analysis

open LatticeNodes.Program TransitionSystem HighWaterMark

namespace BeaconDedup

/-- What the dedup compares, in the order it compares it.
SOURCE: Mesh.cpp:901-902 -/
def beaconKey (msg : MeshMessage) : ℕ ×ₗ ℕ := toLex (msg.epochNum.toNat, msg.seqNum.toNat)

def lastRelayed (m : Mesh) : ℕ ×ₗ ℕ :=
  toLex (m.lastRelayedEpoch.toNat, m.lastRelayedSeqNum.toNat)

/-- The key of a node that has relayed nothing. -/
def noKey : ℕ ×ₗ ℕ := toLex (0, 0)

/-- A beacon is newer when its key is above that of the last one relayed. -/
theorem isNewer_iff {m : Mesh} {msg : MeshMessage} :
    m.isNewer msg = true ↔ lastRelayed m < beaconKey msg := by
  rw [lastRelayed, beaconKey, Prod.Lex.toLex_lt_toLex, Mesh.isNewer]
  simp only [Bool.or_eq_true, Bool.and_eq_true, decide_eq_true_eq, beq_iff_eq,
    UInt32.lt_iff_toNat_lt, UInt16.lt_iff_toNat_lt, ← UInt32.toNat_inj]
  constructor
  · rintro (hepoch | ⟨hepoch, hseq⟩)
    · exact .inl hepoch
    · exact .inr ⟨hepoch.symm, hseq⟩
  · rintro (hepoch | ⟨hepoch, hseq⟩)
    · exact .inl hepoch
    · exact .inr ⟨hepoch.symm, hseq⟩

/-! ## The system -/

/-- The node and the beacons it has accepted, newest first. -/
structure State where
  mesh : Mesh
  accepted : List MeshMessage

inductive Event where
  | beacon (env : Env) (msg : MeshMessage)
  /-- Any other work of the node: it may send the pending relay, but schedules none. -/
  | other (m' : Mesh)

def State.takeBeacon (s : State) (env : Env) (msg : MeshMessage) : State where
  mesh := (s.mesh.processMasterBeacon env msg).1
  accepted := if s.mesh.acceptsBeacon env msg then msg :: s.accepted else s.accepted

def step (s : State) : Event → Option State
  | .beacon env msg => some (s.takeBeacon env msg)
  | .other m' =>
      if RelayKept s.mesh m' ∧ m'.isMaster = false then some { s with mesh := m' } else none

/-- A node that has relayed no beacon in this boot. -/
structure Start (s : State) : Prop where
  isNode : s.mesh.isMaster = false
  lastRelayed : lastRelayed s.mesh = noKey
  noRelay : s.mesh.relayPending = false
  accepted : s.accepted = []

def system : System State Event where
  Init := Start
  step := step

/-- A received entry is one or two events: the gate, and the beacon if it is one.
SOURCE: Mesh.cpp:563-604 -/
theorem handleEntry_run {s : State} (hnode : s.mesh.isMaster = false) (env : Env)
    (entry : RecvQueueEntry) :
    ∃ es s', system.runFrom s es = some s' ∧ s'.mesh = (s.mesh.handleEntry env entry).1 := by
  have hother : ∀ m', RelayKept s.mesh m' → SameNode s.mesh m' →
      step s (.other m') = some { s with mesh := m' } :=
    fun m' hkept hsame => if_pos ⟨hkept, hsame.isMaster.trans hnode⟩
  cases hreceived : received s.mesh env entry with
  | none =>
      refine ⟨[], s, rfl, ?_⟩
      rw [handleEntry_of_dropped hreceived]
  | some m' =>
      have hkept := received_relayKept hreceived
      have hsame : SameNode s.mesh m' := by
        obtain ⟨m₁, hgate, rfl⟩ := Option.map_eq_some_iff.mp hreceived
        exact (passGate_sameNode hgate).trans (updatePeerLastSeen_sameNode m₁ env entry.srcMac)
      rw [handleEntry_of_received hreceived]
      by_cases htype : entry.msg.messageType = MeshMessageType.masterBeacon
      · rw [dispatch_masterBeacon m' env htype]
        have hgate : system.step s (.other m') = _ := hother m' hkept hsame
        refine ⟨[.other m', .beacon env entry.msg],
          State.takeBeacon { s with mesh := m' } env entry.msg, ?_, rfl⟩
        rw [System.runFrom_cons, hgate]
        rfl
      · have hdone : system.step s (.other (m'.dispatch env entry.msg).1) = _ :=
          hother _ (hkept.trans (dispatch_relayKept m' env htype))
            (hsame.trans (dispatch_sameNode m' env entry.msg))
        refine ⟨[.other (m'.dispatch env entry.msg).1],
          { s with mesh := (m'.dispatch env entry.msg).1 }, ?_, rfl⟩
        rw [System.runFrom_cons, hdone]
        rfl

/-- The timed work of `loop()` is another event.
SOURCE: Mesh.cpp:801-815, 1099-1105 -/
theorem dispatchRelay_run {s : State} (hnode : s.mesh.isMaster = false) (env : Env) :
    step s (.other (s.mesh.dispatchRelay env).1) =
      some { s with mesh := (s.mesh.dispatchRelay env).1 } := by
  apply if_pos
  refine ⟨dispatchRelay_relayKept s.mesh env, ?_⟩
  rcases dispatchRelay_fst s.mesh env with heq | heq
  · rw [heq]
    exact hnode
  · rw [heq]
    exact hnode

/-! ## The invariant -/

/-- The fields are the high-water mark of what was accepted; the pending relay is one of the
accepted beacons. -/
structure Marks (s : State) : Prop where
  isNode : s.mesh.isMaster = false
  lastRelayed : lastRelayed s.mesh = mark noKey (s.accepted.map beaconKey)
  pending : s.mesh.relayPending = true →
    ∃ a ∈ s.accepted, s.mesh.relayPendingMsg = a.relayCopy s.mesh.deviceMacAddress

/-- On a node an accepted beacon is scheduled exactly when it is newer.
SOURCE: Mesh.cpp:899-921 -/
theorem schedules_iff {m : Mesh} {env : Env} {msg : MeshMessage} (hnode : m.isMaster = false)
    (haccepted : m.acceptsBeacon env msg = true) :
    Schedules m env msg ↔ lastRelayed m < beaconKey msg := by
  rw [← isNewer_iff]
  exact ⟨fun h => h.2.2, fun h => ⟨haccepted, hnode, h⟩⟩

/-- A step that leaves the deferred relay alone, and after which the mark of what was accepted
is the same. -/
theorem Marks.kept {s : State} (h : Marks s) {m' : Mesh} {accepted : List MeshMessage}
    (hkept : RelayKept s.mesh m') (hnode : m'.isMaster = false)
    (hmore : ∀ a ∈ s.accepted, a ∈ accepted)
    (hmark : mark noKey (accepted.map beaconKey) = mark noKey (s.accepted.map beaconKey)) :
    Marks ⟨m', accepted⟩ where
  isNode := hnode
  lastRelayed := by
    rw [hmark, ← h.lastRelayed]
    simp only [BeaconDedup.lastRelayed, hkept.lastRelayedEpoch, hkept.lastRelayedSeqNum]
  pending := by
    intro hpending
    obtain ⟨hpending', hmsg⟩ := hkept.pending hpending
    obtain ⟨a, ha, heq⟩ := h.pending hpending'
    refine ⟨a, hmore a ha, ?_⟩
    rw [hkept.deviceMacAddress, ← heq]
    exact hmsg

/-- A beacon: the mark takes in its key.
SOURCE: Mesh.cpp:899-920 -/
theorem Marks.beacon {s : State} (h : Marks s) (env : Env) (msg : MeshMessage) :
    Marks (s.takeBeacon env msg) := by
  unfold State.takeBeacon
  have hnode := (processMasterBeacon_sameNode s.mesh env msg).isMaster.trans h.isNode
  rcases processMasterBeacon_relay s.mesh env msg with ⟨hyes, hdone⟩ | ⟨hno, hkept⟩
  · have hlt := (schedules_iff h.isNode hyes.1).mp hyes
    rw [h.lastRelayed] at hlt
    rw [hyes.1, if_pos rfl]
    refine ⟨hnode, ?_, fun _ => ⟨msg, List.mem_cons_self, hdone.pending.2⟩⟩
    rw [List.map_cons, mark_cons_of_lt hlt]
    simp only [BeaconDedup.lastRelayed, hdone.lastRelayedEpoch, hdone.lastRelayedSeqNum, beaconKey]
  · cases haccepted : s.mesh.acceptsBeacon env msg with
    | false =>
        rw [if_neg Bool.false_ne_true]
        exact h.kept hkept hnode (fun _ ha => ha) rfl
    | true =>
        rw [if_pos rfl]
        apply h.kept hkept hnode (fun _ ha => List.mem_cons_of_mem msg ha)
        rw [List.map_cons, mark_cons_of_not_lt]
        rw [← h.lastRelayed]
        exact fun hlt => hno ((schedules_iff h.isNode haccepted).mpr hlt)

/-- One case for each event. -/
theorem Marks.step {s s' : State} {e : Event} (h : Marks s) (hstep : step s e = some s') :
    Marks s' := by
  cases e with
  | beacon env msg =>
      cases hstep
      exact h.beacon env msg
  | other m' =>
      simp only [BeaconDedup.step, Option.ite_none_right_eq_some, Option.some.injEq] at hstep
      obtain ⟨⟨hkept, hnode⟩, rfl⟩ := hstep
      exact h.kept hkept hnode (fun _ ha => ha) rfl

/-- The fields are the high-water mark in every reachable state. -/
theorem marks_of_reachable {s : State} (h : system.Reachable s) : Marks s := by
  refine h.invariant ?_ fun s e s' hs hstep => hs.step hstep
  intro s hs
  refine ⟨hs.isNode, ?_, fun hpending => ?_⟩
  · rw [hs.lastRelayed, hs.accepted]
    rfl
  · rw [hs.noRelay] at hpending
    cases hpending

/-! ## Result -/

/-- The copies a node relays tell the beacons apart. -/
theorem beaconKey_of_relayCopy {a b : MeshMessage} {mac : MacAddress}
    (h : a.relayCopy mac = b.relayCopy mac) :
    a.originMacAddress = b.originMacAddress ∧ beaconKey a = beaconKey b := by
  have horigin : (a.relayCopy mac).originMacAddress = (b.relayCopy mac).originMacAddress := by
    rw [h]
  have hkey : beaconKey (a.relayCopy mac) = beaconKey (b.relayCopy mac) := by rw [h]
  exact ⟨horigin, hkey⟩

/-- **The newest beacon of its master becomes the pending relay exactly when every accepted
beacon of the other masters is older.**
SOURCE: Mesh.cpp:831-921 -/
theorem beacon_pending_iff {s : State} (h : system.Reachable s) {env : Env} {msg : MeshMessage}
    (haccepted : s.mesh.acceptsBeacon env msg = true)
    (hnewest : ∀ a ∈ s.accepted, a.originMacAddress = msg.originMacAddress →
      beaconKey a < beaconKey msg) :
    IsPending (s.mesh.processMasterBeacon env msg).1 msg ↔
      noKey < beaconKey msg ∧ ∀ a ∈ s.accepted, a.originMacAddress ≠ msg.originMacAddress →
        beaconKey a < beaconKey msg := by
  have hmarks := marks_of_reachable h
  rw [← mark_lt_iff_of_newest hnewest, ← hmarks.lastRelayed,
    ← schedules_iff hmarks.isNode haccepted]
  rcases processMasterBeacon_relay s.mesh env msg with ⟨hyes, hdone⟩ | ⟨hno, hkept⟩
  · exact ⟨fun _ => hyes, fun _ => hdone.pending⟩
  · refine ⟨fun hpending => ?_, fun hyes => absurd hyes hno⟩
    obtain ⟨hrelay, hmsg⟩ := hpending
    obtain ⟨hpending', hsame⟩ := hkept.pending hrelay
    obtain ⟨a, ha, heq⟩ := hmarks.pending hpending'
    have hcopy : a.relayCopy s.mesh.deviceMacAddress =
        msg.relayCopy s.mesh.deviceMacAddress := by
      rw [← heq, ← hsame, hmsg, hkept.deviceMacAddress]
    obtain ⟨horigin, hkey⟩ := beaconKey_of_relayCopy hcopy
    have hlt := hnewest a ha horigin
    rw [hkey] at hlt
    exact absurd hlt (lt_irrefl _)

/-! ## Two masters -/

/-- A node in dual-master mode that knows no master yet. -/
def dualNode : State where
  mesh :=
    { Mesh.new with
      deviceMacAddress := Vector.replicate 6 9
      dualMasterMode := true }
  accepted := []

/-- A master's beacon with the given epoch, heard directly. -/
def beaconOf (mac : MacAddress) (epoch : UInt32) : MeshMessage :=
  { MeshMessage.zero with
    protoVersion := Config.protoVersion
    messageType := MeshMessageType.masterBeacon
    originMacAddress := mac
    targetMacAddress := broadcastMac
    lastHopMacAddress := mac
    epochNum := epoch
    seqNum := 1 }

def firstBeacon : MeshMessage := beaconOf (Vector.replicate 6 1) 5
def secondBeacon : MeshMessage := beaconOf (Vector.replicate 6 2) 3

/-- The node with two masters is a start. -/
theorem start_dualNode : Start dualNode :=
  ⟨rfl, rfl, rfl, rfl⟩

/-- The master that has booted five times is heard before the one that has booted three
times. -/
theorem dual_run :
    ∃ s, system.runFrom dualNode [.beacon quietEnv firstBeacon] = some s ∧
      s.accepted = [firstBeacon] ∧ s.mesh.acceptsBeacon quietEnv secondBeacon = true :=
  ⟨_, rfl, rfl, rfl⟩

/-- The second beacon is the newest of its origin. -/
theorem newest_secondBeacon {s : State} (h : s.accepted = [firstBeacon]) :
    ∀ a ∈ s.accepted, a.originMacAddress = secondBeacon.originMacAddress →
      beaconKey a < beaconKey secondBeacon := by
  intro a ha horigin
  rw [h, List.mem_singleton] at ha
  rw [ha] at horigin
  exact absurd horigin (by decide)

/-- The first master's beacon hides the second's, whose key is lower. -/
theorem beacon_pending_dual :
    ∃ s, system.Reachable s ∧ s.accepted = [firstBeacon] ∧
      (IsPending (s.mesh.processMasterBeacon quietEnv secondBeacon).1 secondBeacon ↔
        noKey < beaconKey secondBeacon ∧ ∀ a ∈ s.accepted,
          a.originMacAddress ≠ secondBeacon.originMacAddress →
            beaconKey a < beaconKey secondBeacon) := by
  obtain ⟨s, hrun, hone, haccepted⟩ := dual_run
  have hreach := System.Reachable.runFrom (.init start_dualNode) hrun
  exact ⟨s, hreach, hone, beacon_pending_iff hreach haccepted (newest_secondBeacon hone)⟩

/-- The second master's first beacon is accepted and not relayed.
SOURCE: Mesh.cpp:901-906 -/
theorem not_pending_dual :
    ∃ s, system.Reachable s ∧ s.mesh.acceptsBeacon quietEnv secondBeacon = true ∧
      (∀ a ∈ s.accepted, a.originMacAddress = secondBeacon.originMacAddress →
        beaconKey a < beaconKey secondBeacon) ∧
      ¬IsPending (s.mesh.processMasterBeacon quietEnv secondBeacon).1 secondBeacon := by
  have hrun : ∃ s, system.runFrom dualNode [.beacon quietEnv firstBeacon] = some s ∧
      s.accepted = [firstBeacon] ∧ s.mesh.acceptsBeacon quietEnv secondBeacon = true ∧
      (s.mesh.processMasterBeacon quietEnv secondBeacon).1.relayPendingMsg =
        firstBeacon.relayCopy (Vector.replicate 6 9) :=
    ⟨_, rfl, rfl, rfl, rfl⟩
  obtain ⟨s, hrun, hone, haccepted, hmsg⟩ := hrun
  have hreach := System.Reachable.runFrom (.init start_dualNode) hrun
  refine ⟨s, hreach, haccepted, newest_secondBeacon hone, fun hpending => ?_⟩
  have hepoch := congrArg MeshMessage.epochNum (hmsg.symm.trans hpending.2)
  exact absurd hepoch (by decide : firstBeacon.epochNum ≠ secondBeacon.epochNum)

end BeaconDedup

end LatticeNodes.Analysis
