import LatticeNodes.Analysis.MeshNetwork
import LatticeNodes.Analysis.ReplayGate
import LatticeNodes.Analysis.TrustAnchor

/-!
# Beacon relay over a long uptime

One boot of a master and a node that trusts it.  The master numbers everything it builds with
one 16-bit counter; the node receives the beacons in sending order, each once, and compares
their numbers.  `relays_all_iff` says when none is lost: as long as the 16-bit numbers of the
beacons climb.  They do while the master has built fewer than `2 ^ 16` messages
(`climbs_of_few`), and stop at the wrap.
-/

set_option autoImplicit false

namespace LatticeNodes.Analysis

open LatticeNodes.Program TransitionSystem BoundedFifo

namespace BeaconUptime

/-! ## The system -/

/-- The entry's message becomes the pending relay, whatever was pending before. -/
def SchedulesRelay (m : Mesh) (env : Env) (entry : RecvQueueEntry) : Prop :=
  IsPending (({ m with relayPending := false }).handleEntry env entry).1 entry.msg

instance (m : Mesh) (env : Env) (entry : RecvQueueEntry) :
    Decidable (SchedulesRelay m env entry) :=
  inferInstanceAs (Decidable (_ ∧ _))

/-- A beacon the node has drained: the number of its message in this boot, whether the replay
cache knew it, and whether it was scheduled for relay. -/
structure Reception where
  number : ℕ
  msg : MeshMessage
  known : Bool
  scheduled : Bool

/-- The master, the node, and the boot's history.  `built` counts the messages built, `data`
holds the numbers of those with adapter data, `air` the beacons still on their way, oldest
first, `received` the drained ones, newest first. -/
structure State where
  master : Mesh
  node : Mesh
  built : ℕ
  data : List ℕ
  air : List (ℕ × MeshMessage)
  received : List Reception

inductive Event where
  | masterBeacon (env : Env)
  | masterData (env : Env) (type : AdapterTypes) (data : Payload)
  /-- The node drains a copy of the next beacon, from whatever distance. -/
  | receive (env : Env) (srcMac : MacAddress) (hopCount : UInt8) (lastHop : MacAddress)
  /-- Any other work of the node, which may add other messages to the replay cache. -/
  | other (m' : Mesh)

def State.masterBeacon (s : State) (env : Env) : State :=
  let result := s.master.broadcastMasterBeacon env
  { s with
    master := result.1
    built :=
      if env.millis - s.master.lastBeaconMillis < Config.masterBeaconIntervalMs then s.built
      else s.built + 1
    air := s.air ++ (sentFrames result.2).map fun f => (s.built + 1, f.2) }

def State.masterData (s : State) (env : Env) (type : AdapterTypes) (data : Payload) : State :=
  { s with
    master := (s.master.transmit env type data).1
    built := s.built + 1
    data := (s.built + 1) :: s.data }

def State.receive (s : State) (env : Env) (number : ℕ) (entry : RecvQueueEntry)
    (air : List (ℕ × MeshMessage)) : State :=
  { s with
    node := (s.node.handleEntry env entry).1
    air := air
    received :=
      ⟨number, entry.msg, decide (Mesh.replayEntry entry.msg ∈ s.node.replayCache.slots.toList),
        decide (SchedulesRelay s.node env entry)⟩ :: s.received }

/-- The cache entry is of a message of this boot. -/
def OfBoot (s : State) (e : ReplayEntry) : Prop :=
  e.mac = s.master.deviceMacAddress ∧ e.epoch = s.master.bootEpoch

instance (s : State) (e : ReplayEntry) : Decidable (OfBoot s e) :=
  inferInstanceAs (Decidable (_ ∧ _))

/-- The node's other work keeps whom it trusts and what it has relayed; of the boot's messages
it learns adapter data only. -/
structure Aside (s : State) (m' : Mesh) : Prop where
  relay : RelayKept s.node m'
  isNode : m'.isMaster = false
  hasMaster : m'.hasMasterMac = true
  trusts : m'.knownMasterMac = s.node.knownMasterMac
  cache : ∀ e ∈ m'.replayCache.slots.toList,
    e ∈ s.node.replayCache.slots.toList ∨ (OfBoot s e → ∃ k ∈ s.data, e.seq = UInt16.ofNat k)

instance (s : State) (m' : Mesh) : Decidable (Aside s m') :=
  decidable_of_iff
    (RelayKept s.node m' ∧ m'.isMaster = false ∧ m'.hasMasterMac = true ∧
      m'.knownMasterMac = s.node.knownMasterMac ∧
      ∀ e ∈ m'.replayCache.slots.toList, e ∈ s.node.replayCache.slots.toList ∨
        (OfBoot s e → ∃ k ∈ s.data, e.seq = UInt16.ofNat k))
    ⟨fun ⟨hrelay, hnode, hmaster, htrusts, hcache⟩ => ⟨hrelay, hnode, hmaster, htrusts, hcache⟩,
      fun ⟨hrelay, hnode, hmaster, htrusts, hcache⟩ => ⟨hrelay, hnode, hmaster, htrusts, hcache⟩⟩

/-- The copy of a beacon that reaches the node. -/
def copyOf (beacon : MeshMessage) (srcMac : MacAddress) (hopCount : UInt8)
    (lastHop : MacAddress) : RecvQueueEntry :=
  ⟨srcMac, { beacon with
    hopCount := hopCount
    lastHopMacAddress := lastHop }⟩

def step (s : State) : Event → Option State
  | .masterBeacon env => some (s.masterBeacon env)
  | .masterData env type data => some (s.masterData env type data)
  | .receive env srcMac hopCount lastHop =>
      match s.air with
      | [] => none
      | (number, beacon) :: air =>
          some (s.receive env number (copyOf beacon srcMac hopCount lastHop) air)
  | .other m' => if Aside s m' then some { s with node := m' } else none

/-- The master has just booted; the node trusts it and has relayed nothing of this boot. -/
structure Start (s : State) : Prop where
  isMaster : s.master.isMaster = true
  txSeqNum : s.master.txSeqNum = 0
  built : s.built = 0
  data : s.data = []
  air : s.air = []
  received : s.received = []
  isNode : s.node.isMaster = false
  hasMaster : s.node.hasMasterMac = true
  trusts : s.node.knownMasterMac = s.master.deviceMacAddress
  relayed : s.node.lastRelayedEpoch < s.master.bootEpoch
  cache : ∀ e ∈ s.node.replayCache.slots.toList, ¬OfBoot s e

def system : System State Event where
  Init := Start
  step := step

/-- A beacon that is built is not yet received. -/
theorem masterBeacon_received (s : State) (env : Env) :
    (s.masterBeacon env).received = s.received := rfl

/-- The master may build a beacon at any time. -/
theorem step_masterBeacon (s : State) (env : Env) :
    system.step s (.masterBeacon env) = some (s.masterBeacon env) := rfl

/-- The oldest beacon in the air may be drained. -/
theorem step_receive {s : State} (env : Env) (srcMac : MacAddress) (hopCount : UInt8)
    (lastHop : MacAddress) {number : ℕ} {beacon : MeshMessage} {air : List (ℕ × MeshMessage)}
    (h : s.air = (number, beacon) :: air) :
    system.step s (.receive env srcMac hopCount lastHop) =
      some (s.receive env number (copyOf beacon srcMac hopCount lastHop) air) := by
  show step s (.receive env srcMac hopCount lastHop) = _
  simp only [step, h]

/-! ## One beacon at the node -/

/-- The message is a beacon of this master in this boot. -/
structure BeaconOf (mac : MacAddress) (epoch : UInt32) (msg : MeshMessage) : Prop where
  protoVersion : msg.protoVersion = Config.protoVersion
  messageType : msg.messageType = MeshMessageType.masterBeacon
  origin : msg.originMacAddress = mac
  epochNum : msg.epochNum = epoch

/-- A beacon of the trusted master passes the trust check without a change.
SOURCE: Mesh.cpp:838-843 -/
theorem acceptsBeacon_trusted {m : Mesh} (env : Env) {msg : MeshMessage}
    (horigin : msg.originMacAddress = m.knownMasterMac) :
    m.acceptsBeacon env msg = true ↔ msg.hopCount < Config.maxHops := by
  have hadmit : (m.admitBeacon env msg).isSome = true := by
    rw [Option.isSome_iff_ne_none, Ne, admitBeacon_eq_none_iff]
    rintro ⟨⟨-, hstranger, -⟩, -⟩
    exact hstranger horigin
  rw [Mesh.acceptsBeacon, hadmit, Bool.and_true, Bool.not_eq_true', decide_eq_false_iff_not,
    UInt8.not_le]

/-- **A beacon of the trusted master is scheduled exactly when the replay cache does not know
it, its hops are not used up, and it is newer than what was relayed.**
SOURCE: Mesh.cpp:563-604, 831-921 -/
theorem schedulesEntry_iff {m : Mesh} (env : Env) {entry : RecvQueueEntry}
    {epoch : UInt32} (hbeacon : BeaconOf m.knownMasterMac epoch entry.msg) (hepoch : 0 < epoch)
    (hnode : m.isMaster = false) :
    SchedulesEntry m env entry ↔ Mesh.replayEntry entry.msg ∉ m.replayCache.slots.toList ∧
      entry.msg.hopCount < Config.maxHops ∧ m.isNewer entry.msg = true := by
  have hchecked : Mesh.replayChecked entry.msg = true := by
    rw [Mesh.replayChecked, hbeacon.protoVersion, hbeacon.epochNum, decide_eq_true hepoch]
    rfl
  have hgate := (@passGate_checked m _ hchecked).1
  have hpassed : (received m env entry).isSome = true ↔
      Mesh.replayEntry entry.msg ∉ m.replayCache.slots.toList := by
    rw [received, Option.isSome_map, hgate, Bool.not_eq_true', ← Bool.not_eq_true,
      Ring.check_fst_iff, Vector.mem_toList_iff]
  rw [← hpassed, SchedulesEntry, Option.isSome_iff_exists]
  have hstages : ∀ m', received m env entry = some m' →
      (Schedules m' env entry.msg ↔
        entry.msg.hopCount < Config.maxHops ∧ m.isNewer entry.msg = true) := by
    intro m' hreceived
    have hframe := received_frame hreceived
    have hknown : entry.msg.originMacAddress = m'.knownMasterMac := by
      rw [hframe]
      exact hbeacon.origin
    have hnode' : m'.isMaster = false := by rw [hframe]; exact hnode
    have hnewer : m'.isNewer entry.msg = m.isNewer entry.msg := by rw [hframe]; rfl
    rw [Schedules, acceptsBeacon_trusted env hknown, hnewer]
    simp only [hnode', true_and]
  constructor
  · rintro ⟨-, m', hreceived, hschedules⟩
    exact ⟨⟨m', hreceived⟩, (hstages m' hreceived).mp hschedules⟩
  · rintro ⟨⟨m', hreceived⟩, hrest⟩
    exact ⟨hbeacon.messageType, m', hreceived, (hstages m' hreceived).mpr hrest⟩

/-- Whether something is pending already makes no difference. -/
theorem schedulesRelay_iff {m : Mesh} {env : Env} {entry : RecvQueueEntry} :
    SchedulesRelay m env entry ↔ SchedulesEntry { m with relayPending := false } env entry := by
  rcases handleEntry_relay { m with relayPending := false } env entry with
    ⟨hyes, hdone⟩ | ⟨hno, hkept⟩
  · exact ⟨fun _ => hyes, fun _ => hdone.pending⟩
  · refine ⟨fun hpending => ?_, fun hyes => absurd hyes hno⟩
    have hbefore := (hkept.pending hpending.1).1
    cases hbefore

/-- The trusted master's beacon changes nothing about trust. -/
theorem handleEntry_trust {m : Mesh} (env : Env) {entry : RecvQueueEntry}
    (hhas : m.hasMasterMac = true) (horigin : entry.msg.originMacAddress = m.knownMasterMac) :
    (m.handleEntry env entry).1.hasMasterMac = true ∧
      (m.handleEntry env entry).1.knownMasterMac = m.knownMasterMac := by
  have hsame : TrustAnchor.trustOf (m.handleEntry env entry).1 = TrustAnchor.trustOf m := by
    cases TrustAnchor.handleEntry_trustMove m env entry with
    | kept _ htrust _ => exact htrust
    | joinAck _ hno _ _ =>
        rw [hhas] at hno
        cases hno
    | beacon _ hbefore _ hstep htrust _ =>
        obtain ⟨hknown, hhas₁, -⟩ := TrustAnchor.trustOf_eq_iff.mp hbefore
        rw [hhas] at hhas₁
        rw [← hknown] at horigin
        cases hstep with
        | learnPrimary hno =>
            rw [hhas₁] at hno
            cases hno
        | learnSecondary _ hprimary _ _ => exact absurd horigin hprimary
        | hotswap _ hprimary _ _ => exact absurd horigin hprimary
        | trusted _ _ => exact htrust.trans hbefore
  obtain ⟨hknown, hhas', -⟩ := TrustAnchor.trustOf_eq_iff.mp hsame
  exact ⟨hhas'.trans hhas, hknown⟩

/-! ## The master's messages -/

/-- A transmission takes a number, whatever the radio answers.
SOURCE: Mesh.cpp:667-677 -/
theorem transmit_fst (m : Mesh) (env : Env) (type : AdapterTypes) (data : Payload) :
    (m.transmit env type data).1 = { m with txSeqNum := m.txSeqNum + 1 } := by
  unfold Mesh.transmit
  split <;> rfl

/-- A call builds one beacon, which may fail to be sent, or comes too early.
SOURCE: Mesh.cpp:684-703 -/
theorem broadcastMasterBeacon_cases (m : Mesh) (env : Env) :
    (env.millis - m.lastBeaconMillis < Config.masterBeaconIntervalMs ∧
      m.broadcastMasterBeacon env = (m, [])) ∨
    (¬env.millis - m.lastBeaconMillis < Config.masterBeaconIntervalMs ∧
      (m.broadcastMasterBeacon env).1 =
        { m with
          lastBeaconMillis := env.millis
          txSeqNum := m.txSeqNum + 1 } ∧
      (sentFrames (m.broadcastMasterBeacon env).2 = [] ∨
        sentFrames (m.broadcastMasterBeacon env).2 =
          [(broadcastMac, MeshNetwork.beaconFrame m)])) := by
  unfold Mesh.broadcastMasterBeacon
  split
  · next hearly => exact .inl ⟨hearly, rfl⟩
  · next hdue =>
    refine .inr ⟨hdue, rfl, ?_⟩
    simp only [Mesh.espNowBroadcast]
    split
    · exact .inr rfl
    · exact .inl rfl

/-- A beacon that is due goes out when the radio takes it. -/
theorem broadcastMasterBeacon_sent {m : Mesh} {env : Env}
    (hdue : ¬env.millis - m.lastBeaconMillis < Config.masterBeaconIntervalMs)
    (hsend : env.sendError broadcastMac = none) :
    sentFrames (m.broadcastMasterBeacon env).2 =
      [(broadcastMac, MeshNetwork.beaconFrame m)] := by
  unfold Mesh.broadcastMasterBeacon
  rw [if_neg hdue]
  simp only [Mesh.espNowBroadcast, hsend]
  rfl

/-! ## The run -/

/-- Every beacon was scheduled. -/
def AllScheduled (received : List Reception) : Prop :=
  ∀ d ∈ received, d.scheduled = true

/-- Every beacon was new to the replay cache, within the hop limit, and numbered above all
beacons before it. -/
def Climbs : List Reception → Prop
  | [] => True
  | d :: earlier =>
      (d.known = false ∧ d.msg.hopCount < Config.maxHops ∧
        ∀ e ∈ earlier, e.msg.seqNum < d.msg.seqNum) ∧ Climbs earlier

instance decidableClimbs : (received : List Reception) → Decidable (Climbs received)
  | [] => .isTrue trivial
  | _ :: earlier =>
      have := decidableClimbs earlier
      inferInstanceAs (Decidable ((_ ∧ _ ∧ _) ∧ Climbs earlier))

/-- What the node has relayed last, when it has relayed everything: the newest beacon, or
something of an earlier boot. -/
def LastRelayed (s : State) : Prop :=
  match s.received with
  | [] => s.node.lastRelayedEpoch < s.master.bootEpoch
  | d :: _ => s.node.lastRelayedEpoch = s.master.bootEpoch ∧
      s.node.lastRelayedSeqNum = d.msg.seqNum

structure Uptime (s : State) : Prop where
  txSeqNum : s.master.txSeqNum = UInt16.ofNat s.built
  epoch : 0 < s.master.bootEpoch
  isNode : s.node.isMaster = false
  hasMaster : s.node.hasMasterMac = true
  trusts : s.node.knownMasterMac = s.master.deviceMacAddress
  air : ∀ p ∈ s.air, BeaconOf s.master.deviceMacAddress s.master.bootEpoch p.2 ∧
    p.2.seqNum = UInt16.ofNat p.1
  received : ∀ d ∈ s.received, d.msg.seqNum = UInt16.ofNat d.number
  relayed : AllScheduled s.received → LastRelayed s
  climbs : AllScheduled s.received ↔ Climbs s.received

/-- Above the newest of climbing numbers is above all of them. -/
theorem Climbs.lt_iff {d : Reception} {earlier : List Reception} (h : Climbs (d :: earlier))
    {seq : UInt16} : (∀ e ∈ d :: earlier, e.msg.seqNum < seq) ↔ d.msg.seqNum < seq := by
  constructor
  · intro hall
    exact hall d List.mem_cons_self
  · intro hlt e he
    rcases List.mem_cons.mp he with rfl | he
    · exact hlt
    · exact UInt16.lt_trans (h.1.2.2 e he) hlt

/-- A beacon is newer than what was relayed when it is numbered above all beacons before
it. -/
theorem isNewer_iff {s : State} (hlast : LastRelayed s) (hclimbs : Climbs s.received)
    {msg : MeshMessage} (hepoch : msg.epochNum = s.master.bootEpoch) :
    s.node.isNewer msg = true ↔ ∀ e ∈ s.received, e.msg.seqNum < msg.seqNum := by
  rw [Mesh.isNewer, Bool.or_eq_true, Bool.and_eq_true, decide_eq_true_eq, beq_iff_eq,
    decide_eq_true_eq, hepoch]
  unfold LastRelayed at hlast
  cases hreceived : s.received with
  | nil =>
      rw [hreceived] at hlast
      simp only at hlast
      simp [hlast]
  | cons d earlier =>
      rw [hreceived] at hlast hclimbs
      obtain ⟨hlastEpoch, hlastSeq⟩ := hlast
      rw [hclimbs.lt_iff, hlastEpoch, hlastSeq]
      simp [UInt32.lt_irrefl]

/-- The master builds a message. -/
theorem txSeqNum_succ {m : Mesh} {n : ℕ} (h : m.txSeqNum = UInt16.ofNat n) :
    m.txSeqNum + 1 = UInt16.ofNat (n + 1) := by
  rw [h, UInt16.ofNat_add]
  rfl

/-- A beacon gets the next number. -/
theorem Uptime.masterBeacon {s : State} (h : Uptime s) (env : Env) :
    Uptime (s.masterBeacon env) := by
  unfold State.masterBeacon
  rcases broadcastMasterBeacon_cases s.master env with ⟨hearly, heq⟩ | ⟨hdue, hmaster, hsent⟩
  · rw [heq, if_pos hearly]
    simp only [sentFrames_nil, List.map_nil, List.append_nil]
    exact h
  · simp only [hmaster, if_neg hdue]
    refine ⟨txSeqNum_succ h.txSeqNum, h.epoch, h.isNode, h.hasMaster, h.trusts, ?_, h.received,
      h.relayed, h.climbs⟩
    intro p hp
    rcases List.mem_append.mp hp with hold | hnew
    · exact h.air p hold
    · rcases hsent with hnone | hone
      · rw [hnone] at hnew
        cases hnew
      · rw [hone, List.map_singleton, List.mem_singleton] at hnew
        rw [hnew]
        exact ⟨⟨rfl, rfl, rfl, rfl⟩, txSeqNum_succ h.txSeqNum⟩

/-- The master's data take the next number too, and go to other nodes. -/
theorem Uptime.masterData {s : State} (h : Uptime s) (env : Env) (type : AdapterTypes)
    (data : Payload) : Uptime (s.masterData env type data) := by
  unfold State.masterData
  rw [transmit_fst]
  exact ⟨txSeqNum_succ h.txSeqNum, h.epoch, h.isNode, h.hasMaster, h.trusts, h.air, h.received,
    h.relayed, h.climbs⟩

/-- A drained beacon is scheduled exactly when it keeps the climb going.
SOURCE: Mesh.cpp:563-604, 899-906 -/
theorem Uptime.receive {s : State} (h : Uptime s) (env : Env) {number : ℕ}
    {entry : RecvQueueEntry} {air : List (ℕ × MeshMessage)}
    (hbeacon : BeaconOf s.master.deviceMacAddress s.master.bootEpoch entry.msg)
    (hseq : entry.msg.seqNum = UInt16.ofNat number)
    (hair : ∀ p ∈ air, BeaconOf s.master.deviceMacAddress s.master.bootEpoch p.2 ∧
      p.2.seqNum = UInt16.ofNat p.1) : Uptime (s.receive env number entry air) := by
  have hfrom : BeaconOf s.node.knownMasterMac s.master.bootEpoch entry.msg := by
    rw [h.trusts]
    exact hbeacon
  have hstep := schedulesEntry_iff env hfrom h.epoch h.isNode
  have hrelay : SchedulesRelay s.node env entry ↔ SchedulesEntry s.node env entry := by
    rw [schedulesRelay_iff, hstep]
    exact @schedulesEntry_iff { s.node with relayPending := false } env entry _ hfrom h.epoch
      h.isNode
  obtain ⟨hhas, hknown⟩ := handleEntry_trust env h.hasMaster hfrom.origin
  have hall : AllScheduled (s.receive env number entry air).received ↔
      SchedulesEntry s.node env entry ∧ AllScheduled s.received := by
    rw [AllScheduled, State.receive, List.forall_mem_cons, decide_eq_true_eq, hrelay]
    exact Iff.rfl
  refine ⟨h.txSeqNum, h.epoch, ?_, hhas, hknown.trans h.trusts, hair, ?_, ?_, ?_⟩
  · exact (handleEntry_sameNode s.node env entry).isMaster.trans h.isNode
  · intro d hd
    rcases List.mem_cons.mp hd with rfl | hd
    · exact hseq
    · exact h.received d hd
  · intro hscheduled
    obtain ⟨hyes, -⟩ := hall.mp hscheduled
    rcases handleEntry_relay s.node env entry with ⟨-, hdone⟩ | ⟨hno, -⟩
    · exact ⟨hdone.lastRelayedEpoch.trans hbeacon.epochNum, hdone.lastRelayedSeqNum⟩
    · exact absurd hyes hno
  · rw [hall]
    by_cases hearlier : AllScheduled s.received
    · have hclimbs := h.climbs.mp hearlier
      rw [hstep, isNewer_iff (h.relayed hearlier) hclimbs hbeacon.epochNum]
      simp only [State.receive, Climbs, hclimbs, hearlier, and_true, decide_eq_false_iff_not]
    · have hnot : ¬Climbs s.received := fun hclimbs => hearlier (h.climbs.mpr hclimbs)
      simp only [State.receive, Climbs, hnot, hearlier, and_false]

/-- The node's other work leaves the beacons aside. -/
theorem Uptime.other {s : State} (h : Uptime s) {m' : Mesh} (haside : Aside s m') :
    Uptime { s with node := m' } := by
  refine ⟨h.txSeqNum, h.epoch, haside.isNode, haside.hasMaster, haside.trusts.trans h.trusts,
    h.air, h.received, ?_, h.climbs⟩
  intro hscheduled
  have hlast := h.relayed hscheduled
  unfold LastRelayed at hlast ⊢
  simp only [haside.relay.lastRelayedEpoch, haside.relay.lastRelayedSeqNum]
  exact hlast

/-- One case for each event. -/
theorem Uptime.step {s s' : State} {e : Event} (h : Uptime s) (hstep : step s e = some s') :
    Uptime s' := by
  cases e with
  | masterBeacon env =>
      cases hstep
      exact h.masterBeacon env
  | masterData env type data =>
      cases hstep
      exact h.masterData env type data
  | receive env srcMac hopCount lastHop =>
      unfold BeaconUptime.step at hstep
      cases hair : s.air with
      | nil =>
          simp only [hair] at hstep
          cases hstep
      | cons p air =>
          simp only [hair, Option.some.injEq] at hstep
          obtain ⟨hbeacon, hseq⟩ := h.air p (by rw [hair]; exact List.mem_cons_self)
          rw [← hstep]
          apply h.receive env
          · exact ⟨hbeacon.protoVersion, hbeacon.messageType, hbeacon.origin, hbeacon.epochNum⟩
          · exact hseq
          · intro q hq
            exact h.air q (by rw [hair]; exact List.mem_cons_of_mem p hq)
  | other m' =>
      change (if Aside s m' then some { s with node := m' } else none) = some s' at hstep
      simp only [Option.ite_none_right_eq_some, Option.some.injEq] at hstep
      obtain ⟨haside, rfl⟩ := hstep
      exact h.other haside

/-- The numbering holds in every reachable state. -/
theorem uptime_of_reachable {s : State} (h : system.Reachable s) : Uptime s := by
  refine h.invariant ?_ fun s e s' hs hstep => hs.step hstep
  intro s hs
  refine ⟨?_, ?_, hs.isNode, hs.hasMaster, hs.trusts, ?_, ?_, ?_, ?_⟩
  · rw [hs.txSeqNum, hs.built]
    rfl
  · exact UInt32.lt_of_le_of_lt (UInt32.zero_le) hs.relayed
  · intro p hp
    rw [hs.air] at hp
    cases hp
  · intro d hd
    rw [hs.received] at hd
    cases hd
  · intro _
    rw [LastRelayed, hs.received]
    exact hs.relayed
  · rw [hs.received]
    simp [AllScheduled, Climbs]

/-! ## Before the wrap -/

/-- The numbers of the beacons sent, in sending order. -/
def numbers (s : State) : List ℕ :=
  (s.received.map Reception.number).reverse ++ s.air.map Prod.fst

structure Ordered (s : State) : Prop where
  sorted : (numbers s).Pairwise (· < ·)
  bounded : ∀ k ∈ numbers s, k ≤ s.built
  data : ∀ k ∈ s.data, k ≤ s.built ∧ k ∉ numbers s
  cache : ∀ e ∈ s.node.replayCache.slots.toList, OfBoot s e →
    ∃ k ≤ s.built, e.seq = UInt16.ofNat k ∧ k ∉ s.air.map Prod.fst
  unknown : s.built < 2 ^ 16 → ∀ d ∈ s.received, d.known = false

/-- A step of the master that numbers one more message. -/
theorem Ordered.build {s s' : State} (h : Ordered s) {air : List ℕ} {data : List ℕ}
    (hbuilt : s'.built = s.built + 1) (hnode : s'.node = s.node)
    (hreceived : s'.received = s.received) (hboot : ∀ e, OfBoot s' e ↔ OfBoot s e)
    (hair : s'.air.map Prod.fst = s.air.map Prod.fst ++ air) (hdata : s'.data = data ++ s.data)
    (hnew : air = [] ∧ data = [s.built + 1] ∨ data = [] ∧ (air = [] ∨ air = [s.built + 1])) :
    Ordered s' := by
  have hnumbers : numbers s' = numbers s ++ air := by
    rw [numbers, hreceived, hair, ← List.append_assoc, ← numbers]
  have hairNew : ∀ k ∈ air, k = s.built + 1 := by
    intro k hk
    rcases hnew with ⟨rfl, -⟩ | ⟨-, rfl | rfl⟩
    · cases hk
    · cases hk
    · exact List.mem_singleton.mp hk
  have hold : ∀ k ≤ s.built, k ∉ air := by
    intro k hk hmem
    have := hairNew k hmem
    omega
  refine ⟨?_, ?_, ?_, ?_, ?_⟩
  · rw [hnumbers, List.pairwise_append]
    refine ⟨h.sorted, ?_, ?_⟩
    · rcases hnew with ⟨rfl, -⟩ | ⟨-, rfl | rfl⟩
      · exact List.Pairwise.nil
      · exact List.Pairwise.nil
      · exact List.pairwise_singleton _ _
    · intro a ha b hb
      have := h.bounded a ha
      have := hairNew b hb
      omega
  · intro k hk
    rw [hnumbers] at hk
    rcases List.mem_append.mp hk with hk | hk
    · have := h.bounded k hk
      omega
    · have := hairNew k hk
      omega
  · intro k hk
    rw [hdata] at hk
    rw [hnumbers, hbuilt]
    rcases List.mem_append.mp hk with hk | hk
    · rcases hnew with ⟨rfl, rfl⟩ | ⟨rfl, -⟩
      · rw [List.append_nil, List.mem_singleton.mp hk]
        refine ⟨le_rfl, fun hmem => ?_⟩
        have := h.bounded _ hmem
        omega
      · cases hk
    · obtain ⟨hle, hnot⟩ := h.data k hk
      refine ⟨by omega, fun hmem => ?_⟩
      rcases List.mem_append.mp hmem with hmem | hmem
      · exact hnot hmem
      · exact hold k hle hmem
  · intro e he hof
    rw [hnode] at he
    obtain ⟨k, hle, hseq, hnot⟩ := h.cache e he ((hboot e).mp hof)
    refine ⟨k, by omega, hseq, ?_⟩
    rw [hair]
    intro hmem
    rcases List.mem_append.mp hmem with hmem | hmem
    · exact hnot hmem
    · exact hold k hle hmem
  · intro hfew d hd
    rw [hreceived] at hd
    exact h.unknown (by omega) d hd

/-- A new beacon is behind all others. -/
theorem Ordered.masterBeacon {s : State} (h : Ordered s) (env : Env) :
    Ordered (s.masterBeacon env) := by
  unfold State.masterBeacon
  rcases broadcastMasterBeacon_cases s.master env with ⟨hearly, heq⟩ | ⟨hdue, hmaster, hsent⟩
  · rw [heq, if_pos hearly]
    simp only [sentFrames_nil, List.map_nil, List.append_nil]
    exact h
  · simp only [hmaster, if_neg hdue]
    rcases hsent with hnone | hone
    · refine @Ordered.build s _ h [] [] rfl rfl rfl (fun _ => Iff.rfl) ?_ rfl (.inr ⟨rfl, .inl rfl⟩)
      simp [hnone]
    · refine @Ordered.build s _ h [s.built + 1] [] rfl rfl rfl (fun _ => Iff.rfl) ?_ rfl
        (.inr ⟨rfl, .inr rfl⟩)
      simp [hone]

/-- Data do not come between the beacons. -/
theorem Ordered.masterData {s : State} (h : Ordered s) (env : Env) (type : AdapterTypes)
    (data : Payload) : Ordered (s.masterData env type data) := by
  unfold State.masterData
  rw [transmit_fst]
  exact @Ordered.build s _ h [] [s.built + 1] rfl rfl rfl (fun _ => Iff.rfl)
    (List.append_nil _).symm rfl (.inl ⟨rfl, rfl⟩)

/-- While the counter has not wrapped, the key of a beacon on its way is not in the cache. -/
theorem Ordered.receive {s : State} (h : Ordered s) (env : Env) {number : ℕ}
    {beacon : MeshMessage} {entry : RecvQueueEntry} {air : List (ℕ × MeshMessage)}
    (hair : s.air = (number, beacon) :: air)
    (hbeacon : BeaconOf s.master.deviceMacAddress s.master.bootEpoch entry.msg)
    (hseq : entry.msg.seqNum = UInt16.ofNat number) :
    Ordered (s.receive env number entry air) := by
  have hnumbers : numbers (s.receive env number entry air) = numbers s := by
    simp [numbers, State.receive, hair]
  have hnumber : number ∈ numbers s := by
    simp [numbers, hair]
  have hgone : number ∉ air.map Prod.fst := by
    have hsorted := h.sorted
    rw [numbers, hair, List.map_cons, List.pairwise_append, List.pairwise_cons] at hsorted
    intro hmem
    have := hsorted.2.1.1 number hmem
    omega
  refine ⟨?_, ?_, ?_, ?_, ?_⟩
  · rw [hnumbers]
    exact h.sorted
  · rw [hnumbers]
    exact h.bounded
  · rw [hnumbers]
    exact h.data
  · intro e he hof
    rw [Vector.mem_toList_iff] at he
    rcases mem_replayCache_handleEntry he with hold | rfl
    · obtain ⟨k, hle, hk, hnot⟩ := h.cache e (Vector.mem_toList_iff.mpr hold) hof
      refine ⟨k, hle, hk, fun hmem => hnot ?_⟩
      rw [hair]
      exact List.mem_cons_of_mem _ hmem
    · exact ⟨number, h.bounded number hnumber, hseq, hgone⟩
  · intro hfew d hd
    rcases List.mem_cons.mp hd with rfl | hd
    · rw [decide_eq_false_iff_not]
      intro hmem
      have hof : OfBoot s (Mesh.replayEntry entry.msg) := ⟨hbeacon.origin, hbeacon.epochNum⟩
      obtain ⟨k, hle, hk, hnot⟩ := h.cache _ hmem hof
      have hbound := h.bounded number hnumber
      have hfew : s.built < 2 ^ 16 := hfew
      have hsame : UInt16.ofNat number = UInt16.ofNat k := hseq.symm.trans hk
      have hvalue := congrArg UInt16.toNat hsame
      rw [UInt16.toNat_ofNat', UInt16.toNat_ofNat'] at hvalue
      have hnk : number = k := by omega
      apply hnot
      rw [hair, ← hnk]
      exact List.mem_cons_self
    · exact h.unknown hfew d hd

/-- The node's other work does not come between the beacons. -/
theorem Ordered.other {s : State} (h : Ordered s) {m' : Mesh} (haside : Aside s m') :
    Ordered { s with node := m' } := by
  refine ⟨h.sorted, h.bounded, h.data, ?_, h.unknown⟩
  intro e he hof
  rcases haside.cache e he with hold | hdata
  · exact h.cache e hold hof
  · obtain ⟨k, hk, hseq⟩ := hdata hof
    obtain ⟨hle, hnot⟩ := h.data k hk
    exact ⟨k, hle, hseq, fun hmem => hnot (List.mem_append_right _ hmem)⟩

/-- One case for each event. -/
theorem Ordered.step {s s' : State} {e : Event} (h : Ordered s) (huptime : Uptime s)
    (hstep : step s e = some s') : Ordered s' := by
  cases e with
  | masterBeacon env =>
      cases hstep
      exact h.masterBeacon env
  | masterData env type data =>
      cases hstep
      exact h.masterData env type data
  | receive env srcMac hopCount lastHop =>
      unfold BeaconUptime.step at hstep
      cases hair : s.air with
      | nil =>
          simp only [hair] at hstep
          cases hstep
      | cons p air =>
          simp only [hair, Option.some.injEq] at hstep
          obtain ⟨hbeacon, hseq⟩ := huptime.air p (by rw [hair]; exact List.mem_cons_self)
          rw [← hstep]
          refine h.receive env hair ?_ hseq
          exact ⟨hbeacon.protoVersion, hbeacon.messageType, hbeacon.origin, hbeacon.epochNum⟩
  | other m' =>
      change (if Aside s m' then some { s with node := m' } else none) = some s' at hstep
      simp only [Option.ite_none_right_eq_some, Option.some.injEq] at hstep
      obtain ⟨haside, rfl⟩ := hstep
      exact h.other haside

/-- The beacons are drained in the order they were built. -/
theorem ordered_of_reachable {s : State} (h : system.Reachable s) : Ordered s := by
  refine h.invariant_of_reachable ?_ fun s e s' hreach hs hstep =>
    hs.step (uptime_of_reachable hreach) hstep
  intro s hs
  have hnumbers : numbers s = [] := by simp [numbers, hs.received, hs.air]
  refine ⟨?_, ?_, ?_, ?_, ?_⟩
  · rw [hnumbers]
    exact List.Pairwise.nil
  · simp [hnumbers]
  · simp [hs.data]
  · exact fun e he hof => absurd hof (hs.cache e he)
  · simp [hs.received]

/-- Numbers below `2 ^ 16` keep their order as 16-bit numbers. -/
theorem climbs_of_sorted {received : List Reception}
    (hsorted : (received.map Reception.number).Pairwise fun a b => b < a)
    (hsmall : ∀ d ∈ received, d.number < 2 ^ 16)
    (hseq : ∀ d ∈ received, d.msg.seqNum = UInt16.ofNat d.number)
    (hunknown : ∀ d ∈ received, d.known = false)
    (hhops : ∀ d ∈ received, d.msg.hopCount < Config.maxHops) : Climbs received := by
  induction received with
  | nil => exact trivial
  | cons d earlier ih =>
      rw [List.map_cons, List.pairwise_cons] at hsorted
      rw [List.forall_mem_cons] at hsmall hseq hunknown hhops
      refine ⟨⟨hunknown.1, hhops.1, ?_⟩,
        ih hsorted.2 hsmall.2 hseq.2 hunknown.2 hhops.2⟩
      intro e he
      have hlt : e.number < d.number := hsorted.1 _ (List.mem_map_of_mem he)
      rw [hseq.1, hseq.2 e he, UInt16.ofNat_lt_iff_lt (hsmall.2 e he) hsmall.1]
      exact hlt

/-- Fewer than `2 ^ 16` messages keep the 16-bit numbers in the order of building. -/
theorem climbs_of_few {s : State} (h : system.Reachable s) (hfew : s.built < 2 ^ 16)
    (hhops : ∀ d ∈ s.received, d.msg.hopCount < Config.maxHops) : Climbs s.received := by
  have hordered := ordered_of_reachable h
  apply climbs_of_sorted ?_ ?_ (uptime_of_reachable h).received (hordered.unknown hfew) hhops
  · rw [← List.pairwise_reverse]
    exact (List.pairwise_append.mp hordered.sorted).1
  · intro d hd
    have hmem : d.number ∈ numbers s := by
      apply List.mem_append_left
      rw [List.mem_reverse]
      exact List.mem_map_of_mem hd
    have := hordered.bounded d.number hmem
    omega

/-! ## Result -/

/-- **Every beacon received so far was scheduled for relay exactly when their 16-bit numbers
climb.**
SOURCE: Mesh.cpp:351-369, 684-703, 899-921 -/
theorem relays_all_iff {s : State} (h : system.Reachable s) :
    AllScheduled s.received ↔ Climbs s.received :=
  (uptime_of_reachable h).climbs

/-- Before the counter wraps, every beacon within the hop limit is scheduled. -/
theorem relays_all_of_few {s : State} (h : system.Reachable s) (hfew : s.built < 2 ^ 16)
    (hhops : ∀ d ∈ s.received, d.msg.hopCount < Config.maxHops) : AllScheduled s.received :=
  (uptime_of_reachable h).climbs.mpr (climbs_of_few h hfew hhops)

/-! ## The wrap -/

def masterMac : MacAddress := Vector.replicate 6 1

/-- A master in its first boot, and a node that trusts it. -/
def booted : State where
  master :=
    { Mesh.new with
      deviceMacAddress := masterMac
      isMaster := true
      bootEpoch := 1 }
  node :=
    { Mesh.new with
      deviceMacAddress := Vector.replicate 6 2
      knownMasterMac := masterMac
      hasMasterMac := true }
  built := 0
  data := []
  air := []
  received := []

/-- The master in its first boot is a start. -/
theorem start_booted : Start booted := by
  refine ⟨rfl, rfl, rfl, rfl, rfl, rfl, rfl, rfl, rfl, by decide, ?_⟩
  intro e he hof
  have hzero : e = ⟨zeroMac, 0, 0⟩ := by
    have hslots : e ∈ List.replicate replayCacheSize (⟨zeroMac, 0, 0⟩ : ReplayEntry) := he
    exact List.eq_of_mem_replicate hslots
  rw [hzero] at hof
  exact absurd hof.2 (by decide)

def at3s : Env := { quietEnv with millis := 3000 }
def at6s : Env := { quietEnv with millis := 6000 }
def at9s : Env := { quietEnv with millis := 9000 }

def firstEvents : List Event :=
  [.masterBeacon at3s, .receive quietEnv masterMac 0 masterMac]

/-- The first beacon carries number 1. -/
theorem first_run :
    ∃ s d, system.runFrom booted firstEvents = some s ∧ s.built = 1 ∧ s.air = [] ∧
      s.received = [d] ∧ d.msg.seqNum = 1 ∧ d.msg.hopCount < Config.maxHops ∧
      s.master.txSeqNum = 1 ∧ s.master.lastBeaconMillis = 3000 :=
  ⟨_, _, rfl, rfl, rfl, rfl, rfl, by decide, rfl, rfl⟩

/-- Three beacons over different ways, with data of the master in between. -/
def climbingEvents : List Event :=
  [.masterBeacon at3s, .receive quietEnv masterMac 0 masterMac,
    .masterData quietEnv AdapterTypes.unknownAdapter zeroPayload, .masterBeacon at6s,
    .receive quietEnv (Vector.replicate 6 3) 2 (Vector.replicate 6 3), .masterBeacon at9s,
    .receive quietEnv (Vector.replicate 6 4) 9 (Vector.replicate 6 4)]

/-- Their numbers climb, so all three are scheduled for relay. -/
theorem relays_all_climbing :
    ∃ s, system.Reachable s ∧ s.received.map (·.msg.seqNum) = [4, 3, 1] ∧
      AllScheduled s.received := by
  have hrun : ∃ s, system.runFrom booted climbingEvents = some s ∧
      s.received.map (·.msg.seqNum) = [4, 3, 1] ∧ Climbs s.received :=
    ⟨_, rfl, by decide +kernel, by decide +kernel⟩
  obtain ⟨s, hrun, hnumbers, hclimbs⟩ := hrun
  have hreach := System.Reachable.runFrom (.init start_booted) hrun
  exact ⟨s, hreach, hnumbers, (relays_all_iff hreach).mpr hclimbs⟩

/-- Any number of data messages moves the counter on, and nothing else that matters here. -/
theorem data_run (s : State) (n : ℕ) :
    ∃ s', system.runFrom s
        (List.replicate n (.masterData quietEnv AdapterTypes.unknownAdapter zeroPayload)) =
          some s' ∧
      s'.master.txSeqNum = s.master.txSeqNum + UInt16.ofNat n ∧
      s'.master.lastBeaconMillis = s.master.lastBeaconMillis ∧ s'.air = s.air ∧
      s'.received = s.received := by
  induction n generalizing s with
  | zero =>
      refine ⟨s, rfl, ?_, rfl, rfl, rfl⟩
      rw [show UInt16.ofNat 0 = 0 from rfl, UInt16.add_zero]
  | succ n ih =>
      have hmaster : (s.masterData quietEnv AdapterTypes.unknownAdapter zeroPayload).master =
          { s.master with txSeqNum := s.master.txSeqNum + 1 } := transmit_fst _ _ _ _
      obtain ⟨s', hrun, htx, hlast, hair, hreceived⟩ :=
        ih (s.masterData quietEnv AdapterTypes.unknownAdapter zeroPayload)
      rw [hmaster] at htx hlast
      refine ⟨s', ?_, ?_, hlast, hair, hreceived⟩
      · rw [List.replicate_succ, System.runFrom_cons]
        exact hrun
      · rw [htx, UInt16.ofNat_add, UInt16.add_comm (UInt16.ofNat n), ← UInt16.add_assoc]
        rfl

/-- After 65534 more messages the counter has wrapped: the next beacon is heard, within the hop
limit, and is not relayed.
SOURCE: Mesh.cpp:367, 901-906 -/
theorem not_relays_all_wrapped :
    ∃ s, system.Reachable s ∧ (∀ d ∈ s.received, d.msg.hopCount < Config.maxHops) ∧
      ¬AllScheduled s.received := by
  obtain ⟨s₁, d, hrun, -, hair, hreceived, hseq, hhop, htx, hlast⟩ := first_run
  obtain ⟨s₂, hrun₂, htx₂, hlast₂, hair₂, hreceived₂⟩ := data_run s₁ 65534
  have hdue : ¬at6s.millis - s₂.master.lastBeaconMillis < Config.masterBeaconIntervalMs := by
    rw [hlast₂, hlast]
    decide
  have hair₃ : (s₂.masterBeacon at6s).air =
      [(s₂.built + 1, MeshNetwork.beaconFrame s₂.master)] := by
    simp only [State.masterBeacon, hair₂, hair, List.nil_append]
    rw [broadcastMasterBeacon_sent hdue rfl]
    rfl
  have hwrapped : (MeshNetwork.beaconFrame s₂.master).seqNum = 0 := by
    show s₂.master.txSeqNum + 1 = 0
    rw [htx₂, htx]
    decide
  have hreach₁ := System.Reachable.runFrom (.init start_booted) hrun
  have hreach₂ := hreach₁.runFrom hrun₂
  have hreach₃ := System.Reachable.step hreach₂ (step_masterBeacon s₂ at6s)
  have hreach := System.Reachable.step hreach₃ (step_receive quietEnv masterMac 0 masterMac hair₃)
  have hreceived₄ : (s₂.masterBeacon at6s).received = [d] := by
    rw [masterBeacon_received, hreceived₂, hreceived]
  refine ⟨_, hreach, ?_, ?_⟩
  · simp only [State.receive, hreceived₄, List.forall_mem_cons]
    exact ⟨(by decide : (0 : UInt8) < Config.maxHops), hhop,
      fun e he => absurd he List.not_mem_nil⟩
  · rw [relays_all_iff hreach]
    simp only [State.receive, hreceived₄]
    rintro ⟨⟨-, -, habove⟩, -⟩
    have hlt : d.msg.seqNum < (MeshNetwork.beaconFrame s₂.master).seqNum :=
      habove d List.mem_cons_self
    rw [hseq, hwrapped] at hlt
    exact absurd hlt (by decide)

end BeaconUptime

end LatticeNodes.Analysis
