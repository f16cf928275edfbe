import LatticeNodes.Analysis.BootEpochs
import LatticeNodes.Analysis.MasterLiveness
import LatticeNodes.Analysis.ReceiveQueue

/-!
# A followed master is never given up

The other end of the heartbeat: the loop of a master and the beacons it sends.  Whatever the
master receives and relays in between, its beacons keep their pace over any uptime
(`beacons_paced`).

Then a master and a node that follows it, with a radio that carries each beacon to the node within
a bounded time, over any number of hops, or loses it.  A beacon is of no use when it has come too
far, or when a frame with its key was drained before it, as a forged one can be (`Usable`,
`missed_of_drained`).  As long as no more than `k` beacons in a row are lost or of no use, and `k`
intervals and passes of the master's loop, one of each more and the travel time do not exceed
`STALE_MASTER_THRESHOLD_MS`, the node never loses its master (`keeps_master`): not by the timeout,
and not to the beacon of a stranger.
-/

set_option autoImplicit false

namespace LatticeNodes.Analysis

open LatticeNodes.Program TransitionSystem WrappingClock Heartbeat BootEpochs

namespace FollowedMaster

/-! ## One pass of the master's loop -/

/-- The messages of the node itself: a relay copy has hops. -/
def ownMessages (effects : List Effect) : List MeshMessage :=
  ((sentFrames effects).map Prod.snd).filter fun msg => msg.hopCount == 0

/-- The messages a node builds in two lists of effects. -/
theorem ownMessages_append (xs ys : List Effect) :
    ownMessages (xs ++ ys) = ownMessages xs ++ ownMessages ys := by
  simp [ownMessages]

/-- Nothing but the beacon itself touches its timer; what waits to be relayed is a copy. -/
structure SameSource (m m' : Mesh) : Prop where
  isMaster : m'.isMaster = m.isMaster
  deviceMacAddress : m'.deviceMacAddress = m.deviceMacAddress
  lastBeaconMillis : m'.lastBeaconMillis = m.lastBeaconMillis
  relays : RelaysOnly m'

instance (m : Mesh) : Decidable (RelaysOnly m) :=
  inferInstanceAs (Decidable (_ → _))

instance (m m' : Mesh) : Decidable (SameSource m m') :=
  decidable_of_iff
    (m'.isMaster = m.isMaster ∧ m'.deviceMacAddress = m.deviceMacAddress ∧
      m'.lastBeaconMillis = m.lastBeaconMillis ∧ RelaysOnly m')
    ⟨fun ⟨hmaster, hmac, hlast, hrelays⟩ => ⟨hmaster, hmac, hlast, hrelays⟩,
      fun ⟨hmaster, hmac, hlast, hrelays⟩ => ⟨hmaster, hmac, hlast, hrelays⟩⟩

/-- A part of the loop that sends no message of the node itself. -/
structure Aside (m : Mesh) (result : Mesh × List Effect) : Prop where
  source : SameSource m result.1
  silent : ownMessages result.2 = []

section Parts

variable {m m' : Mesh} {result : Mesh × List Effect}

/-- What two steps leave aside, they leave aside together. -/
theorem SameSource.trans (h : SameSource m m') {m'' : Mesh} (h' : SameSource m' m'') :
    SameSource m m'' :=
  ⟨h'.isMaster.trans h.isMaster, h'.deviceMacAddress.trans h.deviceMacAddress,
    h'.lastBeaconMillis.trans h.lastBeaconMillis, h'.relays⟩

/-- Copies are no messages of the node itself. -/
theorem ownMessages_of_forwards (h : BootEpochs.Forwards m result) : ownMessages result.2 = [] := by
  rw [ownMessages, List.filter_eq_nil_iff]
  intro msg hmsg
  obtain ⟨f, hf, rfl⟩ := List.mem_map.mp hmsg
  have hhops := h.frames f hf
  simpa using hhops

/-- Work that forwards copies and keeps the timer leaves the beacons aside. -/
theorem Aside.of_forwards (h : BootEpochs.Forwards m result)
    (hmaster : result.1.isMaster = m.isMaster)
    (hmac : result.1.deviceMacAddress = m.deviceMacAddress)
    (hlast : result.1.lastBeaconMillis = m.lastBeaconMillis) : Aside m result :=
  ⟨⟨hmaster, hmac, hlast, h.relays⟩, ownMessages_of_forwards h⟩

/-- One part of the loop after another. -/
theorem Aside.append (h : Aside m result) {later : Mesh × List Effect}
    (h' : Aside result.1 later) : Aside m (later.1, result.2 ++ later.2) := by
  refine ⟨h.source.trans h'.source, ?_⟩
  rw [ownMessages_append, h.silent, h'.silent, List.append_nil]

/-- No handler touches the beacon timer.
SOURCE: Mesh.cpp:563-604 -/
theorem handleEntry_lastBeaconMillis (m : Mesh) (env : Env) (entry : RecvQueueEntry) :
    (m.handleEntry env entry).1.lastBeaconMillis = m.lastBeaconMillis := by
  cases hreceived : received m env entry with
  | none => rw [handleEntry_of_dropped hreceived]
  | some m₁ =>
      have hbefore : m₁.lastBeaconMillis = m.lastBeaconMillis := by
        rw [received_frame hreceived]
      rw [handleEntry_of_received hreceived, ← hbefore]
      by_cases hbeacon : entry.msg.messageType = MeshMessageType.masterBeacon
      · rw [dispatch_masterBeacon m₁ env hbeacon]
        rcases processMasterBeacon_inv m₁ env entry.msg with ⟨-, heq⟩ | ⟨m₂, _, -, -, htrust, heq⟩
        · rw [heq]
        · have hafter : (afterTrust m₂ env entry.msg).lastBeaconMillis = m₂.lastBeaconMillis := by
            by_cases hskip : m₂.isMaster = true ∨ m₂.isNewer entry.msg = false
            · rw [afterTrust_of_not_relayed hskip, noted]
            · obtain ⟨hnode, hnew⟩ := not_or.mp hskip
              obtain ⟨time, hrelayed⟩ :=
                @afterTrust_of_relayed m₂ env entry.msg (by simpa using hnode) (by simpa using hnew)
              rw [hrelayed, noted]
          rw [heq]
          refine hafter.trans ?_
          cases htrust with
          | _ => rfl
      · obtain ⟨mac, pubKey, relay, master, hasMaster, heq⟩ :=
          dispatch_frame_of_ne m₁ env hbeacon
        rw [heq]

/-- A drained frame leaves the beacons aside.
SOURCE: Mesh.cpp:563-604 -/
theorem handleEntry_aside (h : RelaysOnly m) (env : Env) (entry : RecvQueueEntry) :
    Aside m (m.handleEntry env entry) := by
  have hsame := handleEntry_sameNode m env entry
  exact .of_forwards (handleEntry_forwards h env entry) hsame.isMaster hsame.deviceMacAddress
    (handleEntry_lastBeaconMillis m env entry)

/-- A drain of the whole queue leaves the beacons aside.
SOURCE: Mesh.cpp:563-604 -/
theorem drainRecvQueue_aside (h : RelaysOnly m) (env : ℕ → Env) :
    Aside m (m.drainRecvQueue env) := by
  refine drainRecvQueue_rule (P := fun m _ _ result => RelaysOnly m → Aside m result) ?_ ?_ m env h
  · exact fun m env hrelays => ⟨⟨rfl, rfl, rfl, hrelays⟩, rfl⟩
  · intro m env entry entries rest hrest hrelays
    have hfirst : Aside m ((taken m).handleEntry (env 0) entry) := by
      have htaken : RelaysOnly (taken m) := hrelays
      obtain ⟨hsource, hsilent⟩ := handleEntry_aside htaken (env 0) entry
      exact ⟨⟨hsource.isMaster, hsource.deviceMacAddress, hsource.lastBeaconMillis,
        hsource.relays⟩, hsilent⟩
    exact hfirst.append (hrest hfirst.source.relays)

/-- Handing a request over leaves the beacons aside.
SOURCE: Mesh.cpp:1082-1089 -/
theorem drainPendingEnrollment_aside (h : RelaysOnly m) : Aside m m.drainPendingEnrollment := by
  have hforwards : BootEpochs.Forwards m m.drainPendingEnrollment :=
    Task.run_forwards h .drainPendingEnrollment
  have hframe := drainPendingEnrollment_frame m
  exact .of_forwards hforwards (by rw [hframe]) (by rw [hframe]) (by rw [hframe])

/-- The relay timer leaves the beacons aside.
SOURCE: Mesh.cpp:1099-1105 -/
theorem dispatchRelay_aside (h : RelaysOnly m) (env : Env) : Aside m (m.dispatchRelay env) := by
  have hforwards := dispatchRelay_forwards h env
  rcases dispatchRelay_fst m env with hsame | hsame
  · exact .of_forwards hforwards (by rw [hsame]) (by rw [hsame]) (by rw [hsame])
  · exact .of_forwards hforwards (by rw [hsame]) (by rw [hsame]) (by rw [hsame])

/-- A beacon of the master, as the network carries it. -/
structure BeaconOf (mac : MacAddress) (msg : MeshMessage) : Prop where
  protoVersion : msg.protoVersion = Config.protoVersion
  messageType : msg.messageType = MeshMessageType.masterBeacon
  origin : msg.originMacAddress = mac

/-- What a pass of the master's loop does: nothing before the beacon is due, and then one beacon
and the timer set to the reading. -/
inductive LoopPass (m : Mesh) (late : Env) (result : Mesh × List Effect) : Prop
  | early (hearly : late.millis - m.lastBeaconMillis < Config.masterBeaconIntervalMs)
      (hsource : SameSource m result.1) (hsilent : ownMessages result.2 = [])
  | beacon {msg : MeshMessage}
      (hdue : ¬late.millis - m.lastBeaconMillis < Config.masterBeaconIntervalMs)
      (hmaster : result.1.isMaster = true)
      (hmac : result.1.deviceMacAddress = m.deviceMacAddress)
      (hlast : result.1.lastBeaconMillis = late.millis) (hrelays : RelaysOnly result.1)
      (hsent : ownMessages result.2 = [msg]) (hbeacon : BeaconOf m.deviceMacAddress msg)

/-- **A pass of the whole loop, with all its receptions and relays.**
SOURCE: Mesh.cpp:684-703, 1091-1111 -/
theorem loop_pass (hmaster : m.isMaster = true) (h : RelaysOnly m) (env : ℕ → Env) {late : Env}
    (hsend : late.sendError broadcastMac = none) : LoopPass m late (m.loop env late) := by
  have hdrained := drainRecvQueue_aside h env
  have hrequest := drainPendingEnrollment_aside hdrained.source.relays
  have hrelay := dispatchRelay_aside hrequest.source.relays late
  have hbefore := (hdrained.append hrequest).append hrelay
  generalize hstate : ((m.drainRecvQueue env).1.drainPendingEnrollment.1.dispatchRelay late).1 =
    m₁ at hbefore
  obtain ⟨⟨hrole, hmac, hlast, hrelays⟩, hsilent⟩ := hbefore
  have hmaster₁ : m₁.isMaster = true := hrole.trans hmaster
  have hfst : (m.loop env late).1 = (m₁.broadcastMasterBeacon late).1 := by
    simp only [Mesh.loop, Mesh.timedWork, hstate, if_pos hmaster₁]
  have hsnd : ownMessages (m.loop env late).2 =
      ownMessages (m₁.broadcastMasterBeacon late).2 := by
    simp only [Mesh.loop, Mesh.timedWork, hstate, if_pos hmaster₁, ownMessages_append] at hsilent ⊢
    rw [← List.append_assoc, ← List.append_assoc, hsilent, List.nil_append]
  rcases BeaconUptime.broadcastMasterBeacon_cases m₁ late with ⟨hearly, heq⟩ | ⟨hdue, heq, -⟩
  · rw [heq] at hfst hsnd
    rw [hlast] at hearly
    exact .early hearly (by rw [hfst]; exact ⟨hrole, hmac, hlast, hrelays⟩) hsnd
  · have hsent : ownMessages (m₁.broadcastMasterBeacon late).2 = [MeshNetwork.beaconFrame m₁] := by
      rw [ownMessages, BeaconUptime.broadcastMasterBeacon_sent hdue hsend]
      rfl
    rw [heq] at hfst
    rw [hlast] at hdue
    refine .beacon hdue ?_ ?_ ?_ ?_ (hsnd.trans hsent) ⟨rfl, rfl, hmac⟩
    · rw [hfst]
      exact hmaster₁
    · rw [hfst]
      exact hmac
    · rw [hfst]
    · rw [hfst]
      exact hrelays

end Parts

/-! ## The pace of the beacons -/

/-- A master, its last pass through the loop, and the times of its beacons, newest first.  The
first is the boot, at which the timer starts. -/
structure Source where
  mesh : Mesh
  called : ℕ
  beacons : List ℕ

namespace Source

inductive Event where
  | loop (time : ℕ) (env : ℕ → Env) (late : Env)
  /-- Any other work of the master. -/
  | other (m' : Mesh)

/-- The time of the last beacon. -/
def fired (s : Source) : ℕ := s.beacons.headD 0

/-- The readings of the timed work. -/
def lateAt (time : ℕ) (late : Env) : Env :=
  { late with millis := reading time }

def pass (s : Source) (time : ℕ) (env : ℕ → Env) (late : Env) : Source :=
  let result := s.mesh.loop env (lateAt time late)
  { mesh := result.1
    called := time
    beacons := if ownMessages result.2 = [] then s.beacons else time :: s.beacons }

/-- Passes at most `gap` apart, with a radio that takes the beacons. -/
def step (gap : ℕ) (s : Source) : Event → Option Source
  | .loop time env late =>
      if s.called ≤ time ∧ time ≤ s.called + gap ∧ late.sendError broadcastMac = none then
        some (s.pass time env late)
      else none
  | .other m' => if SameSource s.mesh m' then some { s with mesh := m' } else none

/-- A master that has just booted.
SOURCE: Mesh.cpp:162-166 -/
structure Start (s : Source) : Prop where
  master : s.mesh.isMaster = true
  relays : RelaysOnly s.mesh
  timer : s.mesh.lastBeaconMillis = 0
  called : s.called = 0
  beacons : s.beacons = [0]

def system (gap : ℕ) : System Source Event where
  Init := Start
  step := step gap

/-- The timer holds the reading of the last beacon. -/
structure Timed (s : Source) : Prop where
  master : s.mesh.isMaster = true
  relays : RelaysOnly s.mesh
  timer : s.mesh.lastBeaconMillis = reading s.fired

/-- The master as a pulse. -/
def pulse (s : Source) : Pulse :=
  ⟨s.fired, s.called, s.beacons⟩

section Steps

variable {gap : ℕ} {s s' : Source}

/-- **The loop is a call of the pulse**: it sends a beacon when the pulse is due.
SOURCE: Mesh.cpp:1091-1111 -/
theorem Timed.pass (h : Timed s) (time : ℕ) (env : ℕ → Env) {late : Env}
    (hsend : late.sendError broadcastMac = none) :
    Timed (s.pass time env late) ∧
      (s.pass time env late).pulse = s.pulse.call Config.masterBeaconIntervalMs time ∧
      (s.pass time env late).mesh.deviceMacAddress = s.mesh.deviceMacAddress ∧
      ∃ sent, ownMessages (s.mesh.loop env (lateAt time late)).2 = sent ∧
        (∀ msg ∈ sent, BeaconOf s.mesh.deviceMacAddress msg) ∧
        sent.length = if Pulse.due Config.masterBeaconIntervalMs s.fired time then 1 else 0 := by
  have hsend' : (lateAt time late).sendError broadcastMac = none := hsend
  have hreading : (lateAt time late).millis = reading time := rfl
  have htimer := h.timer
  cases loop_pass h.master h.relays env hsend' with
  | early hearly hsource hsilent =>
      rw [hreading, htimer] at hearly
      have hnot : Pulse.due Config.masterBeaconIntervalMs s.fired time = false := by
        simp [Pulse.due, hearly]
      have hbeacons : (s.pass time env late).beacons = s.beacons := if_pos hsilent
      have hfired : (s.pass time env late).fired = s.fired := by rw [fired, hbeacons, fired]
      refine ⟨⟨hsource.isMaster.trans h.master, hsource.relays, ?_⟩, ?_,
        hsource.deviceMacAddress, [], hsilent, fun _ hmsg => absurd hmsg List.not_mem_nil, ?_⟩
      · rw [hfired, ← htimer]
        exact hsource.lastBeaconMillis
      · simp only [pulse, Pulse.call, hfired, hbeacons, hnot]
        rfl
      · rw [hnot]
        rfl
  | @beacon msg hdue hmaster hmac hlast hrelays hsent hbeacon =>
      rw [hreading, htimer] at hdue
      have hyes : Pulse.due Config.masterBeaconIntervalMs s.fired time = true := by
        simp [Pulse.due, hdue]
      have hsome : ownMessages (s.mesh.loop env (lateAt time late)).2 ≠ [] := by
        rw [hsent]
        exact List.cons_ne_nil _ _
      have hbeacons : (s.pass time env late).beacons = time :: s.beacons := if_neg hsome
      have hfired : (s.pass time env late).fired = time := by rw [fired, hbeacons]; rfl
      refine ⟨⟨hmaster, hrelays, ?_⟩, ?_, hmac, [msg], hsent, ?_, ?_⟩
      · rw [hfired]
        exact hlast
      · simp only [pulse, Pulse.call, hfired, hbeacons, hyes]
        rfl
      · intro msg' hmsg'
        rw [List.mem_singleton.mp hmsg']
        exact hbeacon
      · rw [hyes]
        rfl

/-- Other work keeps the master timed. -/
theorem Timed.other (h : Timed s) {m' : Mesh} (hsame : SameSource s.mesh m') :
    Timed { s with mesh := m' } :=
  ⟨hsame.isMaster.trans h.master, hsame.relays, hsame.lastBeaconMillis.trans h.timer⟩

/-- The master is timed in every reachable state. -/
theorem timed_of_reachable (h : (system gap).Reachable s) : Timed s := by
  refine h.invariant ?_ ?_
  · intro s hs
    refine ⟨hs.master, hs.relays, ?_⟩
    rw [hs.timer, fired, hs.beacons]
    rfl
  · intro s e s' hs hstep
    cases e with
    | loop time env late =>
        simp only [system, step, Option.ite_none_right_eq_some, Option.some.injEq] at hstep
        obtain ⟨⟨-, -, hsend⟩, rfl⟩ := hstep
        exact (hs.pass time env hsend).1
    | other m' =>
        simp only [system, step, Option.ite_none_right_eq_some, Option.some.injEq] at hstep
        obtain ⟨hsame, rfl⟩ := hstep
        exact hs.other hsame

/-- The master runs as a pulse does. -/
theorem pulse_reachable (h : (system gap).Reachable s) :
    (Pulse.system Config.masterBeaconIntervalMs gap).Reachable s.pulse := by
  refine h.simulate_of_reachable pulse ?_ ?_
  · intro s hs
    refine ⟨?_, ?_⟩
    · simp [pulse, fired, hs.called, hs.beacons]
    · simp [pulse, fired, hs.beacons]
  · intro s e s' hs hstep
    cases e with
    | loop time env late =>
        simp only [system, step, Option.ite_none_right_eq_some, Option.some.injEq] at hstep
        obtain ⟨⟨hlo, hhi, hsend⟩, rfl⟩ := hstep
        right
        refine ⟨time, ?_⟩
        rw [((timed_of_reachable hs).pass time env hsend).2.1]
        exact if_pos ⟨hlo, hhi⟩
    | other m' =>
        simp only [system, step, Option.ite_none_right_eq_some, Option.some.injEq] at hstep
        obtain ⟨-, rfl⟩ := hstep
        exact .inl rfl

end Steps

end Source

/-- **The beacons of a master keep their pace over any uptime**: two in a row are at least
`MASTER_BEACON_INTERVAL_MS` apart, and less than that and one pass of the loop; none is overdue.
SOURCE: Mesh.cpp:684-703, 1091-1111 -/
theorem beacons_paced {gap : ℕ} {s : Source}
    (hgap : Config.masterBeaconIntervalMs.toNat + gap ≤ UInt32.size)
    (h : (Source.system gap).Reachable s) :
    (s.beacons.IsChain fun later earlier =>
      earlier + Config.masterBeaconIntervalMs.toNat ≤ later ∧
        later < earlier + Config.masterBeaconIntervalMs.toNat + gap) ∧
    ∃ last, s.beacons.head? = some last ∧
      s.called < last + Config.masterBeaconIntervalMs.toNat := by
  have hperiod : 0 < Config.masterBeaconIntervalMs := by decide
  have hpulse := Pulse.paced_of_reachable hperiod hgap (Source.pulse_reachable h)
  exact ⟨hpulse.paced, s.fired, hpulse.last, hpulse.near⟩

/-! ## The node -/

/-- The node follows a master that it heard last at a time.  With a single master its route is
that master's. -/
structure Follows (mac : MacAddress) (heard : ℕ) (m : Mesh) : Prop where
  node : m.isMaster = false
  hasMaster : m.hasMasterMac = true
  known : m.knownMasterMac = mac
  stamp : m.lastMasterBeaconReceivedMs = reading heard
  route : m.currentMaster.distance ≠ 0xFF
  single : m.dualMasterMode = false → m.currentMaster.mac = mac

/-- Other work of the node, which touches neither trust nor the route. -/
structure Untouched (m m' : Mesh) : Prop where
  isMaster : m'.isMaster = m.isMaster
  trust : TrustAnchor.trustOf m' = TrustAnchor.trustOf m
  stamp : m'.lastMasterBeaconReceivedMs = m.lastMasterBeaconReceivedMs
  route : m'.currentMaster = m.currentMaster

instance (m m' : Mesh) : Decidable (Untouched m m') :=
  decidable_of_iff
    (m'.isMaster = m.isMaster ∧ TrustAnchor.trustOf m' = TrustAnchor.trustOf m ∧
      m'.lastMasterBeaconReceivedMs = m.lastMasterBeaconReceivedMs ∧
      m'.currentMaster = m.currentMaster)
    ⟨fun ⟨hmaster, htrust, hstamp, hroute⟩ => ⟨hmaster, htrust, hstamp, hroute⟩,
      fun ⟨hmaster, htrust, hstamp, hroute⟩ => ⟨hmaster, htrust, hstamp, hroute⟩⟩

/-- A copy of a beacon is of use: it has not come too far, and the replay cache does not hold its
key, from a frame drained before.
SOURCE: Mesh.cpp:524-537, 577-582, 833-836 -/
def Usable (m : Mesh) (msg : MeshMessage) : Prop :=
  msg.hopCount < Config.maxHops ∧
    (Mesh.replayChecked msg = true → Mesh.replayEntry msg ∉ m.replayCache.slots.toList)

instance (m : Mesh) (msg : MeshMessage) : Decidable (Usable m msg) :=
  inferInstanceAs (Decidable (_ ∧ _))

section Node

variable {mac : MacAddress} {heard : ℕ} {m m' : Mesh}

/-- A node whose master is fresh can tell the time it heard it. -/
theorem lt_size_of_fresh {t : ℕ} (h : t < heard + Config.staleMasterThresholdMs.toNat) :
    t < heard + UInt32.size := by
  have hsize : Config.staleMasterThresholdMs.toNat < UInt32.size := UInt32.toNat_lt_size _
  omega

/-- Other work keeps the node following. -/
theorem Follows.untouched (h : Follows mac heard m) (hsame : Untouched m m') :
    Follows mac heard m' := by
  obtain ⟨hknown, hhas, -, -, hdual⟩ := TrustAnchor.trustOf_eq_iff.mp hsame.trust
  refine ⟨hsame.isMaster.trans h.node, hhas.trans h.hasMaster, hknown.trans h.known,
    hsame.stamp.trans h.stamp, ?_, ?_⟩
  · rw [hsame.route]
    exact h.route
  · rw [hsame.route, hdual]
    exact h.single

/-- **Any frame whatsoever**, drained while the master is fresh, leaves the node with its master:
a stranger's beacon is refused, and an accepted one is the master's or, in dual-master mode, the
secondary's.
SOURCE: Mesh.cpp:563-604, 831-897 -/
theorem Follows.handleEntry (h : Follows mac heard m) (start finish : ℕ) (hpast : heard ≤ start)
    (hfresh : start < heard + Config.staleMasterThresholdMs.toNat) (env : Env)
    (entry : RecvQueueEntry) :
    Follows mac
      (if TrustAnchor.accepts m (TrustAnchor.envAt start finish env) entry then finish else heard)
      (m.handleEntry (TrustAnchor.envAt start finish env) entry).1 := by
  have hsame := handleEntry_sameNode m (TrustAnchor.envAt start finish env) entry
  have hnode := hsame.isMaster.trans h.node
  cases TrustAnchor.handleEntry_trustMove m (TrustAnchor.envAt start finish env) entry with
  | kept hrefused htrust hlast =>
      rw [hrefused, if_neg Bool.false_ne_true]
      exact h.untouched ⟨hsame.isMaster, htrust, hlast, route_of_refused hrefused⟩
  | joinAck _ hno _ _ =>
      rw [h.hasMaster] at hno
      cases hno
  | beacon haccepted hbefore hlastBefore hstep htrust hlast =>
      rw [haccepted, if_pos rfl]
      obtain ⟨hdistance, horigin⟩ := MasterLiveness.route_of_accepts haccepted
      obtain ⟨hknown, hhas, -, -, hdual⟩ := TrustAnchor.trustOf_eq_iff.mp htrust
      obtain ⟨hknown₁, hhas₁, -, -, hdual₁⟩ := TrustAnchor.trustOf_eq_iff.mp hbefore
      rw [h.hasMaster] at hhas₁
      rw [h.known] at hknown₁
      cases hstep with
      | learnPrimary hno =>
          rw [hhas₁] at hno
          cases hno
      | learnSecondary hyes hprimary hmode hfree =>
          refine ⟨hnode, hhas.trans hhas₁, hknown.trans hknown₁, hlast, hdistance, ?_⟩
          intro hsingle
          rw [hdual, hmode] at hsingle
          cases hsingle
      | hotswap hyes hprimary hsecondary hstale =>
          rw [hlastBefore, h.stamp] at hstale
          have hclock : reading start - reading heard < Config.staleMasterThresholdMs := by
            rw [elapsed_lt_iff hpast (lt_size_of_fresh hfresh)]
            exact hfresh
          exact absurd hclock hstale
      | trusted hyes hfrom =>
          refine ⟨hnode, hhas.trans hhas₁, hknown.trans hknown₁, hlast, hdistance, ?_⟩
          intro hsingle
          rw [hdual] at hsingle
          rcases hfrom with hprimary | ⟨hmode, -, -⟩
          · rw [horigin, hprimary, hknown₁]
          · rw [hsingle] at hmode
            cases hmode

/-- The gate drops a beacon exactly when the cache holds its key.
SOURCE: Mesh.cpp:565-582 -/
theorem passGate_isSome_iff {msg : MeshMessage} (h : msg.protoVersion = Config.protoVersion) :
    (m.passGate msg).isSome = true ↔
      (Mesh.replayChecked msg = true → Mesh.replayEntry msg ∉ m.replayCache.slots.toList) := by
  by_cases hchecked : Mesh.replayChecked msg = true
  · rw [(@passGate_checked m _ hchecked).1, Bool.not_eq_true', ← Bool.not_eq_true,
      BoundedFifo.Ring.check_fst_iff, Vector.mem_toList_iff]
    exact ⟨fun hnew _ => hnew, fun hnew => hnew hchecked⟩
  · refine ⟨fun _ hyes => absurd hyes hchecked, fun _ => ?_⟩
    exact (@passGate_unchecked m _ (by simpa using hchecked)).1 (.inr h)

/-- **A copy of the master's beacon is accepted exactly when it is of use.**
SOURCE: Mesh.cpp:563-604, 831-870 -/
theorem Follows.accepts_iff (h : Follows mac heard m) {entry : RecvQueueEntry}
    (hbeacon : BeaconOf mac entry.msg) (env : Env) :
    TrustAnchor.accepts m env entry = true ↔ Usable m entry.msg := by
  have hgate := @passGate_isSome_iff m _ hbeacon.protoVersion
  rw [Usable, ← hgate, ← isSome_received m env entry, TrustAnchor.accepts]
  cases hreceived : received m env entry with
  | none => simp
  | some m' =>
      have hknown : entry.msg.originMacAddress = m'.knownMasterMac := by
        rw [received_frame hreceived, hbeacon.origin]
        exact h.known.symm
      simp only [hbeacon.messageType, beq_self_eq_true, Bool.true_and, Option.isSome_some, and_true]
      exact BeaconUptime.acceptsBeacon_trusted env hknown

/-- A frame of any type with the key of a beacon, drained first, makes the beacon useless.
SOURCE: Mesh.cpp:524-537, 577-582 -/
theorem not_usable_of_drained {msg : MeshMessage} (env : Env) {entry : RecvQueueEntry}
    (hchecked : Mesh.replayChecked entry.msg = true)
    (hversion : msg.protoVersion = Config.protoVersion)
    (hkey : Mesh.replayEntry entry.msg = Mesh.replayEntry msg) :
    ¬Usable (m.handleEntry env entry).1 msg := by
  rintro ⟨-, hnew⟩
  have hepoch : entry.msg.epochNum = msg.epochNum := congrArg ReplayEntry.epoch hkey
  have hmsg : Mesh.replayChecked msg = true := by
    rw [Mesh.replayChecked, Bool.and_eq_true] at hchecked ⊢
    exact ⟨beq_iff_eq.mpr hversion, hepoch ▸ hchecked.2⟩
  apply hnew hmsg
  rw [handleEntry_replayCache, (passGate_checked hchecked).2, hkey, Vector.mem_toList_iff]
  exact BoundedFifo.Ring.mem_check_self _ _

/-- A check finds the master alive.
SOURCE: Mesh.cpp:801-815 -/
theorem Follows.checkMasterTimeout (h : Follows mac heard m) (time : ℕ) (hpast : heard ≤ time)
    (hfresh : time < heard + Config.staleMasterThresholdMs.toNat) (env : Env) :
    m.checkMasterTimeout (TrustAnchor.envAt time time env) = m := by
  have hnow : (TrustAnchor.envAt time time env).millis = reading time := rfl
  have hnot : ¬Config.staleMasterThresholdMs < reading time - reading heard := by
    rw [lt_elapsed_iff hpast (lt_size_of_fresh hfresh)]
    omega
  unfold Mesh.checkMasterTimeout
  rw [if_neg (by simp [h.node]), if_neg h.route, hnow, h.stamp, if_neg hnot]

end Node

/-! ## The pair -/

/-- The master with the beacons on their way to the node, oldest first, each with the time it was
sent; the node, its last reading, when it last accepted a beacon, and how many it missed since.
Times are those of the master's clock. -/
structure Pair where
  source : Source
  air : List (ℕ × MeshMessage)
  node : Mesh
  nodeClock : ℕ
  lastAccepted : ℕ
  clock : ℕ
  missed : ℕ

namespace Pair

inductive Event where
  | masterLoop (time : ℕ) (env : ℕ → Env) (late : Env)
  | masterOther (m' : Mesh)
  /-- The node drains the first copy of the oldest beacon on its way, over whatever path. -/
  | arrive (start finish : ℕ) (env : Env) (srcMac : MacAddress) (hopCount : UInt8)
      (lastHop : MacAddress)
  /-- The radio loses the oldest beacon on its way. -/
  | lose (time : ℕ)
  /-- The node drains any frame: a further copy, another node's message, a stranger's beacon, a
  forged frame. -/
  | receive (start finish : ℕ) (env : Env) (entry : RecvQueueEntry)
  | checkTimeout (time : ℕ) (env : Env)
  | nodeOther (m' : Mesh)

/-- Time has not passed a due pass of the master's loop, nor a beacon's arrival. -/
def Timely (gap latency : ℕ) (s : Pair) (t : ℕ) : Prop :=
  s.clock ≤ t ∧ t ≤ s.source.called + gap ∧ ∀ b ∈ s.air, t ≤ b.1 + latency

instance (gap latency : ℕ) (s : Pair) (t : ℕ) : Decidable (Timely gap latency s t) :=
  inferInstanceAs (Decidable (_ ∧ _))

/-- The node drains a frame; its clock is ahead of the master's. -/
def hear (ahead : ℕ) (s : Pair) (start finish : ℕ) (env : Env) (entry : RecvQueueEntry) : Pair :=
  let readings := TrustAnchor.envAt (start + ahead) (finish + ahead) env
  { s with
    node := (s.node.handleEntry readings entry).1
    nodeClock := finish
    lastAccepted :=
      if TrustAnchor.accepts s.node readings entry then finish else s.lastAccepted
    clock := finish
    missed := if TrustAnchor.accepts s.node readings entry then 0 else s.missed }

def masterLoop (s : Pair) (time : ℕ) (env : ℕ → Env) (late : Env) : Pair :=
  let sent := ownMessages (s.source.mesh.loop env (Source.lateAt time late)).2
  { s with
    source := s.source.pass time env late
    air := s.air ++ sent.map fun msg => (time, msg)
    clock := time }

def step (gap latency ahead : ℕ) (s : Pair) : Event → Option Pair
  | .masterLoop time env late =>
      if Timely gap latency s time ∧ late.sendError broadcastMac = none then
        some (s.masterLoop time env late)
      else none
  | .masterOther m' =>
      if SameSource s.source.mesh m' then some { s with source := { s.source with mesh := m' } }
      else none
  | .arrive start finish env srcMac hopCount lastHop =>
      match s.air with
      | [] => none
      | (_, beacon) :: air =>
          let entry := BeaconUptime.copyOf beacon srcMac hopCount lastHop
          if Timely gap latency s finish ∧ s.nodeClock ≤ start ∧ start ≤ finish then
            some { s.hear ahead start finish env entry with
              air := air
              missed := if Usable s.node entry.msg then 0 else s.missed + 1 }
          else none
  | .lose time =>
      match s.air with
      | [] => none
      | _ :: air =>
          if Timely gap latency s time then
            some { s with air := air, clock := time, missed := s.missed + 1 }
          else none
  | .receive start finish env entry =>
      if Timely gap latency s finish ∧ s.nodeClock ≤ start ∧ start ≤ finish then
        some (s.hear ahead start finish env entry)
      else none
  | .checkTimeout time env =>
      if Timely gap latency s time ∧ s.nodeClock ≤ time then
        some { s with
          node := s.node.checkMasterTimeout
            (TrustAnchor.envAt (time + ahead) (time + ahead) env)
          nodeClock := time
          clock := time }
      else none
  | .nodeOther m' => if Untouched s.node m' then some { s with node := m' } else none

/-- A master that has been up for any time, and a node that has just accepted its last
beacon. -/
structure Start (gap ahead : ℕ) (s : Pair) : Prop where
  source : (Source.system gap).Reachable s.source
  air : s.air = []
  follows : Follows s.source.mesh.deviceMacAddress (s.lastAccepted + ahead) s.node
  heard : s.source.fired ≤ s.lastAccepted
  called : s.source.called ≤ s.lastAccepted
  nodeClock : s.nodeClock = s.lastAccepted
  clock : s.clock = s.lastAccepted
  missed : s.missed = 0

def system (gap latency ahead : ℕ) : System Pair Event where
  Init := Start gap ahead
  step := step gap latency ahead

/-- The node misses the oldest beacon on its way: the radio loses it, or the copy that comes is of
no use. -/
def Misses (s : Pair) : Event → Prop
  | .arrive _ _ _ srcMac hopCount lastHop =>
      ∀ sent ∈ s.air.head?, ¬Usable s.node (BeaconUptime.copyOf sent.2 srcMac hopCount lastHop).msg
  | .lose _ => True
  | _ => False

instance (s : Pair) (e : Event) : Decidable (Misses s e) :=
  match e with
  | .arrive .. => inferInstanceAs (Decidable (∀ sent ∈ s.air.head?, _))
  | .lose _ => .isTrue trivial
  | .masterLoop .. | .masterOther _ | .receive .. | .checkTimeout .. | .nodeOther _ => .isFalse id

/-- The runs in which no more than `k` beacons in a row are missed. -/
def missingAtMost (k gap latency ahead : ℕ) : System Pair Event :=
  (system gap latency ahead).restrict (fun _ => True) fun s e => Misses s e → s.missed < k

/-- The two ends of the heartbeat. -/
def link (s : Pair) : Link :=
  ⟨s.source.fired, s.source.called, s.air.map Prod.fst, s.lastAccepted, s.clock, s.missed⟩

structure Inv (k gap latency ahead : ℕ) (s : Pair) : Prop where
  timed : Source.Timed s.source
  link : (Link.system Config.masterBeaconIntervalMs gap latency).Reachable s.link
  air : ∀ b ∈ s.air, BeaconOf s.source.mesh.deviceMacAddress b.2
  follows : Follows s.source.mesh.deviceMacAddress (s.lastAccepted + ahead) s.node
  heard : s.lastAccepted ≤ s.nodeClock
  missed : s.missed ≤ k

section Steps

variable {k gap latency ahead : ℕ} {s s' : Pair} {start finish : ℕ}

/-- The link and the pair have the same times. -/
theorem timely_link_iff {t : ℕ} : Link.Timely gap latency s.link t ↔ Timely gap latency s t := by
  simp only [Link.Timely, Timely, link, List.forall_mem_map]

/-- A threshold below the wrap leaves room for one beat. -/
theorem interval_add_gap_le
    (hfits : (k + 1) * (Config.masterBeaconIntervalMs.toNat + gap) + latency ≤
      Config.staleMasterThresholdMs.toNat) :
    Config.masterBeaconIntervalMs.toNat + gap ≤ UInt32.size := by
  have hsize : Config.staleMasterThresholdMs.toNat < UInt32.size := UInt32.toNat_lt_size _
  have hone : Config.masterBeaconIntervalMs.toNat + gap ≤
      (k + 1) * (Config.masterBeaconIntervalMs.toNat + gap) :=
    Nat.le_mul_of_pos_left _ k.succ_pos
  omega

/-- As long as time is on schedule, the master is fresh. -/
theorem Inv.fresh (h : Inv k gap latency ahead s)
    (hfits : (k + 1) * (Config.masterBeaconIntervalMs.toNat + gap) + latency ≤
      Config.staleMasterThresholdMs.toNat) {t : ℕ} (ht : Timely gap latency s t) :
    t < s.lastAccepted + Config.staleMasterThresholdMs.toNat := by
  have hinv := Link.inv_of_reachable (interval_add_gap_le hfits) (by decide) h.link
  have hrecent := hinv.recent_of_timely (timely_link_iff.mpr ht)
  have hmissed : (s.missed + 1) * (Config.masterBeaconIntervalMs.toNat + gap) ≤
      (k + 1) * (Config.masterBeaconIntervalMs.toNat + gap) :=
    Nat.mul_le_mul_right _ (Nat.succ_le_succ h.missed)
  have hlink : s.link.heard = s.lastAccepted ∧ s.link.missed = s.missed := ⟨rfl, rfl⟩
  rw [hlink.1, hlink.2] at hrecent
  omega

/-- **A drained frame**, whatever it is, leaves the node with its master. -/
theorem Inv.hear (h : Inv k gap latency ahead s)
    (hfits : (k + 1) * (Config.masterBeaconIntervalMs.toNat + gap) + latency ≤
      Config.staleMasterThresholdMs.toNat) (ht : Timely gap latency s finish)
    (hpast : s.nodeClock ≤ start) (hle : start ≤ finish) (env : Env) (entry : RecvQueueEntry) :
    Follows s.source.mesh.deviceMacAddress
        ((s.hear ahead start finish env entry).lastAccepted + ahead)
        (s.hear ahead start finish env entry).node ∧
      (s.hear ahead start finish env entry).lastAccepted ≤ finish := by
  have hfresh := h.fresh hfits ht
  have hheard := h.heard
  have hfollows := h.follows.handleEntry (start + ahead) (finish + ahead) (by omega) (by omega)
    env entry
  simp only [Pair.hear]
  split at hfollows
  · next hyes =>
    rw [if_pos hyes]
    exact ⟨hfollows, le_rfl⟩
  · next hno =>
    rw [if_neg hno]
    exact ⟨hfollows, by omega⟩

/-- **The copy of a beacon that comes is heard or missed.** -/
theorem Inv.arrive (h : Inv k gap latency ahead s)
    (hfits : (k + 1) * (Config.masterBeaconIntervalMs.toNat + gap) + latency ≤
      Config.staleMasterThresholdMs.toNat) (ht : Timely gap latency s finish)
    (hpast : s.nodeClock ≤ start) (hle : start ≤ finish) (env : Env) (srcMac : MacAddress)
    (hopCount : UInt8) (lastHop : MacAddress) {sentAt : ℕ} {beacon : MeshMessage}
    {air : List (ℕ × MeshMessage)} (hair : s.air = (sentAt, beacon) :: air)
    (hfew : ¬Usable s.node (BeaconUptime.copyOf beacon srcMac hopCount lastHop).msg →
      s.missed < k) :
    Inv k gap latency ahead
      { s.hear ahead start finish env (BeaconUptime.copyOf beacon srcMac hopCount lastHop) with
        air := air
        missed := if Usable s.node (BeaconUptime.copyOf beacon srcMac hopCount lastHop).msg then 0
          else s.missed + 1 } := by
  have hsent := h.air (sentAt, beacon) (by rw [hair]; exact List.mem_cons_self)
  have hcopy : BeaconOf s.source.mesh.deviceMacAddress
      (BeaconUptime.copyOf beacon srcMac hopCount lastHop).msg :=
    ⟨hsent.protoVersion, hsent.messageType, hsent.origin⟩
  have haccepts := h.follows.accepts_iff hcopy
    (TrustAnchor.envAt (start + ahead) (finish + ahead) env)
  have htimes : s.link.air = sentAt :: air.map Prod.fst := by
    simp only [Pair.link, hair, List.map_cons]
  obtain ⟨hfollows, hlast⟩ := h.hear hfits ht hpast hle env
    (BeaconUptime.copyOf beacon srcMac hopCount lastHop)
  refine ⟨h.timed, ?_, fun b hb => h.air b (by rw [hair]; exact List.mem_cons_of_mem _ hb),
    hfollows, hlast, ?_⟩
  · by_cases husable : Usable s.node (BeaconUptime.copyOf beacon srcMac hopCount lastHop).msg
    · refine .step h.link (e := .arrive finish) ?_
      rw [Link.step_arrive (timely_link_iff.mpr ht) htimes]
      simp only [Pair.link, Pair.hear, haccepts, husable, if_true]
    · refine .step h.link (e := .miss finish) ?_
      rw [Link.step_miss (timely_link_iff.mpr ht) htimes]
      simp only [Pair.link, Pair.hear, haccepts, husable, if_false]
  · show (if _ then _ else _) ≤ k
    split
    · exact Nat.zero_le k
    · next huseless => exact hfew huseless

/-- A pass of the master's loop is a call of the link's source. -/
theorem Inv.masterLoop (h : Inv k gap latency ahead s) {time : ℕ}
    (ht : Timely gap latency s time) (env : ℕ → Env) {late : Env}
    (hsend : late.sendError broadcastMac = none) :
    Inv k gap latency ahead (s.masterLoop time env late) := by
  obtain ⟨htimed, hpulse, hmac, sent, hsent, hbeacons, hlength⟩ := h.timed.pass time env hsend
  have hfired : (s.source.pass time env late).fired =
      if Pulse.due Config.masterBeaconIntervalMs s.source.fired time then time
      else s.source.fired := by
    have hcall := congrArg Pulse.fired hpulse
    rw [Pulse.call_fired] at hcall
    exact hcall
  have hair : (s.masterLoop time env late).air =
      s.air ++ sent.map fun msg => (time, msg) := by
    simp only [Pair.masterLoop, hsent]
  have htimes : ((s.masterLoop time env late).air.map Prod.fst) =
      if Pulse.due Config.masterBeaconIntervalMs s.source.fired time then
        s.air.map Prod.fst ++ [time]
      else s.air.map Prod.fst := by
    rw [hair, List.map_append, List.map_map]
    have hconst : sent.map (Prod.fst ∘ fun msg => (time, msg)) =
        List.replicate sent.length time := by
      simp [Function.comp_def, List.map_const']
    rw [hconst, hlength]
    split
    · rfl
    · exact List.append_nil _
  have hlink : (s.masterLoop time env late).link = { s.link with
      fired := (s.source.pass time env late).fired
      called := time
      air := (s.masterLoop time env late).air.map Prod.fst
      now := time } := rfl
  refine ⟨htimed, .step h.link (e := .call time) ?_, ?_, ?_, h.heard, h.missed⟩
  · rw [Link.step_call (timely_link_iff.mpr ht), hlink, hfired, htimes]
    rfl
  · intro b hb
    rw [hair] at hb
    show BeaconOf (s.source.pass time env late).mesh.deviceMacAddress b.2
    rw [hmac]
    rcases List.mem_append.mp hb with hold | hnew
    · exact h.air b hold
    · obtain ⟨msg, hmsg, rfl⟩ := List.mem_map.mp hnew
      exact hbeacons msg hmsg
  · show Follows (s.source.pass time env late).mesh.deviceMacAddress _ _
    rw [hmac]
    exact h.follows

/-- **Every step of the pair keeps the invariant**, one case for each event: a beacon that comes is
accepted exactly when it is of use, and the link has the rest. -/
theorem Inv.step (h : Inv k gap latency ahead s)
    (hfits : (k + 1) * (Config.masterBeaconIntervalMs.toNat + gap) + latency ≤
      Config.staleMasterThresholdMs.toNat) {e : Event} (hfew : Misses s e → s.missed < k)
    (hstep : step gap latency ahead s e = some s') : Inv k gap latency ahead s' := by
  cases e with
  | masterLoop time env late =>
      simp only [Pair.step, Option.ite_none_right_eq_some, Option.some.injEq] at hstep
      obtain ⟨⟨ht, hsend⟩, rfl⟩ := hstep
      exact h.masterLoop ht env hsend
  | masterOther m' =>
      simp only [Pair.step, Option.ite_none_right_eq_some, Option.some.injEq] at hstep
      obtain ⟨hsame, rfl⟩ := hstep
      refine ⟨h.timed.other hsame, h.link, ?_, ?_, h.heard, h.missed⟩
      · intro b hb
        show BeaconOf m'.deviceMacAddress b.2
        rw [hsame.deviceMacAddress]
        exact h.air b hb
      · show Follows m'.deviceMacAddress _ _
        rw [hsame.deviceMacAddress]
        exact h.follows
  | arrive start finish env srcMac hopCount lastHop =>
      simp only [Pair.step] at hstep
      split at hstep
      · simp at hstep
      · next sentAt beacon air hair =>
        simp only [Option.ite_none_right_eq_some, Option.some.injEq] at hstep
        obtain ⟨⟨ht, hpast, hle⟩, rfl⟩ := hstep
        refine h.arrive hfits ht hpast hle env srcMac hopCount lastHop hair fun huseless => ?_
        refine hfew fun sent hsent => ?_
        rw [hair, List.head?_cons, Option.mem_some_iff] at hsent
        rwa [← hsent]
  | lose time =>
      simp only [Pair.step] at hstep
      split at hstep
      · simp at hstep
      · next sent air hair =>
        simp only [Option.ite_none_right_eq_some, Option.some.injEq] at hstep
        obtain ⟨ht, rfl⟩ := hstep
        have htimes : s.link.air = sent.1 :: air.map Prod.fst := by
          simp only [Pair.link, hair, List.map_cons]
        refine ⟨h.timed, .step h.link (e := .miss time) ?_,
          fun b hb => h.air b (by rw [hair]; exact List.mem_cons_of_mem _ hb), h.follows, h.heard,
          hfew trivial⟩
        rw [Link.step_miss (timely_link_iff.mpr ht) htimes]
        rfl
  | receive start finish env entry =>
      simp only [Pair.step, Option.ite_none_right_eq_some, Option.some.injEq] at hstep
      obtain ⟨⟨ht, hpast, hle⟩, rfl⟩ := hstep
      obtain ⟨hfollows, hlast⟩ := h.hear hfits ht hpast hle env entry
      refine ⟨h.timed, ?_, h.air, hfollows, hlast, ?_⟩
      · by_cases haccepted : TrustAnchor.accepts s.node
            (TrustAnchor.envAt (start + ahead) (finish + ahead) env) entry = true
        · refine .step h.link (e := .hear finish) ?_
          rw [Link.step_hear (timely_link_iff.mpr ht)]
          simp only [Pair.link, Pair.hear, haccepted, if_true]
        · refine .step h.link (e := .pass finish) ?_
          rw [Link.step_pass (timely_link_iff.mpr ht)]
          simp only [Pair.link, Pair.hear, if_neg haccepted]
      · show (if _ then _ else _) ≤ k
        split
        · exact Nat.zero_le k
        · exact h.missed
  | checkTimeout time env =>
      simp only [Pair.step, Option.ite_none_right_eq_some, Option.some.injEq] at hstep
      obtain ⟨⟨ht, hpast⟩, rfl⟩ := hstep
      have hfresh := h.fresh hfits ht
      have hheard := h.heard
      have hkept := h.follows.checkMasterTimeout (time + ahead) (by omega) (by omega) env
      refine ⟨h.timed, .step h.link (e := .pass time) ?_, h.air, ?_, hheard.trans hpast, h.missed⟩
      · rw [Link.step_pass (timely_link_iff.mpr ht)]
        rfl
      · rw [hkept]
        exact h.follows
  | nodeOther m' =>
      simp only [Pair.step, Option.ite_none_right_eq_some, Option.some.injEq] at hstep
      obtain ⟨hsame, rfl⟩ := hstep
      exact ⟨h.timed, h.link, h.air, h.follows.untouched hsame, h.heard, h.missed⟩

/-- A node that has just heard its master follows it. -/
theorem inv_of_start (h : Start gap ahead s)
    (hfits : (k + 1) * (Config.masterBeaconIntervalMs.toNat + gap) + latency ≤
      Config.staleMasterThresholdMs.toNat) : Inv k gap latency ahead s := by
  have hpulse := Pulse.paced_of_reachable (by decide) (interval_add_gap_le hfits)
    (Source.pulse_reachable h.source)
  refine ⟨Source.timed_of_reachable h.source, .init ?_, ?_, h.follows, h.nodeClock.ge, ?_⟩
  · refine ⟨hpulse.past, hpulse.near, ?_, h.heard, ?_, h.clock.symm, h.missed⟩
    · simp [link, h.air]
    · show s.source.called ≤ s.clock
      rw [h.clock]
      exact h.called
  · rw [h.air]
    exact fun b hb => absurd hb List.not_mem_nil
  · rw [h.missed]
    exact Nat.zero_le k

/-- **A forged frame can cost the node a beacon**: once a frame with the key of the oldest beacon on
its way is drained, whatever its type, the copy that comes next is missed.
SOURCE: Mesh.cpp:524-537, 577-582 -/
theorem missed_of_drained {s'' : Pair} {start' finish' : ℕ} {env env' : Env}
    {entry : RecvQueueEntry} {srcMac lastHop : MacAddress} {hopCount : UInt8} {sentAt : ℕ}
    {beacon : MeshMessage} {air : List (ℕ × MeshMessage)} (hair : s.air = (sentAt, beacon) :: air)
    (hversion : beacon.protoVersion = Config.protoVersion)
    (hchecked : Mesh.replayChecked entry.msg = true)
    (hkey : Mesh.replayEntry entry.msg = Mesh.replayEntry beacon)
    (hdrain : step gap latency ahead s (.receive start finish env entry) = some s')
    (harrive : step gap latency ahead s'
      (.arrive start' finish' env' srcMac hopCount lastHop) = some s'') :
    s''.missed = s'.missed + 1 := by
  simp only [Pair.step, Option.ite_none_right_eq_some, Option.some.injEq] at hdrain
  obtain ⟨-, rfl⟩ := hdrain
  have hair' : (s.hear ahead start finish env entry).air = (sentAt, beacon) :: air := hair
  simp only [Pair.step, hair', Option.ite_none_right_eq_some, Option.some.injEq] at harrive
  obtain ⟨-, rfl⟩ := harrive
  have huseless : ¬Usable (s.hear ahead start finish env entry).node
      (BeaconUptime.copyOf beacon srcMac hopCount lastHop).msg :=
    not_usable_of_drained _ hchecked hversion hkey
  simp only [if_neg huseless]

end Steps

end Pair

/-- **A node never loses a master it can hear**: as long as no more than `k` beacons in a row are
lost, come too far or find their key in the replay cache, and `k + 1` times the beacon interval and
the longest pass of the master's loop, and the longest way of a beacon, do not exceed
`STALE_MASTER_THRESHOLD_MS`, the node keeps the master it trusts and a route, whatever else it
receives; and in single-master mode the route is always to that master.
SOURCE: Mesh.cpp:563-604, 684-703, 801-815, 831-897, 1091-1111 -/
theorem keeps_master {k gap latency ahead : ℕ} {s : Pair}
    (hfits : (k + 1) * (Config.masterBeaconIntervalMs.toNat + gap) + latency ≤
      Config.staleMasterThresholdMs.toNat)
    (h : (Pair.missingAtMost k gap latency ahead).Reachable s) :
    s.node.hasMasterMac = true ∧ s.node.knownMasterMac = s.source.mesh.deviceMacAddress ∧
      s.node.currentMaster.distance ≠ 0xFF ∧
      (s.node.dualMasterMode = false →
        s.node.currentMaster.mac = s.source.mesh.deviceMacAddress) := by
  have hinv : Pair.Inv k gap latency ahead s := by
    refine h.invariant ?_ ?_
    · exact fun s hs => Pair.inv_of_start hs.1 hfits
    · intro s e s' hs hstep
      obtain ⟨hfew, hstep⟩ := System.restrict_step_eq_some_iff.mp hstep
      exact hs.step hfits hfew hstep
  obtain ⟨-, hhas, hknown, -, hroute, hsingle⟩ := hinv.follows
  exact ⟨hhas, hknown, hroute, hsingle⟩

/-! ## The first beacons -/

def masterMac : MacAddress := Vector.replicate 6 1

def bootedMaster : Source where
  mesh :=
    { Mesh.new with
      deviceMacAddress := masterMac
      isMaster := true
      bootEpoch := 1 }
  called := 0
  beacons := [0]

/-- The booted master is a start. -/
theorem start_bootedMaster : Source.Start bootedMaster where
  master := rfl
  relays := by
    intro hpending
    cases hpending
  timer := rfl
  called := rfl
  beacons := rfl

/-- Two passes, three seconds apart. -/
theorem twoPasses_run :
    ∃ s, (Source.system 3000).runFrom bootedMaster
        [.loop 3000 (fun _ => quietEnv) quietEnv, .loop 6000 (fun _ => quietEnv) quietEnv] =
          some s ∧ s.beacons = [6000, 3000, 0] :=
  ⟨_, rfl, rfl⟩

/-- Two passes three seconds apart, with a beacon each. -/
theorem beacons_paced_two :
    ∃ s, (Source.system 3000).Reachable s ∧ s.beacons = [6000, 3000, 0] ∧
      s.beacons.IsChain fun later earlier =>
        earlier + Config.masterBeaconIntervalMs.toNat ≤ later ∧
          later < earlier + Config.masterBeaconIntervalMs.toNat + 3000 := by
  obtain ⟨s, hrun, hbeacons⟩ := twoPasses_run
  have hreach := System.Reachable.runFrom (.init start_bootedMaster) hrun
  exact ⟨s, hreach, hbeacons, (beacons_paced (by decide) hreach).1⟩

/-- The node has just heard the first beacon; its clock is seven milliseconds ahead. -/
def firstHeard (source : Source) : Pair where
  source := source
  air := []
  node :=
    { Mesh.new with
      deviceMacAddress := Vector.replicate 6 2
      knownMasterMac := masterMac
      hasMasterMac := true
      lastMasterBeaconReceivedMs := 3017
      currentMaster := ⟨masterMac, 1, masterMac⟩ }
  nodeClock := 3010
  lastAccepted := 3010
  clock := 3010
  missed := 0

/-- A beacon of another master. -/
def strangerBeacon : RecvQueueEntry where
  srcMac := Vector.replicate 6 3
  msg :=
    { MeshMessage.zero with
      protoVersion := Config.protoVersion
      messageType := MeshMessageType.masterBeacon
      originMacAddress := Vector.replicate 6 3
      epochNum := 1
      seqNum := 1 }

/-- Data of a forger, with the key of the second beacon. -/
def forgedFrame : RecvQueueEntry where
  srcMac := Vector.replicate 6 3
  msg :=
    { MeshMessage.zero with
      protoVersion := Config.protoVersion
      messageType := MeshMessageType.adapterData
      originMacAddress := masterMac
      epochNum := 1
      seqNum := 2 }

/-- The forged frame costs the node the second beacon; the third comes over four hops, and the
stranger is refused in between. -/
theorem keeps_master_stranger :
    ∃ s₁ s, (Pair.missingAtMost 1 1000 100 7).Reachable s₁ ∧ s₁.missed = 1 ∧ s₁.clock = 6030 ∧
      (Pair.missingAtMost 1 1000 100 7).Reachable s ∧ s.lastAccepted = 9030 ∧
      s.node.hasMasterMac = true ∧ s.node.knownMasterMac = s.source.mesh.deviceMacAddress ∧
      s.node.currentMaster.distance ≠ 0xFF ∧
      (s.node.dualMasterMode = false →
        s.node.currentMaster.mac = s.source.mesh.deviceMacAddress) := by
  have hsource : ∃ source, (Source.system 1000).runFrom bootedMaster
      [.loop 1000 (fun _ => quietEnv) quietEnv, .loop 2000 (fun _ => quietEnv) quietEnv,
        .loop 3000 (fun _ => quietEnv) quietEnv] = some source ∧
        source.mesh.deviceMacAddress = masterMac ∧ source.fired = 3000 ∧ source.called = 3000 ∧
        ∃ s₁, (Pair.missingAtMost 1 1000 100 7).runFrom (firstHeard source)
          [.receive 3500 3500 quietEnv forgedFrame,
            .masterLoop 4000 (fun _ => quietEnv) quietEnv,
            .masterLoop 5000 (fun _ => quietEnv) quietEnv,
            .masterLoop 6000 (fun _ => quietEnv) quietEnv,
            .arrive 6020 6030 quietEnv (Vector.replicate 6 4) 4 (Vector.replicate 6 4)] =
              some s₁ ∧ s₁.missed = 1 ∧ s₁.clock = 6030 ∧
          ∃ s, (Pair.missingAtMost 1 1000 100 7).runFrom s₁
            [.receive 6500 6500 quietEnv strangerBeacon,
              .masterLoop 7000 (fun _ => quietEnv) quietEnv,
              .masterLoop 8000 (fun _ => quietEnv) quietEnv,
              .masterLoop 9000 (fun _ => quietEnv) quietEnv,
              .arrive 9020 9030 quietEnv (Vector.replicate 6 4) 4 (Vector.replicate 6 4),
              .checkTimeout 9040 quietEnv] = some s ∧ s.lastAccepted = 9030 :=
    ⟨_, rfl, rfl, rfl, rfl, _, rfl, rfl, rfl, _, rfl, rfl⟩
  obtain ⟨source, hboot, hmac, hfired, hcalled, s₁, hrun₁, hmissed, hclock, s, hrun, hlast⟩ :=
    hsource
  have hstart : Pair.Start 1000 7 (firstHeard source) := by
    refine ⟨.runFrom (.init start_bootedMaster) hboot, rfl, ?_, ?_, ?_, rfl, rfl, rfl⟩
    · refine ⟨rfl, rfl, hmac.symm, rfl, ?_, fun _ => hmac.symm⟩
      exact (by decide : (1 : UInt8) ≠ 0xFF)
    · exact (show source.fired ≤ 3010 by omega)
    · exact (show source.called ≤ 3010 by omega)
  have hinit : (Pair.missingAtMost 1 1000 100 7).Init (firstHeard source) := ⟨hstart, trivial⟩
  have hreach₁ := System.Reachable.runFrom (.init hinit) hrun₁
  have hreach := System.Reachable.runFrom hreach₁ hrun
  exact ⟨s₁, s, hreach₁, hmissed, hclock, hreach, hlast, keeps_master (by decide) hreach⟩

end FollowedMaster

end LatticeNodes.Analysis
