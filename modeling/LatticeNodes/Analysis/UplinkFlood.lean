import LatticeNodes.Analysis.BestRoute
import LatticeNodes.Analysis.BootEpochs
import LatticeNodes.Analysis.ReceiveQueue
import LatticeNodes.Analysis.RouteHealing
import LatticeNodes.Analysis.SelfEcho

/-!
# Uplink data without a route

A node passes adapter data up when they are for the master of its *route*, while the master it
trusts is kept in a field of its own.  With one master the two differ in one way only, whatever the
node has been through: there is no route (`oneMaster_of_reachable`).  Data for the trusted master
are then data like any others, and go to every peer: `sentUp_iff`.
-/

set_option autoImplicit false

namespace LatticeNodes.Analysis

open LatticeNodes.Program TransitionSystem

namespace UplinkFlood

open TrustAnchor

/-! ## The system -/

/-- The mesh object when `setup()` returns; over a failed `esp_now_init` it never does.
SOURCE: main.ino:230-282 -/
def booted (em : EepromManager) (tls : Mbedtls) (r : Mesh.InitEnv) (isMaster : Bool) :
    Option Mesh :=
  let result := Mesh.new.init em tls r
  if result.1 then some (result.2.1.1.link isMaster) else none

inductive Event where
  /-- The node restarts, with anything in its flash and in either role. -/
  | boot (em : EepromManager) (tls : Mbedtls) (r : Mesh.InitEnv) (isMaster : Bool)
  /-- The drain loop takes an entry out of the queue; to handle one is a task. -/
  | take
  | task (t : BootEpochs.Task)
  | call (env : Env) (c : MeshNetwork.Call)
  /-- The role button in developer mode. -/
  | setIsMaster (isMaster : Bool)

/-- SOURCE: Mesh.cpp:563-567, main.ino:374-383 -/
def step (m : Mesh) : Event → Option Mesh
  | .boot em tls r isMaster => booted em tls r isMaster
  | .take => if m.recvQueue.tail = m.recvQueue.head then none else some (taken m)
  | .task t => some (t.run m).1
  | .call env c => some (c.run m env).1
  | .setIsMaster isMaster => some { m with isMaster := isMaster }

def system : System Mesh Event where
  Init m := ∃ em tls r isMaster, booted em tls r isMaster = some m
  step := step

/-! ## Statement -/

/-- Adapter data for the one trusted master, at a node on their way. -/
structure ForMaster (m : Mesh) (msg : MeshMessage) : Prop where
  data : msg.messageType = MeshMessageType.adapterData
  node : m.isMaster = false
  single : m.dualMasterMode = false
  known : m.hasMasterMac = true
  target : msg.targetMacAddress = m.knownMasterMac
  other : msg.targetMacAddress ≠ m.deviceMacAddress
  unicast : msg.targetMacAddress ≠ broadcastMac

instance (m : Mesh) (msg : MeshMessage) : Decidable (ForMaster m msg) :=
  decidable_of_iff
    (msg.messageType = MeshMessageType.adapterData ∧ m.isMaster = false ∧
      m.dualMasterMode = false ∧ m.hasMasterMac = true ∧
      msg.targetMacAddress = m.knownMasterMac ∧ msg.targetMacAddress ≠ m.deviceMacAddress ∧
      msg.targetMacAddress ≠ broadcastMac)
    ⟨fun ⟨hdata, hnode, hsingle, hknown, htarget, hother, hunicast⟩ =>
      ⟨hdata, hnode, hsingle, hknown, htarget, hother, hunicast⟩,
      fun ⟨hdata, hnode, hsingle, hknown, htarget, hother, hunicast⟩ =>
        ⟨hdata, hnode, hsingle, hknown, htarget, hother, hunicast⟩⟩

/-- Whatever the drivers answer, at most one frame is sent, and to the next hop of the route. -/
def SentUp (m : Mesh) (msg : MeshMessage) : Prop :=
  ∀ env, (sentFrames (m.processAdapterData env msg).2).length ≤ 1 ∧
    ∀ f ∈ sentFrames (m.processAdapterData env msg).2, f.1 = m.currentMaster.nextHop

/-- SOURCE: Mesh.cpp:339 -/
def HasRoute (m : Mesh) : Prop :=
  m.currentMaster.distance ≠ 0xFF

instance (m : Mesh) : Decidable (HasRoute m) :=
  inferInstanceAs (Decidable (_ ≠ _))

/-- The addresses in the peer table but the node's own.
SOURCE: Mesh.cpp:975-979 -/
def others (m : Mesh) : List MacAddress :=
  (macs m.peers).filter fun mac => mac ≠ m.deviceMacAddress

/-- The route leads to the trusted master, or there is none. -/
structure OneMaster (m : Mesh) : Prop where
  single : m.dualMasterMode = false
  route : m.currentMaster = ⟨zeroMac, 0xFF, zeroMac⟩ ∨
    HasRoute m ∧ m.hasMasterMac = true ∧ m.currentMaster.mac = m.knownMasterMac

/-! ## The route and the trusted master -/

section Route

variable {m m' : Mesh}

/-- Work that keeps route and trust keeps the one master. -/
theorem OneMaster.kept (h : OneMaster m) (hroute : m'.currentMaster = m.currentMaster)
    (htrust : trustOf m' = trustOf m) : OneMaster m' := by
  have hmode : m'.dualMasterMode = m.dualMasterMode := congrArg Trust.dualMasterMode htrust
  have hhas : m'.hasMasterMac = m.hasMasterMac := congrArg Trust.hasMasterMac htrust
  have hmac : m'.knownMasterMac = m.knownMasterMac := congrArg Trust.knownMasterMac htrust
  refine ⟨hmode.trans h.single, ?_⟩
  rw [HasRoute, hroute, hhas, hmac]
  exact h.route

/-- Without a trusted master there is no route. -/
theorem OneMaster.unrouted (h : OneMaster m) (hno : m.hasMasterMac = false) :
    m.currentMaster = ⟨zeroMac, 0xFF, zeroMac⟩ := by
  rcases h.route with hnone | ⟨-, hhas, -⟩
  · exact hnone
  · rw [hno] at hhas
    cases hhas

/-- In single-master mode every accepted beacon is one of the trusted master, which it may just
have become.
SOURCE: Mesh.cpp:838-870 -/
theorem trustStep_origin {env : Env} {msg : MeshMessage} {effects : List Effect}
    (h : TrustStep m env msg m' effects) (hsingle : m.dualMasterMode = false) :
    m'.dualMasterMode = false ∧ m'.hasMasterMac = true ∧
      m'.knownMasterMac = msg.originMacAddress := by
  cases h with
  | learnPrimary hno => exact ⟨hsingle, rfl, rfl⟩
  | learnSecondary hhas hprimary hdual hfree =>
      rw [hsingle] at hdual
      cases hdual
  | hotswap hhas hprimary hsecondary hstale => exact ⟨hsingle, hhas, rfl⟩
  | trusted hhas hfrom =>
      refine ⟨hsingle, hhas, ?_⟩
      rcases hfrom with heq | ⟨hdual, -⟩
      · exact heq.symm
      · rw [hsingle] at hdual
        cases hdual

/-- SOURCE: Mesh.cpp:563-604, 831-921, 1012-1033 -/
theorem OneMaster.handleEntry (h : OneMaster m) (env : Env) (entry : RecvQueueEntry) :
    OneMaster (m.handleEntry env entry).1 := by
  have hmove := handleEntry_trustMove m env entry
  generalize hresult : (m.handleEntry env entry).1 = m' at hmove
  cases hmove with
  | kept hrefused htrust _ =>
      refine h.kept ?_ htrust
      rw [← hresult]
      exact route_of_refused hrefused
  | joinAck hrefused hno htrust _ =>
      have hmode : m'.dualMasterMode = m.dualMasterMode := congrArg Trust.dualMasterMode htrust
      refine ⟨hmode.trans h.single, .inl ?_⟩
      rw [← hresult, route_of_refused hrefused]
      exact h.unrouted hno
  | @beacon m₁ m₂ effects haccepted hbefore _ hstep htrust _ =>
      have hsingle : m₁.dualMasterMode = false :=
        (congrArg Trust.dualMasterMode hbefore).trans h.single
      obtain ⟨hmode, hhas, hmac⟩ := trustStep_origin hstep hsingle
      obtain ⟨-, hroute, hnear⟩ := handleEntry_of_accepts haccepted
      rw [hresult] at hroute
      refine ⟨(congrArg Trust.dualMasterMode htrust).trans hmode, .inr ⟨?_, ?_, ?_⟩⟩
      · rw [HasRoute, hroute]
        exact updateRoute_distance hnear
      · exact (congrArg Trust.hasMasterMac htrust).trans hhas
      · rw [hroute, updateRoute_mac]
        exact ((congrArg Trust.knownMasterMac htrust).trans hmac).symm

/-- SOURCE: Mesh.cpp:801-815 -/
theorem OneMaster.checkMasterTimeout (h : OneMaster m) (env : Env) :
    OneMaster (m.checkMasterTimeout env) := by
  have hroute := BestRoute.checkMasterTimeout_currentMaster m env
  have htrust : trustOf (m.checkMasterTimeout env) = trustOf m := by
    rw [checkMasterTimeout_frame]
    rfl
  split at hroute
  · have hmode : (m.checkMasterTimeout env).dualMasterMode = m.dualMasterMode :=
      congrArg Trust.dualMasterMode htrust
    exact ⟨hmode.trans h.single, .inl hroute⟩
  · exact h.kept hroute htrust

/-- Every task of the node keeps the one master. -/
theorem OneMaster.task (h : OneMaster m) (t : BootEpochs.Task) : OneMaster (t.run m).1 := by
  cases t with
  | handleEntry env entry => exact h.handleEntry env entry
  | dispatchRelay env =>
      rcases dispatchRelay_fst m env with heq | heq
      · show OneMaster (m.dispatchRelay env).1
        rw [heq]
        exact h
      · show OneMaster (m.dispatchRelay env).1
        rw [heq]
        exact h.kept rfl rfl
  | checkMasterTimeout env => exact h.checkMasterTimeout env
  | drainPendingEnrollment =>
      show OneMaster m.drainPendingEnrollment.1
      rw [drainPendingEnrollment_frame]
      exact h.kept rfl rfl
  | addPeer tls env mac =>
      show OneMaster (m.addPeer tls env mac).1
      rw [addPeer_frame]
      exact h.kept rfl rfl
  | removePeer env mac =>
      show OneMaster (m.removePeer env mac).1
      rw [removePeer_frame]
      exact h.kept rfl rfl
  | onDataRecvCallback srcMac len msg =>
      show OneMaster (m.onDataRecvCallback srcMac len msg)
      rw [onDataRecvCallback_frame]
      exact h.kept rfl rfl

/-- Every call of the node keeps the one master. -/
theorem OneMaster.call (h : OneMaster m) (env : Env) (c : MeshNetwork.Call) :
    OneMaster (c.run m env).1 := by
  rw [MeshNetwork.Call.run_frame]
  exact h.kept rfl rfl

/-- A node boots without a route.
SOURCE: Mesh.cpp:162-182, 371-406 -/
theorem oneMaster_booted {em : EepromManager} {tls : Mbedtls} {r : Mesh.InitEnv} {isMaster : Bool}
    (h : booted em tls r isMaster = some m) : OneMaster m := by
  simp only [booted, Option.ite_none_right_eq_some, Option.some.injEq] at h
  obtain ⟨-, rfl⟩ := h
  obtain ⟨hroute, hmode⟩ := BootEpochs.init_kept Mesh.new em tls r
  exact ⟨hmode, .inl hroute⟩

/-- Every step keeps the one master. -/
theorem OneMaster.step (h : OneMaster m) {e : Event} (hstep : step m e = some m') :
    OneMaster m' := by
  cases e with
  | boot em tls r isMaster => exact oneMaster_booted hstep
  | take =>
      simp only [UplinkFlood.step, Option.ite_none_left_eq_some, Option.some.injEq] at hstep
      obtain ⟨-, rfl⟩ := hstep
      exact h.kept rfl rfl
  | task t =>
      cases hstep
      exact h.task t
  | call env c =>
      cases hstep
      exact h.call env c
  | setIsMaster isMaster =>
      cases hstep
      exact h.kept rfl rfl

/-- **With one master, a route leads to the trusted one.** -/
theorem oneMaster_of_reachable (h : system.Reachable m) : OneMaster m := by
  refine h.invariant ?_ ?_
  · rintro m ⟨em, tls, r, isMaster, hbooted⟩
    exact oneMaster_booted hbooted
  · intro m e m' hone hstep
    exact hone.step hstep

end Route

/-! ## What is sent -/

section Frames

variable {m : Mesh} {env : Env} {msg : MeshMessage}

/-- SOURCE: Mesh.cpp:613-626 -/
theorem sendMessage_sentFrames {mac : MacAddress} (hother : mac ≠ m.deviceMacAddress) :
    sentFrames (m.sendMessage env mac msg) =
      if env.sendError mac = none then [(mac, msg)] else [] := by
  rw [Mesh.sendMessage, if_neg hother]
  cases env.sendError mac with
  | none => rfl
  | some err => rfl

/-- The send loop sends one frame to each other address the driver takes it for.
SOURCE: Mesh.cpp:975-979 -/
theorem sendToPeers_sentFrames :
    sentFrames (m.sendToPeers env msg) =
      ((others m).filter fun mac => env.sendError mac = none).map fun mac => (mac, msg) := by
  unfold Mesh.sendToPeers others macs
  induction m.peers.entries with
  | nil => rfl
  | cons p ps ih =>
      rw [List.flatMap_cons, sentFrames_append, ih, List.map_cons]
      by_cases hself : p.mac = m.deviceMacAddress
      · rw [if_pos hself, List.filter_cons_of_neg (by simpa using hself)]
        rfl
      · rw [if_neg hself, sendMessage_sentFrames hself,
          List.filter_cons_of_pos (by simpa using hself)]
        by_cases hsent : env.sendError p.mac = none
        · rw [if_pos hsent, List.filter_cons_of_pos (by simpa using hsent)]
          rfl
        · rw [if_neg hsent, List.filter_cons_of_neg (by simpa using hsent)]
          rfl

/-- Along the route at most one frame is sent, to the next hop.
SOURCE: Mesh.cpp:337-349, 654-665 -/
theorem routeToMaster_sentFrames :
    sentFrames (m.routeToMaster env msg) = [] ∨
      sentFrames (m.routeToMaster env msg) = [(m.currentMaster.nextHop, msg)] := by
  unfold Mesh.routeToMaster
  split
  · next nextHop hfind =>
    split
    · next hother =>
      rw [sendMessage_sentFrames hother, findNextHopToMaster_mac hfind]
      split
      · exact .inr rfl
      · exact .inl rfl
    · exact .inl rfl
  · exact .inl rfl

/-- SOURCE: Mesh.cpp:934-942 -/
theorem relayUplink_sentFrames :
    sentFrames (m.relayUplink env msg).2 = [] ∨
      ∃ relay, sentFrames (m.relayUplink env msg).2 = [(m.currentMaster.nextHop, relay)] := by
  unfold Mesh.relayUplink
  split
  · exact .inl rfl
  · rcases @routeToMaster_sentFrames m env (m.addressToMaster MeshMessageType.adapterData
      (msg.relayCopy m.deviceMacAddress)) with hnone | hone
    · exact .inl hnone
    · exact .inr ⟨_, hone⟩

end Frames

/-! ## Result -/

section Result

variable {m : Mesh} {msg : MeshMessage}

/-- Data for the master of the route go up, the others are flooded.
SOURCE: Mesh.cpp:932-946 -/
theorem ForMaster.processAdapterData (h : ForMaster m msg) (env : Env) :
    (m.processAdapterData env msg).2 =
      if m.knownMasterMac = m.currentMaster.mac then (m.relayUplink env msg).2
      else m.relayDownlink env msg := by
  obtain ⟨-, hnode, -, hknown, htarget, hother, hunicast⟩ := h
  unfold Mesh.processAdapterData
  simp only
  rw [if_pos (by simp [hnode, hother, hunicast]), hknown, Bool.true_and, htarget]
  by_cases hmaster : m.knownMasterMac = m.currentMaster.mac
  · rw [if_pos (beq_iff_eq.mpr hmaster), if_pos hmaster]
  · rw [if_neg (fun heq => hmaster (beq_iff_eq.mp heq)), if_neg hmaster]

/-- Data for the master of the route go to its next hop.
SOURCE: Mesh.cpp:923-967 -/
theorem ForMaster.sentUp (h : ForMaster m msg) (hmaster : m.knownMasterMac = m.currentMaster.mac) :
    SentUp m msg := by
  intro env
  rw [h.processAdapterData env, if_pos hmaster]
  rcases @relayUplink_sentFrames m env msg with hnone | ⟨relay, hone⟩
  · rw [hnone]
    exact ⟨Nat.zero_le 1, fun f hf => absurd hf List.not_mem_nil⟩
  · rw [hone]
    refine ⟨Nat.le_refl 1, fun f hf => ?_⟩
    rw [List.mem_singleton.mp hf]

/-- Flooded data are sent up when the next hop is all there is to flood.
SOURCE: Mesh.cpp:969-980 -/
theorem ForMaster.sentUp_flooded (h : ForMaster m msg)
    (hmaster : m.knownMasterMac ≠ m.currentMaster.mac) :
    SentUp m msg ↔ Config.maxHops ≤ msg.hopCount ∨ others m = [] ∨
      others m = [m.currentMaster.nextHop] := by
  have hflooded : ∀ env, (m.processAdapterData env msg).2 = m.relayDownlink env msg := by
    intro env
    rw [h.processAdapterData env, if_neg hmaster]
  by_cases hfar : Config.maxHops ≤ msg.hopCount
  · refine ⟨fun _ => .inl hfar, fun _ env => ?_⟩
    rw [hflooded env, relayDownlink_of_far (UInt8.not_lt.mpr hfar)]
    exact ⟨Nat.zero_le 1, fun f hf => absurd hf List.not_mem_nil⟩
  · have hsent : ∀ env, sentFrames (m.processAdapterData env msg).2 =
        ((others m).filter fun mac => env.sendError mac = none).map
          fun mac => (mac, msg.relayCopy m.deviceMacAddress) := by
      intro env
      rw [hflooded env, relayDownlink_of_near (UInt8.not_le.mp hfar), sendToPeers_sentFrames]
    constructor
    · intro hup
      obtain ⟨hfew, hnext⟩ := hup quietEnv
      have hall : (others m).filter (fun mac => quietEnv.sendError mac = none) = others m :=
        List.filter_eq_self.mpr fun mac _ => rfl
      rw [hsent quietEnv, hall] at hfew hnext
      right
      cases hothers : others m with
      | nil => exact .inl rfl
      | cons mac macs =>
          rw [hothers, List.map_cons] at hfew hnext
          have hmac : mac = m.currentMaster.nextHop := hnext _ List.mem_cons_self
          have hnone : macs = [] := by
            rw [List.length_cons, List.length_map] at hfew
            exact List.length_eq_zero_iff.mp (by omega)
          right
          rw [hmac, hnone]
    · rintro (hmax | hothers | hothers) env
      · exact absurd hmax hfar
      · rw [hsent env, hothers]
        exact ⟨Nat.zero_le 1, fun f hf => absurd hf List.not_mem_nil⟩
      · rw [hsent env, hothers]
        refine ⟨?_, fun f hf => ?_⟩
        · rw [List.length_map]
          exact List.length_filter_le _ _
        · obtain ⟨mac, hmem, rfl⟩ := List.mem_map.mp hf
          exact List.mem_singleton.mp (List.mem_filter.mp hmem).1

/-- **Uplink data go up exactly while there is a route**, unless there is no one to flood: data that
have used up their hops go nowhere, and neither do they in a table without other nodes.  The record
of no route is all zeros, so a trusted master or an only peer with that address is taken for the
master of the route and its next hop.
SOURCE: Mesh.cpp:801-815, 923-980 -/
theorem sentUp_iff (hreach : system.Reachable m) (h : ForMaster m msg) :
    SentUp m msg ↔ HasRoute m ∨ m.knownMasterMac = zeroMac ∨ Config.maxHops ≤ msg.hopCount ∨
      others m = [] ∨ others m = [zeroMac] := by
  rcases (oneMaster_of_reachable hreach).route with hnone | ⟨hroute, -, hmac⟩
  · have hno : ¬HasRoute m := by
      rw [HasRoute, hnone]
      exact fun hne => hne rfl
    by_cases hzero : m.knownMasterMac = zeroMac
    · refine ⟨fun _ => .inr (.inl hzero), fun _ => h.sentUp ?_⟩
      rw [hzero, hnone]
    · have hmaster : m.knownMasterMac ≠ m.currentMaster.mac := by
        rw [hnone]
        exact hzero
      rw [h.sentUp_flooded hmaster, hnone]
      refine ⟨fun hcase => .inr (.inr hcase), ?_⟩
      rintro (hcase | hcase | hcase)
      · exact absurd hcase hno
      · exact absurd hcase hzero
      · exact hcase
  · exact ⟨fun _ => .inl hroute, fun _ => h.sentUp hmac.symm⟩

end Result

/-! ## A silent master -/

section Silence

/-- What a node with an address of its own finds at boot. -/
def nodeInit : Mesh.InitEnv :=
  { BootEpochs.plainInit with stationMac := Vector.replicate 6 3 }

/-- A new node boots; its peers are those of the configuration, the first of which is the master. -/
def bootedNode : Mesh :=
  (Mesh.new.init BootEpochs.blankNode.eeprom plainTls nodeInit).2.1.1.link false

def masterMac : MacAddress := Config.defaultPeers.headD zeroMac

def masterBeacon : MeshMessage :=
  { MeshMessage.zero with
    protoVersion := Config.protoVersion
    messageType := MeshMessageType.masterBeacon
    originMacAddress := masterMac
    lastHopMacAddress := masterMac
    epochNum := 1
    seqNum := 1 }

/-- Data another node sent to the master. -/
def sensorData : MeshMessage :=
  { MeshMessage.zero with
    protoVersion := Config.protoVersion
    messageType := MeshMessageType.adapterData
    originMacAddress := Vector.replicate 6 4
    targetMacAddress := masterMac
    lastHopMacAddress := Vector.replicate 6 4
    epochNum := 1
    seqNum := 1 }

/-- The node has heard the master. -/
def routedNode : Mesh := (bootedNode.handleEntry quietEnv ⟨masterMac, masterBeacon⟩).1

/-- Ten seconds later the route is cleared. -/
def unroutedNode : Mesh := routedNode.checkMasterTimeout { quietEnv with millis := 10000 }

/-- The routed node is reachable. -/
theorem reachable_routedNode : system.Reachable routedNode := by
  have hready : booted BootEpochs.blankNode.eeprom plainTls nodeInit false =
      some bootedNode := by
    unfold booted
    exact if_pos rfl
  have hbooted : system.Init bootedNode := ⟨_, _, _, _, hready⟩
  exact .step (.init hbooted) (e := .task (.handleEntry quietEnv ⟨masterMac, masterBeacon⟩)) rfl

/-- The sensor data are for its master. -/
theorem forMaster_routedNode : ForMaster routedNode sensorData := by
  decide +kernel

/-- With the route the data go up. -/
theorem sentUp_routed : HasRoute routedNode ∧ SentUp routedNode sensorData := by
  have hroute : HasRoute routedNode := by decide +kernel
  exact ⟨hroute, (sentUp_iff reachable_routedNode forMaster_routedNode).mpr (.inl hroute)⟩

/-- The sensor data are for the master also after the route was cleared. -/
theorem forMaster_unroutedNode : ForMaster unroutedNode sensorData := by
  decide +kernel

/-- Without it they go to both peers.
SOURCE: Mesh.cpp:801-815, 923-980 -/
theorem not_sentUp_unrouted :
    ¬∀ m, system.Reachable m → ∀ msg, ForMaster m msg → SentUp m msg := by
  intro hup
  have hreach : system.Reachable unroutedNode :=
    .step reachable_routedNode
      (e := .task (.checkMasterTimeout { quietEnv with millis := 10000 })) rfl
  have hfew := (hup unroutedNode hreach sensorData forMaster_unroutedNode quietEnv).1
  have hboth : (sentFrames (unroutedNode.processAdapterData quietEnv sensorData).2).length = 2 := by
    decide +kernel
  omega

end Silence

end UplinkFlood

end LatticeNodes.Analysis
