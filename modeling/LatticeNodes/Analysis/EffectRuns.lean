import LatticeNodes.Analysis.BeaconStages
import LatticeNodes.Program.Device

/-!
# What the effects of a mesh call do to the device

The effects of sending are frames and communication errors (`RadioOnly`), which change
nothing on the device but the log of sent frames (`runEffects_radioOnly`).  The effects of a
whole receive step are either the delivery to the adapter followed by sending, or free of
callbacks and of restarting errors (`handleEntry_effects`).
-/

set_option autoImplicit false

namespace LatticeNodes.Analysis

open LatticeNodes.Program

/-- Readings of a device whose radio works, at time 0. -/
def quietEnv : Env := ⟨0, 0, 0, fun _ => none, fun _ => none, fun _ => none⟩

def quietDeviceEnv : DeviceEnv := ⟨quietEnv, quietEnv, Vector.replicate 52 0⟩

/-- Primitives that stand in for those of mbedTLS. -/
def plainTls : Mbedtls := ⟨fun _ publicKey => publicKey, fun _ => Vector.replicate 32 0⟩

/-- The two adapters, on their default pins and initialized. -/
def serialAdapter : Adapter :=
  ⟨AdapterFactory.serialAdapterDefaultPin, AdapterTypes.serialAdapter, true⟩

def pirAdapter : Adapter :=
  ⟨AdapterFactory.pirAdapterDefaultPin, AdapterTypes.pirAdapter, true⟩

/-! ## Kinds of effects -/

/-- A frame, or an error that does not restart the device. -/
def RadioOnly : Effect → Prop
  | .espNowSend _ _ => True
  | .fail f => f.restarts = false
  | _ => False

/-- Any effect but the receive callback and an error that restarts the device. -/
def Quiet : Effect → Prop
  | .externalRecvCallback _ => False
  | .fail f => f.restarts = false
  | _ => True

/-- What the radio does is quiet: no callback, no save. -/
theorem RadioOnly.quiet {e : Effect} (h : RadioOnly e) : Quiet e := by
  cases e <;> first | exact h | trivial

/-- A list of frames and errors. -/
abbrev AllRadioOnly (effects : List Effect) : Prop := ∀ e ∈ effects, RadioOnly e

/-- The empty list of effects uses the radio only. -/
theorem allRadioOnly_nil : AllRadioOnly [] := by
  intro e he
  cases he

/-- Two lists that use the radio only do so together. -/
theorem AllRadioOnly.append {xs ys : List Effect} (hx : AllRadioOnly xs) (hy : AllRadioOnly ys) :
    AllRadioOnly (xs ++ ys) := by
  intro e he
  rcases List.mem_append.mp he with he | he
  · exact hx e he
  · exact hy e he

/-- A send uses the radio only.
SOURCE: Mesh.cpp:613-625 -/
theorem sendMessage_radioOnly (m : Mesh) (env : Env) (target : MacAddress) (msg : MeshMessage) :
    AllRadioOnly (m.sendMessage env target msg) := by
  unfold Mesh.sendMessage
  intro e he
  split at he
  · cases he
  · split at he
    · rw [List.mem_singleton.mp he]
      trivial
    · rw [List.mem_singleton.mp he]
      rfl

/-- A flood uses the radio only.
SOURCE: Mesh.cpp:632-636, 975-979 -/
theorem sendToPeers_radioOnly (m : Mesh) (env : Env) (msg : MeshMessage) :
    AllRadioOnly (m.sendToPeers env msg) := by
  intro e he
  obtain ⟨p, _, he⟩ := List.mem_flatMap.mp he
  split at he
  · cases he
  · exact sendMessage_radioOnly m env p.mac msg e he

/-- Passing a message on uses the radio only.
SOURCE: Mesh.cpp:969-980 -/
theorem relayDownlink_radioOnly (m : Mesh) (env : Env) (msg : MeshMessage) :
    AllRadioOnly (m.relayDownlink env msg) := by
  unfold Mesh.relayDownlink
  split
  · exact allRadioOnly_nil
  · exact sendToPeers_radioOnly _ _ _

/-- Sending a message that was built uses the radio only.
SOURCE: Mesh.cpp:639-665 -/
theorem transmitCore_radioOnly (m : Mesh) (env : Env) (type : AdapterTypes) (data : Payload)
    (msgType : MeshMessageType) (msgOverride : Option MeshMessage) :
    AllRadioOnly (m.transmitCore env type data msgType msgOverride).2 := by
  have hnoRoute : AllRadioOnly [.fail Mesh.noRoute] := by
    intro e he
    rw [List.mem_singleton.mp he]
    rfl
  have hroute : ∀ (m : Mesh) (msg : MeshMessage), AllRadioOnly (m.routeToMaster env msg) := by
    intro m msg
    unfold Mesh.routeToMaster
    split
    · split
      · exact sendMessage_radioOnly _ _ _ _
      · exact hnoRoute
    · exact hnoRoute
  cases msgOverride with
  | none => exact hroute _ _
  | some msg => exact hroute _ _

/-- Broadcasting adapter data uses the radio only.
SOURCE: Mesh.cpp:776-780 -/
theorem broadcastAdapterData_radioOnly (m : Mesh) (env : Env) (type : AdapterTypes)
    (data : Payload) : AllRadioOnly (m.broadcastAdapterData env type data).2 := by
  simp only [Mesh.broadcastAdapterData, Mesh.broadcastToAllPeers]
  split
  · exact allRadioOnly_nil
  · exact sendToPeers_radioOnly _ _ _

/-- Transmitting adapter data uses the radio only.
SOURCE: Mesh.cpp:667-677 -/
theorem transmit_radioOnly (m : Mesh) (env : Env) (type : AdapterTypes) (data : Payload) :
    AllRadioOnly (m.transmit env type data).2 := by
  unfold Mesh.transmit
  split
  · exact broadcastAdapterData_radioOnly _ _ _ _
  · exact transmitCore_radioOnly _ _ _ _ _ _

/-! ## Running effects -/

/-- No effects leave the device as it is. -/
@[simp] theorem runEffects_nil (callback : Device → MeshMessage → Outcome) (d : Device) :
    d.runEffects callback [] = .ok d := rfl

/-- Effects are performed in their order. -/
theorem runEffects_cons (callback : Device → MeshMessage → Outcome) (d : Device) (e : Effect)
    (es : List Effect) : d.runEffects callback (e :: es) =
      (d.runEffect callback e).bind fun d => d.runEffects callback es := rfl

/-- Sending leaves everything but the log of sent frames as it was.
SOURCE: Mesh.cpp:613-637 -/
theorem runEffects_radioOnly (callback : Device → MeshMessage → Outcome) (d : Device)
    {effects : List Effect} (h : AllRadioOnly effects) :
    d.runEffects callback effects = .ok { d with sent := d.sent ++ sentFrames effects } := by
  induction effects generalizing d with
  | nil => simp
  | cons e es ih =>
      have he : RadioOnly e := h e List.mem_cons_self
      have hes : AllRadioOnly es := fun e' he' => h e' (List.mem_cons_of_mem _ he')
      rw [runEffects_cons]
      cases e with
      | espNowSend target msg =>
          simp only [Device.runEffect, Except.bind, ih _ hes, sentFrames_espNowSend_cons,
            List.append_assoc, List.singleton_append]
      | fail f =>
          have hf : f.restarts = false := he
          simp only [Device.runEffect, Device.fail, hf, Bool.false_eq_true, if_false, Except.bind,
            ih _ hes]
          rfl
      | _ => exact he.elim

/-- `Mesh::transmit` from the device: a new mesh object and frames, no restart.
SOURCE: Mesh.cpp:667-677 -/
theorem transmit_eq (d : Device) (env : Env) (type : AdapterTypes) (data : Payload) :
    ∃ mesh sent, d.transmit env type data = .ok { d with mesh := mesh, sent := sent } :=
  ⟨_, _, runEffects_radioOnly _ _ (transmit_radioOnly d.mesh env type data)⟩

/-- A broadcast changes the mesh object and what was sent only.
SOURCE: Mesh.cpp:776-780 -/
theorem broadcastAdapterData_eq (d : Device) (env : Env) (type : AdapterTypes)
    (data : Payload) :
    ∃ mesh sent, d.broadcastAdapterData env type data =
      .ok { d with mesh := mesh, sent := sent } :=
  ⟨_, _, runEffects_radioOnly _ _ (broadcastAdapterData_radioOnly d.mesh env type data)⟩

/-- A master broadcasts what is to be transmitted.
SOURCE: Mesh.cpp:667-677 -/
theorem transmit_of_master {d : Device} (hmaster : d.mesh.isMaster = true) (env : Env)
    (type : AdapterTypes) (data : Payload) :
    d.transmit env type data = d.broadcastAdapterData env type data := by
  rw [Device.transmit, Mesh.transmit, if_pos hmaster]
  rfl

/-! ## The receive step -/

/-- The gate of the drain loop touches the replay cache only.
SOURCE: Mesh.cpp:569-582 -/
theorem passGate_frame {m m' : Mesh} {msg : MeshMessage} (h : m.passGate msg = some m') :
    m' = { m with replayCache := m'.replayCache } := by
  unfold Mesh.passGate Mesh.isReplay at h
  split at h
  · cases h
  · split at h
    · split at h
      · cases h
      · cases h
        rfl
    · cases h
      rfl

/-- Hearing a peer changes the peer table only.
SOURCE: Mesh.cpp:818-829 -/
theorem updatePeerLastSeen_frame (m : Mesh) (env : Env) (mac : MacAddress) :
    m.updatePeerLastSeen env mac =
      { m with peers := (m.updatePeerLastSeen env mac).peers } := by
  unfold Mesh.updatePeerLastSeen
  split <;> rfl

/-- Adapter data are delivered first and relayed after that, or only relayed, or dropped.
SOURCE: Mesh.cpp:923-967 -/
theorem processAdapterData_effects (m : Mesh) (env : Env) (msg : MeshMessage) :
    ∃ rest, AllRadioOnly rest ∧
      ((m.processAdapterData env msg).2 = .externalRecvCallback msg :: rest ∨
        (m.processAdapterData env msg).2 = rest) := by
  unfold Mesh.processAdapterData
  simp only
  split
  · split
    · refine ⟨_, ?_, .inr rfl⟩
      unfold Mesh.relayUplink
      split
      · exact allRadioOnly_nil
      · exact transmitCore_radioOnly _ _ _ _ _ _
    · exact ⟨_, relayDownlink_radioOnly m env msg, .inr rfl⟩
  · split
    · exact ⟨[], allRadioOnly_nil, .inr rfl⟩
    · have hrest : AllRadioOnly
          (if (msg.targetMacAddress == broadcastMac && !m.isMaster) = true then
            m.relayDownlink env msg else []) := by
        split
        · exact relayDownlink_radioOnly m env msg
        · exact allRadioOnly_nil
      split
      · exact ⟨_, hrest, .inl rfl⟩
      · exact ⟨_, hrest, .inr rfl⟩

/-- A beacon makes the node save a master, and report what it finds wrong.
SOURCE: Mesh.cpp:831-921 -/
theorem processMasterBeacon_effects (m : Mesh) (env : Env) (msg : MeshMessage)
    {P : Effect → Prop} (hprimary : ∀ mac, P (.saveKnownMasterMac mac))
    (hsecondary : ∀ mac, P (.saveKnownMasterMacSecondary mac))
    (hfail : ∀ f : Failure, f.restarts = false → P (.fail f)) :
    ∀ e ∈ (m.processMasterBeacon env msg).2, P e := by
  intro e he
  rcases processMasterBeacon_inv m env msg with ⟨-, heq⟩ | ⟨m', trusted, -, -, htrust, heq⟩
  · rw [heq] at he
    cases he
  · rw [heq] at he
    rcases List.mem_append.mp he with hsave | hwarn
    · cases htrust with
      | trusted _ _ => cases hsave
      | learnPrimary _ | hotswap _ _ _ _ =>
          rw [List.mem_singleton.mp hsave]
          exact hprimary _
      | learnSecondary _ _ _ _ =>
          rw [List.mem_singleton.mp hsave]
          exact hsecondary _
    · simp only [Mesh.noteMaster] at hwarn
      split at hwarn
      · rw [List.mem_singleton.mp hwarn]
        exact hfail _ rfl
      · cases hwarn

/-- A beacon fails at most; it calls nobody and saves nothing.
SOURCE: Mesh.cpp:831-921 -/
theorem processMasterBeacon_quiet (m : Mesh) (env : Env) (msg : MeshMessage) :
    ∀ e ∈ (m.processMasterBeacon env msg).2, Quiet e :=
  processMasterBeacon_effects m env msg (fun _ => trivial) (fun _ => trivial) fun _ h => h

/-- An acknowledgement is passed on, or makes the node save its enrollment.
SOURCE: Mesh.cpp:1012-1033 -/
theorem processJoinAck_effects (m : Mesh) (env : Env) (msg : MeshMessage)
    {P : Effect → Prop} (hradio : ∀ e, RadioOnly e → P e)
    (hprimary : ∀ mac, P (.saveKnownMasterMac mac))
    (henrolled : P (.saveEnrolledFlag true)) :
    ∀ e ∈ (m.processJoinAck env msg).2, P e := by
  unfold Mesh.processJoinAck
  intro e he
  split at he
  · exact hradio e (relayDownlink_radioOnly m env msg e he)
  · split at he
    · cases he
    · split at he
      · rcases List.mem_cons.mp he with rfl | he
        · exact henrolled
        · rw [List.mem_singleton.mp he]
          exact hprimary _
      · rw [List.mem_singleton.mp he]
        exact henrolled

/-- An approval stores the enrolled flag at most.
SOURCE: Mesh.cpp:1012-1033 -/
theorem processJoinAck_quiet (m : Mesh) (env : Env) (msg : MeshMessage) :
    ∀ e ∈ (m.processJoinAck env msg).2, Quiet e :=
  processJoinAck_effects m env msg (fun _ => RadioOnly.quiet) (fun _ => trivial) trivial

/-- A receive step delivers the message and then only sends, or its effects are of these kinds.
SOURCE: Mesh.cpp:563-604 -/
theorem handleEntry_effects_cases (m : Mesh) (env : Env) (entry : RecvQueueEntry)
    {P : Effect → Prop} (hradio : ∀ e, RadioOnly e → P e)
    (hprimary : ∀ mac, P (.saveKnownMasterMac mac))
    (hsecondary : ∀ mac, P (.saveKnownMasterMacSecondary mac))
    (henrolled : P (.saveEnrolledFlag true)) :
    (∃ rest, AllRadioOnly rest ∧
      (m.handleEntry env entry).2 = .externalRecvCallback entry.msg :: rest) ∨
    ∀ e ∈ (m.handleEntry env entry).2, P e := by
  have hnone : ∀ e ∈ ([] : List Effect), P e := fun e he => absurd he List.not_mem_nil
  unfold Mesh.handleEntry
  split
  · exact .inr hnone
  · next m' _ =>
    unfold Mesh.dispatch
    split
    · exact .inr hnone
    · split
      · exact .inr (processJoinAck_effects _ _ _ hradio hprimary henrolled)
      · split
        · exact .inr (processMasterBeacon_effects _ _ _ hprimary hsecondary
            fun f => hradio (.fail f))
        · split
          · obtain ⟨rest, hrest, heff | heff⟩ :=
              processAdapterData_effects (m'.updatePeerLastSeen env entry.srcMac) env entry.msg
            · exact .inl ⟨rest, hrest, heff⟩
            · refine .inr fun e he => ?_
              rw [heff] at he
              exact hradio e (hrest e he)
          · exact .inr hnone

/-- A receive step either delivers the message and then only sends, or runs no callback and
signals no error that restarts the device. -/
theorem handleEntry_effects (m : Mesh) (env : Env) (entry : RecvQueueEntry) :
    (∃ rest, AllRadioOnly rest ∧
      (m.handleEntry env entry).2 = .externalRecvCallback entry.msg :: rest) ∨
    ∀ e ∈ (m.handleEntry env entry).2, Quiet e :=
  handleEntry_effects_cases m env entry (fun _ => RadioOnly.quiet) (fun _ => trivial)
    (fun _ => trivial) trivial

/-- The kinds of effects a receive step can have. -/
theorem handleEntry_effects_of (m : Mesh) (env : Env) (entry : RecvQueueEntry) {P : Effect → Prop}
    (hradio : ∀ e, RadioOnly e → P e) (hcallback : ∀ msg, P (.externalRecvCallback msg))
    (hprimary : ∀ mac, P (.saveKnownMasterMac mac))
    (hsecondary : ∀ mac, P (.saveKnownMasterMacSecondary mac))
    (henrolled : P (.saveEnrolledFlag true)) :
    ∀ e ∈ (m.handleEntry env entry).2, P e := by
  rcases handleEntry_effects_cases m env entry hradio hprimary hsecondary henrolled with
    ⟨rest, hrest, heff⟩ | hall
  · intro e he
    rw [heff] at he
    rcases List.mem_cons.mp he with rfl | he
    · exact hcallback entry.msg
    · exact hradio e (hrest e he)
  · exact hall

end LatticeNodes.Analysis
