import LatticeNodes.Analysis.EnrollmentRelay
import LatticeNodes.Analysis.MeshNetwork

/-!
# Who is enrolled

The whole network of `MeshNetwork`, with any number of masters that hand requests to one server.
The server approves any request it was handed, at any master and any number of times; the frames
may be lost, repeated and reordered, and every node relays acknowledgements.

An acknowledgement carries four bytes of the approved key and no proof of who sent it.
`enrolled_agrees` says what an enrolled node can nevertheless rely on: the server was handed the
node's own address with its own whole key, because the node asked, and approved this pair.
-/

set_option autoImplicit false

namespace LatticeNodes.Analysis

open LatticeNodes.Program TransitionSystem

namespace EnrollmentAgreement

open MeshNetwork (Call Built Flight Admits)

/-! ## The system -/

/-- `asked` are the requests handed to the server, `enrolled` the nodes that have stored their
enrolled flag. -/
structure State (n : ℕ) where
  net : MeshNetwork.State n
  asked : List (MacAddress × Key)
  enrolled : List (Fin n)

inductive Event (n : ℕ) where
  | call (v : Fin n) (env : Env) (c : Call)
  /-- Node `v` drains a copy of frame `i`. -/
  | deliver (v : Fin n) (i : ℕ) (env : Env)
  /-- `loop()` hands the pending request to the server. -/
  | handOver (v : Fin n)
  | dispatch (v : Fin n) (env : Env)
  | checkMasterTimeout (v : Fin n) (env : Env)
  /-- The role button in developer mode. -/
  | setIsMaster (v : Fin n) (isMaster : Bool)

section Steps

variable {n : ℕ}

/-- The requests a call approves. -/
def approvals : Call → List (MacAddress × Key)
  | .enrollPeer _ mac publicKey => [(mac, publicKey)]
  | _ => []

/-- The server approves what it was handed. -/
def Approvable (asked : List (MacAddress × Key)) (c : Call) : Prop :=
  ∀ request ∈ approvals c, request ∈ asked

instance decidableApprovable (asked : List (MacAddress × Key)) (c : Call) :
    Decidable (Approvable asked c) :=
  inferInstanceAs (Decidable (∀ request ∈ approvals c, request ∈ asked))

def State.setMesh (s : State n) (v : Fin n) (m : Mesh) : State n :=
  { s with net := { s.net with mesh := Function.update s.net.mesh v m } }

def State.drain (s : State n) (v : Fin n) (env : Env) (f : Flight n) : State n :=
  let effects := ((s.net.mesh v).handleEntry env (s.net.entryOf f)).2
  { s with
    net := s.net.drain v env f
    enrolled := if Effect.saveEnrolledFlag true ∈ effects then v :: s.enrolled else s.enrolled }

def State.handOver (s : State n) (v : Fin n) : State n :=
  let result := (s.net.mesh v).drainPendingEnrollment
  { s.setMesh v result.1 with asked := s.asked ++ Enrollment.relayedRequests result.2 }

def step (s : State n) : Event n → Option (State n)
  | .call v env c =>
      if Approvable s.asked c then some { s with net := s.net.originate v env c } else none
  | .deliver v i env =>
      s.net.flights[i]?.bind fun f =>
        if Admits (s.net.mesh v).deviceMacAddress f then some (s.drain v env f) else none
  | .handOver v => some (s.handOver v)
  | .dispatch v env => some { s with net := s.net.dispatchAt v env }
  | .checkMasterTimeout v env => some (s.setMesh v ((s.net.mesh v).checkMasterTimeout env))
  | .setIsMaster v isMaster => some (s.setMesh v { s.net.mesh v with isMaster := isMaster })

end Steps

/-- Nothing was sent yet, no request is pending, and no two nodes share an address. -/
structure Start {n : ℕ} (s : State n) : Prop where
  net : MeshNetwork.Start s.net
  distinct : Function.Injective fun v => (s.net.mesh v).deviceMacAddress
  noRequest : ∀ v, (s.net.mesh v).pendingEnrollmentRelay = false
  asked : s.asked = []
  enrolled : s.enrolled = []

def system (n : ℕ) : System (State n) (Event n) where
  Init := Start
  step := step

/-! ## The network underneath -/

/-- The members that are the node's own. -/
structure SameIdentity (m m' : Mesh) : Prop where
  mac : m'.deviceMacAddress = m.deviceMacAddress
  publicKey : m'.devicePublicKey = m.devicePublicKey

/-- Every event is an event of the network. -/
theorem net_of_reachable {n : ℕ} {s : State n} (h : (system n).Reachable s) :
    (MeshNetwork.system n).Reachable s.net := by
  refine h.simulate State.net (fun s (hs : Start s) => hs.net) fun s e s' hstep => ?_
  have hwork : ∀ v m', MeshNetwork.Undisturbed (s.net.mesh v) m' →
      ∃ d, (MeshNetwork.system n).step s.net d =
        some { s.net with mesh := Function.update s.net.mesh v m' } :=
    fun v m' hm => ⟨.work v m', if_pos hm⟩
  right
  cases e with
  | call v env c =>
      simp only [system, step, Option.ite_none_right_eq_some, Option.some.injEq] at hstep
      obtain ⟨-, rfl⟩ := hstep
      exact ⟨.call v env c, rfl⟩
  | deliver v i env =>
      obtain ⟨f, hi, hdrain⟩ := Option.bind_eq_some_iff.mp hstep
      simp only [Option.ite_none_right_eq_some, Option.some.injEq] at hdrain
      obtain ⟨hadmits, rfl⟩ := hdrain
      refine ⟨.deliver v i env, ?_⟩
      simp only [MeshNetwork.system, MeshNetwork.step, hi, Option.bind_some, if_pos hadmits]
      rfl
  | handOver v =>
      cases hstep
      apply hwork v
      rw [drainPendingEnrollment_frame]
      exact ⟨⟨rfl, rfl, rfl, fun h => ⟨h, rfl⟩⟩, rfl⟩
  | dispatch v env =>
      cases hstep
      exact ⟨.dispatch v env, rfl⟩
  | checkMasterTimeout v env =>
      cases hstep
      apply hwork v
      rw [checkMasterTimeout_frame]
      exact ⟨⟨rfl, rfl, rfl, fun h => ⟨h, rfl⟩⟩, rfl⟩
  | setIsMaster v isMaster =>
      cases hstep
      exact hwork v _ ⟨⟨rfl, rfl, rfl, fun h => ⟨h, rfl⟩⟩, rfl⟩

/-! ## What a frame says -/

section Frames

variable {m : Mesh} {env : Env} {entry : RecvQueueEntry}

/-- A node stores its enrolled flag for an acknowledgement of its own address.
SOURCE: Mesh.cpp:1012-1033 -/
theorem handleEntry_enrolls
    (h : Effect.saveEnrolledFlag true ∈ (m.handleEntry env entry).2) :
    entry.msg.messageType = MeshMessageType.joinAck ∧
      entry.msg.targetMacAddress = m.deviceMacAddress := by
  have hquiet : ∀ {effects : List Effect}, AllRadioOnly effects →
      Effect.saveEnrolledFlag true ∉ effects := fun hradio hmem => hradio _ hmem
  cases hreceived : received m env entry with
  | none =>
      rw [handleEntry_of_dropped hreceived] at h
      cases h
  | some m' =>
      have hmac : m'.deviceMacAddress = m.deviceMacAddress := by rw [received_frame hreceived]
      rw [handleEntry_of_received hreceived] at h
      unfold Mesh.dispatch at h
      split at h
      · cases h
      · split at h
        · next htype =>
          refine ⟨htype, ?_⟩
          unfold Mesh.processJoinAck at h
          split at h
          · exact absurd h (hquiet (relayDownlink_radioOnly m' env entry.msg))
          · next htarget => exact (not_not.mp htarget).trans hmac
        · split at h
          · have hother : ∀ e ∈ (m'.processMasterBeacon env entry.msg).2,
                e ≠ .saveEnrolledFlag true :=
              processMasterBeacon_effects m' env entry.msg (by simp) (by simp) (by simp)
            exact absurd rfl (hother _ h)
          · split at h
            · obtain ⟨rest, hrest, heq | heq⟩ := processAdapterData_effects m' env entry.msg
              · rw [heq] at h
                rcases List.mem_cons.mp h with hfalse | hmem
                · cases hfalse
                · exact absurd hmem (hquiet hrest)
              · rw [heq] at h
                exact absurd h (hquiet hrest)
            · cases h

/-- What waits to be handed to the server waited before, or is the request of the entry.
SOURCE: Mesh.cpp:1001-1010 -/
theorem handleEntry_waiting_cases (m : Mesh) (env : Env) (entry : RecvQueueEntry) :
    EnrollmentRelay.waiting (m.handleEntry env entry).1 = EnrollmentRelay.waiting m ∨
      entry.msg.messageType = MeshMessageType.enrollment ∧
        EnrollmentRelay.waiting (m.handleEntry env entry).1 =
          some (entry.msg.originMacAddress, entry.msg.enrollmentPublicKey) := by
  cases hreceived : received m env entry with
  | none =>
      rw [handleEntry_of_dropped hreceived]
      exact .inl rfl
  | some m' =>
      have hkept := EnrollmentRelay.received_slotKept hreceived
      rw [handleEntry_of_received hreceived]
      by_cases htype : entry.msg.messageType = MeshMessageType.enrollment
      · rw [Mesh.dispatch, if_pos htype]
        unfold Mesh.processEnrollmentRequest
        split
        · exact .inl hkept.waiting
        · exact .inr ⟨htype, rfl⟩
      · left
        rw [(EnrollmentRelay.dispatch_slotKept m' env htype).waiting, hkept.waiting]

/-- What is handed to the server was waiting. -/
theorem mem_handedOver {request : MacAddress × Key}
    (h : request ∈ Enrollment.relayedRequests m.drainPendingEnrollment.2) :
    EnrollmentRelay.waiting m = some request := by
  unfold Mesh.drainPendingEnrollment at h
  cases hpending : m.pendingEnrollmentRelay with
  | false =>
      rw [hpending] at h
      cases h
  | true =>
      rw [hpending] at h
      simp only [Bool.not_true, Bool.false_eq_true, ↓reduceIte] at h
      split at h
      · rw [List.mem_singleton.mp h]
        simp [EnrollmentRelay.waiting, hpending]
      · cases h

/-- After a request was handed over none waits.
SOURCE: Mesh.cpp:1082-1089 -/
theorem waiting_handedOver (m : Mesh) :
    EnrollmentRelay.waiting m.drainPendingEnrollment.1 = none := by
  unfold Mesh.drainPendingEnrollment
  cases hpending : m.pendingEnrollmentRelay with
  | false => simp [EnrollmentRelay.waiting, hpending]
  | true => rfl

/-- Only the call that asks builds a request. -/
theorem call_of_enrollment {c : Call}
    (h : (c.frame m).messageType = MeshMessageType.enrollment) :
    c = .sendEnrollmentRequest ∧ (c.frame m).originMacAddress = m.deviceMacAddress ∧
      (c.frame m).enrollmentPublicKey = m.devicePublicKey := by
  cases c with
  | sendEnrollmentRequest => exact ⟨rfl, rfl, rfl⟩
  | transmit type data =>
      simp only [Call.frame] at h
      split at h
      · cases h
      · cases h
  | broadcastAdapterData type data => cases h
  | broadcastMasterBeacon => cases h
  | enrollPeer tls mac publicKey => cases h

/-- Only an approval builds an acknowledgement. -/
theorem call_of_joinAck {c : Call} (h : (c.frame m).messageType = MeshMessageType.joinAck) :
    ∃ tls mac publicKey, c = .enrollPeer tls mac publicKey ∧
      (c.frame m).targetMacAddress = mac := by
  cases c with
  | enrollPeer tls mac publicKey => exact ⟨tls, mac, publicKey, rfl, rfl⟩
  | transmit type data =>
      simp only [Call.frame] at h
      split at h
      · cases h
      · cases h
  | broadcastAdapterData type data => cases h
  | broadcastMasterBeacon => cases h
  | sendEnrollmentRequest => cases h

end Frames

/-! ## The invariant -/

/-- The message is the one its call built at that node, with the node's address and key. -/
def BuiltBy {n : ℕ} (mesh : Fin n → Mesh) (b : Built n) : Prop :=
  ∃ m : Mesh, SameIdentity m (mesh b.builder) ∧ b.frame = b.call.frame m

/-- The node has asked to be enrolled. -/
def Requested {n : ℕ} (s : State n) (v : Fin n) : Prop :=
  ∃ b ∈ s.net.built, b.builder = v ∧ b.call = .sendEnrollmentRequest

/-- The request is that of a node which asked. -/
def Genuine {n : ℕ} (s : State n) (request : MacAddress × Key) : Prop :=
  ∃ v, Requested s v ∧
    request = ((s.net.mesh v).deviceMacAddress, (s.net.mesh v).devicePublicKey)

/-- The server has approved this request at some master. -/
def Approved {n : ℕ} (s : State n) (request : MacAddress × Key) : Prop :=
  ∃ b ∈ s.net.built, ∃ tls, b.call = .enrollPeer tls request.1 request.2

/-- What waits, what was handed to the server and what it approved are requests of nodes that
asked; who is enrolled was approved. -/
structure Agreement {n : ℕ} (s : State n) : Prop where
  distinct : Function.Injective fun v => (s.net.mesh v).deviceMacAddress
  built : ∀ b ∈ s.net.built, BuiltBy s.net.mesh b
  waiting : ∀ v request, EnrollmentRelay.waiting (s.net.mesh v) = some request →
    Genuine s request
  asked : ∀ request ∈ s.asked, Genuine s request
  approved : ∀ request, Approved s request → request ∈ s.asked
  enrolled : ∀ v ∈ s.enrolled, ∃ publicKey,
    Approved s ((s.net.mesh v).deviceMacAddress, publicKey)

section Runs

variable {n : ℕ} {s s' : State n}

/-- The nodes keep their identities, and what was built stays built. -/
structure Grows (s s' : State n) : Prop where
  identity : ∀ v, SameIdentity (s.net.mesh v) (s'.net.mesh v)
  built : s.net.built <+: s'.net.built

/-- What was requested once stays requested. -/
theorem Grows.requested (h : Grows s s') {v : Fin n} (hv : Requested s v) : Requested s' v := by
  obtain ⟨b, hb, hwho, hcall⟩ := hv
  exact ⟨b, h.built.subset hb, hwho, hcall⟩

/-- What is genuine once stays so. -/
theorem Grows.genuine (h : Grows s s') {request : MacAddress × Key} (hr : Genuine s request) :
    Genuine s' request := by
  obtain ⟨v, hv, heq⟩ := hr
  refine ⟨v, h.requested hv, ?_⟩
  rw [heq, (h.identity v).mac, (h.identity v).publicKey]

/-- What was approved once stays approved. -/
theorem Grows.approved (h : Grows s s') {request : MacAddress × Key} (hr : Approved s request) :
    Approved s' request := by
  obtain ⟨b, hb, hcall⟩ := hr
  exact ⟨b, h.built.subset hb, hcall⟩

/-- Who built a message has built it for good. -/
theorem Grows.builtBy (h : Grows s s') {b : Built n} (hb : BuiltBy s.net.mesh b) :
    BuiltBy s'.net.mesh b := by
  obtain ⟨m, hm, hframe⟩ := hb
  have hsame := h.identity b.builder
  exact ⟨m, ⟨hsame.mac.trans hm.mac, hsame.publicKey.trans hm.publicKey⟩, hframe⟩

/-- Replacing one node's object keeps its identity when the new object has it. -/
theorem grows_update {v : Fin n} {m : Mesh} (hm : SameIdentity (s.net.mesh v) m)
    (hmesh : s'.net.mesh = Function.update s.net.mesh v m) (hbuilt : s.net.built <+: s'.net.built) :
    Grows s s' := by
  refine ⟨fun w => ?_, hbuilt⟩
  rw [hmesh]
  by_cases hw : w = v
  · rw [hw, Function.update_self]
    exact hm
  · rw [Function.update_of_ne hw]
    exact ⟨rfl, rfl⟩

/-- What a step has to show: what is new is genuine, and the rest was there. -/
theorem Agreement.grow (h : Agreement s) (hgrows : Grows s s')
    (hbuilt : ∀ b ∈ s'.net.built, b ∈ s.net.built ∨ BuiltBy s.net.mesh b)
    (hwaiting : ∀ v request, EnrollmentRelay.waiting (s'.net.mesh v) = some request →
      EnrollmentRelay.waiting (s.net.mesh v) = some request ∨ Genuine s request)
    (hasked : ∀ request ∈ s'.asked, request ∈ s.asked ∨ Genuine s request)
    (hkept : s.asked ⊆ s'.asked)
    (happroved : ∀ request, Approved s' request → Approved s request ∨ request ∈ s.asked)
    (henrolled : ∀ v ∈ s'.enrolled, v ∈ s.enrolled ∨
      ∃ publicKey, Approved s ((s.net.mesh v).deviceMacAddress, publicKey)) :
    Agreement s' := by
  refine ⟨?_, fun b hb => ?_, fun v request hw => ?_, fun request hr => ?_, fun request hr => ?_,
    fun v hv => ?_⟩
  · intro v w hvw
    apply h.distinct
    simp only [(hgrows.identity _).mac] at hvw
    exact hvw
  · exact hgrows.builtBy ((hbuilt b hb).elim (h.built b) id)
  · exact hgrows.genuine ((hwaiting v request hw).elim (h.waiting v request) id)
  · exact hgrows.genuine ((hasked request hr).elim (h.asked request) id)
  · exact hkept ((happroved request hr).elim (h.approved request) id)
  · obtain ⟨publicKey, hkey⟩ := (henrolled v hv).elim (h.enrolled v) id
    rw [(hgrows.identity v).mac]
    exact ⟨publicKey, hgrows.approved hkey⟩

/-- A step that only replaces one node's object and leaves its waiting request alone. -/
theorem Agreement.setMesh (h : Agreement s) {v : Fin n} {m : Mesh}
    (hm : SameIdentity (s.net.mesh v) m)
    (hslot : EnrollmentRelay.waiting m = EnrollmentRelay.waiting (s.net.mesh v)) :
    Agreement (s.setMesh v m) := by
  have hgrows : Grows s (s.setMesh v m) := grows_update hm rfl (List.prefix_refl _)
  refine h.grow hgrows (fun b hb => .inl hb) (fun w request hw => .inl ?_)
    (fun request hr => .inl hr) (fun request hr => hr) (fun request hr => .inl hr)
    (fun w hw => .inl hw)
  have hmesh : (s.setMesh v m).net.mesh = Function.update s.net.mesh v m := rfl
  rw [hmesh] at hw
  by_cases hv : w = v
  · rw [hv, Function.update_self, hslot] at hw
    rw [hv]
    exact hw
  · rw [Function.update_of_ne hv] at hw
    exact hw

/-- A call of a node keeps the agreement; an approval must be one the server may give. -/
theorem Agreement.call (h : Agreement s) (v : Fin n) (env : Env) {c : Call}
    (happrovable : Approvable s.asked c) :
    Agreement { s with net := s.net.originate v env c } := by
  have hself : (s.net.originate v env c).mesh v = (c.run (s.net.mesh v) env).1 :=
    Function.update_self v _ s.net.mesh
  have hidentity : SameIdentity (s.net.mesh v) (c.run (s.net.mesh v) env).1 := by
    rw [Call.run_frame]
    exact ⟨rfl, rfl⟩
  have hgrows : Grows s { s with net := s.net.originate v env c } :=
    grows_update hidentity rfl (List.prefix_append _ _)
  refine h.grow hgrows (fun b hb => ?_) (fun w request hw => .inl ?_)
    (fun request hr => .inl hr) (fun request hr => hr) (fun request hr => ?_)
    (fun w hw => .inl hw)
  · rcases List.mem_append.mp hb with hold | hnew
    · exact .inl hold
    · rw [List.mem_singleton.mp hnew]
      exact .inr ⟨s.net.mesh v, ⟨rfl, rfl⟩, rfl⟩
  · have hslot := (EnrollmentRelay.run_slotKept (s.net.mesh v) env c).waiting
    by_cases hv : w = v
    · subst hv
      simp only [hself, hslot] at hw
      exact hw
    · have hother : (s.net.originate v env c).mesh w = s.net.mesh w :=
        Function.update_of_ne hv _ s.net.mesh
      simp only [hother] at hw
      exact hw
  · obtain ⟨b, hb, tls, hcall⟩ := hr
    rcases List.mem_append.mp hb with hold | hnew
    · exact .inl ⟨b, hold, tls, hcall⟩
    · right
      rw [List.mem_singleton.mp hnew] at hcall
      have hc : c = .enrollPeer tls request.1 request.2 := hcall
      rw [hc] at happrovable
      exact happrovable _ (List.mem_singleton_self _)

/-- **A drained frame says what its builder said.** -/
theorem Agreement.drain (h : Agreement s) (hfaithful : MeshNetwork.Faithful s.net) (v : Fin n)
    (env : Env) {f : Flight n} (hf : f ∈ s.net.flights) : Agreement (s.drain v env f) := by
  obtain ⟨b, hb, hsame⟩ := (hfaithful.flights f hf).content
  have hbmem := List.mem_of_getElem? hb
  obtain ⟨m, hm, hframe⟩ := h.built b hbmem
  have hfields : f.msg.messageType = b.frame.messageType ∧
      f.msg.targetMacAddress = b.frame.targetMacAddress ∧
      f.msg.originMacAddress = b.frame.originMacAddress ∧
      f.msg.enrollmentPublicKey = b.frame.enrollmentPublicKey := by
    rw [← hsame]
    exact ⟨rfl, rfl, rfl, rfl⟩
  obtain ⟨htype, htarget, horigin, hkey⟩ := hfields
  have hself : (s.drain v env f).net.mesh v =
      ((s.net.mesh v).handleEntry env (s.net.entryOf f)).1 :=
    Function.update_self v _ s.net.mesh
  have hnode := handleEntry_sameNode (s.net.mesh v) env (s.net.entryOf f)
  have hgrows : Grows s (s.drain v env f) :=
    grows_update ⟨hnode.deviceMacAddress, hnode.devicePublicKey⟩ rfl (List.prefix_refl _)
  refine h.grow hgrows (fun b hb => .inl hb) (fun w request hw => ?_) (fun request hr => .inl hr)
    (fun request hr => hr) (fun request hr => .inl hr) (fun w hw => ?_)
  · by_cases hv : w = v
    · subst hv
      rw [hself] at hw
      rcases handleEntry_waiting_cases (s.net.mesh w) env (s.net.entryOf f) with hkept | ⟨hask, heq⟩
      · rw [hkept] at hw
        exact .inl hw
      · right
        have hbuilt : (b.call.frame m).messageType = MeshMessageType.enrollment := by
          rw [← hframe, ← htype]
          exact hask
        obtain ⟨hcall, hmac, hpublic⟩ := call_of_enrollment hbuilt
        refine ⟨b.builder, ⟨b, hbmem, rfl, hcall⟩, ?_⟩
        rw [heq] at hw
        have hrequest := Option.some.inj hw
        rw [← hrequest, hm.mac, hm.publicKey, ← hmac, ← hpublic, ← hframe, ← horigin, ← hkey]
        rfl
    · have hother : (s.drain v env f).net.mesh w = s.net.mesh w :=
        Function.update_of_ne hv _ s.net.mesh
      rw [hother] at hw
      exact .inl hw
  · have henrolled : (s.drain v env f).enrolled =
        if Effect.saveEnrolledFlag true ∈
            ((s.net.mesh v).handleEntry env (s.net.entryOf f)).2 then v :: s.enrolled
        else s.enrolled := rfl
    rw [henrolled] at hw
    split at hw
    · next hflag =>
      rcases List.mem_cons.mp hw with rfl | hold
      · right
        obtain ⟨hack, hself⟩ := handleEntry_enrolls hflag
        have hbuilt : (b.call.frame m).messageType = MeshMessageType.joinAck := by
          rw [← hframe, ← htype]
          exact hack
        obtain ⟨tls, mac, publicKey, hcall, haddress⟩ := call_of_joinAck hbuilt
        refine ⟨publicKey, b, hbmem, tls, ?_⟩
        rw [hcall, ← hself, ← haddress, ← hframe, ← htarget]
        rfl
      · exact .inl hold
    · exact .inl hw

/-- Handing a request to the server keeps it. -/
theorem Agreement.handOver (h : Agreement s) (v : Fin n) : Agreement (s.handOver v) := by
  have hself : (s.handOver v).net.mesh v = (s.net.mesh v).drainPendingEnrollment.1 :=
    Function.update_self v _ s.net.mesh
  have hgrows : Grows s (s.handOver v) := by
    refine grows_update ?_ rfl (List.prefix_refl _)
    rw [drainPendingEnrollment_frame]
    exact ⟨rfl, rfl⟩
  refine h.grow hgrows (fun b hb => .inl hb) (fun w request hw => .inl ?_) (fun request hr => ?_)
    (fun request hr => List.mem_append_left _ hr) (fun request hr => .inl hr)
    (fun w hw => .inl hw)
  · by_cases hv : w = v
    · rw [hv, hself, waiting_handedOver] at hw
      cases hw
    · have hother : (s.handOver v).net.mesh w = s.net.mesh w :=
        Function.update_of_ne hv _ s.net.mesh
      rw [hother] at hw
      exact hw
  · rcases List.mem_append.mp hr with hold | hnew
    · exact .inl hold
    · exact .inr (h.waiting v request (mem_handedOver hnew))

/-- One case for each event. -/
theorem agreement_of_reachable (h : (system n).Reachable s) : Agreement s := by
  refine h.invariant_of_reachable (fun s (hs : Start s) => ?_) fun s e s' hreach hs hstep => ?_
  · refine ⟨hs.distinct, fun b hb => ?_, fun v request hw => ?_, fun request hr => ?_,
      fun request hr => ?_, fun v hv => ?_⟩
    · rw [hs.net.built] at hb
      cases hb
    · simp [EnrollmentRelay.waiting, hs.noRequest v] at hw
    · rw [hs.asked] at hr
      cases hr
    · obtain ⟨b, hb, -⟩ := hr
      rw [hs.net.built] at hb
      cases hb
    · rw [hs.enrolled] at hv
      cases hv
  · have hfaithful := MeshNetwork.faithful_of_reachable (net_of_reachable hreach)
    cases e with
    | call v env c =>
        simp only [system, step, Option.ite_none_right_eq_some, Option.some.injEq] at hstep
        obtain ⟨happrovable, rfl⟩ := hstep
        exact hs.call v env happrovable
    | deliver v i env =>
        obtain ⟨f, hi, hdrain⟩ := Option.bind_eq_some_iff.mp hstep
        simp only [Option.ite_none_right_eq_some, Option.some.injEq] at hdrain
        obtain ⟨-, rfl⟩ := hdrain
        exact hs.drain hfaithful v env (List.mem_of_getElem? hi)
    | handOver v =>
        cases hstep
        exact hs.handOver v
    | dispatch v env =>
        cases hstep
        have hslot := EnrollmentRelay.dispatchRelay_slotKept (s.net.mesh v) env
        have hkept : SameIdentity (s.net.mesh v) ((s.net.mesh v).dispatchRelay env).1 := by
          rcases dispatchRelay_fst (s.net.mesh v) env with heq | heq
          · rw [heq]
            exact ⟨rfl, rfl⟩
          · rw [heq]
            exact ⟨rfl, rfl⟩
        have hset := hs.setMesh hkept hslot.waiting
        exact ⟨hset.distinct, hset.built, hset.waiting, hset.asked, hset.approved, hset.enrolled⟩
    | checkMasterTimeout v env =>
        cases hstep
        refine hs.setMesh ?_ (EnrollmentRelay.checkMasterTimeout_slotKept _ env).waiting
        rw [checkMasterTimeout_frame]
        exact ⟨rfl, rfl⟩
    | setIsMaster v isMaster =>
        cases hstep
        exact hs.setMesh ⟨rfl, rfl⟩ rfl

/-! ## Result -/

/-- **An enrolled node was approved with its own key, on its own request.**  However frames are
lost, repeated, reordered and relayed, a node that has stored its enrolled flag has asked for it;
the server was handed its address with its whole key, and approved this pair at some master.
SOURCE: Mesh.cpp:986-1089 -/
theorem enrolled_agrees (h : (system n).Reachable s) {v : Fin n} (hv : v ∈ s.enrolled) :
    Requested s v ∧
      ((s.net.mesh v).deviceMacAddress, (s.net.mesh v).devicePublicKey) ∈ s.asked ∧
      Approved s ((s.net.mesh v).deviceMacAddress, (s.net.mesh v).devicePublicKey) := by
  have hagreement := agreement_of_reachable h
  obtain ⟨publicKey, happroved⟩ := hagreement.enrolled v hv
  have hasked := hagreement.approved _ happroved
  obtain ⟨w, hw, heq⟩ := hagreement.asked _ hasked
  obtain ⟨hmac, hkey⟩ := Prod.mk.inj heq
  have hvw : v = w := hagreement.distinct hmac
  subst hvw
  rw [hkey] at happroved hasked
  exact ⟨hw, hasked, happroved⟩

end Runs

/-! ## Two nodes -/

open MeshNetwork (pairState pairMesh pairMac)

def pairKey : Key := Vector.replicate 32 9

/-- A master that can reach the server, and a node, with keys. -/
def pair : State 2 where
  net := { pairState with
    mesh := fun v => { pairMesh v with
      enrollmentRelayFn := true
      devicePublicKey := pairKey } }
  asked := []
  enrolled := []

/-- The two nodes are a start. -/
theorem start_pair : Start pair where
  net := ⟨rfl, rfl, fun _ => rfl, fun _ => rfl⟩
  distinct := by
    intro v w h
    revert h
    revert v w
    decide
  noRequest := fun _ => rfl
  asked := rfl
  enrolled := rfl

/-- The node asks, the server approves, and the node drains the acknowledgement. -/
def pairEvents : List (Event 2) :=
  [.call 1 quietEnv .sendEnrollmentRequest, .deliver 0 0 quietEnv, .handOver 0,
    .call 0 quietEnv (.enrollPeer plainTls (pairMac 1) pairKey),
    .deliver 1 1 quietEnv]

/-- The exchange of two nodes: request, hand-over, approval, acknowledgement. -/
theorem enrolled_agrees_pair :
    ∃ s, (system 2).runFrom pair pairEvents = some s ∧ s.enrolled = [1] ∧
      (s.net.mesh 1).devicePublicKey = pairKey ∧
      (Requested s 1 ∧
        ((s.net.mesh 1).deviceMacAddress, (s.net.mesh 1).devicePublicKey) ∈ s.asked ∧
        Approved s ((s.net.mesh 1).deviceMacAddress, (s.net.mesh 1).devicePublicKey)) := by
  have hrun : ∃ s, (system 2).runFrom pair pairEvents = some s ∧ s.enrolled = [1] ∧
      (s.net.mesh 1).devicePublicKey = pairKey := ⟨_, rfl, rfl, rfl⟩
  obtain ⟨s, hs, henrolled, hkey⟩ := hrun
  have hreach := System.Reachable.runFrom (.init start_pair) hs
  have hmem : (1 : Fin 2) ∈ s.enrolled := by
    rw [henrolled]
    exact List.mem_singleton_self 1
  exact ⟨s, hs, henrolled, hkey, enrolled_agrees hreach hmem⟩

end EnrollmentAgreement

end LatticeNodes.Analysis
