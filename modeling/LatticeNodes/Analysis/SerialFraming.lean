import LatticeNodes.Library.FrameStream
import LatticeNodes.Program.SerialLoop

/-!
# The frames of the serial line

The parser of the serial adapter is a reader of length-prefixed frames: `readerOf` is the reader it
implements, and one byte does to both the same (`receiveByte_feed`).  A session is the calls of
`Serial_Adapter::loop` from power-up on, with what was read and what was handled.
`session_frames`: what was handled are the payloads of what was read, however the calls cut the
bytes into pieces.
-/

set_option autoImplicit false

namespace LatticeNodes.Analysis

open LatticeNodes.Program FrameStream

namespace SerialFraming

/-- Two bytes of length, the lower one first, and at most 256 bytes of payload.
SOURCE: Serial_Adapter.h:51-57 -/
def wire : Format UInt8 where
  lengthOf lo hi := lo.toNat + 256 * hi.toNat
  limit := SerialAdapter.maxPayload

/-- The payload with its length in front.
SOURCE: Serial_Adapter.cpp:195-198 -/
def frameBytes (payload : List UInt8) : List UInt8 :=
  UInt8.ofNat (payload.length % 256) :: UInt8.ofNat (payload.length / 256 % 256) :: payload

/-- What the device writes is in the same format. -/
theorem writeFrame_serialOut (d : Device) (payload : List UInt8) :
    (d.writeFrame payload).serialOut = d.serialOut ++ frameBytes payload := by
  rw [Device.writeFrame, List.append_assoc]
  rfl

/-- The two length bytes hold the length. -/
theorem lengthOf_frameBytes {payload : List UInt8} (h : wire.Admits payload.length) :
    wire.lengthOf (UInt8.ofNat (payload.length % 256))
      (UInt8.ofNat (payload.length / 256 % 256)) = payload.length := by
  have hmax : payload.length ≤ 256 := h.2
  simp only [wire, UInt8.toNat_ofNat']
  omega

/-- Frames one behind the other hold their payloads. -/
theorem payloads_frames {frames : List (List UInt8)}
    (h : ∀ payload ∈ frames, wire.Admits payload.length) :
    payloads wire (frames.flatMap frameBytes) = frames := by
  apply payloads_flatMap
  intro payload hpayload
  exact ⟨h payload hpayload, _, _, rfl, lengthOf_frameBytes (h payload hpayload)⟩

/-! ## The parser as a reader -/

/-- The payload of a result, if it has one. -/
def payloadOf : ParseResult → Option (List UInt8)
  | .complete payload => some payload
  | _ => none

/-- The bytes of the payload that are in the buffer. -/
def gotten (p : FrameParser) : List UInt8 := p.payloadBuffer.toList.take p.frameIndex

/-- The reader that the parser implements. -/
def readerOf (p : FrameParser) : Reader UInt8 :=
  match p.frameState with
  | .awaitingLen1 => .first
  | .awaitingLen2 => .second p.frameLength.toUInt8
  | .awaitingPayload => .payload p.frameLength.toNat (gotten p)

/-- Half a length is one byte, and a payload that is awaited has an admitted length and is not
complete. -/
structure Sound (p : FrameParser) : Prop where
  halfLength : p.frameState = .awaitingLen2 → p.frameLength.toNat < 256
  length : p.frameState = .awaitingPayload → 1 ≤ p.frameLength.toNat ∧
    p.frameLength.toNat ≤ SerialAdapter.maxPayload
  index : p.frameState = .awaitingPayload → p.frameIndex < p.frameLength.toNat

section Parser

variable {p : FrameParser}

/-- A new parser is sound. -/
theorem sound_new : Sound FrameParser.new := by
  refine ⟨fun h => ?_, fun h => ?_, fun h => ?_⟩ <;> cases h

/-- A parser that was reset is sound. -/
theorem sound_reset (p : FrameParser) : Sound p.reset := by
  refine ⟨fun h => ?_, fun h => ?_, fun h => ?_⟩ <;> cases h

/-- The awaited byte has its place in the buffer. -/
theorem Sound.index_lt (h : Sound p) (hstate : p.frameState = .awaitingPayload) :
    p.frameIndex < SerialAdapter.maxPayload :=
  (h.index hstate).trans_le (h.length hstate).2

/-- Both halves of a length together.
SOURCE: Serial_Adapter.cpp:103 -/
theorem toNat_frameLength {n : UInt16} (hn : n.toNat < 256) (hi : UInt8) :
    (n ||| (hi.toUInt16 <<< 8)).toNat = wire.lengthOf n.toUInt8 hi := by
  have hhi := hi.toNat_lt
  have hshift : (hi.toUInt16 <<< 8).toNat = hi.toNat <<< 8 := by
    simp only [UInt16.toNat_shiftLeft, UInt8.toNat_toUInt16, Nat.shiftLeft_eq]
    rw [show (8 : UInt16).toNat % 16 = 8 from rfl]
    omega
  rw [UInt16.toNat_or, hshift, Nat.or_comm, ← Nat.shiftLeft_add_eq_or_of_lt (by omega)]
  simp only [wire, UInt16.toNat_toUInt8, Nat.shiftLeft_eq]
  omega

/-- The buffer grows by one byte. -/
theorem take_set_buffer {i : ℕ} (hi : i < SerialAdapter.maxPayload)
    (buffer : Vector UInt8 SerialAdapter.maxPayload) (b : UInt8) :
    (buffer.set i b).toList.take (i + 1) = buffer.toList.take i ++ [b] := by
  have hlength : i < buffer.toList.length := by
    rw [Vector.length_toList]
    exact hi
  rw [Vector.toList_set, List.take_set, List.take_succ_eq_append_getElem hlength,
    List.set_append_right _ _ (by rw [List.length_take]; omega)]
  rw [List.length_take, Nat.min_eq_left hlength.le, Nat.sub_self]
  rfl

/-- A sound parser has got as many bytes as its index says. -/
theorem length_gotten (hi : p.frameIndex < SerialAdapter.maxPayload) :
    (gotten p).length = p.frameIndex := by
  rw [gotten, List.length_take, Vector.length_toList]
  omega

/-- What one byte does: the reader takes the same step, and the buffer has room. -/
structure Feeds (p : FrameParser) (b : UInt8) : Prop where
  sound : Sound (p.receiveByte b).1
  reader : readerOf (p.receiveByte b).1 = ((readerOf p).feed wire b).1
  payload : payloadOf (p.receiveByte b).2 = ((readerOf p).feed wire b).2
  room : (p.receiveByte b).2 ≠ .overflow

/-- The step of the parser is read off, and the step of the reader is the same. -/
theorem Feeds.of_eq {b : UInt8} {q : FrameParser} {result : ParseResult}
    (hreceived : p.receiveByte b = (q, result)) (hsound : Sound q)
    (hfeed : (readerOf p).feed wire b = (readerOf q, payloadOf result))
    (hroom : result ≠ .overflow) : Feeds p b := by
  constructor
  · rw [hreceived]
    exact hsound
  · rw [hreceived, hfeed]
  · rw [hreceived, hfeed]
  · rw [hreceived]
    exact hroom

/-- The first byte of a length. -/
theorem feeds_awaitingLen1 (hstate : p.frameState = .awaitingLen1) (b : UInt8) : Feeds p b := by
  have hreceived : p.receiveByte b =
      ({ p with frameLength := b.toUInt16, frameState := .awaitingLen2 }, .nothing) := by
    simp only [FrameParser.receiveByte, hstate]
  have hreader : readerOf p = .first := by rw [readerOf, hstate]
  have hbyte : b.toUInt16.toNat < 256 := by
    rw [UInt8.toNat_toUInt16]
    exact b.toNat_lt
  refine Feeds.of_eq hreceived ⟨fun _ => hbyte, fun hfalse => ?_, fun hfalse => ?_⟩ ?_ ?_
  · cases hfalse
  · cases hfalse
  · rw [hreader]
    show (Reader.second b, none) = (Reader.second b.toUInt16.toUInt8, none)
    rw [UInt8.toUInt8_toUInt16]
  · intro hfalse
    cases hfalse

/-- The second byte of a length, which is admitted or not. -/
theorem feeds_awaitingLen2 (h : Sound p) (hstate : p.frameState = .awaitingLen2) (b : UInt8) :
    Feeds p b := by
  have hlength := toNat_frameLength (h.halfLength hstate) b
  have hreader : readerOf p = .second p.frameLength.toUInt8 := by rw [readerOf, hstate]
  by_cases hadmits : wire.Admits (wire.lengthOf p.frameLength.toUInt8 b)
  · have hvalid : ¬(p.frameLength ||| (b.toUInt16 <<< 8) = (0 : UInt16) ∨
        SerialAdapter.maxPayload < (p.frameLength ||| (b.toUInt16 <<< 8)).toNat) := by
      rintro (hzero | hlong)
      · rw [hzero] at hlength
        have hpositive := hadmits.1
        rw [← hlength] at hpositive
        cases hpositive
      · rw [hlength] at hlong
        exact absurd hadmits.2 (Nat.not_le.mpr hlong)
    have hreceived : p.receiveByte b =
        ({ p with
            frameLength := p.frameLength ||| (b.toUInt16 <<< 8)
            frameIndex := 0
            frameState := .awaitingPayload }, .nothing) := by
      simp only [FrameParser.receiveByte, hstate, if_neg hvalid]
    refine Feeds.of_eq hreceived ⟨fun hfalse => ?_, fun _ => ?_, fun _ => ?_⟩ ?_ ?_
    · cases hfalse
    · rw [hlength]
      exact hadmits
    · rw [hlength]
      exact hadmits.1
    · rw [hreader, Reader.feed, if_pos hadmits, ← hlength]
      rfl
    · intro hfalse
      cases hfalse
  · have hinvalid : p.frameLength ||| (b.toUInt16 <<< 8) = (0 : UInt16) ∨
        SerialAdapter.maxPayload < (p.frameLength ||| (b.toUInt16 <<< 8)).toNat := by
      by_contra hvalid
      obtain ⟨hzero, hlong⟩ := not_or.mp hvalid
      apply hadmits
      rw [← hlength]
      refine ⟨Nat.pos_of_ne_zero fun hnat => hzero (UInt16.toNat_inj.mp hnat), ?_⟩
      exact Nat.not_lt.mp hlong
    have hreceived : p.receiveByte b =
        (FrameParser.reset { p with
          frameLength := p.frameLength ||| (b.toUInt16 <<< 8) }, .invalidLength) := by
      simp only [FrameParser.receiveByte, hstate, if_pos hinvalid]
    refine Feeds.of_eq hreceived (sound_reset _) ?_ ?_
    · rw [hreader, Reader.feed, if_neg hadmits]
      rfl
    · intro hfalse
      cases hfalse

/-- The byte that completes a payload. -/
theorem receiveByte_last (hstate : p.frameState = .awaitingPayload)
    (hroom : p.frameIndex < SerialAdapter.maxPayload)
    (hlast : p.frameLength.toNat ≤ p.frameIndex + 1) (b : UInt8) :
    p.receiveByte b =
      (FrameParser.reset { p with
        payloadBuffer := p.payloadBuffer.set p.frameIndex b
        frameIndex := p.frameIndex + 1 },
      .complete ((p.payloadBuffer.set p.frameIndex b).toList.take p.frameLength.toNat)) := by
  simp only [FrameParser.receiveByte, hstate, dif_pos hroom, if_pos hlast]

/-- A byte of the payload, which may be the last one. -/
theorem feeds_awaitingPayload (h : Sound p) (hstate : p.frameState = .awaitingPayload)
    (b : UInt8) : Feeds p b := by
  have hroom := h.index_lt hstate
  have hindex := h.index hstate
  have hlength := length_gotten hroom
  have hreader : readerOf p = .payload p.frameLength.toNat (gotten p) := by rw [readerOf, hstate]
  by_cases hlast : p.frameLength.toNat ≤ p.frameIndex + 1
  · have hexact : p.frameLength.toNat = p.frameIndex + 1 := by omega
    refine Feeds.of_eq (receiveByte_last hstate hroom hlast b) (sound_reset _) ?_ ?_
    · rw [hreader, Reader.feed, if_pos (by omega), hexact, take_set_buffer hroom]
      rfl
    · intro hfalse
      cases hfalse
  · have hreceived : p.receiveByte b =
        ({ p with
            payloadBuffer := p.payloadBuffer.set p.frameIndex b
            frameIndex := p.frameIndex + 1 }, .nothing) := by
      simp only [FrameParser.receiveByte, hstate, dif_pos hroom, if_neg hlast]
    refine Feeds.of_eq hreceived
      ⟨fun hfalse => ?_, fun _ => h.length hstate, fun _ => Nat.not_le.mp hlast⟩ ?_ ?_
    · rw [hstate] at hfalse
      cases hfalse
    · rw [hreader, Reader.feed, if_neg (by omega)]
      simp only [readerOf, hstate, payloadOf]
      rw [gotten, gotten, take_set_buffer hroom]
    · intro hfalse
      cases hfalse

/-- **One byte does the same to the parser and to the reader.**
SOURCE: Serial_Adapter.cpp:93-139 -/
theorem receiveByte_feed (h : Sound p) (b : UInt8) : Feeds p b := by
  cases hstate : p.frameState with
  | awaitingLen1 => exact feeds_awaitingLen1 hstate b
  | awaitingLen2 => exact feeds_awaitingLen2 h hstate b
  | awaitingPayload => exact feeds_awaitingPayload h hstate b

/-- A complete payload is a front part of the buffer. -/
theorem complete_head (h : Sound p) {b : UInt8} {payload : List UInt8}
    (hcomplete : (p.receiveByte b).2 = .complete payload) :
    payload.head? = some (p.receiveByte b).1.payloadBuffer[0] := by
  cases hstate : p.frameState with
  | awaitingLen1 =>
      simp only [FrameParser.receiveByte, hstate] at hcomplete
      cases hcomplete
  | awaitingLen2 =>
      simp only [FrameParser.receiveByte, hstate] at hcomplete
      split at hcomplete
      · cases hcomplete
      · cases hcomplete
  | awaitingPayload =>
      have hroom := h.index_lt hstate
      obtain ⟨n, hn⟩ := Nat.exists_eq_add_of_le' (h.length hstate).1
      by_cases hlast : p.frameLength.toNat ≤ p.frameIndex + 1
      · rw [receiveByte_last hstate hroom hlast] at hcomplete ⊢
        injection hcomplete with hpayload
        rw [← hpayload, hn, List.head?_take, if_neg (Nat.succ_ne_zero n), List.head?_eq_getElem?]
        exact List.getElem?_eq_getElem _
      · simp only [FrameParser.receiveByte, hstate, dif_pos hroom, if_neg hlast] at hcomplete
        cases hcomplete

/-- The test entry completes the same payloads, and keeps their first bytes.
SOURCE: Serial_Adapter.cpp:526-563 -/
theorem injectByte_eq (h : Sound p) (op b : UInt8) :
    p.injectByte op b =
      ((p.receiveByte b).1, ((payloadOf (p.receiveByte b).2).bind List.head?).getD op,
        (payloadOf (p.receiveByte b).2).isSome) := by
  rw [FrameParser.injectByte]
  cases hresult : (p.receiveByte b).2 with
  | complete payload =>
      simp only [payloadOf, Option.bind_some, complete_head h hresult]
      rfl
  | nothing => rfl
  | invalidLength => rfl
  | overflow => rfl

end Parser

/-! ## Sessions -/

/-- A call of `loop()`: its readings, and the bytes that are available to it. -/
structure LoopCall where
  env : Env
  later : ℕ → Env
  bytes : List UInt8

/-- What was read from the line and what was passed to `handleCompleteFrame` since power-up; a
restart ends the session. -/
structure Session where
  node : SerialNode
  received : List UInt8
  handled : List (List UInt8)
  restart : Option Restart

namespace Session

/-- The parser is constructed with the adapter. -/
def start (n : SerialNode) : Session := ⟨{ n with parser := FrameParser.new }, [], [], none⟩

def resume (s : Session) : Except Restart SerialNode → Session
  | .ok node => { s with node := node }
  | .error r => { s with restart := some r }

def readByte (tls : Mbedtls) (adapter : Adapter) (s : Session) (env : Env) (b : UInt8) : Session :=
  let received := s.node.parser.receiveByte b
  resume ⟨{ s.node with parser := received.1 }, s.received ++ [b],
    s.handled ++ (payloadOf received.2).toList, s.restart⟩ (s.node.readByte tls adapter env b)

def readBytes (tls : Mbedtls) (adapter : Adapter) (s : Session) (env : ℕ → Env) :
    List UInt8 → Session
  | [] => s
  | b :: bytes =>
      if s.restart.isSome then s
      else (s.readByte tls adapter (env 0) b).readBytes tls adapter (fun i => env (i + 1)) bytes

def call (tls : Mbedtls) (adapter : Adapter) (s : Session) (c : LoopCall) : Session :=
  if s.restart.isSome then s
  else (s.resume (s.node.reportHealth c.env)).readBytes tls adapter c.later c.bytes

def calls (tls : Mbedtls) (adapter : Adapter) (s : Session) (cs : List LoopCall) : Session :=
  cs.foldl (call tls adapter) s

/-- What is noted down of one byte is what the adapter does: `handleCompleteFrame` gets the payload
that is noted down, and is not called when nothing is.
SOURCE: Serial_Adapter.cpp:93-139 -/
def HandsOver (tls : Mbedtls) (adapter : Adapter) (s : Session) (env : Env) (b : UInt8) : Prop :=
  let node := { s.node with parser := (s.node.parser.receiveByte b).1 }
  (∃ payload, (s.readByte tls adapter env b).handled = s.handled ++ [payload] ∧
    s.node.readByte tls adapter env b =
      node.resume (s.node.device.handleCompleteFrame tls env adapter payload)) ∨
  ((s.readByte tls adapter env b).handled = s.handled ∧
    (s.node.readByte tls adapter env b = .ok node ∨
      s.node.readByte tls adapter env b = node.resume
        (s.node.device.fail ⟨.comm, .adapter, 2, "Serial_Adapter: Invalid frame length"⟩)))

/-- How the session stands. -/
def outcome (s : Session) : Except Restart SerialNode :=
  match s.restart with
  | none => .ok s.node
  | some r => .error r

/-- What was read, what the parser made of it, and what was passed on, belong together. -/
structure Framed (s : Session) : Prop where
  sound : Sound s.node.parser
  reader : readerOf s.node.parser = (Reader.feedAll wire .first s.received).1
  handled : s.handled = (Reader.feedAll wire .first s.received).2

section Calls

variable {tls : Mbedtls} {adapter : Adapter} {s : Session}

/-! ### The session follows the adapter -/

/-- A session ends as the adapter's loop does.
SOURCE: Serial_Adapter.cpp:325-524 -/
theorem outcome_readBytes (h : s.restart = none) (env : ℕ → Env) (bytes : List UInt8) :
    (s.readBytes tls adapter env bytes).outcome = s.node.readBytes tls adapter env bytes := by
  induction bytes generalizing s env with
  | nil => simp only [readBytes, outcome, h, SerialNode.readBytes]
  | cons b bytes ih =>
      have hnext : ¬s.restart.isSome = true := by simp [h]
      rw [readBytes, if_neg hnext, SerialNode.readBytes, Session.readByte]
      cases hread : s.node.readByte tls adapter (env 0) b with
      | ok node => exact @ih ⟨node, _, _, s.restart⟩ h fun i => env (i + 1)
      | error r =>
          cases bytes with
          | nil => rfl
          | cons b' bytes => rfl

/-- **A call of the session is a call of `Serial_Adapter::loop`.**
SOURCE: Serial_Adapter.cpp:75-141 -/
theorem outcome_call (h : s.restart = none) (c : LoopCall) :
    (s.call tls adapter c).outcome = s.node.loop tls adapter c.env c.later c.bytes := by
  have hnext : ¬s.restart.isSome = true := by simp [h]
  rw [call, if_neg hnext, SerialNode.loop]
  cases hreport : s.node.reportHealth c.env with
  | ok node => exact @outcome_readBytes tls adapter { s with node := node } h c.later c.bytes
  | error r =>
      cases hbytes : c.bytes with
      | nil => rfl
      | cons b bytes => rfl

/-! ### What is read and passed on -/

/-- A new session is framed: it has read nothing. -/
theorem framed_start (n : SerialNode) : (start n).Framed :=
  ⟨sound_new, rfl, rfl⟩

/-- A handler leaves the parser alone. -/
theorem resume_parser_eq {s : Session} {o : Except Restart SerialNode}
    (h : ∀ node, o = .ok node → node.parser = s.node.parser) :
    (s.resume o).node.parser = s.node.parser := by
  cases o with
  | ok node => exact h node rfl
  | error r => rfl

/-- A handler receives nothing. -/
theorem resume_received (s : Session) (o : Except Restart SerialNode) :
    (s.resume o).received = s.received := by
  cases o with
  | ok node => rfl
  | error r => rfl

/-- A handler completes nothing. -/
theorem resume_handled (s : Session) (o : Except Restart SerialNode) :
    (s.resume o).handled = s.handled := by
  cases o with
  | ok node => rfl
  | error r => rfl

/-- **The handler gets what is noted down, and nothing else.** -/
theorem handsOver_of_sound (h : Sound s.node.parser) (env : Env) (b : UInt8) :
    s.HandsOver tls adapter env b := by
  have hnoted : (s.readByte tls adapter env b).handled =
      s.handled ++ (payloadOf (s.node.parser.receiveByte b).2).toList := resume_handled _ _
  have hroom := (receiveByte_feed h b).room
  rw [HandsOver, hnoted, SerialNode.readByte]
  cases hresult : (s.node.parser.receiveByte b).2 with
  | nothing => exact .inr ⟨List.append_nil _, .inl rfl⟩
  | invalidLength => exact .inr ⟨List.append_nil _, .inr rfl⟩
  | overflow => exact absurd hresult hroom
  | complete payload => exact .inl ⟨payload, rfl, rfl⟩

/-- What the handler does to the device does not concern the parser. -/
theorem parser_of_resume {n node : SerialNode} {o : Outcome} (h : n.resume o = .ok node) :
    node.parser = n.parser := by
  cases o with
  | ok d =>
      cases h
      rfl
  | error r => cases h

/-- A health report leaves the parser alone.
SOURCE: Serial_Adapter.cpp:24-57 -/
theorem reportHealth_parser_eq {n node : SerialNode} {env : Env}
    (h : n.reportHealth env = .ok node) : node.parser = n.parser := by
  unfold SerialNode.reportHealth at h
  simp only at h
  split at h
  · rw [parser_of_resume h]
  · cases h
    rfl

/-- A byte goes through the parser. -/
theorem readByte_parser_eq {n node : SerialNode} {env : Env} {b : UInt8}
    (h : n.readByte tls adapter env b = .ok node) :
    node.parser = (n.parser.receiveByte b).1 := by
  unfold SerialNode.readByte at h
  simp only at h
  split at h
  · cases h
    rfl
  · exact parser_of_resume h
  · exact parser_of_resume h
  · exact parser_of_resume h

/-- A byte keeps the session framed. -/
theorem Framed.readByte (h : s.Framed) (env : Env) (b : UInt8) :
    (s.readByte tls adapter env b).Framed := by
  have hfeeds := receiveByte_feed h.sound b
  have hparser : (s.readByte tls adapter env b).node.parser =
      (s.node.parser.receiveByte b).1 :=
    resume_parser_eq fun node hnode => readByte_parser_eq hnode
  have hreceived : (s.readByte tls adapter env b).received = s.received ++ [b] :=
    resume_received _ _
  constructor
  · rw [hparser]
    exact hfeeds.sound
  · rw [hparser, hreceived, Reader.feedAll_concat, ← h.reader]
    exact hfeeds.reader
  · rw [hreceived, Reader.feedAll_concat, ← h.reader, ← hfeeds.payload, ← h.handled]
    exact resume_handled _ _

/-- Many bytes keep the session framed. -/
theorem Framed.readBytes (h : s.Framed) (env : ℕ → Env) (bytes : List UInt8) :
    (s.readBytes tls adapter env bytes).Framed := by
  induction bytes generalizing s env with
  | nil => exact h
  | cons b bytes ih =>
      rw [Session.readBytes]
      split
      · exact h
      · exact ih (h.readByte (env 0) b) _

/-- A call of the loop keeps the session framed. -/
theorem Framed.call (h : s.Framed) (c : LoopCall) : (s.call tls adapter c).Framed := by
  rw [Session.call]
  split
  · exact h
  · apply Framed.readBytes
    have hparser : (s.resume (s.node.reportHealth c.env)).node.parser = s.node.parser :=
      resume_parser_eq fun node hnode => reportHealth_parser_eq hnode
    refine ⟨?_, ?_, ?_⟩
    · rw [hparser]
      exact h.sound
    · rw [hparser, resume_received]
      exact h.reader
    · rw [resume_received, resume_handled]
      exact h.handled

/-- Many calls keep the session framed. -/
theorem Framed.calls (h : s.Framed) (cs : List LoopCall) : (s.calls tls adapter cs).Framed := by
  induction cs generalizing s with
  | nil => exact h
  | cons c cs ih => exact ih (h.call c)

/-- The bytes that were to be read, of which a restart leaves some unread. -/
structure Reads (s : Session) (bytes : List UInt8) (s' : Session) : Prop where
  received : ∃ unread, s.received ++ bytes = s'.received ++ unread ∧
    (s'.restart = none → unread = [])

/-- A session that was stopped reads nothing more. -/
theorem Reads.stopped (hstop : s.restart.isSome = true) (bytes : List UInt8) :
    Reads s bytes s := by
  refine ⟨bytes, rfl, fun hnone => ?_⟩
  rw [hnone] at hstop
  cases hstop

/-- A session reads a prefix of what comes, and all of it while it is running. -/
theorem reads_readBytes (env : ℕ → Env) (bytes : List UInt8) :
    Reads s bytes (s.readBytes tls adapter env bytes) := by
  induction bytes generalizing s env with
  | nil => exact ⟨[], rfl, fun _ => rfl⟩
  | cons b bytes ih =>
      rw [Session.readBytes]
      split
      · next hstop => exact Reads.stopped hstop _
      · obtain ⟨unread, hsplit, hall⟩ :=
          (@ih (s.readByte tls adapter (env 0) b) fun i => env (i + 1)).received
        refine ⟨unread, ?_, hall⟩
        have hone : (s.readByte tls adapter (env 0) b).received = s.received ++ [b] :=
          resume_received _ _
        rw [← hsplit, hone, List.append_assoc]
        rfl

/-- A session reads a prefix of the bytes of a call, and all of them while it is running. -/
theorem reads_call (c : LoopCall) : Reads s c.bytes (s.call tls adapter c) := by
  rw [Session.call]
  split
  · next hstop => exact Reads.stopped hstop _
  · obtain ⟨unread, hsplit, hall⟩ := (@reads_readBytes tls adapter
      (s.resume (s.node.reportHealth c.env)) c.later c.bytes).received
    rw [resume_received] at hsplit
    exact ⟨unread, hsplit, hall⟩

/-- A session that was stopped makes no more calls. -/
theorem calls_of_stopped (hstop : s.restart.isSome = true) (cs : List LoopCall) :
    s.calls tls adapter cs = s := by
  induction cs with
  | nil => rfl
  | cons c cs ih =>
      have hcall : s.call tls adapter c = s := if_pos hstop
      rw [calls, List.foldl_cons, hcall]
      exact ih

/-- The calls read the bytes in order; when none of them restarts the device, they read all. -/
theorem reads_calls (cs : List LoopCall) :
    Reads s (cs.flatMap LoopCall.bytes) (s.calls tls adapter cs) := by
  induction cs generalizing s with
  | nil => exact ⟨[], rfl, fun _ => rfl⟩
  | cons c cs ih =>
      have hcalls : s.calls tls adapter (c :: cs) = (s.call tls adapter c).calls tls adapter cs :=
        rfl
      obtain ⟨unread, hsplit, hall⟩ := (@reads_call tls adapter s c).received
      rw [hcalls, List.flatMap_cons]
      cases hrestart : (s.call tls adapter c).restart with
      | none =>
          obtain ⟨unread', hsplit', hall'⟩ := (@ih (s.call tls adapter c)).received
          rw [hall hrestart, List.append_nil] at hsplit
          exact ⟨unread', by rw [← List.append_assoc, hsplit, hsplit'], hall'⟩
      | some r =>
          have hstop : (s.call tls adapter c).restart.isSome = true := by rw [hrestart]; rfl
          rw [calls_of_stopped hstop]
          refine ⟨unread ++ cs.flatMap LoopCall.bytes, ?_, fun hnone => ?_⟩
          · rw [← List.append_assoc, hsplit, List.append_assoc]
          · rw [hnone] at hrestart
            cases hrestart

end Calls

end Session

/-! ## Statement -/

/-- **What is handled are the payloads of what was read, however the calls of `loop()` cut the
stream into pieces**, and the buffer has room for every byte of a payload.  Only a restart leaves
bytes unread.  The session is that of the adapter: a further call does what `loop()` does, and a
further byte, which a call with less bytes leaves to be read, reaches `handleCompleteFrame` exactly
when it completes a payload.
SOURCE: Serial_Adapter.cpp:75-141 -/
theorem session_frames (tls : Mbedtls) (adapter : Adapter) (n : SerialNode)
    (cs : List LoopCall) :
    let s := (Session.start n).calls tls adapter cs
    s.handled = payloads wire s.received ∧
      (∃ unread, cs.flatMap LoopCall.bytes = s.received ++ unread ∧
        (s.restart = none → unread = [])) ∧
      (∀ frames, (∀ payload ∈ frames, 1 ≤ payload.length ∧ payload.length ≤ 256) →
        s.received = frames.flatMap frameBytes → s.handled = frames) ∧
      (s.node.parser.frameState = .awaitingPayload →
        1 ≤ s.node.parser.frameLength.toNat ∧
          s.node.parser.frameLength.toNat ≤ SerialAdapter.maxPayload ∧
          s.node.parser.frameIndex < s.node.parser.frameLength.toNat) ∧
      (∀ b, (s.node.parser.receiveByte b).2 ≠ .overflow) ∧
      (s.restart = none → ∀ c, (s.call tls adapter c).outcome =
        s.node.loop tls adapter c.env c.later c.bytes) ∧
      ∀ env b, s.HandsOver tls adapter env b := by
  intro s
  have hframed := @Session.Framed.calls tls adapter _ (Session.framed_start n) cs
  have hreads := (@Session.reads_calls tls adapter (Session.start n) cs).received
  have hhandled := hframed.handled.trans (Reader.feedAll_first _)
  refine ⟨hhandled, hreads, ?_, ?_, ?_, fun hgoes c => Session.outcome_call hgoes c,
    Session.handsOver_of_sound hframed.sound⟩
  · intro frames hframes hreceived
    rw [hhandled, hreceived]
    exact payloads_frames hframes
  · intro hstate
    have hlength := hframed.sound.length hstate
    exact ⟨hlength.1, hlength.2, hframed.sound.index hstate⟩
  · intro b
    exact (receiveByte_feed hframed.sound b).room

end SerialFraming

end LatticeNodes.Analysis
