import SessionChat.Control.Fallible
import SessionChat.Protocol.Wire

/-!
# Frames between the local processes (`apps/sessionctl/src/l1_process/ipc.rs`)

A frame is a header of twelve bytes and one or two parts, each behind its length. The reader
follows the lengths it finds, so every access to the buffer is a checked one here: an index
outside it is the error `outOfBounds`, which the source would answer with a panic.
-/

set_option autoImplicit false

namespace SessionChat.Ipc

open Codec Control Protocol

/-- The bytes of `SCL1IPC1`. -/
def ipcMagic : List UInt8 := [0x53, 0x43, 0x4C, 0x31, 0x49, 0x50, 0x43, 0x31]

def ipcVersion : UInt8 := 1

def ipcHeaderBytes : Nat := 12

def ipcLengthBytes : Nat := 4

def maxIpcParts : Nat := 2

def maxIpcFrameBytes : Nat :=
  ipcHeaderBytes + maxIpcParts * ipcLengthBytes + 2 * maxWireObjectBytes

def expectedFrames : UInt8 := 7

inductive IpcError
  | stage (name : String)
  | outOfBounds

inductive FrameKind
  | protectedJoin
  | welcomeDeposit
  | opaqueEnvelope
deriving DecidableEq

def FrameKind.toByte : FrameKind → UInt8
  | protectedJoin => 1
  | welcomeDeposit => 2
  | opaqueEnvelope => 3

def FrameKind.tryFrom (value : UInt8) : Except IpcError FrameKind :=
  if value = 1 then .ok .protectedJoin
  else if value = 2 then .ok .welcomeDeposit
  else if value = 3 then .ok .opaqueEnvelope
  else .error (.stage "IPC kind")

@[ext] structure IpcFrame where
  kind : FrameKind
  sequence : UInt8
  parts : List (List UInt8)

/-- Which byte strings the decoders of the wire objects accept. -/
structure WireDecoders where
  protectedJoinRequest : List UInt8 → Bool
  localWelcomeDepositEndpoint : List UInt8 → Bool
  opaqueEnvelope : List UInt8 → Bool

/-- `decode_canonical(&parts[index])` at a stage. -/
def validatePart (decoder : List UInt8 → Bool) (parts : List (List UInt8)) (index : Nat)
    (stage : String) : Except IpcError Unit := do
  let part ← require parts[index]? .outOfBounds
  refuse (decoder part = false) (.stage stage)

variable (wire : WireDecoders)

def validateWireParts (kind : FrameKind) (parts : List (List UInt8)) :
    Except IpcError Unit :=
  match kind with
  | .protectedJoin => validatePart wire.protectedJoinRequest parts 0 "IPC protected join"
  | .welcomeDeposit => do
    validatePart wire.localWelcomeDepositEndpoint parts 0 "IPC Welcome endpoint"
    validatePart wire.opaqueEnvelope parts 1 "IPC Welcome envelope"
  | .opaqueEnvelope => validatePart wire.opaqueEnvelope parts 0 "IPC opaque envelope"

def FrameKind.expectedParts : FrameKind → Nat
  | welcomeDeposit => 2
  | protectedJoin | opaqueEnvelope => 1

def IpcFrame.new (kind : FrameKind) (sequence : UInt8) (parts : List (List UInt8)) :
    Except IpcError IpcFrame := do
  refuse (¬(1 ≤ sequence ∧ sequence ≤ expectedFrames) ∨ parts.length ≠ kind.expectedParts ∨
    ∃ part ∈ parts, part = [] ∨ maxWireObjectBytes < part.length) (.stage "IPC frame")
  validateWireParts wire kind parts
  return ⟨kind, sequence, parts⟩

def IpcFrame.header (frame : IpcFrame) : List UInt8 :=
  ipcMagic ++ [ipcVersion, frame.kind.toByte, frame.sequence, UInt8.ofNat frame.parts.length]

/-- The parts, each behind its length. -/
def partBytes (parts : List (List UInt8)) : List UInt8 :=
  parts.flatMap fun part => bigEndian ipcLengthBytes part.length ++ part

def IpcFrame.encoding (frame : IpcFrame) : List UInt8 := frame.header ++ partBytes frame.parts

/-- The first check is that of `u8::try_from` and `u32::try_from`. -/
def IpcFrame.encode (frame : IpcFrame) : Except IpcError (List UInt8) := do
  refuse (2 ^ 8 ≤ frame.parts.length ∨ ∃ part ∈ frame.parts, 2 ^ 32 ≤ part.length)
    (.stage "IPC frame")
  refuse (maxIpcFrameBytes < frame.encoding.length) (.stage "IPC frame")
  return frame.encoding

/-- `encoded.get(start..stop)`. -/
def slice? (encoded : List UInt8) (start stop : Nat) : Option (List UInt8) :=
  if start ≤ stop ∧ stop ≤ encoded.length then some ((encoded.drop start).take (stop - start))
  else none

/-- The loop over the parts, with the cursor it ends at. An end that overflows `usize` lies
outside the buffer, and the source answers both with the same error. -/
def readParts (encoded : List UInt8) :
    Nat → Nat → Except IpcError (List (List UInt8) × Nat)
  | 0, cursor => .ok ([], cursor)
  | count + 1, cursor => do
    let lengthEnd := cursor + ipcLengthBytes
    let lengthBytes ← require (slice? encoded cursor lengthEnd) (.stage "IPC frame")
    let partEnd := lengthEnd + ofBigEndian lengthBytes
    let part ← require (slice? encoded lengthEnd partEnd) (.stage "IPC frame")
    let (parts, last) ← readParts encoded count partEnd
    return (part :: parts, last)

def IpcFrame.decode (encoded : List UInt8) :
    Except IpcError IpcFrame := do
  refuse (encoded.length < ipcHeaderBytes ∨ maxIpcFrameBytes < encoded.length)
    (.stage "IPC frame")
  let magic ← require (slice? encoded 0 8) .outOfBounds
  let version ← require encoded[8]? .outOfBounds
  refuse (magic ≠ ipcMagic ∨ version ≠ ipcVersion) (.stage "IPC frame")
  let kindByte ← require encoded[9]? .outOfBounds
  let kind ← FrameKind.tryFrom kindByte
  let sequence ← require encoded[10]? .outOfBounds
  let partCount ← require encoded[11]? .outOfBounds
  refuse (partCount.toNat = 0 ∨ maxIpcParts < partCount.toNat) (.stage "IPC frame")
  let (parts, cursor) ← readParts encoded partCount.toNat ipcHeaderBytes
  refuse (cursor ≠ encoded.length) (.stage "IPC frame")
  let frame ← IpcFrame.new wire kind sequence parts
  let again ← frame.encode
  refuse (again ≠ encoded) (.stage "IPC canonical encoding")
  return frame

/-! ## Every access is inside the buffer -/

def InBounds {α : Type} (x : Except IpcError α) : Prop := x ≠ .error .outOfBounds

section

variable {α β : Type} {x : Except IpcError α} {f : α → Except IpcError β}

theorem InBounds.bind (hx : InBounds x) (hf : ∀ a, x = .ok a → InBounds (f a)) :
    InBounds (x >>= f) := by
  intro h
  obtain h | ⟨a, ha, h⟩ := bind_eq_error.1 h
  · exact hx h
  · exact hf a ha h

theorem inBounds_ok (a : α) : InBounds (.ok a) := by
  rintro ⟨⟩

theorem inBounds_refuse {c : Prop} [Decidable c] (stage : String) :
    InBounds (refuse c (.stage stage)) := by
  intro h
  cases (refuse_eq_error.1 h).2

theorem inBounds_require (value : Option α) (stage : String) :
    InBounds (require value (.stage stage)) := by
  intro h
  cases (require_eq_error.1 h).2

/-- An index below the length. -/
theorem inBounds_require_of_isSome {value : Option α} {error : IpcError}
    (hvalue : value.isSome = true) : InBounds (require value error) := by
  intro h
  rw [(require_eq_error.1 h).1] at hvalue
  cases hvalue

end

variable {parts : List (List UInt8)}

theorem inBounds_validatePart {decoder : List UInt8 → Bool} {index : Nat} {stage : String}
    (hindex : index < parts.length) :
    InBounds (validatePart decoder parts index stage) :=
  .bind (inBounds_require_of_isSome (by simpa using hindex)) fun _ _ => inBounds_refuse stage

theorem inBounds_validateWireParts {kind : FrameKind} (hparts : parts.length = kind.expectedParts) :
    InBounds (validateWireParts wire kind parts) := by
  cases kind with
  | protectedJoin => exact inBounds_validatePart (by rw [hparts]; decide)
  | welcomeDeposit =>
    exact .bind (inBounds_validatePart (by rw [hparts]; decide)) fun _ _ =>
      inBounds_validatePart (by rw [hparts]; decide)
  | opaqueEnvelope => exact inBounds_validatePart (by rw [hparts]; decide)

theorem inBounds_new (kind : FrameKind) (sequence : UInt8) (parts : List (List UInt8)) :
    InBounds (IpcFrame.new wire kind sequence parts) := by
  refine .bind (inBounds_refuse _) fun _ hchecks => ?_
  have hparts : parts.length = kind.expectedParts := by
    by_contra hne
    exact refuse_eq_ok.1 hchecks (.inr (.inl hne))
  exact .bind (inBounds_validateWireParts wire hparts) fun _ _ => inBounds_ok _

theorem inBounds_encode (frame : IpcFrame) : InBounds frame.encode :=
  .bind (inBounds_refuse _) fun _ _ => .bind (inBounds_refuse _) fun _ _ => inBounds_ok _

theorem inBounds_readParts (encoded : List UInt8) (count cursor : Nat) :
    InBounds (readParts encoded count cursor) := by
  induction count generalizing cursor with
  | zero => exact inBounds_ok _
  | succ count ih =>
    exact .bind (inBounds_require _ _) fun _ _ => .bind (inBounds_require _ _) fun _ _ =>
      .bind (ih _) fun _ _ => inBounds_ok _

theorem inBounds_tryFrom (value : UInt8) : InBounds (FrameKind.tryFrom value) := by
  unfold FrameKind.tryFrom InBounds
  split_ifs <;> simp

theorem inBounds_decode (encoded : List UInt8) : InBounds (IpcFrame.decode wire encoded) := by
  refine .bind (inBounds_refuse _) fun _ hlength => ?_
  have hheader : 12 ≤ encoded.length := by
    have h := refuse_eq_ok.1 hlength
    unfold ipcHeaderBytes at h
    omega
  have hindex : ∀ i < 12, encoded[i]?.isSome = true := by
    simp only [isSome_getElem?]
    omega
  have hslice : (slice? encoded 0 8).isSome = true := by
    rw [slice?, if_pos (by omega)]
    rfl
  refine .bind (inBounds_require_of_isSome hslice) fun _ _ => ?_
  refine .bind (inBounds_require_of_isSome (hindex 8 (by decide))) fun _ _ => ?_
  refine .bind (inBounds_refuse _) fun _ _ => ?_
  refine .bind (inBounds_require_of_isSome (hindex 9 (by decide))) fun _ _ => ?_
  refine .bind (inBounds_tryFrom _) fun _ _ => ?_
  refine .bind (inBounds_require_of_isSome (hindex 10 (by decide))) fun _ _ => ?_
  refine .bind (inBounds_require_of_isSome (hindex 11 (by decide))) fun _ _ => ?_
  refine .bind (inBounds_refuse _) fun _ _ => ?_
  refine .bind (inBounds_readParts _ _ _) fun _ _ => ?_
  refine .bind (inBounds_refuse _) fun _ _ => ?_
  refine .bind (inBounds_new _ _ _ _) fun _ _ => ?_
  exact .bind (inBounds_encode _) fun _ _ => .bind (inBounds_refuse _) fun _ _ => inBounds_ok _

/-! ## Reading back what was written -/

theorem slice?_append (before middle rest : List UInt8) :
    slice? (before ++ (middle ++ rest)) before.length (before.length + middle.length) =
      some middle := by
  simp [slice?]

theorem readParts_partBytes (parts : List (List UInt8)) (before rest : List UInt8)
    (hparts : ∀ part ∈ parts, part.length < 2 ^ 32) :
    readParts (before ++ (partBytes parts ++ rest)) parts.length before.length =
      .ok (parts, before.length + (partBytes parts).length) := by
  -- The part that was read joins the bytes before the cursor.
  induction parts generalizing before with
  | nil => rfl
  | cons part parts ih =>
    let digits := bigEndian ipcLengthBytes part.length
    have hvalue : ofBigEndian digits = part.length := by
      rw [ofBigEndian_bigEndian]
      exact Nat.mod_eq_of_lt (hparts part List.mem_cons_self)
    have hbytes : before ++ (partBytes (part :: parts) ++ rest) =
        before ++ (digits ++ (part ++ (partBytes parts ++ rest))) := by
      simp [partBytes, digits]
    have hlength := slice?_append before digits (part ++ (partBytes parts ++ rest))
    have hpart := slice?_append (before ++ digits) part (partBytes parts ++ rest)
    have hrest := ih (before ++ digits ++ part) fun other h => hparts other (.tail part h)
    simp only [List.append_assoc, List.length_append] at hlength hpart hrest
    rw [← Nat.add_assoc] at hrest
    have hend : before.length + (partBytes (part :: parts)).length =
        before.length + ipcLengthBytes + part.length + (partBytes parts).length := by
      simp [partBytes, Nat.add_assoc]
    rw [hbytes, hend]
    rw [← hvalue] at hpart hrest ⊢
    simp only [List.length_cons, readParts, bind_eq_ok, require_eq_ok]
    exact ⟨digits, hlength, part, hpart, _, hrest, rfl⟩

theorem length_partBytes_le {bound : Nat} (hparts : ∀ part ∈ parts, part.length ≤ bound) :
    (partBytes parts).length ≤ parts.length * (ipcLengthBytes + bound) := by
  induction parts with
  | nil => exact Nat.zero_le _
  | cons part parts ih =>
    have hpart := hparts part List.mem_cons_self
    have hrest := ih fun other h => hparts other (.tail part h)
    simp only [partBytes, List.flatMap_cons, List.length_append, length_bigEndian,
      List.length_cons, Nat.succ_mul] at hrest ⊢
    omega

/-! ## The codec -/

/-- The frames that exist: the fields are private to the constructor. -/
def IpcFrame.Accepted (frame : IpcFrame) : Prop :=
  ∃ kind sequence parts, IpcFrame.new wire kind sequence parts = .ok frame

theorem length_header (frame : IpcFrame) : frame.header.length = ipcHeaderBytes := rfl

theorem tryFrom_toByte (kind : FrameKind) : FrameKind.tryFrom kind.toByte = .ok kind := by
  cases kind <;> rfl

namespace IpcFrame.Accepted

variable {wire : WireDecoders} {frame other : IpcFrame}

section

variable (h : frame.Accepted wire)
include h

theorem new_eq : IpcFrame.new wire frame.kind frame.sequence frame.parts = .ok frame := by
  obtain ⟨kind, sequence, parts, h⟩ := h
  have hfields := h
  simp only [IpcFrame.new, bind_eq_ok, pure_eq_ok] at hfields
  obtain ⟨_, -, _, -, rfl⟩ := hfields
  exact h

theorem checked :
    frame.parts.length = frame.kind.expectedParts ∧
      ∀ part ∈ frame.parts, part.length ≤ maxWireObjectBytes := by
  have hnew := h.new_eq
  simp only [IpcFrame.new, bind_eq_ok, refuse_eq_ok] at hnew
  obtain ⟨_, hchecks, -⟩ := hnew
  refine ⟨?_, fun part hpart => ?_⟩
  · by_contra hne
    exact hchecks (.inr (.inl hne))
  · by_contra hlong
    exact hchecks (.inr (.inr ⟨part, hpart, .inr (Nat.lt_of_not_le hlong)⟩))

theorem length_parts : 1 ≤ frame.parts.length ∧ frame.parts.length ≤ maxIpcParts := by
  rw [h.checked.1]
  cases frame.kind <;> decide

theorem short : ∀ part ∈ frame.parts, part.length < 2 ^ 32 :=
  fun part hpart => Nat.lt_of_le_of_lt (h.checked.2 part hpart) (by decide)

/-- The count fits its byte of the header. -/
theorem toNat_count : (UInt8.ofNat frame.parts.length).toNat = frame.parts.length := by
  have hparts := h.length_parts.2
  rw [UInt8.toNat_ofNat']
  unfold maxIpcParts at hparts
  omega

theorem length_encoding_le : frame.encoding.length ≤ maxIpcFrameBytes := by
  have hbytes := length_partBytes_le h.checked.2
  have htotal := Nat.mul_le_mul_right (ipcLengthBytes + maxWireObjectBytes) h.length_parts.2
  rw [IpcFrame.encoding, List.length_append, length_header]
  dsimp only [maxIpcFrameBytes, maxIpcParts] at *
  omega

theorem encode_eq : frame.encode = .ok frame.encoding := by
  simp only [IpcFrame.encode, bind_eq_ok, refuse_eq_ok, pure_eq_ok]
  refine ⟨(), ?_, (), Nat.not_lt.2 h.length_encoding_le, trivial⟩
  rintro (hcount | ⟨part, hpart, hlong⟩)
  · exact absurd (Nat.le_trans hcount h.length_parts.2) (by decide)
  · exact absurd hlong (Nat.not_le.2 (h.short part hpart))

theorem decode_eq : IpcFrame.decode wire frame.encoding = .ok frame := by
  have hlength := h.length_encoding_le
  have hparts := h.length_parts
  have hcount := h.toNat_count
  have hread := readParts_partBytes frame.parts frame.header [] h.short
  rw [List.append_nil, ← hcount] at hread
  simp only [IpcFrame.decode, bind_eq_ok, refuse_eq_ok]
  refine ⟨(), ?_, ipcMagic, rfl, ipcVersion, rfl, (), ?_, frame.kind.toByte, rfl, frame.kind,
    tryFrom_toByte _, frame.sequence, rfl, UInt8.ofNat frame.parts.length, rfl, (), ?_, _, hread,
    (), ?_, frame, h.new_eq, _, h.encode_eq, (), ?_, rfl⟩
  · rw [IpcFrame.encoding, List.length_append, length_header] at hlength ⊢
    omega
  · simp
  · omega
  · simp [IpcFrame.encoding]
  · simp

/-- An encoding followed by other bytes is no encoding. -/
theorem rest_eq_nil {rest : List UInt8} (hother : other.Accepted wire)
    (hbytes : frame.encoding ++ rest = other.encoding) : rest = [] := by
  rw [IpcFrame.encoding, List.append_assoc] at hbytes
  obtain ⟨hheader, hrest⟩ := List.append_inj hbytes rfl
  have hcount : UInt8.ofNat frame.parts.length = UInt8.ofNat other.parts.length := by
    exact Option.some.inj (congrArg (·[11]?) hheader)
  have hread := readParts_partBytes frame.parts [] rest h.short
  have hreadOther := readParts_partBytes other.parts [] [] hother.short
  rw [List.append_nil, ← hrest, ← hother.toNat_count, ← hcount, h.toNat_count, hread] at hreadOther
  simp only [Except.ok.injEq, Prod.mk.injEq, List.length_append] at hreadOther
  exact List.eq_nil_of_length_eq_zero (by omega)

end

end IpcFrame.Accepted

theorem decode_eq_ok {wire : WireDecoders} {encoded : List UInt8} {frame : IpcFrame}
    (h : IpcFrame.decode wire encoded = .ok frame) :
    frame.Accepted wire ∧ frame.encode = .ok encoded := by
  simp only [IpcFrame.decode, bind_eq_ok, refuse_eq_ok, pure_eq_ok] at h
  obtain ⟨_, -, _, -, _, -, _, -, _, -, kind, -, sequence, -, _, -, _, -, ⟨parts, _⟩, -, _, -,
    made, hnew, _, hencode, _, hsame, rfl⟩ := h
  rw [not_not] at hsame
  exact ⟨⟨kind, sequence, parts, hnew⟩, hsame ▸ hencode⟩

/-- The codec of frames, for any decoders of the wire objects: accepted frames encode within the
limit and read back, and the reader stays inside its input and accepts just their encodings. -/
theorem ipcFrame_canonical (wire : WireDecoders) :
    (∀ kind sequence parts frame, IpcFrame.new wire kind sequence parts = .ok frame →
      ∃ encoded, frame.encode = .ok encoded ∧ encoded.length ≤ maxIpcFrameBytes ∧
        IpcFrame.decode wire encoded = .ok frame) ∧
    (∀ encoded, IpcFrame.decode wire encoded ≠ .error .outOfBounds) ∧
    (∀ encoded frame, IpcFrame.decode wire encoded = .ok frame ↔
      (∃ kind sequence parts, IpcFrame.new wire kind sequence parts = .ok frame) ∧
        frame.encode = .ok encoded) ∧
    (∀ encoded encoded' frame, IpcFrame.decode wire encoded = .ok frame →
      IpcFrame.decode wire encoded' = .ok frame → encoded = encoded') ∧
    ∀ encoded rest frame other, IpcFrame.decode wire encoded = .ok frame →
      IpcFrame.decode wire (encoded ++ rest) = .ok other → rest = [] := by
  refine ⟨fun kind sequence parts frame hnew => ?_, inBounds_decode wire,
    fun encoded frame => ⟨decode_eq_ok, fun ⟨haccepted, hencode⟩ => ?_⟩,
    fun encoded encoded' frame h h' => ?_, fun encoded rest frame other h hlonger => ?_⟩
  · have haccepted : frame.Accepted wire := ⟨kind, sequence, parts, hnew⟩
    exact ⟨_, haccepted.encode_eq, haccepted.length_encoding_le, haccepted.decode_eq⟩
  · obtain rfl := Except.ok.inj ((IpcFrame.Accepted.encode_eq haccepted).symm.trans hencode)
    exact IpcFrame.Accepted.decode_eq haccepted
  · exact Except.ok.inj ((decode_eq_ok h).2.symm.trans (decode_eq_ok h').2)
  · obtain ⟨haccepted, hencode⟩ := decode_eq_ok h
    obtain ⟨hother, hencodeOther⟩ := decode_eq_ok hlonger
    rw [haccepted.encode_eq] at hencode
    rw [hother.encode_eq] at hencodeOther
    refine haccepted.rest_eq_nil hother ?_
    rw [Except.ok.inj hencode, Except.ok.inj hencodeOther]

end SessionChat.Ipc
