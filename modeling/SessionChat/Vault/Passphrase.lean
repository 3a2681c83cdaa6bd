import SessionChat.Control.Fallible
import SessionChat.Protocol.Invitation
import SessionChat.Vault.Calls

/-!
# Session keys wrapped under a passphrase (`crates/key-protector-passphrase/src/lib.rs`, ADR 0019)

A record of 102 bytes holds a fixed header, the salt, the nonce and the sealed session key. The
key derivation and the cipher are parameters, of which `Ideal` states what is assumed.
-/

set_option autoImplicit false

namespace SessionChat.Vault

open Codec Control Protocol Storage

inductive PortableKeyError
  | rejected

@[ext] structure PortablePassphrase where
  bytes : List UInt8
  bounded : bytes ≠ [] ∧ bytes.length ≤ 1024

/-- The magic bytes, the format version, the derivation profile, the cipher suite and the memory,
time and lane costs of the derivation. -/
def recordHeader : List UInt8 :=
  [0x53, 0x43, 0x56, 0x4B, 0x57, 0x52, 0x50, 0x00] ++ bigEndian 2 1 ++ bigEndian 2 1 ++
    bigEndian 2 1 ++ bigEndian 4 65536 ++ bigEndian 4 3 ++ bigEndian 4 4

@[ext] structure WrappedSessionKeyV1 where
  bytes : List UInt8
  exact : bytes.length = 102

/-- The key derivation and the cipher of the wrapper. -/
structure Primitives (K : Type) where
  deriveKek (passphrase salt : List UInt8) : K
  sealInPlace (key : K) (nonce aad plaintext : List UInt8) : List UInt8
  openInPlace (key : K) (nonce aad ciphertext : List UInt8) : Option (List UInt8)

def authenticatedContext (head : List UInt8) (sessionId : SessionId) : List UInt8 :=
  domain "session-chat/portable-wrapped-session-key/v1" ++ head ++ fixedBytes 32 sessionId.bytes

/-- The fields of the header stand side by side and are compared at once. -/
def validatePrefix (encoded : List UInt8) : Except PortableKeyError Unit :=
  refuse (encoded.take 26 ≠ recordHeader) .rejected

def WrappedSessionKeyV1.decode (encoded : List UInt8) :
    Except PortableKeyError WrappedSessionKeyV1 :=
  if h : encoded.length = 102 then do
    validatePrefix encoded
    return ⟨encoded, h⟩
  else .error .rejected

/-- The material of one record. -/
@[ext] structure Wrapping where
  sessionId : SessionId
  passphrase : PortablePassphrase
  sessionKey : Bytes32
  salt : BitVec 128
  nonce : BitVec 96

variable {K : Type} (P : Primitives K)

namespace Wrapping

variable (w : Wrapping)

def head : List UInt8 := recordHeader ++ fixedBytes 16 w.salt ++ fixedBytes 12 w.nonce

def kek : K := P.deriveKek w.passphrase.bytes (fixedBytes 16 w.salt)

def aad : List UInt8 := authenticatedContext w.head w.sessionId

def ciphertext : List UInt8 :=
  P.sealInPlace (w.kek P) (fixedBytes 12 w.nonce) w.aad (fixedBytes 32 w.sessionKey)

theorem length_head : w.head.length = 54 := by
  simp [head, recordHeader]

theorem length_record (h : (w.ciphertext P).length = 48) :
    (w.head ++ w.ciphertext P).length = 102 := by
  rw [List.length_append, length_head, h]

end Wrapping

def wrapWithMaterial (w : Wrapping) : Except PortableKeyError WrappedSessionKeyV1 := do
  refuse (w.sessionKey = 0) .rejected
  if h : (w.ciphertext P).length = 48 then .ok ⟨w.head ++ w.ciphertext P, w.length_record P h⟩
  else .error .rejected

/-- `unseal`. -/
def unsealKey (sessionId : SessionId) (passphrase : PortablePassphrase)
    (wrapped : WrappedSessionKeyV1) : Except PortableKeyError UnsealedSessionKey := do
  validatePrefix wrapped.bytes
  let kek := P.deriveKek passphrase.bytes ((wrapped.bytes.drop 26).take 16)
  let aad := authenticatedContext (wrapped.bytes.take 54) sessionId
  let plaintext ← require (P.openInPlace kek ((wrapped.bytes.drop 42).take 12) aad
    (wrapped.bytes.drop 54)) .rejected
  let key ← require (toFixed 32 plaintext) .rejected
  orElse (UnsealedSessionKey.fromProviderBytes key) .rejected

/-- The derivation is injective, the tag has 16 bytes, and what opens is exactly what was sealed
under the same key, nonce and associated data. -/
structure Ideal : Prop where
  derives : ∀ p s p' s', P.deriveKek p s = P.deriveKek p' s' → p = p' ∧ s = s'
  seals : ∀ k n a p, (P.sealInPlace k n a p).length = p.length + 16
  opens : ∀ k n a c p, P.openInPlace k n a c = some p ↔ P.sealInPlace k n a p = c

variable {P} {w w' : Wrapping} {r : WrappedSessionKeyV1}

theorem authenticatedContext_inj {head head' : List UInt8} {sessionId sessionId' : SessionId}
    (h : authenticatedContext head sessionId = authenticatedContext head' sessionId') :
    head = head' ∧ sessionId = sessionId' := by
  obtain ⟨hfront, hsession⟩ := List.append_inj' h (by simp)
  obtain ⟨bytes, _⟩ := sessionId
  obtain ⟨bytes', _⟩ := sessionId'
  cases @fixedBytes_injective 32 _ _ hsession
  exact ⟨List.append_cancel_left hfront, rfl⟩

theorem Ideal.wrap (hideal : Ideal P) (hkey : w.sessionKey ≠ 0) :
    ∃ r, wrapWithMaterial P w = .ok r ∧ r.bytes = w.head ++ w.ciphertext P := by
  have hlength : (w.ciphertext P).length = 48 := by
    rw [Wrapping.ciphertext, hideal.seals, length_fixedBytes]
  refine ⟨⟨_, w.length_record P hlength⟩, ?_, rfl⟩
  rw [wrapWithMaterial, dif_pos hlength]
  exact bind_eq_ok.mpr ⟨(), refuse_eq_ok.mpr hkey, rfl⟩

theorem Ideal.opens_ciphertext (hideal : Ideal P) (w : Wrapping) :
    P.openInPlace (w.kek P) (fixedBytes 12 w.nonce) w.aad (w.ciphertext P) =
      some (fixedBytes 32 w.sessionKey) :=
  (hideal.opens _ _ _ _ _).mpr rfl

theorem bytes_of_wrap (h : wrapWithMaterial P w = .ok r) : r.bytes = w.head ++ w.ciphertext P := by
  obtain ⟨-, -, h⟩ := bind_eq_ok.mp h
  split_ifs at h
  cases h
  rfl

theorem same_parts_of_record (h : wrapWithMaterial P w = .ok r)
    (h' : wrapWithMaterial P w' = .ok r) : w.head = w'.head ∧ w.ciphertext P = w'.ciphertext P :=
  List.append_inj ((bytes_of_wrap h).symm.trans (bytes_of_wrap h'))
    (w.length_head.trans w'.length_head.symm)

/-- Two wraps of one record under one key and one associated data are the same wrap. -/
theorem Ideal.eq_of_record (hideal : Ideal P) (h : wrapWithMaterial P w = .ok r)
    (h' : wrapWithMaterial P w' = .ok r) (hkek : w.kek P = w'.kek P) (haad : w.aad = w'.aad) :
    w = w' := by
  obtain ⟨hhead, hciphertext⟩ := same_parts_of_record h h'
  obtain ⟨hfront, hnonce⟩ := List.append_inj' hhead (by simp)
  have hkey : fixedBytes 32 w.sessionKey = fixedBytes 32 w'.sessionKey := by
    have hopen := hideal.opens_ciphertext w
    rw [hkek, hnonce, haad, hciphertext, hideal.opens_ciphertext w'] at hopen
    exact (Option.some.inj hopen).symm
  exact Wrapping.ext (authenticatedContext_inj haad).2
    (PortablePassphrase.ext (hideal.derives _ _ _ _ hkek).1) (@fixedBytes_injective 32 _ _ hkey)
    (@fixedBytes_injective 16 _ _ (List.append_cancel_left hfront))
    (@fixedBytes_injective 12 _ _ hnonce)

/-- What the record of a wrap holds, in its four places. -/
theorem Wrapping.parts (hr : r.bytes = w.head ++ w.ciphertext P) :
    validatePrefix r.bytes = .ok () ∧ (r.bytes.drop 26).take 16 = fixedBytes 16 w.salt ∧
      (r.bytes.drop 42).take 12 = fixedBytes 12 w.nonce ∧ r.bytes.take 54 = w.head ∧
      r.bytes.drop 54 = w.ciphertext P := by
  have hheader : recordHeader.length = 26 := by simp [recordHeader]
  have hfront : (recordHeader ++ fixedBytes 16 w.salt).length = 42 := by simp [recordHeader]
  rw [hr]
  refine ⟨refuse_eq_ok.mpr (not_not.mpr ?_), ?_, ?_, List.take_left' w.length_head,
    List.drop_left' w.length_head⟩
  · rw [Wrapping.head, List.append_assoc, List.append_assoc]
    exact List.take_left' hheader
  · rw [Wrapping.head, List.append_assoc, List.append_assoc, List.drop_left' hheader]
    exact List.take_left' (length_fixedBytes 16 w.salt)
  · rw [Wrapping.head, List.append_assoc, List.drop_left' hfront]
    exact List.take_left' (length_fixedBytes 12 w.nonce)

/-- What unsealed is the record of a wrap. -/
theorem Ideal.unsealed (hideal : Ideal P) {sessionId : SessionId} {passphrase : PortablePassphrase}
    {key : UnsealedSessionKey} (h : unsealKey P sessionId passphrase r = .ok key) :
    ∃ w, wrapWithMaterial P w = .ok r ∧ w.sessionId = sessionId ∧ w.passphrase = passphrase ∧
      w.sessionKey = key.bytes := by
  simp only [unsealKey, validatePrefix, bind_eq_ok, require_eq_ok, orElse_eq_ok, refuse_eq_ok,
    not_not] at h
  obtain ⟨-, hheader, plaintext, hopen, bytes, hfixed, hkey⟩ := h
  have hsealed := (hideal.opens _ _ _ _ _).mp hopen
  have hrecord := r.exact
  obtain ⟨salt, hsalt⟩ : ∃ salt, fixedBytes 16 salt = (r.bytes.drop 26).take 16 :=
    exists_fixedBytes (by simp [hrecord])
  obtain ⟨nonce, hnonce⟩ : ∃ nonce, fixedBytes 12 nonce = (r.bytes.drop 42).take 12 :=
    exists_fixedBytes (by simp [hrecord])
  have hplaintext : fixedBytes 32 bytes = plaintext := by
    have hlength : plaintext.length = 32 := by
      have := congrArg List.length hsealed
      rw [hideal.seals, List.length_drop, hrecord] at this
      omega
    obtain ⟨x, rfl⟩ := exists_fixedBytes hlength
    rw [toFixed_fixedBytes] at hfixed
    cases hfixed
    rfl
  unfold UnsealedSessionKey.fromProviderBytes at hkey
  split_ifs at hkey with hnonzero
  cases hkey
  let w : Wrapping := ⟨sessionId, passphrase, bytes, salt, nonce⟩
  have hhead : w.head = r.bytes.take 54 := by
    simp only [w, Wrapping.head, hsalt, hnonce, ← hheader]
    rw [← List.take_add, ← List.take_add]
  have hciphertext : w.ciphertext P = r.bytes.drop 54 := by
    rw [← hsealed, ← hplaintext]
    simp only [Wrapping.ciphertext, Wrapping.kek, Wrapping.aad, hhead]
    simp only [w, hsalt, hnonce]
  obtain ⟨r', hwrap, hr'⟩ := hideal.wrap (w := w) hnonzero
  have hr : r' = r := by
    ext1
    rw [hr', hhead, hciphertext, List.take_append_drop]
  exact ⟨w, hr ▸ hwrap, rfl, rfl, rfl⟩

def sampleWrapping : Wrapping := ⟨sampleSession, ⟨[1], by simp⟩, 1, 0, 0⟩

/-- Sixteen bytes of the passphrase. -/
def sampleTag (key : List UInt8 × List UInt8) : List UInt8 :=
  (key.1 ++ List.replicate 16 0).take 16

/-- Primitives that append the tag and compare it. -/
def samplePrimitives : Primitives (List UInt8 × List UInt8) where
  deriveKek := Prod.mk
  sealInPlace key _ _ plaintext := plaintext ++ sampleTag key
  openInPlace key _ _ ciphertext :=
    if ciphertext.drop (ciphertext.length - 16) = sampleTag key then
      some (ciphertext.take (ciphertext.length - 16))
    else none

theorem length_sampleTag (key : List UInt8 × List UInt8) : (sampleTag key).length = 16 := by
  simp [sampleTag]

end SessionChat.Vault
