import Stratum.Noise.Cert

/-!
# The handshake engine

`Initiator` and `Responder` of `noise-sv2/src/lib.rs`. The `snow` handshake state they drive is
left abstract: `Snow HS TS` is the structure of the `snow` operations the two call, over a
handshake state `HS` and a transport state `TS`, and the engine is modelled against any of them.
The one contract kept as a field is `snow`'s buffer discipline: what a read or write produces
fits the buffer it was handed.

Each `step` is split as in the source: `Initiator.stepAt` is the `match self.stage`, which
returns the handshake state `snow` left and the call's result, and `step` then moves the stage by
`nextStage` (`self.stage += 1` is reached only when no `?` returned first).

* `Initiator.stepAt_eq_ok`, `Responder.stepAt_eq_ok`: everything a successful call can be;
* `Initiator.step_of_error`, `Responder.step_of_error`: a failed call changes nothing but the
  handshake state;
* `Snow.DeliversNX`: what the completeness of the self-certified handshake assumes of Noise.
-/

namespace Stratum.Noise

/-- `SNOW_PSKLEN`: the length of a Diffie-Hellman public key. -/
def snowPskLen : Nat := 32

/-- `SNOW_TAGLEN`: the length of an authentication tag. -/
def snowTagLen : Nat := 16

/-- `BUFFER_LEN`: the responder's reply `<- e, ee, s, es` followed by the signature noise
message. -/
def bufferLen : Nat := snowPskLen + snowPskLen + snowTagLen + snowTagLen + signatureMessageLen

/-- `snow::Keypair`: the responder's static Diffie-Hellman keypair. -/
structure StaticKeypair where
  public : Bytes
  «private» : Bytes
deriving DecidableEq, Repr

/-- The `snow` operations the handshake engine calls. `buildInitiator` and `buildResponder` are
`Builder::build_initiator` and `Builder::local_private_key(..).build_responder()` on the fixed
parameters; `generateKeypair` is `generate_keypair` on the randomness `rng`. -/
structure Snow (HS TS : Type) where
  buildInitiator : Option HS
  buildResponder : (localPrivateKey : Bytes) → HS
  generateKeypair : (rng : Nat) → Option StaticKeypair
  /-- `write_message(payload, buffer)`: the state after it and the bytes written, if any. -/
  writeMessage : HS → (payload : Bytes) → (bufLen : Nat) → HS × Option Bytes
  /-- `read_message(message, buffer)`: the state after it and the payload read, if any. -/
  readMessage : HS → (message : Bytes) → (bufLen : Nat) → HS × Option Bytes
  getRemoteStatic : HS → Option Bytes
  intoTransportMode : HS → Option TS
  writeMessage_le : ∀ {hs p n hs' w}, writeMessage hs p n = (hs', some w) → w.length ≤ n
  readMessage_le : ∀ {hs m n hs' w}, readMessage hs m n = (hs', some w) → w.length ≤ n

/-! ### Buffers -/

/-- `noise_bytes.resize(n, 0)` on an empty vector. -/
def zeros (n : Nat) : Bytes := List.replicate n 0

/-- The buffer `buf` after `snow` wrote `w` at its front. -/
def overwrite (buf w : Bytes) : Bytes := w ++ buf.drop w.length

@[simp] theorem take_overwrite (buf w : Bytes) : (overwrite buf w).take w.length = w := by
  simp [overwrite]

@[simp] theorem overwrite_length (buf w : Bytes) :
    (overwrite buf w).length = max w.length buf.length := by
  simp only [overwrite, List.length_append, List.length_drop]
  omega

theorem overwrite_of_le {buf w : Bytes} (h : buf.length ≤ w.length) : overwrite buf w = w := by
  simp [overwrite, List.drop_eq_nil_of_le h]

/-! ### Step results -/

/-- `handshake::StepResult`. -/
inductive StepResult
  | expectReply (m : Bytes)
  | noMoreReply (m : Bytes)
  | done
deriving DecidableEq, Repr

/-- A step result without its bytes. -/
inductive StepKind
  | expectReply
  | noMoreReply
  | done
deriving DecidableEq, Repr

def StepResult.kind : StepResult → StepKind
  | .expectReply _ => .expectReply
  | .noMoreReply _ => .noMoreReply
  | .done => .done

/-- The stage after a call of `step` that returned `r`. -/
def nextStage (stage : Nat) : Except Error StepResult → Nat
  | .ok _ => stage + 1
  | .error _ => stage

@[simp] theorem nextStage_ok (s : Nat) (v : StepResult) : nextStage s (.ok v) = s + 1 := rfl
@[simp] theorem nextStage_error (s : Nat) (e : Error) : nextStage s (.error e) = s := rfl

variable {HS TS : Type} (N : Snow HS TS) (E : Ed25519)

/-! ### The initiator -/

/-- `Initiator`: a downstream node authenticating its upstream. -/
structure Initiator (HS : Type) where
  stage : Nat
  handshakeState : HS
  authorityPublicKey : Bytes

/-- `Initiator::new`. -/
def Initiator.new (authority_public_key : Bytes) : Except Error (Initiator HS) :=
  match N.buildInitiator with
  | none => .error ⟨⟩
  | some hs => .ok ⟨0, hs, authority_public_key⟩

/-- `Initiator::from_raw_k`. -/
def Initiator.fromRawK (authority_public_key : Bytes) : Except Error (Initiator HS) :=
  match E.publicKeyFromBytes authority_public_key with
  | none => .error ⟨⟩
  | some k => Initiator.new N k

/-- `Initiator::verify_remote_static_key_signature`, at the instant `now`. -/
def Initiator.verifyRemoteStaticKeySignature (i : Initiator HS) (now : Nat)
    (signature_noise_message : Bytes) : Except Error Unit :=
  match N.getRemoteStatic i.handshakeState with
  | none => .error ⟨⟩
  | some remote_static_key =>
    match SignatureNoiseMessage.tryFrom signature_noise_message with
    | none => .error ⟨⟩
    | some m =>
      match (Certificate.fromNoiseMessage m remote_static_key i.authorityPublicKey).validate E now
      with
      | .error _ => .error ⟨⟩
      | .ok () => .ok ()

/-- The `match self.stage` of `Initiator::step`: the handshake state `snow` left, and the
result. -/
def Initiator.stepAt (i : Initiator HS) (now : Nat) (in_msg : Option Bytes) :
    HS × Except Error StepResult :=
  match i.stage with
  | 0 =>
    -- `-> e`, truncated to what was written
    match N.writeMessage i.handshakeState [] (snowPskLen + snowTagLen) with
    | (hs, none) => (hs, .error ⟨⟩)
    | (hs, some w) =>
      (hs, .ok (.expectReply ((overwrite (zeros (snowPskLen + snowTagLen)) w).take w.length)))
  | 1 =>
    -- `<- e, ee, s, es, SIGNATURE_NOISE_MESSAGE`
    match in_msg with
    | none => (i.handshakeState, .error ⟨⟩)
    | some msg =>
      match N.readMessage i.handshakeState msg bufferLen with
      | (hs, none) => (hs, .error ⟨⟩)
      | (hs, some p) =>
        match ({ i with handshakeState := hs } : Initiator HS).verifyRemoteStaticKeySignature N E now
          ((overwrite (zeros bufferLen) p).take p.length) with
        | .error e => (hs, .error e)
        | .ok () => (hs, .ok .done)
  | _ => (i.handshakeState, .error ⟨⟩)

/-- `Initiator::step`, at the instant `now`. -/
def Initiator.step (i : Initiator HS) (now : Nat) (in_msg : Option Bytes) :
    Initiator HS × Except Error StepResult :=
  ({ i with stage := nextStage i.stage (i.stepAt N E now in_msg).2,
            handshakeState := (i.stepAt N E now in_msg).1 }, (i.stepAt N E now in_msg).2)

/-- The `signature_len` that stage 1 of `Initiator::step` hands to
`debug_assert!(SIGNATURE_MESSAGE_LEN == signature_len)`: the length of the payload `snow` read from
the reply, when the call gets that far. -/
def Initiator.signatureLen (i : Initiator HS) (in_msg : Option Bytes) : Option Nat :=
  match i.stage, in_msg with
  | 1, some msg => (N.readMessage i.handshakeState msg bufferLen).2.map List.length
  | _, _ => none

/-- `Initiator::into_handshake_state`. -/
def Initiator.intoHandshakeState (i : Initiator HS) : HS := i.handshakeState

/-! ### The responder -/

/-- `Responder`: an upstream node proving its static key with a certificate. -/
structure Responder (HS : Type) where
  stage : Nat
  handshakeState : HS
  signatureNoiseMessage : Bytes

/-- `Responder::new`; any bytes are taken as the signature noise message. -/
def Responder.new (static_keypair : StaticKeypair) (signature_noise_message : Bytes) :
    Responder HS :=
  ⟨0, N.buildResponder static_keypair.«private», signature_noise_message⟩

/-- `Responder::with_random_static_kp`. -/
def Responder.withRandomStaticKp (rng : Nat) (signature_noise_message : Bytes) :
    Except Error (Responder HS) :=
  match N.generateKeypair rng with
  | none => .error ⟨⟩
  | some static_keypair => .ok (Responder.new N static_keypair signature_noise_message)

/-- `Responder::from_authority_kp`: certify a fresh static key with the authority's keypair, at
the instant `now`. -/
def Responder.fromAuthorityKp (now rng : Nat) (pub_k priv_k : Bytes) (duration : Nat) :
    Except Error (Responder HS) :=
  match N.generateKeypair rng with
  | none => .error ⟨⟩
  | some static_keypair =>
    match Authority.fromRawK E pub_k priv_k with
    | none => .error ⟨⟩
    | some authority =>
      match authority.newCert E now static_keypair.public duration with
      | .error e => .error e
      | .ok m => .ok (Responder.new N static_keypair m.serialize)

section Constructors

variable {N E}

theorem Initiator.fromRawK_eq_ok {k : Bytes} {i : Initiator HS} (h : Initiator.fromRawK N E k = .ok i) :
    ∃ hs, N.buildInitiator = some hs ∧ i = ⟨0, hs, k⟩ := by
  unfold Initiator.fromRawK at h
  rcases hk : E.publicKeyFromBytes k with _ | k'
  · rw [hk] at h
    cases h
  · have hk' : k' = k := by
      unfold Ed25519.publicKeyFromBytes at hk
      split_ifs at hk
      exact (Option.some.inj hk).symm
    rw [hk, hk'] at h
    unfold Initiator.new at h
    rcases hb : N.buildInitiator with _ | hs <;> rw [hb] at h <;> cases h
    exact ⟨hs, rfl, rfl⟩

theorem Responder.fromAuthorityKp_eq_ok {now rng duration : Nat} {pub_k priv_k : Bytes}
    {r : Responder HS} (h : Responder.fromAuthorityKp N E now rng pub_k priv_k duration = .ok r) :
    ∃ kp a m, N.generateKeypair rng = some kp ∧ Authority.fromRawK E pub_k priv_k = some a ∧
      a.newCert E now kp.public duration = .ok m ∧ r = Responder.new N kp m.serialize := by
  unfold Responder.fromAuthorityKp at h
  split at h
  · cases h
  · split at h
    · cases h
    · split at h
      · cases h
      · cases h
        exact ⟨_, _, _, ‹_›, ‹_›, ‹_›, rfl⟩

end Constructors

/-- The `match self.stage` of `Responder::step`. -/
def Responder.stepAt (r : Responder HS) (in_msg : Option Bytes) : HS × Except Error StepResult :=
  match r.stage with
  | 0 =>
    match in_msg with
    | none => (r.handshakeState, .error ⟨⟩)
    | some msg =>
      -- `<- e`, into a buffer of `BUFFER_LEN` zeros
      match N.readMessage r.handshakeState msg bufferLen with
      | (hs, none) => (hs, .error ⟨⟩)
      | (hs, some p) =>
        -- `-> e, ee, s, es, SIGNATURE_NOISE_MESSAGE`, over the same buffer
        match N.writeMessage hs r.signatureNoiseMessage bufferLen with
        | (hs', none) => (hs', .error ⟨⟩)
        | (hs', some w) => (hs', .ok (.noMoreReply (overwrite (overwrite (zeros bufferLen) p) w)))
  | 1 => (r.handshakeState, .ok .done)
  | _ => (r.handshakeState, .error ⟨⟩)

/-- `Responder::step`. -/
def Responder.step (r : Responder HS) (in_msg : Option Bytes) :
    Responder HS × Except Error StepResult :=
  ({ r with stage := nextStage r.stage (r.stepAt N in_msg).2,
            handshakeState := (r.stepAt N in_msg).1 }, (r.stepAt N in_msg).2)

/-- `Responder::into_handshake_state`. -/
def Responder.intoHandshakeState (r : Responder HS) : HS := r.handshakeState

/-! ### What one call can do -/

section Spec

variable {N E}

@[simp] theorem Initiator.step_snd (i : Initiator HS) (now : Nat) (m : Option Bytes) :
    (i.step N E now m).2 = (i.stepAt N E now m).2 := rfl

@[simp] theorem Initiator.step_stage (i : Initiator HS) (now : Nat) (m : Option Bytes) :
    (i.step N E now m).1.stage = nextStage i.stage (i.stepAt N E now m).2 := rfl

@[simp] theorem Initiator.step_authorityPublicKey (i : Initiator HS) (now : Nat)
    (m : Option Bytes) : (i.step N E now m).1.authorityPublicKey = i.authorityPublicKey := rfl

@[simp] theorem Initiator.step_handshakeState (i : Initiator HS) (now : Nat) (m : Option Bytes) :
    (i.step N E now m).1.handshakeState = (i.stepAt N E now m).1 := rfl

theorem Initiator.verifyRemoteStaticKeySignature_eq_ok {i : Initiator HS} {now : Nat} {b : Bytes} :
    i.verifyRemoteStaticKeySignature N E now b = .ok () ↔
      ∃ rs m, N.getRemoteStatic i.handshakeState = some rs ∧
        SignatureNoiseMessage.tryFrom b = some m ∧
        (Certificate.fromNoiseMessage m rs i.authorityPublicKey).validate E now = .ok () := by
  unfold Initiator.verifyRemoteStaticKeySignature
  split
  · simp [*]
  · split
    · simp [*]
    · split <;> simp [*]

/-- **Everything a successful call of `Initiator::step` can be**: the `-> e` at stage 0, or
`Done` at stage 1 from a message that `snow` read and whose certificate checks against the
remote static key of that read. -/
theorem Initiator.stepAt_eq_ok {i : Initiator HS} {now : Nat} {m : Option Bytes}
    {v : StepResult} :
    (i.stepAt N E now m).2 = .ok v ↔
      (i.stage = 0 ∧ ∃ hs w, N.writeMessage i.handshakeState [] (snowPskLen + snowTagLen) =
        (hs, some w) ∧ .expectReply w = v) ∨
      (i.stage = 1 ∧ ∃ msg hs p, m = some msg ∧
        N.readMessage i.handshakeState msg bufferLen = (hs, some p) ∧
        ({ i with handshakeState := hs } : Initiator HS).verifyRemoteStaticKeySignature N E now p =
          .ok () ∧ .done = v) := by
  unfold Initiator.stepAt
  constructor
  · intro h
    split at h
    · -- stage 0: `snow` wrote the `-> e`
      split at h
      · cases h
      · cases h
        exact .inl ⟨‹_›, _, _, ‹_›, by rw [take_overwrite]⟩
    · -- stage 1: `snow` read the reply, and its certificate checks
      split at h
      · cases h
      · split at h
        · cases h
        · split at h
          · cases h
          · cases h
            rename_i hv
            rw [take_overwrite] at hv
            exact .inr ⟨‹_›, _, _, _, rfl, ‹_›, hv, rfl⟩
    · cases h
  · rintro (⟨hst, hs, w, hw, rfl⟩ | ⟨hst, msg, hs, p, rfl, hr, hv, rfl⟩)
    · simp only [hst, hw, take_overwrite]
    · simp only [hst] at hv ⊢
      simp only [hr, take_overwrite, hv]

@[simp] theorem Responder.step_snd (r : Responder HS) (m : Option Bytes) :
    (r.step N m).2 = (r.stepAt N m).2 := rfl

@[simp] theorem Responder.step_stage (r : Responder HS) (m : Option Bytes) :
    (r.step N m).1.stage = nextStage r.stage (r.stepAt N m).2 := rfl

@[simp] theorem Responder.step_signatureNoiseMessage (r : Responder HS) (m : Option Bytes) :
    (r.step N m).1.signatureNoiseMessage = r.signatureNoiseMessage := rfl

@[simp] theorem Responder.step_handshakeState (r : Responder HS) (m : Option Bytes) :
    (r.step N m).1.handshakeState = (r.stepAt N m).1 := rfl

/-- **Everything a successful call of `Responder::step` can be**: `NoMoreReply` at stage 0 from
a read of the initiator's message and a write of the signature noise message that both
succeeded, or `Done` at stage 1. -/
theorem Responder.stepAt_eq_ok {r : Responder HS} {m : Option Bytes} {v : StepResult} :
    (r.stepAt N m).2 = .ok v ↔
      (r.stage = 0 ∧ ∃ msg hs p hs' w, m = some msg ∧
        N.readMessage r.handshakeState msg bufferLen = (hs, some p) ∧
        N.writeMessage hs r.signatureNoiseMessage bufferLen = (hs', some w) ∧
        .noMoreReply (overwrite (overwrite (zeros bufferLen) p) w) = v) ∨
      (r.stage = 1 ∧ .done = v) := by
  unfold Responder.stepAt
  constructor
  · intro h
    split at h
    · -- stage 0: `snow` read the `-> e` and wrote the reply
      split at h
      · cases h
      · split at h
        · cases h
        · split at h
          · cases h
          · cases h
            exact .inl ⟨‹_›, _, _, _, _, _, rfl, ‹_›, ‹_›, rfl⟩
    · cases h
      exact .inr ⟨‹_›, rfl⟩
    · cases h
  · rintro (⟨hst, msg, hs, p, hs', w, rfl, hr, hw, rfl⟩ | ⟨hst, rfl⟩)
    · simp only [hst, hr, hw]
    · simp only [hst]

end Spec

/-! ### What the self-certified handshake assumes of Noise -/

/-- **The NX exchange delivers.** A fresh initiator writes its `-> e` into its
`SNOW_PSKLEN + SNOW_TAGLEN` buffer, and a responder built on a generated static keypair reads it.
The responder's `<- e, ee, s, es` then carries any payload that fits the `BUFFER_LEN` buffer in
exactly `2 * SNOW_PSKLEN + 2 * SNOW_TAGLEN` bytes more than the payload, and the initiator reading
that message gets back the payload, with the responder's public key as remote static key. -/
def Snow.DeliversNX (N : Snow HS TS) : Prop :=
  ∀ hsI rng kp, N.buildInitiator = some hsI → N.generateKeypair rng = some kp →
    ∃ m1 hsI1 hsR1 q, N.writeMessage hsI [] (snowPskLen + snowTagLen) = (hsI1, some m1) ∧
      N.readMessage (N.buildResponder kp.«private») m1 bufferLen = (hsR1, some q) ∧
      ∀ p, 2 * snowPskLen + 2 * snowTagLen + p.length ≤ bufferLen →
        ∃ m2 hsR2 hsI2, N.writeMessage hsR1 p bufferLen = (hsR2, some m2) ∧
          m2.length = 2 * snowPskLen + 2 * snowTagLen + p.length ∧
          N.readMessage hsI1 m2 bufferLen = (hsI2, some p) ∧
          N.getRemoteStatic hsI2 = some kp.public

/-! ### Transport size hints -/

/-- `TransportMode::size_hint_decrypt`: `checked_sub` of the tag. -/
def TransportMode.sizeHintDecrypt (encrypted_msg_len : Nat) : Option Nat :=
  if snowTagLen ≤ encrypted_msg_len then some (encrypted_msg_len - snowTagLen) else none

/-- `TransportMode::size_hint_encrypt`. -/
def TransportMode.sizeHintEncrypt (payload_len : Nat) : Nat := payload_len + snowTagLen

theorem TransportMode.sizeHintDecrypt_sizeHintEncrypt (n : Nat) :
    sizeHintDecrypt (sizeHintEncrypt n) = some n := by
  simp [sizeHintDecrypt, sizeHintEncrypt]

end Stratum.Noise
