import Stratum.Noise.Run

/-!
# Completeness of the self-certified handshake

`Responder::from_authority_kp` certifies a freshly generated static key with the authority's
keypair; `Initiator::from_raw_k` is configured with the authority's public key. The exchange
`I.step(None)`, `R.step(Some m1)`, `I.step(Some m2)` then ends in `Done` at every instant of the
certificate's window. Three bindings carry it: the key `Authority::new_cert` certifies is the
static key the responder's `snow` state is built on, the authority key bound into the signed part
is the one the initiator checks against, and the 76-byte certificate fills exactly the
`BUFFER_LEN` buffers of both sides.

The only assumptions are `Snow.DeliversNX` and `Ed25519.Correct`; the symbolic libraries satisfy
both (`symbolic_self_certified_handshake`).
-/

namespace Stratum.Noise

variable {HS TS : Type} {N : Snow HS TS} {E : Ed25519}

/-- The responder's reply carries exactly what `snow` wrote when that fills the buffer. -/
theorem reply_of_full_write {q w : Bytes} (hq : q.length ≤ bufferLen) (hw : w.length = bufferLen) :
    overwrite (overwrite (zeros bufferLen) q) w = w :=
  overwrite_of_le (by simp [zeros, hw, hq])

/-- The certificate fills the reply: `2 * SNOW_PSKLEN + 2 * SNOW_TAGLEN` bytes of handshake and
the 76 bytes of the signature noise message make `BUFFER_LEN`. -/
theorem certificate_fills_buffer (m : SignatureNoiseMessage) :
    2 * snowPskLen + 2 * snowTagLen + m.serialize.length = bufferLen := by
  simp [bufferLen, snowPskLen, snowTagLen, signatureMessageLen]

/-- **The self-certified handshake completes.** For an authority keypair whose public half
matches its secret half and any duration: if `Responder::from_authority_kp` returns `R` (its
certificate issued at `t0`) and `Initiator::from_raw_k` returns `I`, then `I.step(None)` gives
`ExpectReply m1`, `R.step(Some m1)` gives `NoMoreReply m2`, and `I.step(Some m2)` gives `Done`
whenever the initiator checks at an instant `t` of the window `[t0, t0 + duration)`. -/
theorem self_certified_handshake_completes (hN : N.DeliversNX) (hE : E.Correct)
    (pub_k priv_k : Bytes) (hkp : pub_k = E.publicOf priv_k) (t0 rng duration t' t : Nat)
    (R : Responder HS) (I : Initiator HS)
    (hR : Responder.fromAuthorityKp N E t0 rng pub_k priv_k duration = .ok R)
    (hI : Initiator.fromRawK N E pub_k = .ok I) (ht : t0 ≤ t ∧ t < t0 + duration) :
    ∃ m1 m2, (I.step N E t' none).2 = .ok (.expectReply m1) ∧
      (R.step N (some m1)).2 = .ok (.noMoreReply m2) ∧
      ((I.step N E t' none).1.step N E t (some m2)).2 = .ok .done := by
  obtain ⟨hsI, hbuild, rfl⟩ := Initiator.fromRawK_eq_ok hI
  obtain ⟨kp, a, m, hkp', ha, hm, rfl⟩ := Responder.fromAuthorityKp_eq_ok hR
  have hakp : a.kp = ⟨priv_k, pub_k⟩ := Authority.fromRawK_kp ha (by rw [hkp, hE.publicOf_length])
  obtain ⟨m1, hsI1, hsR1, q, hw1, hr1, hdeliver⟩ := hN hsI rng kp hbuild hkp'
  obtain ⟨m2, hsR2, hsI2, hw2, hlen2, hr2, hrs⟩ :=
    hdeliver m.serialize (certificate_fills_buffer m).le
  -- the certificate validates at `t` against the delivered static key and the configured key
  have hval : (Certificate.fromNoiseMessage m kp.public pub_k).validate E t = .ok () := by
    have := (Certificate.validate_newCertFromRaw_iff hE (by rw [hakp, hkp]) hm).2 ht
    rwa [hakp] at this
  refine ⟨m1, m2, ?_, ?_, ?_⟩
  · simp [Initiator.stepAt, hw1]
  · have hq := N.readMessage_le hr1
    simp [Responder.stepAt, Responder.new, hr1, hw2,
      reply_of_full_write hq (by rw [hlen2, certificate_fills_buffer])]
  · simp [Initiator.stepAt, hw1, hr2, Initiator.verifyRemoteStaticKeySignature, hrs,
      SignatureNoiseMessage.tryFrom_serialize, hval, -SignatureNoiseMessage.serialize_length]

/-- The symbolic libraries complete the self-certified handshake. -/
theorem symbolic_self_certified_handshake :
    ∃ (R : Responder SymState) (I : Initiator SymState),
      Responder.fromAuthorityKp symbolicSnow symbolicEd25519 0 7 symAuthorityKey
        symAuthorityKey 100 = .ok R ∧
      Initiator.fromRawK symbolicSnow symbolicEd25519 symAuthorityKey = .ok I ∧
      ∃ m1 m2, (I.step symbolicSnow symbolicEd25519 0 none).2 = .ok (.expectReply m1) ∧
        (R.step symbolicSnow (some m1)).2 = .ok (.noMoreReply m2) ∧
        ((I.step symbolicSnow symbolicEd25519 0 none).1.step symbolicSnow symbolicEd25519 50
          (some m2)).2 = .ok .done := by
  obtain ⟨R, hR⟩ : ∃ R, Responder.fromAuthorityKp symbolicSnow symbolicEd25519 0 7
      symAuthorityKey symAuthorityKey 100 = .ok R := by
    set_option maxRecDepth 100000 in exact ⟨_, rfl⟩
  obtain ⟨I, hI⟩ : ∃ I, Initiator.fromRawK symbolicSnow symbolicEd25519 symAuthorityKey = .ok I :=
    ⟨_, rfl⟩
  exact ⟨R, I, hR, hI, self_certified_handshake_completes symbolicSnow_deliversNX
    symbolicEd25519_correct symAuthorityKey symAuthorityKey (by decide) 0 7 100 0 50 R I hR hI
    (by decide)⟩

end Stratum.Noise
