import Stratum.Noise.Handshake

/-!
# A symbolic Noise NX and a symbolic signature scheme

Instances of the two library interfaces, to run the handshake engine on concrete inputs and to
show that what the theorems assume of the libraries can hold together.

`symbolicSnow` plays the NX pattern with keys and payloads in the clear and tags of zero bytes:
the responder's reply is `e ‖ s ‖ tag ‖ payload ‖ tag`, and the initiator accepts a reply when
both tags are zero, learning `s` as the remote static key. A failed read leaves the state as it
was, as `snow` restores its symmetric state after a failed decryption. `symbolicEd25519` takes
the 32 low bytes of a secret key as its public key, and the 64 low bytes of
`public ‖ message` as the signature.

* `symbolicSnow_deliversNX` and `symbolicEd25519_correct`: the two satisfy what the completeness
  of the self-certified handshake assumes.
-/

namespace Stratum.Noise

/-- The handshake states of `symbolicSnow`: each party's position in the pattern, with the
remote static key the initiator has learned, and the responder's static key. -/
inductive SymState
  | initiator (pos : Nat) (rs : Option Bytes)
  | responder (s : Bytes) (pos : Nat)
deriving DecidableEq, Repr

/-- The tag of every symbolic encryption. -/
def symTag : Bytes := zeros snowTagLen

/-- The ephemeral key a party sends. -/
def symEphemeral (b : UInt8) : Bytes := List.replicate snowPskLen b

/-- The responder's reply `e ‖ s ‖ tag ‖ payload ‖ tag`. -/
def symReply (s p : Bytes) : Bytes := symEphemeral 2 ++ (s ++ (symTag ++ (p ++ symTag)))

@[simp] theorem symTag_length : symTag.length = snowTagLen := by simp [symTag, zeros]

@[simp] theorem symEphemeral_length (b : UInt8) : (symEphemeral b).length = snowPskLen := by
  simp [symEphemeral]

/-- `write_message` of the symbolic NX: `-> e` at the initiator's first turn, the reply at the
responder's second; any other write, or one that does not fit, fails and changes nothing. -/
def symWrite : SymState → Bytes → Nat → SymState × Option Bytes
  | .initiator 0 rs, p, n =>
    if (symEphemeral 1 ++ p).length ≤ n then (.initiator 1 rs, some (symEphemeral 1 ++ p))
    else (.initiator 0 rs, none)
  | .responder s 1, p, n =>
    if (symReply s p).length ≤ n then (.responder s 2, some (symReply s p))
    else (.responder s 1, none)
  | hs, _, _ => (hs, none)

/-- The initiator's reading of a reply: the static key, the payload, and whether both tags are
zero and the reply is long enough to hold them. -/
def symOpen (m : Bytes) : Bytes × Bytes × Bool :=
  let r := (m.drop snowPskLen).drop snowPskLen
  let body := r.drop snowTagLen
  let p := body.take (body.length - snowTagLen)
  ((m.drop snowPskLen).take snowPskLen, p,
    decide (2 * snowPskLen + 2 * snowTagLen ≤ m.length ∧ r.take snowTagLen = symTag ∧
      body.drop (body.length - snowTagLen) = symTag))

theorem symOpen_symReply {s p : Bytes} (hs : s.length = snowPskLen) :
    symOpen (symReply s p) = (s, p, true) := by
  have h1 : (symEphemeral 2).length = snowPskLen := by simp
  have h2 : (p ++ symTag).length - snowTagLen = p.length := by simp
  simp only [symOpen, symReply, List.drop_left' h1, List.take_left' hs, List.drop_left' hs,
    List.drop_left' symTag_length, List.take_left' symTag_length, h2, List.take_left,
    List.drop_left, decide_eq_true_eq]
  simp [hs, snowPskLen, snowTagLen]
  omega

/-- `read_message` of the symbolic NX: the responder reads `-> e` at its first turn, the
initiator the reply at its second; a failed read changes nothing. -/
def symRead : SymState → Bytes → Nat → SymState × Option Bytes
  | .responder s 0, m, n =>
    if snowPskLen ≤ m.length ∧ m.length - snowPskLen ≤ n then
      (.responder s 1, some (m.drop snowPskLen))
    else (.responder s 0, none)
  | .initiator 1 rs, m, n =>
    if (symOpen m).2.2 = true ∧ (symOpen m).2.1.length ≤ n then
      (.initiator 2 (some (symOpen m).1), some (symOpen m).2.1)
    else (.initiator 1 rs, none)
  | hs, _, _ => (hs, none)

theorem symWrite_le {hs : SymState} {p : Bytes} {n : Nat} {hs' : SymState} {w : Bytes}
    (h : symWrite hs p n = (hs', some w)) : w.length ≤ n := by
  unfold symWrite at h
  split at h <;> (try split_ifs at h with hn) <;> cases h
  all_goals exact hn

theorem symRead_le {hs : SymState} {m : Bytes} {n : Nat} {hs' : SymState} {w : Bytes}
    (h : symRead hs m n = (hs', some w)) : w.length ≤ n := by
  unfold symRead at h
  split at h <;> (try split_ifs at h with hn) <;> cases h
  · exact (List.length_drop _ _).trans_le hn.2
  · exact hn.2

/-- The symbolic NX as the `snow` library: a static keypair is one key for both halves. -/
def symbolicSnow : Snow SymState Unit where
  buildInitiator := some (.initiator 0 none)
  buildResponder sk := .responder sk 0
  generateKeypair rng := some ⟨leBytes rng snowPskLen, leBytes rng snowPskLen⟩
  writeMessage := symWrite
  readMessage := symRead
  getRemoteStatic
    | .initiator _ rs => rs
    | .responder _ _ => none
  intoTransportMode
    | .initiator 2 _ => some ()
    | .responder _ 2 => some ()
    | _ => none
  writeMessage_le := symWrite_le
  readMessage_le := symRead_le

theorem symbolicSnow_deliversNX : symbolicSnow.DeliversNX := by
  intro hsI rng kp hI hk
  simp only [symbolicSnow, Option.some.injEq] at hI hk
  subst hI hk
  refine ⟨symEphemeral 1, .initiator 1 none, .responder (leBytes rng snowPskLen) 1, [], ?_, ?_, ?_⟩
  · simp [symbolicSnow, symWrite, snowPskLen, snowTagLen]
  · simp [symbolicSnow, symRead, bufferLen, snowPskLen, snowTagLen, signatureMessageLen]
  · intro p hp
    have hlen : (symReply (leBytes rng snowPskLen) p).length =
        2 * snowPskLen + 2 * snowTagLen + p.length := by
      simp [symReply]
      omega
    refine ⟨_, .responder (leBytes rng snowPskLen) 2, .initiator 2 (some (leBytes rng snowPskLen)),
      ?_, hlen, ?_, rfl⟩
    · simp [symbolicSnow, symWrite, hlen, hp]
    · simp only [symbolicSnow, symRead, symOpen_symReply (leBytes_length _ _)]
      have hp' : p.length ≤ bufferLen := by
        simp only [bufferLen, snowPskLen, snowTagLen, signatureMessageLen] at hp ⊢
        omega
      simp [hp']

/-- The symbolic signature scheme. -/
def symbolicEd25519 : Ed25519 where
  isPoint b := decide (b.length = 32)
  sign _ pk m := ⟨leBytes (leNat (pk ++ m)) 64, leBytes_length _ _⟩
  verify pk m sig := decide (sig.bytes = leBytes (leNat (pk ++ m)) 64)
  publicOf sk := leBytes (leNat sk) 32

/-- A symbolic authority key: its public half is itself. -/
def symAuthorityKey : Bytes := List.replicate 32 5

theorem symbolicEd25519_correct : symbolicEd25519.Correct where
  publicOf_length _ := leBytes_length _ _
  isPoint_publicOf _ := by simp [symbolicEd25519]
  verify_sign _ _ := by simp [symbolicEd25519]

end Stratum.Noise
