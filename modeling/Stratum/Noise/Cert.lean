import Mathlib.Data.List.Basic
import Mathlib.Data.UInt

/-!
# Certificates of the responder's static key

`lib.rs` of `noise-sv2` builds and checks certificates through its `auth` module, which is not
among the sources. What `lib.rs` calls of it is modelled here from the spec (§3, §4.3): the
76-byte `SignatureNoiseMessage` on the wire, its parsing, the signed part
`header ‖ static key ‖ authority key`, and the check a certificate passes at an instant.
Ed25519 is a structure of operations (`Ed25519`); the one law it is asked to satisfy is that a
signature made with a secret key verifies under the matching public key (`Ed25519.Correct`).

* `SignatureNoiseMessage.tryFrom_serialize`, `SignatureNoiseMessage.serialize_of_tryFrom`: the
  format round-trips, and what `tryFrom` accepts is exactly what `serialize` writes;
* `Certificate.validate_newCertFromRaw_iff`: a certificate issued by `Authority.newCertFromRaw`
  for a key validates against that key and the issuing authority exactly at the instants of its
  window.
-/

namespace Stratum.Noise

/-- Byte strings: `Vec<u8>`, `&[u8]` and `Bytes` alike. -/
abbrev Bytes := List UInt8

/-- `error::Error` of the crate: it carries nothing. -/
structure Error where
deriving DecidableEq, Repr

/-- `SIGNATURE_MESSAGE_LEN`: version, validity window, signature length and signature. -/
def signatureMessageLen : Nat := 76

/-! ### Little-endian integers -/

/-- The `w` little-endian bytes of `n`, lowest first; what does not fit is dropped. -/
def leBytes (n : Nat) : Nat → Bytes
  | 0 => []
  | w + 1 => UInt8.ofNat n :: leBytes (n / 256) w

/-- The number whose little-endian bytes are `b`. -/
def leNat : Bytes → Nat
  | [] => 0
  | x :: b => x.toNat + 256 * leNat b

@[simp] theorem leBytes_length (n w : Nat) : (leBytes n w).length = w := by
  induction w generalizing n <;> simp [leBytes, *]

theorem leNat_leBytes (n w : Nat) : leNat (leBytes n w) = n % 256 ^ w := by
  induction w generalizing n with
  | zero => simp [leBytes, leNat, Nat.mod_one]
  | succ w ih =>
    rw [leBytes, leNat, ih, Nat.pow_succ', Nat.mod_mul]
    rfl

theorem leNat_lt (b : Bytes) : leNat b < 256 ^ b.length := by
  induction b with
  | nil => simp [leNat]
  | cons x b ih =>
    have hx : x.toNat < 256 := x.toBitVec.isLt
    rw [leNat, List.length_cons, Nat.pow_succ']
    omega

theorem UInt16.ofNat_toNat (x : UInt16) : UInt16.ofNat x.toNat = x :=
  UInt16.toNat.inj (UInt16.toNat_ofNat_of_lt x.toNat_lt_size)

theorem UInt32.ofNat_toNat (x : UInt32) : UInt32.ofNat x.toNat = x :=
  UInt32.toNat.inj (UInt32.toNat_ofNat_of_lt x.toNat_lt_size)

theorem leBytes_leNat (b : Bytes) : leBytes (leNat b) b.length = b := by
  induction b with
  | nil => rfl
  | cons x b ih =>
    have hx : x.toNat < 256 := x.toBitVec.isLt
    have hd : (x.toNat + 256 * leNat b) / 256 = leNat b := by omega
    have h0 : UInt8.ofNat (x.toNat + 256 * leNat b) = x :=
      UInt8.toNat.inj (show (x.toNat + 256 * leNat b) % 256 = x.toNat by omega)
    rw [List.length_cons, leNat, leBytes, hd, ih, h0]

/-! ### The signature noise message -/

/-- Modelled from the spec: `auth::SignedPartHeader`, the schema version and the validity window,
in unix seconds. -/
structure SignedPartHeader where
  version : UInt16
  validFrom : UInt32
  notValidAfter : UInt32
deriving DecidableEq, Repr

/-- Modelled from the spec: the ten bytes of an `auth::SignedPartHeader`, version, `valid_from`,
`not_valid_after`, little-endian. -/
def SignedPartHeader.serialize (h : SignedPartHeader) : Bytes :=
  leBytes h.version.toNat 2 ++ leBytes h.validFrom.toNat 4 ++ leBytes h.notValidAfter.toNat 4

@[simp] theorem SignedPartHeader.serialize_length (h : SignedPartHeader) :
    h.serialize.length = 10 := by
  simp [SignedPartHeader.serialize]

/-- An Ed25519 signature: 64 bytes. -/
structure Signature where
  bytes : Bytes
  length_eq : bytes.length = 64
deriving DecidableEq

/-- Modelled from the spec: `auth::SignatureNoiseMessage`, what the responder sends after its
static key. -/
structure SignatureNoiseMessage where
  header : SignedPartHeader
  signature : Signature
deriving DecidableEq

/-- Modelled from the spec: `serialize_to_bytes_mut` of `auth::SignatureNoiseMessage`, the header,
the signature length `64` on two bytes, the signature. -/
def SignatureNoiseMessage.serialize (m : SignatureNoiseMessage) : Bytes :=
  m.header.serialize ++ leBytes 64 2 ++ m.signature.bytes

@[simp] theorem SignatureNoiseMessage.serialize_length (m : SignatureNoiseMessage) :
    m.serialize.length = signatureMessageLen := by
  simp [SignatureNoiseMessage.serialize, m.signature.length_eq, signatureMessageLen]

/-- Read a `w`-byte little-endian field off the front of a buffer: its value and the rest. -/
def readLE (w : Nat) (b : Bytes) : Nat × Bytes := (leNat (b.take w), b.drop w)

@[simp] theorem readLE_leBytes_append (n w : Nat) (rest : Bytes) :
    readLE w (leBytes n w ++ rest) = (n % 256 ^ w, rest) := by
  simp [readLE, List.take_left', List.drop_left', leNat_leBytes]

theorem readLE_fst_lt (w : Nat) (b : Bytes) : (readLE w b).1 < 256 ^ w :=
  lt_of_lt_of_le (leNat_lt _) (Nat.pow_le_pow_right (by decide) (by simp [readLE]))

@[simp] theorem readLE_snd_length (w : Nat) (b : Bytes) : (readLE w b).2.length = b.length - w := by
  simp [readLE]

/-- A field read off a buffer long enough for it is written back as the bytes it was read from. -/
theorem leBytes_readLE {w : Nat} {b : Bytes} (hb : w ≤ b.length) :
    leBytes (readLE w b).1 w ++ (readLE w b).2 = b := by
  have h := leBytes_leNat (b.take w)
  rw [List.length_take, Nat.min_eq_left hb] at h
  rw [readLE, h, List.take_append_drop]

/-- Modelled from the spec: `auth::SignatureNoiseMessage::try_from`, the four fields, then 64
bytes of signature, with the signature length reading `64`. -/
def SignatureNoiseMessage.tryFrom (b : Bytes) : Option SignatureNoiseMessage :=
  let version := readLE 2 b
  let validFrom := readLE 4 version.2
  let notValidAfter := readLE 4 validFrom.2
  let signatureLen := readLE 2 notValidAfter.2
  if h : signatureLen.1 = 64 ∧ signatureLen.2.length = 64 then
    some
      { header :=
          { version := UInt16.ofNat version.1
            validFrom := UInt32.ofNat validFrom.1
            notValidAfter := UInt32.ofNat notValidAfter.1 }
        signature := ⟨signatureLen.2, h.2⟩ }
  else none

/-- **The format round-trips.** -/
theorem SignatureNoiseMessage.tryFrom_serialize (m : SignatureNoiseMessage) :
    SignatureNoiseMessage.tryFrom m.serialize = some m := by
  obtain ⟨⟨v, f, t⟩, ⟨s, hs⟩⟩ := m
  simp [tryFrom, serialize, SignedPartHeader.serialize, hs, Nat.mod_eq_of_lt v.toNat_lt_size,
    Nat.mod_eq_of_lt f.toNat_lt_size, Nat.mod_eq_of_lt t.toNat_lt_size, UInt16.ofNat_toNat,
    UInt32.ofNat_toNat]

/-- **What `tryFrom` accepts is well formed**: it is the serialisation of what it returns. -/
theorem SignatureNoiseMessage.serialize_of_tryFrom {b : Bytes} {m : SignatureNoiseMessage}
    (h : SignatureNoiseMessage.tryFrom b = some m) : m.serialize = b := by
  dsimp only [tryFrom] at h
  split at h
  · rename_i hb
    cases h
    obtain ⟨h64, hlen⟩ := hb
    simp only [readLE_snd_length] at hlen
    have e2 := readLE_fst_lt 2 b
    have e4 := readLE_fst_lt 4 (readLE 2 b).2
    have e4' := readLE_fst_lt 4 (readLE 4 (readLE 2 b).2).2
    simp only [serialize, SignedPartHeader.serialize, ← h64, List.append_assoc,
      UInt16.toNat_ofNat_of_lt (lt_of_lt_of_le e2 (by decide)),
      UInt32.toNat_ofNat_of_lt (lt_of_lt_of_le e4 (by decide)),
      UInt32.toNat_ofNat_of_lt (lt_of_lt_of_le e4' (by decide))]
    rw [leBytes_readLE (by simp; omega), leBytes_readLE (by simp; omega),
      leBytes_readLE (by simp; omega), leBytes_readLE (by omega)]
  · cases h

/-! ### Ed25519 -/

/-- The ed25519-dalek operations the certificate code calls, over byte-string keys. -/
structure Ed25519 where
  /-- `CompressedEdwardsY::decompress` succeeds: the bytes name a point of the curve. -/
  isPoint : Bytes → Bool
  /-- `Keypair::sign`, which signs with the secret half and hashes in the public half. -/
  sign : (secret public message : Bytes) → Signature
  /-- `PublicKey::verify`. -/
  verify : (public message : Bytes) → Signature → Bool
  /-- The public half that belongs to a secret key. -/
  publicOf : Bytes → Bytes

/-- **What is assumed of Ed25519**: public keys are 32-byte points, and a signature made with a
secret key verifies under the matching public key. -/
structure Ed25519.Correct (E : Ed25519) : Prop where
  publicOf_length : ∀ sk, (E.publicOf sk).length = 32
  isPoint_publicOf : ∀ sk, E.isPoint (E.publicOf sk) = true
  verify_sign : ∀ sk m, E.verify (E.publicOf sk) m (E.sign sk (E.publicOf sk) m) = true

/-- `ed25519_dalek::Keypair`. -/
structure Keypair where
  secret : Bytes
  public : Bytes
deriving DecidableEq, Repr

/-- `PublicKey::from_bytes`: 32 bytes that decompress. -/
def Ed25519.publicKeyFromBytes (E : Ed25519) (b : Bytes) : Option Bytes :=
  if b.length = 32 ∧ E.isPoint b = true then some b else none

/-- `Keypair::from_bytes`: 64 bytes, the secret half first; only the public half is checked. -/
def Ed25519.keypairFromBytes (E : Ed25519) (b : Bytes) : Option Keypair :=
  if b.length = 64 then (E.publicKeyFromBytes (b.drop 32)).map (Keypair.mk (b.take 32)) else none

/-! ### Signed parts and certificates -/

/-- Modelled from the spec: `auth::SignedPart`, what the authority signs. -/
structure SignedPart where
  header : SignedPartHeader
  pubkey : Bytes
  authorityPublicKey : Bytes

/-- Modelled from the spec: the message `auth::SignedPart` signs, `header ‖ static key ‖
authority key`. -/
def SignedPart.serialize (p : SignedPart) : Bytes :=
  p.header.serialize ++ p.pubkey ++ p.authorityPublicKey

/-- Modelled from the spec: `auth::SignedPart::sign_with`. -/
def SignedPart.signWith (E : Ed25519) (p : SignedPart) (kp : Keypair) : Signature :=
  E.sign kp.secret kp.public p.serialize

/-- Modelled from the spec: `auth::Certificate`, a signed part with its signature. -/
structure Certificate where
  signedPart : SignedPart
  signature : Signature

/-- Modelled from the spec: `auth::Certificate::build_noise_message`; the keys are not sent, only
the header and signature. -/
def Certificate.buildNoiseMessage (c : Certificate) : SignatureNoiseMessage :=
  ⟨c.signedPart.header, c.signature⟩

/-- Modelled from the spec: `auth::Certificate::from_noise_message`; the receiver puts back the
keys it expects. -/
def Certificate.fromNoiseMessage (m : SignatureNoiseMessage) (pubkey authorityPublicKey : Bytes) :
    Certificate :=
  ⟨⟨m.header, pubkey, authorityPublicKey⟩, m.signature⟩

/-- Modelled from the spec: why `auth::Certificate::validate` refuses a certificate (§7). -/
inductive CertError
  | notYetValid
  | expired
  | badSignature
deriving DecidableEq, Repr

/-- Modelled from the spec: `auth::Certificate::validate` at the instant `now`: inside
`[valid_from, not_valid_after)`, and signed by the authority key it names over the message it
names. -/
def Certificate.validate (E : Ed25519) (now : Nat) (c : Certificate) : Except CertError Unit :=
  if now < c.signedPart.header.validFrom.toNat then .error .notYetValid
  else if c.signedPart.header.notValidAfter.toNat ≤ now then .error .expired
  else if E.verify c.signedPart.authorityPublicKey c.signedPart.serialize c.signature then .ok ()
  else .error .badSignature

theorem Certificate.validate_eq_ok {E : Ed25519} {now : Nat} {c : Certificate} :
    c.validate E now = .ok () ↔
      c.signedPart.header.validFrom.toNat ≤ now ∧ now < c.signedPart.header.notValidAfter.toNat ∧
        E.verify c.signedPart.authorityPublicKey c.signedPart.serialize c.signature = true := by
  unfold validate
  split_ifs <;> simp_all

/-! ### The authority -/

/-- `Authority`: the keypair that certifies responders. -/
structure Authority where
  kp : Keypair

/-- `Authority::from_raw_k`: the keypair from `priv_k ‖ pub_k`. -/
def Authority.fromRawK (E : Ed25519) (pub_k priv_k : Bytes) : Option Authority :=
  (E.keypairFromBytes (priv_k ++ pub_k)).map Authority.mk

/-- Modelled from the spec: `auth::SignedPartHeader::with_duration`, at the instant `now`: version
`0`, valid from `now` for `duration` seconds, both ends as `u32`. -/
def SignedPartHeader.withDuration (now duration : Nat) : Option SignedPartHeader :=
  if now + duration < 2 ^ 32 then
    some ⟨0, UInt32.ofNat now, UInt32.ofNat (now + duration)⟩
  else none

/-- `Authority::new_cert_from_raw`, at the instant `now`. -/
def Authority.newCertFromRaw (E : Ed25519) (a : Authority) (now : Nat) (pub_k : Bytes)
    (duration : Nat) : Except Error SignatureNoiseMessage :=
  match SignedPartHeader.withDuration now duration with
  | none => .error ⟨⟩
  | some header =>
    let signed_part : SignedPart := ⟨header, pub_k, a.kp.public⟩
    .ok (Certificate.mk signed_part (signed_part.signWith E a.kp)).buildNoiseMessage

/-- `Authority::new_cert`. -/
def Authority.newCert (E : Ed25519) (a : Authority) (now : Nat) (pub_k : Bytes) (duration : Nat) :
    Except Error SignatureNoiseMessage :=
  a.newCertFromRaw E now pub_k duration

theorem Authority.fromRawK_kp {E : Ed25519} {pub_k priv_k : Bytes} {a : Authority}
    (h : Authority.fromRawK E pub_k priv_k = some a) (hpub : pub_k.length = 32) :
    a.kp = ⟨priv_k, pub_k⟩ := by
  unfold fromRawK Ed25519.keypairFromBytes Ed25519.publicKeyFromBytes at h
  have hpriv : priv_k.length = 32 := by
    by_contra hne
    simp [hpub, show ¬priv_k.length + 32 = 64 by omega] at h
  simp only [List.length_append, hpub, hpriv, List.drop_left', List.take_left'] at h
  simp only [Nat.reduceAdd, ↓reduceIte, true_and] at h
  split_ifs at h
  · cases h
    rfl
  · cases h

/-- **An issued certificate validates exactly inside its window.** Issued at `t0` by an
authority whose keypair matches, for the key `pk`, it validates at `t` against `pk` and the
authority's public key iff `t0 ≤ t < t0 + duration`. -/
theorem Certificate.validate_newCertFromRaw_iff {E : Ed25519} (hE : E.Correct) {a : Authority}
    (ha : a.kp.public = E.publicOf a.kp.secret) {t0 duration t : Nat} {pk : Bytes}
    {m : SignatureNoiseMessage} (hm : a.newCertFromRaw E t0 pk duration = .ok m) :
    (Certificate.fromNoiseMessage m pk a.kp.public).validate E t = .ok () ↔
      t0 ≤ t ∧ t < t0 + duration := by
  unfold Authority.newCertFromRaw SignedPartHeader.withDuration at hm
  split_ifs at hm with hw
  · cases hm
    have h0 : (UInt32.ofNat t0).toNat = t0 :=
      UInt32.toNat_ofNat_of_lt (lt_of_le_of_lt (Nat.le_add_right _ _) hw)
    have h1 : (UInt32.ofNat (t0 + duration)).toNat = t0 + duration :=
      UInt32.toNat_ofNat_of_lt hw
    have hv := hE.verify_sign a.kp.secret
    rw [← ha] at hv
    simp [Certificate.validate_eq_ok, Certificate.fromNoiseMessage, Certificate.buildNoiseMessage,
      SignedPart.signWith, h0, h1, hv]

end Stratum.Noise
