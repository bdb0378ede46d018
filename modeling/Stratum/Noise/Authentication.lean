import Stratum.Noise.Run

/-!
# What a finished handshake tells the initiator

`Initiator::step` returns `Done` only after `snow` read the responder's reply and the certificate
in its payload checked against the remote static key of that read and the authority key the
initiator was built with. The key is never replaced, and past `Done` every call fails and leaves
the initiator as it is: the handshake state `into_handshake_state` hands on at the end of the run
is the one that read.

* `StepMachine.run_getElem?`: the result at a position of a run comes from the call on that
  position's input, from where the calls before it left the endpoint;
* `initiator_authenticates_responder`: in every run of the initiator, a `Done` means that the
  handshake state it ends with has, as remote static key, a key the authority signed in a
  certificate valid at the instant of that call; every later call fails and leaves the initiator
  as the `Done` left it.
-/

namespace Stratum.Noise

variable {σ ι : Type}

/-- The endpoint after calling `step` on each input in turn. -/
def StepMachine.after (M : StepMachine σ ι) : σ → List ι → σ
  | s, [] => s
  | s, x :: xs => M.after (M.step s x).1 xs

theorem StepMachine.after_append (M : StepMachine σ ι) (s : σ) (xs ys : List ι) :
    M.after s (xs ++ ys) = M.after (M.after s xs) ys := by
  induction xs generalizing s with
  | nil => rfl
  | cons x xs ih => exact ih _

/-- The endpoint after the first `k + 1` calls is the one the `k`-th call left. -/
theorem StepMachine.after_take_succ (M : StepMachine σ ι) (s : σ) {xs : List ι} {k : Nat} {x : ι}
    (hx : xs[k]? = some x) : M.after s (xs.take (k + 1)) = (M.step (M.after s (xs.take k)) x).1 := by
  rw [List.take_succ, hx, Option.toList_some, M.after_append]
  rfl

/-- The result at position `k` of a run is that of the call on the `k`-th input, from the
endpoint the calls before left; the run goes on from the endpoint that call left. -/
theorem StepMachine.run_getElem? (M : StepMachine σ ι) {s : σ} {xs : List ι} {k : Nat}
    {r : Except Error StepResult} (h : (M.run s xs)[k]? = some r) :
    ∃ x, xs[k]? = some x ∧ (M.step (M.after s (xs.take k)) x).2 = r ∧
      M.after s xs = M.after (M.step (M.after s (xs.take k)) x).1 (xs.drop (k + 1)) := by
  induction xs generalizing s k with
  | nil => cases h
  | cons x xs ih =>
    cases k with
    | zero =>
      simp only [StepMachine.run, List.getElem?_cons_zero, Option.some.injEq] at h
      exact ⟨x, List.getElem?_cons_zero, h, rfl⟩
    | succ k =>
      simp only [StepMachine.run, List.getElem?_cons_succ] at h
      obtain ⟨y, hy, hr, hafter⟩ := ih h
      exact ⟨y, by rw [List.getElem?_cons_succ, hy], hr, hafter⟩

/-! ### The initiator through a run -/

section Initiator

variable {HS TS : Type} {N : Snow HS TS} {E : Ed25519}

/-- Past `Done`, a call of `Initiator::step` fails and changes nothing. -/
theorem Initiator.step_of_two_le {i : Initiator HS} (h : 2 ≤ i.stage) (now : Nat)
    (m : Option Bytes) : i.step N E now m = (i, .error ⟨⟩) := by
  obtain ⟨n, hn⟩ : ∃ n, i.stage = n + 2 := ⟨i.stage - 2, by omega⟩
  simp only [Initiator.step, Initiator.stepAt, hn, nextStage_error]
  rw [← hn]

theorem Initiator.after_of_two_le {i : Initiator HS} (h : 2 ≤ i.stage)
    (xs : List (Nat × Option Bytes)) : (Initiator.machine N E).after i xs = i := by
  induction xs with
  | nil => rfl
  | cons x xs ih =>
    show (Initiator.machine N E).after (i.step N E x.1 x.2).1 xs = i
    rw [Initiator.step_of_two_le h]
    exact ih

/-- The authority key is the one the initiator was built with, through every run. -/
theorem Initiator.after_authorityPublicKey (i : Initiator HS) (xs : List (Nat × Option Bytes)) :
    ((Initiator.machine N E).after i xs).authorityPublicKey = i.authorityPublicKey := by
  induction xs generalizing i with
  | nil => rfl
  | cons x xs ih => exact (ih _).trans (Initiator.step_authorityPublicKey i x.1 x.2)

/-- **A call that returns `Done`** was made on a reply `snow` read into the handshake state the
initiator keeps, and the certificate in the reply's payload checked against the remote static
key of that state; the initiator is at stage 2 after it. -/
theorem Initiator.step_eq_done {i : Initiator HS} {now : Nat} {m : Option Bytes}
    (h : (i.step N E now m).2 = .ok .done) :
    2 ≤ (i.step N E now m).1.stage ∧ ∃ msg p, m = some msg ∧
      N.readMessage i.handshakeState msg bufferLen =
        ((i.step N E now m).1.handshakeState, some p) ∧
      Initiator.verifyRemoteStaticKeySignature N E
        { i with handshakeState := (i.step N E now m).1.handshakeState } now p = .ok () := by
  rw [Initiator.step_snd] at h
  rcases Initiator.stepAt_eq_ok.1 h with ⟨-, -, -, -, ⟨⟩⟩ | ⟨h1, msg, hs, p, rfl, hr, hv, -⟩
  have hstep : i.stepAt N E now (some msg) = (hs, .ok .done) := by
    rw [h1] at hv
    simp only [Initiator.stepAt, h1, hr, take_overwrite, hv]
  refine ⟨by simp [hstep, h1], msg, p, rfl, ?_, ?_⟩ <;> simp only [step_handshakeState, hstep]
  · exact hr
  · exact hv

/-- **The initiator authenticates the responder.** In every run of `Initiator::step`, over any
`snow` and any Ed25519, a call that returns `Done` was made at some instant `now` on a reply that
`snow` read from where the calls before left the handshake, and that read left the handshake
state the initiator still holds at the end of the run. That state's remote static key `rs` comes
with a certificate, the reply's payload, whose window holds `now` and whose signature over
`header ‖ rs ‖ authority key` verifies under the authority key the initiator was built with. Every
call after the `Done` fails, and the initiator ends as the `Done` left it. -/
theorem initiator_authenticates_responder (N : Snow HS TS) (E : Ed25519) (i : Initiator HS)
    (xs : List (Nat × Option Bytes)) (k : Nat)
    (hk : ((Initiator.machine N E).run i xs)[k]? = some (.ok .done)) :
    ∃ now msg p rs m, xs[k]? = some (now, some msg) ∧
      N.readMessage ((Initiator.machine N E).after i (xs.take k)).handshakeState msg bufferLen =
        (((Initiator.machine N E).after i xs).intoHandshakeState, some p) ∧
      N.getRemoteStatic ((Initiator.machine N E).after i xs).intoHandshakeState = some rs ∧
      SignatureNoiseMessage.tryFrom p = some m ∧
      m.header.validFrom.toNat ≤ now ∧ now < m.header.notValidAfter.toNat ∧
      E.verify i.authorityPublicKey (m.header.serialize ++ rs ++ i.authorityPublicKey)
        m.signature = true ∧
      (∀ r ∈ ((Initiator.machine N E).run i xs).drop (k + 1), ∃ e, r = .error e) ∧
      (Initiator.machine N E).after i xs = (Initiator.machine N E).after i (xs.take (k + 1)) := by
  obtain ⟨⟨now, m⟩, hx, hr, hafter⟩ := (Initiator.machine N E).run_getElem? hk
  obtain ⟨h2, msg, p, rfl, hread, hv⟩ := Initiator.step_eq_done hr
  have hend : (Initiator.machine N E).after i xs =
      (((Initiator.machine N E).after i (xs.take k)).step N E now (some msg)).1 :=
    hafter.trans (Initiator.after_of_two_le h2 _)
  obtain ⟨rs, sm, hrs, hsm, hvalid⟩ := Initiator.verifyRemoteStaticKeySignature_eq_ok.1 hv
  obtain ⟨hfrom, hto, hsig⟩ := Certificate.validate_eq_ok.1 hvalid
  have hkey : ((Initiator.machine N E).after i (xs.take k)).authorityPublicKey =
      i.authorityPublicKey := Initiator.after_authorityPublicKey i _
  refine ⟨now, msg, p, rs, sm, hx, ?_, ?_, hsm, hfrom, hto, ?_, ?_, ?_⟩
  · rw [hend]
    exact hread
  · rw [hend]
    exact hrs
  · rw [← hkey]
    exact hsig
  · -- past `Done`, every call fails
    exact (Initiator.machine N E).errorsAfterDone_run Initiator.machine_follows
      (done_last (by decide)) i xs k hk
  · rw [hend, StepMachine.after_take_succ _ _ hx]
    rfl

/-- The reply of a responder whose static key is `symEphemeral 9`, with the certificate the
symbolic authority issues for that key at instant 0 for 100 seconds. -/
def symCertifiedReply : Bytes :=
  match Authority.newCertFromRaw symbolicEd25519 ⟨⟨symAuthorityKey, symAuthorityKey⟩⟩ 0
      (symEphemeral 9) 100 with
  | .ok m => symReply (symEphemeral 9) m.serialize
  | .error _ => []

/-- An initiator of the symbolic authority that sends its `-> e` and then reads the certified
reply at instant 50 is done, and hands on a handshake state with a remote static key. -/
theorem symbolic_initiator_authenticates :
    ((Initiator.machine symbolicSnow symbolicEd25519).run ⟨0, .initiator 0 none, symAuthorityKey⟩
        [(0, none), (50, some symCertifiedReply)])[1]? = some (.ok .done) ∧
      ∃ rs, symbolicSnow.getRemoteStatic ((Initiator.machine symbolicSnow symbolicEd25519).after
        ⟨0, .initiator 0 none, symAuthorityKey⟩
          [(0, none), (50, some symCertifiedReply)]).intoHandshakeState = some rs := by
  have h : ((Initiator.machine symbolicSnow symbolicEd25519).run
      ⟨0, .initiator 0 none, symAuthorityKey⟩ [(0, none), (50, some symCertifiedReply)])[1]? =
      some (.ok .done) := by
    set_option maxRecDepth 100000 in rfl
  obtain ⟨-, -, -, rs, -, -, -, hrs, -⟩ :=
    initiator_authenticates_responder symbolicSnow symbolicEd25519 _ _ 1 h
  exact ⟨h, rs, hrs⟩

end Initiator

end Stratum.Noise
