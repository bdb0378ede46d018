import Stratum.Noise.Symbolic

/-!
# Runs of the handshake endpoints

A run calls `step` on a sequence of inputs. Both endpoints obey one stage discipline
(`StepMachine.Follows`): a call that fails leaves the stage as it was, and a call that succeeds
does so at a stage listed in a fixed pattern, with a result of the kind listed there, and moves
one stage on. The initiator's pattern is `[ExpectReply, Done]`, the responder's
`[NoMoreReply, Done]`. Everything about whole runs is derived from that law once:

* `StepMachine.successes_run_isPrefix_pattern`: the successes of a run form a prefix of the pattern;
* `StepMachine.errorsAfterDone_run`: once `Done` is returned, every later call fails.

The runs are over any `snow` and any Ed25519 (`Snow`, `Ed25519`), so over every outcome of the
Noise reads and writes and of the certificate check.
-/

namespace Stratum.Noise

/-- A handshake endpoint seen from outside: its stage, and one call of `step` on an input. -/
structure StepMachine (σ ι : Type) where
  stage : σ → Nat
  step : σ → ι → σ × Except Error StepResult

variable {σ ι : Type}

/-- The results of calling `step` on each input in turn. -/
def StepMachine.run (M : StepMachine σ ι) : σ → List ι → List (Except Error StepResult)
  | _, [] => []
  | s, x :: xs => (M.step s x).2 :: M.run (M.step s x).1 xs

/-- The successful results of a run, in order. -/
def successes : List (Except Error StepResult) → List StepResult
  | [] => []
  | .ok v :: rs => v :: successes rs
  | .error _ :: rs => successes rs

/-- **The stage discipline**: a call moves the stage as `nextStage` says, and succeeds only at a
stage `pattern` lists, with a result of the kind listed there. -/
def StepMachine.Follows (M : StepMachine σ ι) (pattern : List StepKind) : Prop :=
  ∀ s x, M.stage (M.step s x).1 = nextStage (M.stage s) (M.step s x).2 ∧
    ∀ v, (M.step s x).2 = .ok v → pattern[M.stage s]? = some v.kind

/-- After a `Done`, every result of the run is an error. -/
def ErrorsAfterDone (rs : List (Except Error StepResult)) : Prop :=
  ∀ k, rs[k]? = some (.ok .done) → ∀ r ∈ rs.drop (k + 1), ∃ e, r = .error e

section Follows

variable {M : StepMachine σ ι} {pattern : List StepKind}

theorem StepMachine.Follows.step_error (hM : M.Follows pattern) {s : σ} {x : ι} {e : Error}
    (h : (M.step s x).2 = .error e) : M.stage (M.step s x).1 = M.stage s := by
  rw [(hM s x).1, h, nextStage_error]

theorem StepMachine.Follows.step_ok (hM : M.Follows pattern) {s : σ} {x : ι} {v : StepResult}
    (h : (M.step s x).2 = .ok v) :
    M.stage (M.step s x).1 = M.stage s + 1 ∧ pattern[M.stage s]? = some v.kind := by
  rw [(hM s x).1, h, nextStage_ok]
  exact ⟨rfl, (hM s x).2 v h⟩

/-- **The successes of a run form a prefix of what the pattern has left.** -/
theorem StepMachine.successes_run_isPrefix_pattern (hM : M.Follows pattern) (s : σ) (xs : List ι) :
    (successes (M.run s xs)).map StepResult.kind <+: pattern.drop (M.stage s) := by
  induction xs generalizing s with
  | nil => exact List.nil_prefix
  | cons x xs ih =>
    rcases hr : (M.step s x).2 with e | v
    · simpa [StepMachine.run, successes, hr, hM.step_error hr] using ih (M.step s x).1
    · obtain ⟨hst, hk⟩ := hM.step_ok hr
      obtain ⟨hlt, hget⟩ := List.getElem?_eq_some_iff.1 hk
      rw [List.drop_eq_getElem_cons hlt, hget]
      simpa [StepMachine.run, successes, hr, hst] using ih (M.step s x).1

/-- Past the end of the pattern, every call fails. -/
theorem StepMachine.run_error_of_le (hM : M.Follows pattern) (s : σ)
    (hs : pattern.length ≤ M.stage s) (xs : List ι) : ∀ r ∈ M.run s xs, ∃ e, r = .error e := by
  induction xs generalizing s with
  | nil => simp [StepMachine.run]
  | cons x xs ih =>
    rcases hr : (M.step s x).2 with e | v
    · intro r hr'
      simp only [StepMachine.run, hr, List.mem_cons] at hr'
      rcases hr' with rfl | hr'
      · exact ⟨e, rfl⟩
      · exact ih _ (by rw [hM.step_error hr]; exact hs) r hr'
    · have := (hM.step_ok hr).2
      rw [List.getElem?_eq_none hs] at this
      cases this

/-- **Once `Done` is returned, every later call fails**, when `Done` ends the pattern. -/
theorem StepMachine.errorsAfterDone_run (hM : M.Follows pattern)
    (hlast : ∀ n, pattern[n]? = some .done → n + 1 = pattern.length) (s : σ) (xs : List ι) :
    ErrorsAfterDone (M.run s xs) := by
  induction xs generalizing s with
  | nil => simp [ErrorsAfterDone, StepMachine.run]
  | cons x xs ih =>
    rintro (_ | k) hk
    · simp only [StepMachine.run, List.getElem?_cons_zero, Option.some.injEq] at hk
      obtain ⟨hst, hd⟩ := hM.step_ok hk
      exact M.run_error_of_le hM _ (by rw [hst, hlast _ hd]) xs
    · simpa [StepMachine.run] using ih (M.step s x).1 k (by simpa [StepMachine.run] using hk)

end Follows

/-! ### The two endpoints -/

variable {HS TS : Type}

/-- `Initiator::step` as a step machine; each call comes with the instant it runs at. -/
def Initiator.machine (N : Snow HS TS) (E : Ed25519) :
    StepMachine (Initiator HS) (Nat × Option Bytes) where
  stage := Initiator.stage
  step i x := i.step N E x.1 x.2

/-- `Responder::step` as a step machine. -/
def Responder.machine (N : Snow HS TS) : StepMachine (Responder HS) (Option Bytes) where
  stage := Responder.stage
  step r x := r.step N x

variable {N : Snow HS TS} {E : Ed25519}

theorem Initiator.machine_follows : (Initiator.machine N E).Follows [.expectReply, .done] := by
  refine fun i x => ⟨rfl, fun v hv => ?_⟩
  have hv : (i.stepAt N E x.1 x.2).2 = .ok v := hv
  rcases Initiator.stepAt_eq_ok.1 hv with ⟨h0, -, -, -, rfl⟩ | ⟨h1, -, -, -, -, -, -, rfl⟩
  · simp [Initiator.machine, h0, StepResult.kind]
  · simp [Initiator.machine, h1, StepResult.kind]

theorem Responder.machine_follows : (Responder.machine N).Follows [.noMoreReply, .done] := by
  refine fun r x => ⟨rfl, fun v hv => ?_⟩
  have hv : (r.stepAt N x).2 = .ok v := hv
  rcases Responder.stepAt_eq_ok.1 hv with ⟨h0, -, -, -, -, -, -, -, -, rfl⟩ | ⟨h1, rfl⟩
  · simp [Responder.machine, h0, StepResult.kind]
  · simp [Responder.machine, h1, StepResult.kind]

/-- `Done` ends both patterns. -/
theorem done_last {a : StepKind} (ha : a ≠ .done) :
    ∀ n, [a, StepKind.done][n]? = some .done → n + 1 = [a, StepKind.done].length
  | 0, h => absurd (Option.some.inj h) ha
  | 1, _ => rfl
  | _ + 2, h => by simp at h

/-- **The handshake step machines.** Over any `snow` and any Ed25519: the successes of every
run of a fresh initiator form a prefix of `[ExpectReply _, Done]` and every call after `Done`
fails; `ExpectReply` comes only from a write of `-> e` at stage 0; `Done` only at stage 1, from
a call given a message that `snow` read, whose payload parses as a signature noise message and
validates, at the call's instant, against the remote static key of that read and the configured
authority key. Likewise the successes of every run of a fresh responder form a prefix of
`[NoMoreReply _, Done]`, every call after `Done` fails, and `NoMoreReply` comes only from a call
whose read of the initiator's message and write of the signature noise message both succeeded.
In both, a failed call leaves the stage as it was. -/
theorem handshake_step_machines (N : Snow HS TS) (E : Ed25519) :
    (∀ (hs : HS) (apk : Bytes) (calls : List (Nat × Option Bytes)),
      (successes ((Initiator.machine N E).run ⟨0, hs, apk⟩ calls)).map StepResult.kind <+:
        [.expectReply, .done] ∧
      ErrorsAfterDone ((Initiator.machine N E).run ⟨0, hs, apk⟩ calls)) ∧
    (∀ (i : Initiator HS) (now : Nat) (in_msg : Option Bytes) (m : Bytes),
      (i.step N E now in_msg).2 = .ok (.expectReply m) →
        i.stage = 0 ∧ ∃ hs, N.writeMessage i.handshakeState [] (snowPskLen + snowTagLen) =
          (hs, some m)) ∧
    (∀ (i : Initiator HS) (now : Nat) (in_msg : Option Bytes),
      (i.step N E now in_msg).2 = .ok .done →
        i.stage = 1 ∧ ∃ msg hs p rs sm, in_msg = some msg ∧
          N.readMessage i.handshakeState msg bufferLen = (hs, some p) ∧
          N.getRemoteStatic hs = some rs ∧ SignatureNoiseMessage.tryFrom p = some sm ∧
          (Certificate.fromNoiseMessage sm rs i.authorityPublicKey).validate E now = .ok ()) ∧
    (∀ (i : Initiator HS) (now : Nat) (in_msg : Option Bytes) (e : Error),
      (i.step N E now in_msg).2 = .error e → (i.step N E now in_msg).1.stage = i.stage) ∧
    (∀ (hs : HS) (snm : Bytes) (calls : List (Option Bytes)),
      (successes ((Responder.machine N).run ⟨0, hs, snm⟩ calls)).map StepResult.kind <+:
        [.noMoreReply, .done] ∧
      ErrorsAfterDone ((Responder.machine N).run ⟨0, hs, snm⟩ calls)) ∧
    (∀ (r : Responder HS) (in_msg : Option Bytes) (m : Bytes),
      (r.step N in_msg).2 = .ok (.noMoreReply m) →
        r.stage = 0 ∧ ∃ msg hs p hs' w, in_msg = some msg ∧
          N.readMessage r.handshakeState msg bufferLen = (hs, some p) ∧
          N.writeMessage hs r.signatureNoiseMessage bufferLen = (hs', some w)) ∧
    (∀ (r : Responder HS) (in_msg : Option Bytes) (e : Error),
      (r.step N in_msg).2 = .error e → (r.step N in_msg).1.stage = r.stage) := by
  refine ⟨fun hs apk calls => ⟨?_, ?_⟩, fun i now in_msg m h => ?_, fun i now in_msg h => ?_,
    fun i now in_msg e h => Initiator.machine_follows.step_error (x := (now, in_msg)) h,
    fun hs snm calls => ⟨?_, ?_⟩, fun r in_msg m h => ?_,
    fun r in_msg e h => Responder.machine_follows.step_error (x := in_msg) h⟩
  · exact (Initiator.machine N E).successes_run_isPrefix_pattern Initiator.machine_follows _ calls
  · exact (Initiator.machine N E).errorsAfterDone_run Initiator.machine_follows
      (done_last (by decide)) _ calls
  · have h : (i.stepAt N E now in_msg).2 = _ := h
    rcases Initiator.stepAt_eq_ok.1 h with ⟨h0, hs, w, hw, ⟨⟩⟩ | ⟨-, -, -, -, -, -, -, ⟨⟩⟩
    exact ⟨h0, hs, hw⟩
  · have h : (i.stepAt N E now in_msg).2 = _ := h
    rcases Initiator.stepAt_eq_ok.1 h with ⟨-, -, -, -, ⟨⟩⟩ | ⟨h1, msg, hs, p, rfl, hr, hv, -⟩
    obtain ⟨rs, sm, hrs, hsm, hval⟩ := Initiator.verifyRemoteStaticKeySignature_eq_ok.1 hv
    exact ⟨h1, msg, hs, p, rs, sm, rfl, hr, hrs, hsm, hval⟩
  · exact (Responder.machine N).successes_run_isPrefix_pattern Responder.machine_follows _ calls
  · exact (Responder.machine N).errorsAfterDone_run Responder.machine_follows
      (done_last (by decide)) _ calls
  · have h : (r.stepAt N in_msg).2 = _ := h
    rcases Responder.stepAt_eq_ok.1 h with ⟨h0, msg, hs, p, hs', w, rfl, hr, hw, -⟩ | ⟨-, ⟨⟩⟩
    exact ⟨h0, msg, hs, p, hs', w, rfl, hr, hw⟩

/-! ### After a failure -/

/-- `Responder::new` takes a signature noise message of any length. With an empty one, stage 0
of `Responder::step` reaches `debug_assert!(buffer_len == len_written)` with the 96 bytes of
`<- e, ee, s, es` written, and replies with them followed by 76 zero bytes. An initiator at
stage 1 given those 96 bytes, a reply whose payload is empty, reaches
`debug_assert!(SIGNATURE_MESSAGE_LEN == signature_len)` with `signature_len = 0`, and in a release
build its step fails at the certificate check, at stage 1, on the handshake state the read left. -/
theorem responder_certificate_length_unchecked :
    symbolicSnow.writeMessage (.responder (leBytes 7 snowPskLen) 1) [] bufferLen =
        (.responder (leBytes 7 snowPskLen) 2, some (symReply (leBytes 7 snowPskLen) [])) ∧
      (symReply (leBytes 7 snowPskLen) []).length ≠ bufferLen ∧
      ((Responder.new symbolicSnow ⟨leBytes 7 snowPskLen, leBytes 7 snowPskLen⟩ []).step
        symbolicSnow (some (symEphemeral 1))).2 =
        .ok (.noMoreReply (symReply (leBytes 7 snowPskLen) [] ++ zeros signatureMessageLen)) ∧
      (⟨1, .initiator 1 none, symAuthorityKey⟩ : Initiator SymState).signatureLen symbolicSnow
        (some (symReply (leBytes 7 snowPskLen) [])) = some 0 ∧
      0 ≠ signatureMessageLen ∧
      (⟨1, .initiator 1 none, symAuthorityKey⟩ : Initiator SymState).step symbolicSnow
          symbolicEd25519 0 (some (symReply (leBytes 7 snowPskLen) [])) =
        (⟨1, .initiator 2 (some (leBytes 7 snowPskLen)), symAuthorityKey⟩, .error ⟨⟩) := by
  set_option maxRecDepth 100000 in
  exact ⟨rfl, by decide, rfl, rfl, by decide, rfl⟩

end Stratum.Noise
