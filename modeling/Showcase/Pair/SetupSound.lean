import Showcase.Pair.Run

/-!
# `Pair.SetupSound` — which proofs pair-setup accepts

Over every run of calls on a pairing context: when M3 accepts a client proof, which secrets does the proof
depend on?

* `setup_sound` — as long as no M3 is handled without a verifier in the context, no M1 fails behind the point
  where it stored its verifier, and no call whose result the code does not check fails, an accepted proof is
  the one the protocol prescribes for the last M1's salt and `b`, the PIN and the M3's `A`.
* `setup_accepts_without_pin` — the handlers do not consult `setup_state`. An M3 as the very first message finds
  `v = 0` and `b = 0`, so `S = 1`, and one fixed message is accepted whatever the PIN is.
-/

namespace Showcase

open Lib

variable {P : OpenSSL}

/-! ## Events of a run -/

/-- The call is an M1 that took no error exit. -/
def SetupM1Succeeds (P : OpenSSL) (x : PairStep) : Prop :=
  ∃ body e items, x.input = .setup body e ∧ incoming e.tlv body = some (1, items) ∧
    (setupM1Begin P x.pre e.m1).2.isSome

/-- The call is an M3 with public key `A` and proof `proof` that sets `srp_has_session_key` and answers with the
    server proof `serverM2`. -/
def AcceptsProof (P : OpenSSL) (x : PairStep) (A proof : Bytes) (serverM2 : Block 64) : Prop :=
  ∃ body e items sessionKey, x.input = .setup body e ∧ incoming e.tlv body = some (3, items) ∧
    tlvFind items tlvPublicKey = some A ∧ tlvFind items tlvProof = some proof ∧
    setupM3Check P x.pre items e.m3.ver = some (some (serverM2, sessionKey))

/-! ## The SRP fields over a step -/

/-- The fields M3 computes with. -/
def PairCtx.srp (ctx : PairCtx) : Bytes × Block 16 × Block 32 × Option Bytes × Nat :=
  (ctx.pin, ctx.srpSalt, ctx.srpB, ctx.srpVerifier, ctx.srpVerifierLen)

theorem handleSetupM3_srp {ctx ctx' : PairCtx} {items : List TlvItem} {e : SetupM3Env}
    {resp : Option Bytes} (h : handleSetupM3 P ctx items e = some (ctx', resp)) : ctx'.srp = ctx.srp := by
  rcases handleSetupM3_cases h with rfl | ⟨_, _, _, rfl⟩
  · rfl
  · rfl

theorem handleSetupM5_srp {ctx ctx' : PairCtx} {items : List TlvItem} {e : SetupM5Env}
    {resp : Option Bytes} (h : handleSetupM5 P ctx items e = some (ctx', resp)) : ctx'.srp = ctx.srp := by
  rcases handleSetupM5_cases h with rfl | ⟨pt, n, _, rfl⟩
  · rfl
  · rcases setupM5ClientPk_cases ctx e.sub pt with hpk | ⟨pk, hpk⟩
    · rw [hpk]
      rfl
    · rw [hpk]
      rfl

/-- **Only M1 changes them.** -/
theorem pairStep_srp {ctx ctx' : PairCtx} {i : PairInput} (h : pairStep P ctx i ctx')
    (hM1 : ¬ IsSetupM1 ⟨ctx, i, ctx'⟩) : ctx'.srp = ctx.srp := by
  obtain ⟨resp, h⟩ := h
  cases i with
  | setup body e =>
      simp only [pairCall, pairSetupHandle] at h
      split at h
      · rw [result_eq h]
      · rename_i state items hin
        by_cases h1 : state = 1
        · exact absurd ⟨body, e, items, rfl, h1 ▸ hin⟩ hM1
        rw [if_neg h1] at h
        split at h
        · exact handleSetupM3_srp h
        split at h
        · exact handleSetupM5_srp h
        · rw [result_eq h]
  | verify body e =>
      have hsetup := pairVerifyHandle_setup h
      simp only [PairCtx.setup, Prod.mk.injEq] at hsetup
      obtain ⟨hpin, hsalt, hB, hver, hlen, _⟩ := hsetup
      simp only [PairCtx.srp, hpin, hsalt, hB, hver, hlen]

/-! ## The condition -/

/-- No allocation of `srp_create_salt_verifier` fails. -/
structure SaltVerifierEnv.Succeeds (e : SaltVerifierEnv) : Prop where
  init : e.init = true
  hctx : e.hctx = true
  hns : e.hns = true
  out : e.out = true

/-- No allocation of `srp_create_B` fails. -/
structure CreateBEnv.Succeeds (e : CreateBEnv) : Prop where
  init : e.init = true
  kAlloc : e.kAlloc = true
  out : e.out = true

/-- An M1 that stores its verifier also draws a `b` other than 0 and computes `B`, and the verifier is the
    computed one. -/
def SetupM1Env.Guarded (e : SetupM1Env) : Prop :=
  e.sv.Succeeds → e.sv.expV = none ∧ e.createB.Succeeds ∧ ∃ b, e.b = some b ∧ ofBE b.val ≠ 0

/-- The step runs into none of the unchecked paths: an M1 is guarded, and an M3 finds a verifier in the context
    and none of its unchecked calls fails. -/
def SetupGuarded (x : PairStep) : Prop :=
  ∀ body e n items, x.input = .setup body e → incoming e.tlv body = some (n, items) →
    (n = 1 → e.m1.Guarded) ∧ (n = 3 → x.pre.srpVerifier.isSome ∧ e.m3.ver.Clean)

/-- A pair-setup message meets the condition when its own message number does. -/
theorem setupGuarded_of_incoming {ctx ctx' : PairCtx} {body : Bytes} {e : SetupEnv} {n : UInt8}
    {items : List TlvItem} (hin : incoming e.tlv body = some (n, items)) (h1 : n = 1 → e.m1.Guarded)
    (h3 : n = 3 → ctx.srpVerifier.isSome ∧ e.m3.ver.Clean) : SetupGuarded ⟨ctx, .setup body e, ctx'⟩ := by
  intro body' e' n' items' hi hin'
  obtain ⟨rfl, rfl⟩ := PairInput.setup.inj hi
  obtain ⟨rfl, rfl⟩ := Prod.mk.inj (Option.some.inj (hin.symm.trans hin'))
  exact ⟨h1, h3⟩

theorem srpCreateSaltVerifier_succeeds {pin verifier : Bytes} {e : SaltVerifierEnv}
    {salt : Option (Block 16)} (h : srpCreateSaltVerifier P srpUsername pin e = (salt, some verifier)) :
    e.Succeeds := by
  unfold srpCreateSaltVerifier at h
  split at h
  · rename_i hinit
    split at h
    · simp at h
    · rename_i x hx
      simp only at h
      split at h
      · rename_i hout
        unfold calculateX hNs at hx
        split at hx
        · rename_i hhctx
          split at hx
          · rename_i hhns
            exact ⟨hinit, hhctx, hhns, hout⟩
          · exact absurd hx (by simp)
        · exact absurd hx (by simp)
      · simp at h
  · simp at h

theorem srpCreateB_isSome {verifier : Bytes} {b : Block 32} {e : CreateBEnv} (he : e.Succeeds) :
    (srpCreateB P verifier b e).isSome := by
  have hk := hNnPad_some (P := P) (Nat.le_of_eq numBytes_srpN) numBytes_srpG
  simp only [srpCreateB, he.init, he.kAlloc, he.out, if_true, hk, Option.isSome_some]

/-! ## The invariant

Only M1 writes what M3 computes with, so the invariant is about the last M1. A guarded M1 leaves no verifier, or its
own with its salt and `b`; every other step leaves these fields alone. -/

/-- A verifier in the context is the one of the last M1, which succeeded and left its salt and `b`. -/
def SrpBound (P : OpenSSL) (pin : Bytes) (h : List PairStep) (ctx : PairCtx) : Prop :=
  ctx.pin = pin ∧ ∀ verifier, ctx.srpVerifier = some verifier →
    bnOfPointer ctx.srpVerifier ctx.srpVerifierLen = some (Srp.v P (ofBE ctx.srpSalt.val) pin) ∧
    ofBE ctx.srpB.val ≠ 0 ∧
    ∃ m, Last IsSetupM1 h m ∧ SetupM1Succeeds P m ∧
      ctx.srpSalt = m.post.srpSalt ∧ ctx.srpB = m.post.srpB

/-- A step that leaves the SRP fields alone keeps the invariant. -/
theorem SrpBound.frame {pin : Bytes} {h : List PairStep} {ctx ctx' : PairCtx} {i : PairInput}
    (hb : SrpBound P pin h ctx) (hM1 : ¬ IsSetupM1 ⟨ctx, i, ctx'⟩) (hsrp : ctx'.srp = ctx.srp) :
    SrpBound P pin (h ++ [⟨ctx, i, ctx'⟩]) ctx' := by
  simp only [PairCtx.srp, Prod.mk.injEq] at hsrp
  obtain ⟨hpin, hsalt, hB, hver, hlen⟩ := hsrp
  refine ⟨hpin.trans hb.1, ?_⟩
  intro verifier hv
  rw [hver] at hv
  obtain ⟨hbn, hb0, m, hlast, hsucc, hms, hmb⟩ := hb.2 verifier hv
  refine ⟨by rw [hver, hlen, hsalt]; exact hbn, hB ▸ hb0, m, hlast.snoc_other hM1, hsucc, ?_, ?_⟩
  · rw [hsalt, hms]
  · rw [hB, hmb]

/-- An M1 establishes the invariant anew: it leaves no verifier, or its own. -/
theorem SrpBound.setupM1 {pin : Bytes} {h : List PairStep} {ctx : PairCtx} {body : Bytes} {e : SetupEnv}
    {items : List TlvItem} (hb : SrpBound P pin h ctx) (hin : incoming e.tlv body = some (1, items))
    (hg : e.m1.Guarded) :
    SrpBound P pin (h ++ [⟨ctx, .setup body e, (handleSetupM1 P ctx e.m1).1⟩]) (handleSetupM1 P ctx e.m1).1 := by
  obtain ⟨n, hctx⟩ := handleSetupM1_ctx P ctx e.m1
  rcases setupM1Begin_cases P ctx e.m1 with ⟨salt, hbeg⟩ | ⟨salt, verifier, hsv, hbeg⟩
  · rw [hctx, hbeg]
    exact ⟨hb.1, fun v hv => absurd hv (by simp [setupM1Reset])⟩
  · obtain ⟨saltOut, hsalt, _, hver⟩ := srpCreateSaltVerifier_eq hsv
    obtain rfl := Option.some.inj hsalt
    obtain ⟨hexp, hcreate, b, hdraw, hb0⟩ := hg (srpCreateSaltVerifier_succeeds hsv)
    have hB : (srpCreateB P verifier (e.m1.b.getD ctx.srpB) e.m1.createB).isSome :=
      srpCreateB_isSome hcreate
    rw [hctx]
    refine ⟨by rw [hbeg]; exact hb.1, fun v _ => ⟨?_, ?_, ?_⟩⟩
    · rw [hbeg]
      simp only [bnOfPointer, List.take_length, hver, hexp, unchecked_none, ofBE_minBE]
      rw [hb.1]
    · rw [hbeg]
      simp only [hdraw, Option.getD_some]
      exact hb0
    · refine ⟨_, Last.snoc_self ⟨body, e, items, rfl, hin⟩, ⟨body, e, items, rfl, hin, ?_⟩, rfl, rfl⟩
      rw [hbeg]
      exact hB

/-- The invariant holds along every guarded run. -/
theorem srpBound_run {ctx₀ ctx : PairCtx} {h : List PairStep} (h₀ : ctx₀.srpVerifier = none)
    (hr : PairRun P ctx₀ h ctx) (hC : ∀ x ∈ h, SetupGuarded x) : SrpBound P ctx₀.pin h ctx := by
  refine Run.induction SetupGuarded (SrpBound P ctx₀.pin) ?_ ?_ hr hC
  · exact ⟨rfl, fun v hv => absurd hv (by simp [h₀])⟩
  · intro h s i s' _ hb hstep hg
    by_cases hM1 : IsSetupM1 ⟨s, i, s'⟩
    · obtain ⟨body, e, items, hi, hin⟩ := hM1
      simp only at hi
      subst hi
      obtain ⟨resp, hcall⟩ := hstep
      have hs' : s' = (handleSetupM1 P s e.m1).1 := by
        simp only [pairCall, pairSetupHandle, hin, if_true, Option.some.injEq] at hcall
        rw [hcall]
      rw [hs']
      exact hb.setupM1 hin ((hg body e 1 items rfl hin).1 rfl)
    · exact hb.frame hM1 (pairStep_srp hstep hM1)

/-! ## Soundness

An M3 that is accepted has found a verifier. By the invariant this is the one of the last M1, and a verifier that was
made without an unchecked failure accepts the prescribed proofs only. -/

/-- **Pair-setup soundness** of a run: behind every accepted proof stands a last M1 that succeeded, and the
    proof is the prescribed one for its salt, its `b`, the verifier of the PIN, and the `A` of the M3. Neither
    the verifier nor `b` is 0, so the PIN does not drop out of the secret `(A * v^u)^b`. -/
def SetupSound (P : OpenSSL) (pin : Bytes) (h : List PairStep) : Prop :=
  ∀ pre x post A proof serverM2, h = pre ++ x :: post → AcceptsProof P x A proof serverM2 →
    ∃ m mode, Last IsSetupM1 pre m ∧ SetupM1Succeeds P m ∧
      Srp.v P (ofBE m.post.srpSalt.val) pin ≠ 0 ∧ ofBE m.post.srpB.val ≠ 0 ∧
      proof = (Srp.proof P mode m.post.srpSalt (Srp.v P (ofBE m.post.srpSalt.val) pin)
        (ofBE m.post.srpB.val) (ofBE A)).val

/-- An accepted proof is one of the two the verifier expects. -/
theorem setupM3Check_accept {ctx : PairCtx} {items : List TlvItem} {e : VerifierEnv} {A proof : Bytes}
    {v : Nat} {r : Block 64 × Block 64} (hA : tlvFind items tlvPublicKey = some A)
    (hproof : tlvFind items tlvProof = some proof) (he : e.Clean)
    (hv : bnOfPointer ctx.srpVerifier ctx.srpVerifierLen = some v)
    (h : setupM3Check P ctx items e = some (some r)) :
    ∃ mode, proof = (Srp.proof P mode ctx.srpSalt v (ofBE ctx.srpB.val) (ofBE A)).val := by
  simp only [setupM3Check, hA, hproof] at h
  split at h
  · exact absurd h (by simp)
  split at h
  · exact absurd h (by simp)
  · exact absurd h (by simp)
  · rename_i ver hnew
    obtain ⟨hM, hMp⟩ := srpVerifierNew_proof he hv hnew
    unfold srpVerifierVerify at h
    split at h
    · rename_i heq
      exact ⟨.minimal, by rw [← heq, hM]⟩
    split at h
    · rename_i heq
      exact ⟨.padded, by rw [← heq, hMp]⟩
    · exact absurd h (by simp)

theorem setupM3Check_items {ctx : PairCtx} {items : List TlvItem} {e : VerifierEnv}
    {r : Block 64 × Block 64} (h : setupM3Check P ctx items e = some (some r)) :
    ∃ A proof, tlvFind items tlvPublicKey = some A ∧ tlvFind items tlvProof = some proof := by
  unfold setupM3Check at h
  split at h
  · rename_i A proof hA hproof
    exact ⟨A, proof, hA, hproof⟩
  · exact absurd h (by simp)

/-- **Pair-setup is sound over every guarded run.** -/
theorem setup_sound {sk pk : Block 32} {pin : Option Bytes} {h : List PairStep} {ctx : PairCtx}
    (hr : PairRun P (pairCtxCreate sk pk pin) h ctx) (hC : ∀ x ∈ h, SetupGuarded x) :
    SetupSound P (pairCtxCreate sk pk pin).pin h := by
  intro pre x post A proof serverM2 hh hacc
  obtain ⟨body, e, items, sessionKey, hi, hin, hA, hproof, hcheck⟩ := hacc
  obtain ⟨hpre, _⟩ := hr.split hh
  have hCpre : ∀ y ∈ pre, SetupGuarded y := fun y hy => hC y (by rw [hh]; simp [hy])
  have hb := srpBound_run rfl hpre hCpre
  obtain ⟨hver, hclean⟩ := (hC x (by rw [hh]; simp) body e 3 items hi hin).2 rfl
  obtain ⟨verifier, hverifier⟩ := Option.isSome_iff_exists.mp hver
  obtain ⟨hbn, hb0, m, hlast, hsucc, hsalt, hB⟩ := hb.2 verifier hverifier
  obtain ⟨mode, hm⟩ := setupM3Check_accept hA hproof hclean hbn hcheck
  exact ⟨m, mode, hlast, hsucc, Srp.v_ne_zero P _ _, hB ▸ hb0, by rw [hm, hsalt, hB]⟩

/-- The handlers behind M1 and M3 leave the flag alone, so only an accepted proof raises it. -/
theorem acceptsProof_of_flag {ctx ctx' : PairCtx} {i : PairInput} (h : pairStep P ctx i ctx')
    (h0 : ctx.srpHasSessionKey = false) (h1 : ctx'.srpHasSessionKey = true) :
    ∃ A proof serverM2, AcceptsProof P ⟨ctx, i, ctx'⟩ A proof serverM2 := by
  obtain ⟨resp, h⟩ := h
  cases i with
  | setup body e =>
      simp only [pairCall, pairSetupHandle] at h
      split at h
      · rw [result_eq h, h0] at h1
        exact absurd h1 (by simp)
      rename_i state items hin
      split at h
      · obtain ⟨n, hctx⟩ := handleSetupM1_ctx P ctx e.m1
        rw [show ctx' = (handleSetupM1 P ctx e.m1).1 from (congrArg Prod.fst (Option.some.inj h)).symm,
          hctx] at h1
        rcases setupM1Begin_cases P ctx e.m1 with ⟨_, hbeg⟩ | ⟨_, _, _, hbeg⟩
        · exact absurd h1 (by simp [hbeg, setupM1Reset])
        · exact absurd h1 (by simp [hbeg, setupM1Reset])
      split at h
      · rename_i h3
        subst h3
        rcases handleSetupM3_cases h with rfl | ⟨serverM2, sessionKey, hcheck, _⟩
        · rw [h0] at h1
          exact absurd h1 (by simp)
        · obtain ⟨A, proof, hA, hproof⟩ := setupM3Check_items hcheck
          exact ⟨A, proof, serverM2, body, e, items, sessionKey, rfl, hin, hA, hproof, hcheck⟩
      split at h
      · rcases handleSetupM5_cases h with rfl | ⟨pt, _, hopen, _⟩
        · rw [h0] at h1
          exact absurd h1 (by simp)
        · rw [(setupM5Open_iff.mp hopen).session] at h0
          exact absurd h0 (by simp)
      · rw [result_eq h, h0] at h1
        exact absurd h1 (by simp)
  | verify body e =>
      have hsetup := pairVerifyHandle_setup h
      simp only [PairCtx.setup, Prod.mk.injEq] at hsetup
      have hflag : ctx'.srpHasSessionKey = ctx.srpHasSessionKey := hsetup.2.2.2.2.2.2.1
      rw [hflag, h0] at h1
      exact absurd h1 (by simp)

/-! ## Accepted messages -/

/-- The M3 with public key `A` and proof `proof`. -/
def setupM3Items (A proof : Bytes) : List TlvItem :=
  [⟨tlvState, [3]⟩, ⟨tlvPublicKey, A⟩, ⟨tlvProof, proof⟩]

theorem incoming_setupM3 (A proof : Bytes) :
    incoming TlvAlloc.ok ((setupM3Items A proof).flatMap tlvEncode) = some (3, setupM3Items A proof) := by
  refine incoming_build ?_ (by simp [maxTlvItems])
  simp [Separated, tlvState, tlvPublicKey, tlvProof]

/-- With every allocation granted, M3 accepts the prescribed proof. -/
theorem setupM3Check_proof {ctx : PairCtx} {A : Bytes} {v : Nat}
    (hv : bnOfPointer ctx.srpVerifier ctx.srpVerifierLen = some v) (hA : numBytes (ofBE A) ≤ 384)
    (hA0 : ofBE A % srpN ≠ 0) :
    ∃ serverM2 sessionKey, setupM3Check P ctx
      (setupM3Items A (Srp.proof P .minimal ctx.srpSalt v (ofBE ctx.srpB.val) (ofBE A)).val) .ok
        = some (some (serverM2, sessionKey)) := by
  obtain ⟨ver, hver⟩ := srpVerifierNew_some P ctx.srpSalt ctx.srpB hv hA hA0
  obtain ⟨hM, _⟩ := srpVerifierNew_proof VerifierEnv.ok_clean hv hver
  refine ⟨ver.hAmk, ver.sessionKey, ?_⟩
  have hlen := (Srp.proof P .minimal ctx.srpSalt v (ofBE ctx.srpB.val) (ofBE A)).property
  simp [setupM3Check, setupM3Items, tlvFind_cons, tlvState, tlvPublicKey, tlvProof, hver, srpVerifierVerify,
    hM, hlen]

/-- Every call of M1 succeeds, with salt `s` and private key `b`. -/
def SetupM1Env.ok (s : Fin (2 ^ 128)) (b : Block 32) : SetupM1Env where
  sv := ⟨true, s, true, true, none, true⟩
  b := some b
  createB := ⟨true, true, none, none, none, true⟩
  resp := true

/-- Every call succeeds. -/
def SetupEnv.ok (s : Fin (2 ^ 128)) (b : Block 32) : SetupEnv where
  tlv := .ok
  m1 := .ok s b
  m3 := ⟨.ok, true⟩
  m5 := ⟨none, true, true, .ok, none, true, true, none, true, true, true, true, true⟩
  resp := true

/-- **An M3 with the prescribed proof is accepted**, with every allocation granted. -/
theorem acceptsProof_setupM3 {ctx : PairCtx} {A : Bytes} {v : Nat} (s : Fin (2 ^ 128)) (b : Block 32)
    (hv : bnOfPointer ctx.srpVerifier ctx.srpVerifierLen = some v) (hA : numBytes (ofBE A) ≤ 384)
    (hA0 : ofBE A % srpN ≠ 0) :
    let proof := (Srp.proof P .minimal ctx.srpSalt v (ofBE ctx.srpB.val) (ofBE A)).val
    let i := PairInput.setup ((setupM3Items A proof).flatMap tlvEncode) (.ok s b)
    ∃ ctx' serverM2, pairStep P ctx i ctx' ∧ AcceptsProof P ⟨ctx, i, ctx'⟩ A proof serverM2 := by
  intro proof i
  obtain ⟨serverM2, sessionKey, hcheck⟩ := setupM3Check_proof (P := P) hv hA hA0
  have hin : incoming (SetupEnv.ok s b).tlv ((setupM3Items A proof).flatMap tlvEncode)
      = some (3, setupM3Items A proof) := incoming_setupM3 A proof
  have hm3 : handleSetupM3 P ctx (setupM3Items A proof) ⟨.ok, true⟩ =
      some ({ ctx with srpSessionKey := sessionKey, srpHasSessionKey := true, setupState := 4 },
        tlvBuild true [⟨tlvState, [4]⟩, ⟨tlvProof, serverM2.val⟩]) := by
    rw [handleSetupM3, hcheck]
  have hcall : pairCall P ctx i =
      some ({ ctx with srpSessionKey := sessionKey, srpHasSessionKey := true, setupState := 4 },
        tlvBuild true [⟨tlvState, [4]⟩, ⟨tlvProof, serverM2.val⟩]) := by
    show pairSetupHandle P ctx ((setupM3Items A proof).flatMap tlvEncode) (.ok s b) = _
    rw [pairSetupHandle, hin]
    exact hm3
  exact ⟨_, serverM2, ⟨_, hcall⟩, _, _, _, sessionKey, rfl, hin, rfl, rfl, hcheck⟩

theorem numBytes_one : numBytes (ofBE [1]) ≤ 384 := by decide

theorem one_mod_srpN : ofBE [1] % srpN ≠ 0 := by decide +kernel

/-! ### An M1 and its M3 -/

/-- A first M1 with every call granted leaves its verifier in the context. -/
theorem setupM1_stores_verifier (P : OpenSSL) (ctx : PairCtx) (s : Fin (2 ^ 128)) (b : Block 32) :
    (handleSetupM1 P ctx (.ok s b)).1.srpVerifier.isSome := by
  obtain ⟨n, hctx⟩ := handleSetupM1_ctx P ctx (.ok s b)
  rw [hctx]
  simp [setupM1Begin, SetupM1Env.ok, srpCreateSaltVerifier, calculateX, hNs]

/-- The M1 message. -/
def setupM1Body : Bytes := [⟨tlvState, [1]⟩].flatMap tlvEncode

theorem incoming_setupM1 : incoming TlvAlloc.ok setupM1Body = some (1, [⟨tlvState, [1]⟩]) :=
  incoming_build (by simp [Separated]) (by simp [maxTlvItems])

theorem setupM1_guarded (s : Fin (2 ^ 128)) {b : Block 32} (hb : ofBE b.val ≠ 0) :
    (SetupM1Env.ok s b).Guarded :=
  fun _ => ⟨rfl, ⟨rfl, rfl, rfl⟩, b, rfl, hb⟩

theorem setupM1_step (P : OpenSSL) (ctx : PairCtx) (s : Fin (2 ^ 128)) (b : Block 32) :
    pairStep P ctx (.setup setupM1Body (.ok s b)) (handleSetupM1 P ctx (.ok s b)).1 := by
  have hin : incoming (SetupEnv.ok s b).tlv setupM1Body = some (1, [⟨tlvState, [1]⟩]) := incoming_setupM1
  refine ⟨(handleSetupM1 P ctx (.ok s b)).2, ?_⟩
  have hm1 : (SetupEnv.ok s b).m1 = SetupM1Env.ok s b := rfl
  simp only [pairCall, pairSetupHandle, hin, if_true, hm1, Prod.mk.eta]

/-- An M1 and the M3 that answers it: the run meets the condition, its proof is accepted, and it is sound. -/
theorem setup_sound_m1_m3 :
    ∃ (h : List PairStep) (x : PairStep) (ctx : PairCtx) (A proof : Bytes) (serverM2 : Block 64),
      PairRun .toy (pairCtxCreate (Block.zero 32) (Block.zero 32) none) (h ++ [x]) ctx ∧
      AcceptsProof .toy x A proof serverM2 ∧
      SetupSound .toy (pairCtxCreate (Block.zero 32) (Block.zero 32) none).pin (h ++ [x]) := by
  have hrun1 := Run.snoc Run.nil
    (setupM1_step .toy (pairCtxCreate (Block.zero 32) (Block.zero 32) none) 7 (toyDigest 32 [1]))
  obtain ⟨verifier, hver⟩ := Option.isSome_iff_exists.mp
    (setupM1_stores_verifier .toy (pairCtxCreate (Block.zero 32) (Block.zero 32) none) 7 (toyDigest 32 [1]))
  generalize (handleSetupM1 .toy (pairCtxCreate (Block.zero 32) (Block.zero 32) none)
    (.ok 7 (toyDigest 32 [1]))).1 = ctx₁ at hrun1 hver
  have hg1 : SetupGuarded ⟨pairCtxCreate (Block.zero 32) (Block.zero 32) none,
      .setup setupM1Body (.ok 7 (toyDigest 32 [1])), ctx₁⟩ :=
    setupGuarded_of_incoming incoming_setupM1 (fun _ => setupM1_guarded 7 (by decide))
      (fun h => absurd h (by decide))
  obtain ⟨hbn, _⟩ := (srpBound_run rfl hrun1 (by simpa using hg1)).2 verifier hver
  obtain ⟨ctx₂, serverM2, hstep2, hacc⟩ :=
    acceptsProof_setupM3 (P := .toy) 0 (Block.zero 32) hbn numBytes_one one_mod_srpN
  have hclean : (SetupEnv.ok 0 (Block.zero 32)).m3.ver.Clean := VerifierEnv.ok_clean
  have hrun2 := Run.snoc hrun1 hstep2
  refine ⟨_, _, ctx₂, _, _, serverM2, hrun2, hacc, setup_sound hrun2 ?_⟩
  intro x hx
  rcases List.mem_append.mp hx with hx | hx
  · rw [List.mem_singleton.mp hx]
    exact hg1
  · rw [List.mem_singleton.mp hx]
    exact setupGuarded_of_incoming (incoming_setupM3 _ _) (fun h => absurd h (by decide))
      (fun _ => ⟨by rw [hver]; rfl, hclean⟩)

/-! ### An M3 as the first message -/

/-- **The PIN is not needed.** A fresh context has no verifier and a zero `b`, so the proof for `v = 0`, `b = 0`
    and `A = 1` is accepted under every PIN, and it is computed from public values. -/
theorem setup_accepts_without_pin (P : OpenSSL) (sk pk : Block 32) (pin : Option Bytes) :
    ∃ ctx' serverM2,
      let proof := (Srp.proof P .minimal (Block.zero 16) 0 0 1).val
      let i := PairInput.setup ((setupM3Items [1] proof).flatMap tlvEncode) (.ok 0 (Block.zero 32))
      pairStep P (pairCtxCreate sk pk pin) i ctx' ∧
        AcceptsProof P ⟨pairCtxCreate sk pk pin, i, ctx'⟩ [1] proof serverM2 := by
  have hv : bnOfPointer (pairCtxCreate sk pk pin).srpVerifier (pairCtxCreate sk pk pin).srpVerifierLen
      = some 0 := rfl
  exact acceptsProof_setupM3 0 (Block.zero 32) hv numBytes_one one_mod_srpN

/-- Pair-setup soundness does not hold of every run: a single M3 is accepted, and there was no M1. -/
theorem setup_unsound :
    ¬ ∃ P : OpenSSL, ∀ (sk pk : Block 32) (pin : Option Bytes) (h : List PairStep) (ctx : PairCtx),
      PairRun P (pairCtxCreate sk pk pin) h ctx → SetupSound P (pairCtxCreate sk pk pin).pin h := by
  rintro ⟨P, hall⟩
  obtain ⟨ctx', serverM2, hstep, hacc⟩ := setup_accepts_without_pin P (Block.zero 32) (Block.zero 32) none
  have hrun := Run.snoc Run.nil hstep
  obtain ⟨m, _, hlast, _⟩ := hall _ _ _ _ _ hrun [] _ [] _ _ _ rfl hacc
  exact absurd hlast.mem (by simp)

end Showcase
