import Showcase.Pair.Run

/-!
# `Pair.VerifyAuth` — what stands behind a completed pair-verify

* `verify_gated` — over every run: `verify_state` becomes 4 exactly at an M3 that opens its message under the
  pair-verify key to an identifier and a 64-byte signature; that key is the one the last M1 left; and if the
  signature check reported `PASSED`, the signature is the client's, for the key an M5 stored.
* `verify_not_authenticated` — the report decides nothing ("Proceeding anyway (accepting client)"): a client
  that never went through pair-setup completes with any 64 bytes in place of a signature.
-/

namespace Showcase

open Lib

variable {P : OpenSSL}

/-! ## Completion -/

/-- The step after which `pair_verify_is_complete` holds. -/
def BecomesVerified (x : PairStep) : Prop :=
  pairVerifyIsComplete x.pre = false ∧ pairVerifyIsComplete x.post = true

/-- The call is an M1 that gets as far as the pair-verify key. -/
def DerivesEncKey (P : OpenSSL) (x : PairStep) (pk ours : Block 32) (e : VerifyEnv) : Prop :=
  StoresEcdh P x pk ours e ∧ e.m1.ReachesKey

/-- The shared secret an M1 with the client key `pk` and our key `ours` leaves. -/
def verifyM1Shared (P : OpenSSL) (pk ours : Block 32) (e : VerifyM1Env) : Block 32 :=
  unchecked e.derive (P.x25519 ours pk)

/-- The completed M3 of a step writes 4. -/
theorem CompletesVerify.post {ctx ctx' : PairCtx} {i : PairInput} {ident : Bytes} {sig : Block 64}
    {report : SigCheck} (h : CompletesVerify P ⟨ctx, i, ctx'⟩ ident sig report) (hs : pairStep P ctx i ctx') :
    ctx' = { ctx with verifyState := 4 } := by
  obtain ⟨e, items, ⟨body, hi, hin⟩, hopen, hrep⟩ := h
  simp only at hi hopen hrep
  subst hi
  obtain ⟨resp, hcall⟩ := hs
  simp only [pairCall, pairVerifyHandle, hin, handleVerifyM3, hopen, hrep] at hcall
  exact result_eq hcall

/-- Nothing else raises `verify_state` to 4. -/
theorem completesVerify_of_state {ctx ctx' : PairCtx} {i : PairInput} (h : pairStep P ctx i ctx')
    (h0 : ctx.verifyState ≠ 4) (h1 : ctx'.verifyState = 4) :
    ∃ ident sig report, CompletesVerify P ⟨ctx, i, ctx'⟩ ident sig report := by
  cases verifyEffect_of_step h with
  | other _ _ heq =>
      exact absurd ((congrArg Prod.fst heq).symm.trans h1) h0
  | clientEcdh pk _ _ heq =>
      simp only at heq
      rw [heq] at h1
      exact absurd h1 h0
  | ecdh pk ours e _ _ heq =>
      simp only at heq
      rw [heq] at h1
      exact absurd h1 h0
  | encKey pk ours e _ _ _ heq =>
      simp only at heq
      rw [heq] at h1
      exact absurd h1 h0
  | answered pk ours e _ _ heq =>
      simp only at heq
      rw [heq] at h1
      exact absurd (show 2 = 4 from h1) (by decide)
  | completed ident sig report hM3 _ => exact ⟨ident, sig, report, hM3⟩

/-- A completed M3 is exactly what completes pair-verify. -/
theorem becomesVerified_iff {ctx ctx' : PairCtx} {i : PairInput} (h : pairStep P ctx i ctx') :
    BecomesVerified ⟨ctx, i, ctx'⟩ ↔
      ctx.verifyState ≠ 4 ∧ ∃ ident sig report, CompletesVerify P ⟨ctx, i, ctx'⟩ ident sig report := by
  simp only [BecomesVerified, pairVerifyIsComplete, beq_eq_false_iff_ne, beq_iff_eq]
  constructor
  · rintro ⟨h0, h1⟩
    exact ⟨h0, completesVerify_of_state h h0 h1⟩
  · rintro ⟨h0, _, _, _, hc⟩
    exact ⟨h0, by rw [hc.post h]⟩

/-! ## The fields M3 reads, and who wrote them -/

/-- Only an M1 that reaches the key changes `verify_enc_key`. -/
theorem verifyEncKey_frame {ctx ctx' : PairCtx} {i : PairInput} (h : pairStep P ctx i ctx')
    (hno : ¬ ∃ pk ours e, DerivesEncKey P ⟨ctx, i, ctx'⟩ pk ours e) : ctx'.verifyEncKey = ctx.verifyEncKey := by
  cases verifyEffect_of_step h with
  | other _ _ heq => exact congrArg (fun t => t.2.2.2.1) heq
  | clientEcdh pk _ _ heq => exact (congrArg PairCtx.verifyEncKey heq).trans rfl
  | ecdh pk ours e _ _ heq => exact (congrArg PairCtx.verifyEncKey heq).trans rfl
  | encKey pk ours e hM1 hkey _ _ => exact absurd ⟨pk, ours, e, hM1, hkey⟩ hno
  | answered pk ours e hM1 hkey _ => exact absurd ⟨pk, ours, e, hM1, hkey⟩ hno
  | completed _ _ _ _ heq => exact (congrArg PairCtx.verifyEncKey heq).trans rfl

/-- Only an M1 that stores its ECDH values changes `verify_our_ecdh_pk`. -/
theorem verifyOurEcdhPk_frame {ctx ctx' : PairCtx} {i : PairInput} (h : pairStep P ctx i ctx')
    (hno : ¬ ∃ pk ours e, StoresEcdh P ⟨ctx, i, ctx'⟩ pk ours e) :
    ctx'.verifyOurEcdhPk = ctx.verifyOurEcdhPk := by
  cases verifyEffect_of_step h with
  | other _ _ heq => exact congrArg (fun t => t.2.2.2.2.1) heq
  | clientEcdh pk _ _ heq => exact (congrArg PairCtx.verifyOurEcdhPk heq).trans rfl
  | ecdh pk ours e hM1 _ _ => exact absurd ⟨pk, ours, e, hM1⟩ hno
  | encKey pk ours e hM1 _ _ _ => exact absurd ⟨pk, ours, e, hM1⟩ hno
  | answered pk ours e hM1 _ _ => exact absurd ⟨pk, ours, e, hM1⟩ hno
  | completed _ _ _ _ heq => exact (congrArg PairCtx.verifyOurEcdhPk heq).trans rfl

/-- Only an M1 with a client key changes `client_ecdh_pk` and its flag. -/
theorem clientEcdhPk_frame {ctx ctx' : PairCtx} {i : PairInput} (h : pairStep P ctx i ctx')
    (hno : ¬ ∃ pk, StoresClientEcdh ⟨ctx, i, ctx'⟩ pk) :
    (ctx'.clientEcdhPk, ctx'.clientEcdhPkSet) = (ctx.clientEcdhPk, ctx.clientEcdhPkSet) := by
  cases verifyEffect_of_step h with
  | other _ _ heq => exact congrArg (fun t => t.2.2.2.2.2) heq
  | clientEcdh pk hM1 _ _ => exact absurd ⟨pk, hM1⟩ hno
  | ecdh pk ours e hM1 _ _ => exact absurd ⟨pk, hM1.clientEcdh⟩ hno
  | encKey pk ours e hM1 _ _ _ => exact absurd ⟨pk, hM1.clientEcdh⟩ hno
  | answered pk ours e hM1 _ _ => exact absurd ⟨pk, hM1.clientEcdh⟩ hno
  | completed _ _ _ _ heq =>
      exact (congrArg (fun c => (PairCtx.clientEcdhPk c, PairCtx.clientEcdhPkSet c)) heq).trans rfl

theorem StoresClientEcdh.unique {x : PairStep} {pk pk' : Block 32} (h : StoresClientEcdh x pk)
    (h' : StoresClientEcdh x pk') : pk = pk' := by
  obtain ⟨e, items, hmsg, hpk⟩ := h
  obtain ⟨e', items', hmsg', hpk'⟩ := h'
  obtain ⟨_, rfl, rfl⟩ := hmsg.unique hmsg'
  exact Option.some.inj (hpk.symm.trans hpk')

theorem StoresEcdh.unique {x : PairStep} {pk pk' ours ours' : Block 32} {e e' : VerifyEnv}
    (h : StoresEcdh P x pk ours e) (h' : StoresEcdh P x pk' ours' e') : pk = pk' ∧ ours = ours' ∧ e = e' := by
  obtain rfl := h.clientEcdh.unique h'.clientEcdh
  obtain ⟨items, hmsg, hpk, hecdh⟩ := h
  obtain ⟨items', hmsg', _, hecdh'⟩ := h'
  obtain ⟨_, rfl, rfl⟩ := hmsg.unique hmsg'
  have hctx := congrArg (fun r => r.1.verifyEcdhOurs) (hecdh.symm.trans hecdh')
  exact ⟨rfl, congrArg EvpPkey.key (Option.some.inj hctx), rfl⟩

theorem StoresClientEcdh.post {x : PairStep} {pk : Block 32} (h : StoresClientEcdh x pk)
    (hs : pairStep P x.pre x.input x.post) : x.post.clientEcdhPk = pk := by
  cases verifyEffect_of_step hs with
  | other hM1 _ _ => exact absurd h (hM1 pk)
  | clientEcdh pk' hM1 _ heq =>
      rw [h.unique hM1]
      exact congrArg PairCtx.clientEcdhPk heq
  | ecdh pk' ours e hM1 _ heq =>
      rw [h.unique hM1.clientEcdh]
      exact congrArg PairCtx.clientEcdhPk heq
  | encKey pk' ours e hM1 _ _ heq =>
      rw [h.unique hM1.clientEcdh]
      exact congrArg PairCtx.clientEcdhPk heq
  | answered pk' ours e hM1 _ heq =>
      rw [h.unique hM1.clientEcdh]
      exact congrArg PairCtx.clientEcdhPk heq
  | completed ident sig report hM3 _ =>
      obtain ⟨e, items, hmsg, _⟩ := h
      obtain ⟨e', items', hmsg', _⟩ := hM3
      exact absurd (hmsg.unique hmsg').1 (by decide)

/-- An M1 that stores its ECDH values leaves our public key and the shared secret. -/
theorem StoresEcdh.post {x : PairStep} {pk ours : Block 32} {e : VerifyEnv} (h : StoresEcdh P x pk ours e)
    (hs : pairStep P x.pre x.input x.post) :
    x.post.verifyOurEcdhPk = unchecked e.m1.rawPk (P.x25519Public ours) ∧
      x.post.verifyShared = verifyM1Shared P pk ours e.m1 := by
  cases verifyEffect_of_step hs with
  | other hM1 _ _ => exact absurd h.clientEcdh (hM1 pk)
  | clientEcdh _ _ hno _ => exact absurd h (hno pk ours e)
  | ecdh pk' ours' e' hM1 _ heq =>
      obtain ⟨rfl, rfl, rfl⟩ := h.unique hM1
      exact ⟨congrArg PairCtx.verifyOurEcdhPk heq, congrArg PairCtx.verifyShared heq⟩
  | encKey pk' ours' e' hM1 _ _ heq =>
      obtain ⟨rfl, rfl, rfl⟩ := h.unique hM1
      exact ⟨congrArg PairCtx.verifyOurEcdhPk heq, congrArg PairCtx.verifyShared heq⟩
  | answered pk' ours' e' hM1 _ heq =>
      obtain ⟨rfl, rfl, rfl⟩ := h.unique hM1
      exact ⟨congrArg PairCtx.verifyOurEcdhPk heq, congrArg PairCtx.verifyShared heq⟩
  | completed ident sig report hM3 _ =>
      obtain ⟨items, hmsg, _⟩ := h
      obtain ⟨e', items', hmsg', _⟩ := hM3
      exact absurd (hmsg.unique hmsg').1 (by decide)

/-- An M1 that gets as far as the key leaves the one derived from its shared secret. -/
theorem DerivesEncKey.post {x : PairStep} {pk ours : Block 32} {e : VerifyEnv} (h : DerivesEncKey P x pk ours e)
    (hs : pairStep P x.pre x.input x.post) :
    x.post.verifyEncKey = unchecked e.m1.encKey (verifyEncryptKey P (verifyM1Shared P pk ours e.m1)) := by
  obtain ⟨hstore, hkey⟩ := h
  cases verifyEffect_of_step hs with
  | other hM1 _ _ => exact absurd hstore.clientEcdh (hM1 pk)
  | clientEcdh _ _ hno _ => exact absurd hstore (hno pk ours e)
  | ecdh pk' ours' e' hM1 hno _ =>
      obtain ⟨rfl, rfl, rfl⟩ := hstore.unique hM1
      exact absurd hkey hno
  | encKey pk' ours' e' hM1 _ _ heq =>
      obtain ⟨rfl, rfl, rfl⟩ := hstore.unique hM1
      exact congrArg PairCtx.verifyEncKey heq
  | answered pk' ours' e' hM1 _ heq =>
      obtain ⟨rfl, rfl, rfl⟩ := hstore.unique hM1
      exact congrArg PairCtx.verifyEncKey heq
  | completed ident sig report hM3 _ =>
      obtain ⟨items, hmsg, _⟩ := hstore
      obtain ⟨e', items', hmsg', _⟩ := hM3
      exact absurd (hmsg.unique hmsg').1 (by decide)

/-! ## The gate

Each field that M3 reads has a kind of step that writes it, so its value is the one the last such step has left
(`Run.value_of_last`). -/

/-- The pair-verify key in the context `ctx` reached after `pre` is the one of the last M1 that got as far as
    deriving it. -/
def KeyOfLastM1 (P : OpenSSL) (pre : List PairStep) (ctx : PairCtx) : Prop :=
  ∀ m pk ours e, Last (fun y => ∃ pk ours e, DerivesEncKey P y pk ours e) pre m → DerivesEncKey P m pk ours e →
    ctx.verifyEncKey = unchecked e.m1.encKey (verifyEncryptKey P (verifyM1Shared P pk ours e.m1))

/-- Our X25519 key in the context `ctx` reached after `pre` is the one of the last M1 that stored its own. -/
def EcdhPkOfLastM1 (P : OpenSSL) (pre : List PairStep) (ctx : PairCtx) : Prop :=
  ∀ m pk ours e, Last (fun y => ∃ pk ours e, StoresEcdh P y pk ours e) pre m → StoresEcdh P m pk ours e →
    ctx.verifyOurEcdhPk = unchecked e.m1.rawPk (P.x25519Public ours)

/-- The signature is the client's: it verifies under the Ed25519 key that an M5 stored (no M5 stored another and
    no pair-setup M1 cleared it since), over the last M1's X25519 key, the identifier, and our X25519 key. -/
def SignedByClient (P : OpenSSL) (pre : List PairStep) (ctx : PairCtx) (ident : Bytes) (sig : Block 64) : Prop :=
  ∃ m5 clientPk m1 clientEcdhPk,
    Last (fun y => IsSetupM1 y ∨ ∃ pk, StoresClientPk P y pk) pre m5 ∧ StoresClientPk P m5 clientPk ∧
    Last (fun y => ∃ pk, StoresClientEcdh y pk) pre m1 ∧ StoresClientEcdh m1 clientEcdhPk ∧
    P.ed25519Verify clientPk sig (clientEcdhPk.val ++ ident ++ ctx.verifyOurEcdhPk.val) = true

/-- **What gates pair-verify** in a run: `verify_state` becomes 4 exactly where an M3 opens its message to an
    identifier and a 64-byte signature, whatever the signature check reports. The key it opens under is the last
    M1's, and a report of `PASSED` is true. -/
def VerifyGated (P : OpenSSL) (h : List PairStep) : Prop :=
  ∀ pre x post, h = pre ++ x :: post →
    (BecomesVerified x ↔
      x.pre.verifyState ≠ 4 ∧ ∃ ident sig report, CompletesVerify P x ident sig report) ∧
    KeyOfLastM1 P pre x.pre ∧ EcdhPkOfLastM1 P pre x.pre ∧
    ∀ ident sig, CompletesVerify P x ident sig .passed → SignedByClient P pre x.pre ident sig

theorem keyOfLastM1_run {ctx₀ ctx : PairCtx} {h : List PairStep} (hr : PairRun P ctx₀ h ctx) :
    KeyOfLastM1 P h ctx := by
  intro m pk ours e hm hder
  rw [hr.value_of_last PairCtx.verifyEncKey (fun _ _ _ hs hno => verifyEncKey_frame hs hno) hm]
  exact hder.post (hr.step_of_mem hm.mem)

theorem ecdhPkOfLastM1_run {ctx₀ ctx : PairCtx} {h : List PairStep} (hr : PairRun P ctx₀ h ctx) :
    EcdhPkOfLastM1 P h ctx := by
  intro m pk ours e hm hstore
  rw [hr.value_of_last PairCtx.verifyOurEcdhPk (fun _ _ _ hs hno => verifyOurEcdhPk_frame hs hno) hm]
  exact (hstore.post (hr.step_of_mem hm.mem)).1

/-- The check reports `PASSED` only for a signature that verifies under the stored keys. -/
theorem verifySignature_passed {ctx : PairCtx} {ident : Bytes} {sig : Block 64} {e : VerifyM3Env}
    (h : verifySignature P ctx ident sig e = some .passed) :
    ctx.clientPkSet = true ∧ ctx.clientEcdhPkSet = true ∧
      P.ed25519Verify ctx.clientPk sig (verifyMsg ctx ident) = true := by
  unfold verifySignature at h
  split at h
  · rename_i hset
    split at h
    · exact absurd h (by simp)
    split at h
    · exact absurd h (by simp)
    split at h
    · exact absurd h (by simp)
    split at h
    · rename_i hsig
      exact ⟨hset.1, hset.2, hsig⟩
    · exact absurd h (by simp)
  · exact absurd h (by simp)

/-- The client's keys in the context, when their flags are set, are the last ones stored. -/
theorem clientKeys_run {sk pk : Block 32} {pin : Option Bytes} {h : List PairStep} {ctx : PairCtx}
    (hr : PairRun P (pairCtxCreate sk pk pin) h ctx) (hpk : ctx.clientPkSet = true)
    (hecdh : ctx.clientEcdhPkSet = true) :
    (∃ m5, Last (fun y => IsSetupM1 y ∨ ∃ pk, StoresClientPk P y pk) h m5 ∧
      StoresClientPk P m5 ctx.clientPk) ∧
    ∃ m1, Last (fun y => ∃ pk, StoresClientEcdh y pk) h m1 ∧ StoresClientEcdh m1 ctx.clientEcdhPk := by
  constructor
  · have hframe : ∀ s i s', pairStep P s i s' →
        ¬ (IsSetupM1 ⟨s, i, s'⟩ ∨ ∃ pk, StoresClientPk P ⟨s, i, s'⟩ pk) →
        (s'.clientPk, s'.clientPkSet) = (s.clientPk, s.clientPkSet) := by
      intro s i s' hs hno
      obtain ⟨h1, h2⟩ := clientPk_of_step hs (fun h => hno (.inl h)) (fun pk h => hno (.inr ⟨pk, h⟩))
      rw [h1, h2]
    rcases hr.last_write (fun y => IsSetupM1 y ∨ ∃ pk, StoresClientPk P y pk)
        (fun c => (c.clientPk, c.clientPkSet)) hframe with ⟨m, hm, hf⟩ | ⟨_, hf⟩
    · obtain ⟨hf1, hf2⟩ := Prod.mk.inj hf
      rcases hm.sat with hM1 | ⟨pk', hM5⟩
      · rw [hf2, IsSetupM1.post hM1 (hr.step_of_mem hm.mem)] at hpk
        exact absurd hpk (by simp)
      · refine ⟨m, hm, ?_⟩
        rw [hf1, (hM5.post (hr.step_of_mem hm.mem)).1]
        exact hM5
    · rw [(Prod.mk.inj hf).2] at hpk
      exact absurd hpk (by simp [pairCtxCreate])
  · rcases hr.last_write (fun y => ∃ pk, StoresClientEcdh y pk) (fun c => (c.clientEcdhPk, c.clientEcdhPkSet))
      (fun _ _ _ hs hno => clientEcdhPk_frame hs hno) with ⟨m, hm, hf⟩ | ⟨_, hf⟩
    · obtain ⟨pk', hM1⟩ := hm.sat
      refine ⟨m, hm, ?_⟩
      rw [(Prod.mk.inj hf).1, hM1.post (hr.step_of_mem hm.mem)]
      exact hM1
    · rw [(Prod.mk.inj hf).2] at hecdh
      exact absurd hecdh (by simp [pairCtxCreate])

/-- **Every run is gated by the pair-verify key.** -/
theorem verify_gated {sk pk : Block 32} {pin : Option Bytes} {h : List PairStep} {ctx : PairCtx}
    (hr : PairRun P (pairCtxCreate sk pk pin) h ctx) : VerifyGated P h := by
  intro pre x post hh
  obtain ⟨hpre, hstep⟩ := hr.split hh
  refine ⟨becomesVerified_iff hstep, keyOfLastM1_run hpre, ecdhPkOfLastM1_run hpre, ?_⟩
  rintro ident sig ⟨e, items, _, _, hrep⟩
  obtain ⟨hpk, hecdh, hsig⟩ := verifySignature_passed hrep
  obtain ⟨⟨m5, hm5, hM5⟩, m1, hm1, hM1⟩ := clientKeys_run hpre hpk hecdh
  exact ⟨m5, _, m1, _, hm5, hM5, hm1, hM1, hsig⟩

/-! ## Messages that complete pair-verify -/

/-- The M1 with the client key `pk`. -/
def verifyM1Items (pk : Block 32) : List TlvItem :=
  [⟨tlvState, [1]⟩, ⟨tlvPublicKey, pk.val⟩]

/-- The sub-TLV of an M3. -/
def verifyM3SubItems (ident : Bytes) (sig : Block 64) : List TlvItem :=
  [⟨tlvIdentifier, ident⟩, ⟨tlvSignature, sig.val⟩]

/-- The M3 with identifier `ident` and signature `sig`, sealed under `key`. -/
def verifyM3Items (P : OpenSSL) (key : Block 32) (ident : Bytes) (sig : Block 64) : List TlvItem :=
  let sealed := P.chachaSeal key (OpenSSL.nonce12 noncePvMsg03) []
    ((verifyM3SubItems ident sig).flatMap tlvEncode)
  [⟨tlvState, [3]⟩, ⟨tlvEncryptedData, sealed.1 ++ sealed.2.val⟩]

/-- Every call succeeds; our X25519 key is `ours`. -/
def VerifyEnv.ok (ours : Block 32) : VerifyEnv where
  tlv := .ok
  m1 := ⟨true, some ours, none, true, none, true, true, true, none, true, none, true, true, true, true⟩
  m3 := ⟨true, true, .ok, true, true, true, true⟩
  resp := true

/-- The call with the M1. -/
def verifyM1Call (pk ours : Block 32) : PairInput :=
  .verify ((verifyM1Items pk).flatMap tlvEncode) (.ok ours)

/-- The call with the M3. -/
def verifyM3Call (P : OpenSSL) (key : Block 32) (ident : Bytes) (sig : Block 64) : PairInput :=
  .verify ((verifyM3Items P key ident sig).flatMap tlvEncode) (.ok (Block.zero 32))

theorem incoming_verifyM1 (pk : Block 32) :
    incoming TlvAlloc.ok ((verifyM1Items pk).flatMap tlvEncode) = some (1, verifyM1Items pk) :=
  incoming_build (by simp [Separated, tlvState, tlvPublicKey]) (by simp [maxTlvItems])

theorem incoming_verifyM3 (P : OpenSSL) (key : Block 32) (ident : Bytes) (sig : Block 64) :
    incoming TlvAlloc.ok ((verifyM3Items P key ident sig).flatMap tlvEncode)
      = some (3, verifyM3Items P key ident sig) :=
  incoming_build (by simp [Separated, tlvState, tlvEncryptedData]) (by simp [maxTlvItems])

/-- With every call granted, the M1 stores the ECDH values, derives the key and is answered. -/
theorem verifyM1_step (P : OpenSSL) (ctx : PairCtx) (pk ours : Block 32) :
    ∃ ctx', pairStep P ctx (verifyM1Call pk ours) ctx' ∧
      DerivesEncKey P ⟨ctx, verifyM1Call pk ours, ctx'⟩ pk ours (.ok ours) ∧
      ctx'.verifyState = 2 ∧ ctx'.verifyEcdhOurs = some (.next ctx.verifyEcdhOurs ours) ∧
      ctx'.verifyShared = P.x25519 ours pk := by
  have hin : incoming (VerifyEnv.ok ours).tlv ((verifyM1Items pk).flatMap tlvEncode)
      = some (1, verifyM1Items pk) := incoming_verifyM1 pk
  have hpk : verifyM1Pk (verifyM1Items pk) = some pk := by
    simp [verifyM1Pk, verifyM1Items, tlvFind_cons, tlvState, tlvPublicKey, Block.ofBytes?_val]
  have hecdh : verifyM1Ecdh P ctx pk (VerifyEnv.ok ours).m1 =
      (ctx.withEcdh P pk ours (VerifyEnv.ok ours).m1, none) :=
    rfl
  obtain ⟨ctx', resp, hreply⟩ : ∃ ctx' resp,
      verifyM1Reply P (ctx.withEcdh P pk ours (VerifyEnv.ok ours).m1) (VerifyEnv.ok ours).m1
        = some (ctx', resp) := ⟨_, _, rfl⟩
  have hcall : pairCall P ctx (verifyM1Call pk ours) = some (ctx', resp) := by
    simp only [pairCall, verifyM1Call, pairVerifyHandle, hin, if_true, handleVerifyM1, hpk, hecdh, hreply]
  refine ⟨ctx', ⟨resp, hcall⟩, ⟨⟨_, ⟨_, rfl, hin⟩, hpk, hecdh⟩, ⟨rfl, rfl, rfl⟩⟩, ?_⟩
  rcases verifyM1Reply_cases hreply with ⟨hno, _⟩ | ⟨_, hno, _⟩ | ⟨_, hctx⟩
  · exact absurd ⟨rfl, rfl, rfl⟩ hno
  · exact absurd ⟨rfl, rfl, rfl⟩ hno
  · rw [hctx]
    exact ⟨rfl, rfl, rfl⟩

/-- **An M3 sealed under the context's key completes pair-verify**, whatever its signature is and whatever items
    stand behind. -/
theorem verifyM3_items (P : OpenSSL) (ctx : PairCtx) (ident : Bytes) (sig : Block 64) {body : Bytes}
    {items : List TlvItem} (hin : incoming TlvAlloc.ok body = some (3, items))
    (hdata : tlvFind items tlvEncryptedData =
      tlvFind (verifyM3Items P ctx.verifyEncKey ident sig) tlvEncryptedData) :
    ∃ report, pairStep P ctx (.verify body (.ok (Block.zero 32))) { ctx with verifyState := 4 } ∧
      CompletesVerify P ⟨ctx, .verify body (.ok (Block.zero 32)), { ctx with verifyState := 4 }⟩
        ident sig report := by
  have hin' : incoming (VerifyEnv.ok (Block.zero 32)).tlv body = some (3, items) := hin
  have hsub : tlvParse TlvAlloc.ok ((verifyM3SubItems ident sig).flatMap tlvEncode)
      = some (verifyM3SubItems ident sig) :=
    tlvParse_tlvBuild (by simp [Separated, verifyM3SubItems, tlvIdentifier, tlvSignature])
      (by simp [verifyM3SubItems, maxTlvItems])
  have hopen : verifyM3Open P ctx items (VerifyEnv.ok (Block.zero 32)).m3 = .ok (ident, sig) := by
    have hsplit : (tlvFind items tlvEncryptedData).bind splitTag
        = some (P.chachaSeal ctx.verifyEncKey (OpenSSL.nonce12 noncePvMsg03) []
            ((verifyM3SubItems ident sig).flatMap tlvEncode)) := by
      rw [hdata]
      simp [verifyM3Items, tlvFind_cons, tlvState, tlvEncryptedData]
    have hident : tlvFind (verifyM3SubItems ident sig) tlvIdentifier = some ident := by
      simp [verifyM3SubItems, tlvFind_cons]
    have hsig : (tlvFind (verifyM3SubItems ident sig) tlvSignature).bind (Block.ofBytes? 64) = some sig := by
      simp [verifyM3SubItems, tlvFind_cons, tlvIdentifier, tlvSignature, Block.ofBytes?_val]
    simp only [verifyM3Open, hsplit, VerifyEnv.ok, Bool.true_eq_false, if_false, if_true,
      OpenSSL.chachaDecrypt, OpenSSL.open_seal, hsub, hident, hsig]
  obtain ⟨report, hrep⟩ : ∃ report,
      verifySignature P ctx ident sig (VerifyEnv.ok (Block.zero 32)).m3 = some report := by
    unfold verifySignature
    simp only [VerifyEnv.ok, Bool.true_eq_false, if_false]
    split
    · split
      · exact ⟨_, rfl⟩
      · exact ⟨_, rfl⟩
    · exact ⟨_, rfl⟩
  refine ⟨report, ⟨tlvBuild true [⟨tlvState, [4]⟩], ?_⟩, _, _, ⟨_, rfl, hin'⟩, hopen, hrep⟩
  simp only [pairCall, pairVerifyHandle, hin', handleVerifyM3, hopen, hrep]
  rfl

theorem verifyM3_step (P : OpenSSL) (ctx : PairCtx) (ident : Bytes) (sig : Block 64) :
    ∃ report, pairStep P ctx (verifyM3Call P ctx.verifyEncKey ident sig) { ctx with verifyState := 4 } ∧
      CompletesVerify P ⟨ctx, verifyM3Call P ctx.verifyEncKey ident sig, { ctx with verifyState := 4 }⟩
        ident sig report :=
  verifyM3_items P ctx ident sig (incoming_verifyM3 P _ ident sig) rfl

/-- An M1 and an M3 under its key complete pair-verify on a fresh context. -/
theorem verify_m1_m3 (P : OpenSSL) (sk pk : Block 32) (pin : Option Bytes) (ident : Bytes) (sig : Block 64) :
    ∃ (m x : PairStep) (ctx : PairCtx), PairRun P (pairCtxCreate sk pk pin) [m, x] ctx ∧
      m.input = verifyM1Call (Block.zero 32) (Block.zero 32) ∧ BecomesVerified x ∧
      ctx.verifyState = 4 ∧ ∃ report, CompletesVerify P x ident sig report := by
  obtain ⟨ctx₁, hstep₁, _, hstate, _⟩ := verifyM1_step P (pairCtxCreate sk pk pin) (Block.zero 32) (Block.zero 32)
  obtain ⟨report, hstep₂, hc⟩ := verifyM3_step P ctx₁ ident sig
  refine ⟨_, _, _, Run.snoc (Run.snoc Run.nil hstep₁) hstep₂, rfl, ?_, rfl, report, hc⟩
  simp [BecomesVerified, pairVerifyIsComplete, hstate]

/-- Such a run is gated. -/
theorem verify_gated_m1_m3 :
    ∃ (m x : PairStep) (ctx : PairCtx),
      PairRun .toy (pairCtxCreate (Block.zero 32) (Block.zero 32) none) [m, x] ctx ∧ BecomesVerified x ∧
        VerifyGated .toy [m, x] := by
  obtain ⟨m, x, ctx, hr, _, hx, _⟩ :=
    verify_m1_m3 .toy (Block.zero 32) (Block.zero 32) none (ascii "id") (Block.zero 64)
  exact ⟨m, x, ctx, hr, hx, verify_gated hr⟩

/-! ## No client key, no signature -/

/-- **Pair-verify authentication**: where `verify_state` becomes 4, an M5 stored the client's key, an M1 came after
    it, and the M3 opened under that M1's key to an identifier and a signature that verifies under the client's
    key over the X25519 keys of that M1. -/
def VerifyAuthenticated (P : OpenSSL) (h : List PairStep) : Prop :=
  ∀ pre x post, h = pre ++ x :: post → BecomesVerified x →
    ∃ a m5 b m1 c clientPk pk ours e ident sig report, pre = a ++ m5 :: b ++ m1 :: c ∧
      StoresClientPk P m5 clientPk ∧ pairSetupIsComplete m5.post = true ∧ DerivesEncKey P m1 pk ours e ∧
      x.pre.verifyEncKey = m1.post.verifyEncKey ∧ CompletesVerify P x ident sig report ∧
      P.ed25519Verify clientPk sig (pk.val ++ ident ++ (P.x25519Public ours).val) = true

/-- Pair-verify does not authenticate the client: an M1 and an M3 without a pair-setup are enough. -/
theorem verify_not_authenticated :
    ¬ ∃ P : OpenSSL, ∀ (sk pk : Block 32) (pin : Option Bytes) (h : List PairStep) (ctx : PairCtx),
      PairRun P (pairCtxCreate sk pk pin) h ctx → VerifyAuthenticated P h := by
  rintro ⟨P, hall⟩
  obtain ⟨m, x, ctx, hr, hm, hx, _⟩ :=
    verify_m1_m3 P (Block.zero 32) (Block.zero 32) none (ascii "id") (Block.zero 64)
  obtain ⟨a, m5, b, m1, c, _, _, _, _, _, _, _, hpre, ⟨body, e, _, _, hi, _⟩, _⟩ :=
    hall _ _ _ _ _ hr [m] x [] rfl hx
  -- the only step before the M3 is the M1, and the M5 would be a second one
  have hmem : m5 ∈ [m] := by
    rw [hpre]
    simp
  rw [List.mem_singleton.mp hmem, hm] at hi
  exact absurd hi (by simp [verifyM1Call])

end Showcase
