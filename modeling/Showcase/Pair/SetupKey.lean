import Showcase.Pair.Atomic
import Showcase.Pair.SetupSound

/-!
# `Pair.SetupKey` — the key that a pair-setup M5 installs

`handle_setup_m5` decrypts its message, stores the public key it finds in it, and goes on to M6 when
`client_pk_set` is set. The flag is that of the context: an earlier M5 may have set it, and then a message without a
key is answered with M6 as well. When the table of the sub-TLV cannot be allocated, a plaintext of 32 bytes is taken
for the key itself. And three libcrypto calls may fail without the handler noticing.

For one call everything is said by the exit it takes (`handleSetupM5_exits`), with the flag of the context as it finds
it (`installsKey_iff`). What the flag is in a run is read off its last call that writes the client's key
(`clientPkSet_iff`), and so no state is left in the condition on a run.

## Contents
- `SubTlvKey` — the key in the sub-TLV that a message opens to;
- `InstalledKey`, `AnswersSealed` — what an M6 promises: the key stored, and our own data under the same key;
- `M5Fits`, `installsKey_iff` — when one call keeps this promise;
- `KeyStored`, **`m5_installs`** — when those of a run do; `m5_installs_iff` where the three calls go through;
- **`m5_not_installed`** — a second M5 without a key is answered with M6.
-/

namespace Showcase

open Lib

variable {P : OpenSSL} {ctx ctx' : PairCtx} {items : List TlvItem} {resp : Option Bytes}

/-! ## What an M6 promises -/

/-- The key of the M5 and M6 payloads for the current `srp_session_key`. -/
def setupKey (P : OpenSSL) (ctx : PairCtx) : Block 32 :=
  P.hkdfSha512 ctx.srpSessionKey.val (ascii "Pair-Setup-Encrypt-Salt") (ascii "Pair-Setup-Encrypt-Info") 32 OpenSSL.keyLength_le

/-- `accessoryX`. -/
def accessoryX (P : OpenSSL) (ctx : PairCtx) : Block 32 :=
  P.hkdfSha512 ctx.srpSessionKey.val (ascii "Pair-Setup-Accessory-Sign-Salt")
    (ascii "Pair-Setup-Accessory-Sign-Info") 32 OpenSSL.keyLength_le

/-- Every libcrypto call of M5 that the source does not stop at goes through. -/
structure SetupM5Env.Clean (e : SetupM5Env) : Prop where
  encKey : e.encKey = none
  accessoryX : e.accessoryX = none
  signKey : e.signKey = true
  sign : e.sign = none

/-- The sub-TLV that `tlv_parse` makes of a plaintext has a PublicKey of at least 32 bytes, and these are the first. -/
def SubTlvKey (sub : TlvAlloc) (pt : Bytes) (pk : Block 32) : Prop :=
  ∃ subItems data, tlvParse sub pt = some subItems ∧ tlvFind subItems tlvPublicKey = some data ∧
    32 ≤ data.length ∧ pk.val = data.take 32

/-- This very M5 opens to a sub-TLV with a key, and the key is the one now in the context. -/
def InstalledKey (P : OpenSSL) (ctx ctx' : PairCtx) (items : List TlvItem) (sub : TlvAlloc) : Prop :=
  ∃ pt, OpensTo P (setupKey P ctx) noncePsMsg05 items pt ∧ SubTlvKey sub pt ctx'.clientPk

/-- An M6: under the same key it opens to our identifier, our public key and our signature. -/
def AnswersSealed (P : OpenSSL) (ctx : PairCtx) (out : Bytes) : Prop :=
  ∃ m6 pt, tlvParse .ok out = some m6 ∧ tlvFind m6 tlvState = some [6] ∧
    OpensTo P (setupKey P ctx) noncePsMsg06 m6 pt ∧
    tlvParse .ok pt = some [⟨tlvIdentifier, deviceId⟩, ⟨tlvPublicKey, ctx.ourPk.val⟩,
      ⟨tlvSignature, (P.ed25519Sign ctx.ourSk ((accessoryX P ctx).val ++ deviceId ++ ctx.ourPk.val)).val⟩]

/-- The call answers with something that is no error, or takes `setup_state` to 6. -/
def AnswersM6 (ctx ctx' : PairCtx) (resp : Option Bytes) : Prop :=
  (resp.isSome ∧ ¬ IsErrorAnswer resp) ∨ (ctx.setupState ≠ 6 ∧ ctx'.setupState = 6)

/-- **M5 installs its key**: an M6 is sent only for a message with a key, which is then in the context, and holds our
    data under the same key; a message without one is answered with an error. -/
structure InstallsKey (P : OpenSSL) (ctx : PairCtx) (items : List TlvItem) (e : SetupM5Env) : Prop where
  installed : ∀ ctx' resp, handleSetupM5 P ctx items e = some (ctx', resp) → AnswersM6 ctx ctx' resp →
    InstalledKey P ctx ctx' items e.sub ∧ ∀ out, resp = some out → AnswersSealed P ctx out
  refused : ∀ ctx' resp, handleSetupM5 P ctx items e = some (ctx', resp) →
    (∀ pt pk, OpensTo P (setupKey P ctx) noncePsMsg05 items pt → ¬ SubTlvKey e.sub pt pk) →
    resp.isSome → IsErrorAnswer resp

/-- What a message needs that gets as far as M6: the three calls go through, the sub-TLV gets its table if the text
    has 32 bytes, and where a key is `known` already the sub-TLV has one too. -/
def M5Fits (P : OpenSSL) (ctx : PairCtx) (items : List TlvItem) (e : SetupM5Env) (known : Prop) : Prop :=
  e.Answers → e.Clean ∧ ∀ pt, M5Opens P ctx (setupKey P ctx) items e pt →
    (pt.length = 32 → e.sub.table = true) ∧ (known → ∃ pk, SubTlvKey e.sub pt pk)

/-! ## Opening -/

theorem setupM5EncKey_eq {e : SetupM5Env} (he : e.Clean) : setupM5EncKey P ctx e = setupKey P ctx := by
  rw [setupM5EncKey, he.encKey]
  rfl

theorem setupM5Open_opens {e : SetupM5Env} {pt : Bytes} (he : e.Clean) :
    setupM5Open P ctx items e = .ok pt ↔ M5Opens P ctx (setupKey P ctx) items e pt := by
  rw [setupM5Open_iff, setupM5EncKey_eq he]

/-- A key in the sub-TLV is the key M5 carries. -/
theorem SubTlvKey.carried {sub : TlvAlloc} {pt : Bytes} {pk : Block 32} (h : SubTlvKey sub pt pk) :
    setupM5Pk sub pt = some pk := by
  obtain ⟨subItems, data, hparse, hfind, _, hpk⟩ := h
  rw [setupM5Pk, hparse]
  simp only [hfind, Option.bind_some]
  exact Block.ofBytes?_eq_some.mpr hpk.symm

/-- A key that M5 carries is in the sub-TLV, or it is a text of 32 bytes that got no table. -/
theorem setupM5Pk_cases {sub : TlvAlloc} {pt : Bytes} {pk : Block 32} (h : setupM5Pk sub pt = some pk) :
    SubTlvKey sub pt pk ∨ (sub.table = false ∧ pt.length = 32) := by
  unfold setupM5Pk at h
  cases hparse : tlvParse sub pt with
  | some subItems =>
      rw [hparse] at h
      obtain ⟨data, hfind, hdata⟩ := Option.bind_eq_some_iff.mp h
      have hpk := Block.ofBytes?_eq_some.mp hdata
      have hlen : (data.take 32).length = 32 := by
        rw [hpk]
        exact pk.property
      rw [List.length_take] at hlen
      exact .inl ⟨subItems, data, hparse, hfind, by omega, hpk.symm⟩
  | none =>
      rw [hparse] at h
      refine .inr ⟨?_, ?_⟩
      · unfold tlvParse at hparse
        split at hparse
        · exact nomatch hparse
        · rename_i htable
          simpa using htable
      · rw [Block.ofBytes?_eq_some.mp h]
        exact pk.property

/-! ## M6 -/

theorem setupM5Signature_eq {e : SetupM5Env} (he : e.Clean) :
    setupM5Signature P ctx e = P.ed25519Sign ctx.ourSk ((accessoryX P ctx).val ++ deviceId ++ ctx.ourPk.val) := by
  rw [setupM5Signature, if_pos he.signKey, he.sign, unchecked_none, setupM5AccessoryX, he.accessoryX]
  rfl

theorem m6_sealed {e : SetupM5Env} (he : e.Clean) {out : Bytes}
    (h : tlvBuild e.resp (setupM6Items P ctx (setupM5EncKey P ctx e) e) = some out) : AnswersSealed P ctx out := by
  have hsep : Separated (setupM6Items P ctx (setupM5EncKey P ctx e) e) :=
    .cons_cons (show tlvState ≠ tlvEncryptedData by decide) (.singleton _)
  have hsub : Separated (setupM6SubItems P ctx e) :=
    .cons_cons (show tlvIdentifier ≠ tlvPublicKey by decide)
      (.cons_cons (show tlvPublicKey ≠ tlvSignature by decide) (.singleton _))
  unfold tlvBuild at h
  split at h
  · refine ⟨setupM6Items P ctx (setupM5EncKey P ctx e) e, (setupM6SubItems P ctx e).flatMap tlvEncode, ?_, rfl,
      ?_, ?_⟩
    · rw [← Option.some.inj h]
      exact tlvParse_tlvBuild hsep (by simp [setupM6Items, maxTlvItems])
    · refine ⟨_, _, _, rfl, splitTag_append _ _, ?_⟩
      rw [setupM5EncKey_eq he]
      exact P.open_seal _ _ _ _
    · rw [tlvParse_tlvBuild hsub (by simp [setupM6SubItems, maxTlvItems]), setupM6SubItems,
        setupM5Signature_eq he]
  · cases h

theorem setupM5Reply_m6 {encKey : Block 32} {e : SetupM5Env} (ha : e.Answers) :
    setupM5Reply P ctx encKey e =
      some ({ ctx with setupState := 6 }, tlvBuild e.resp (setupM6Items P ctx encKey e)) := by
  unfold setupM5Reply
  simp only [ha.signBufs, ha.subBuf, ha.encCt, ha.encrypt, ha.encOut, tlvBuild_true, OpenSSL.chachaEncrypt,
    Bool.true_eq_false, if_false, if_true]
  rfl

/-- A message that opens is answered with M6 when a key is known and no exit is taken. -/
theorem handleSetupM5_m6 {e : SetupM5Env} {pt : Bytes} (hopen : setupM5Open P ctx items e = .ok pt)
    (hset : (setupM5ClientPk ctx e.sub pt).clientPkSet = true) (ha : e.Answers) :
    handleSetupM5 P ctx items e =
      some ({ setupM5ClientPk ctx e.sub pt with setupState := 6 },
        tlvBuild e.resp (setupM6Items P (setupM5ClientPk ctx e.sub pt)
          (setupM5EncKey P (setupM5ClientPk ctx e.sub pt) e) e)) := by
  rw [handleSetupM5, hopen]
  simp only
  rw [if_neg (by rw [hset]; decide), setupM5Reply_m6 ha]

theorem setupM5ClientPk_set {sub : TlvAlloc} {pt : Bytes} :
    (setupM5ClientPk ctx sub pt).clientPkSet = true ↔ ctx.clientPkSet = true ∨ (setupM5Pk sub pt).isSome := by
  rw [setupM5ClientPk_eq]
  cases setupM5Pk sub pt with
  | none => simp
  | some pk => simp

theorem setupM5ClientPk_state {sub : TlvAlloc} {pt : Bytes} :
    (setupM5ClientPk ctx sub pt).setupState = ctx.setupState := by
  rw [setupM5ClientPk_eq]
  cases setupM5Pk sub pt with
  | none => rfl
  | some pk => rfl

/-! ## One call

The two exits of M5 behind its text differ in whether the flag of the context is set. Where the message fits it is set
by this message; where it does not, the answer breaks one half of the promise. -/

/-- An error exit answers with an error, if it gets its buffer, and leaves `setup_state` alone. -/
theorem not_answersM6_of_error {e : SetupM5Env} {code : UInt8} (hstate : ctx'.setupState = ctx.setupState)
    (hresp : resp = makeErrorResponse e.resp 6 code) :
    ¬ AnswersM6 ctx ctx' resp ∧ (resp.isSome → IsErrorAnswer resp) := by
  have herr : resp.isSome → IsErrorAnswer resp := by
    rw [hresp]
    cases e.resp with
    | false => exact fun h => nomatch h
    | true => exact fun _ => isErrorAnswer_makeErrorResponse 6 code
  refine ⟨?_, herr⟩
  rintro (⟨hsome, hno⟩ | ⟨hne, heq⟩)
  · exact hno (herr hsome)
  · exact hne (hstate ▸ heq)

theorem installsKey_of_fits {e : SetupM5Env} (hfits : M5Fits P ctx items e (ctx.clientPkSet = true)) :
    InstallsKey P ctx items e := by
  -- where the call goes on to M6, its own key is there
  have hkey : ∀ pt, setupM5Open P ctx items e = .ok pt → (setupM5ClientPk ctx e.sub pt).clientPkSet = true →
      e.Answers → e.Clean ∧ M5Opens P ctx (setupKey P ctx) items e pt ∧ ∃ pk, SubTlvKey e.sub pt pk := by
    intro pt hopen hset ha
    obtain ⟨he, hpt⟩ := hfits ha
    have hopens := (setupM5Open_opens he).mp hopen
    obtain ⟨htable, hknown⟩ := hpt pt hopens
    refine ⟨he, hopens, ?_⟩
    rcases setupM5ClientPk_set.mp hset with hset | hsome
    · exact hknown hset
    obtain ⟨pk, hpk⟩ := Option.isSome_iff_exists.mp hsome
    rcases setupM5Pk_cases hpk with hsub | ⟨hno, hlen⟩
    · exact ⟨pk, hsub⟩
    · rw [htable hlen] at hno
      exact nomatch hno
  refine ⟨fun ctx' resp h hanswer => ?_, fun ctx' resp h hno hsome => ?_⟩
  · rcases handleSetupM5_exits h with
      ⟨_, _, hctx, hresp⟩ | ⟨pt, hopen, ⟨hctx, _, _, hresp⟩ | ⟨hset, ha, hctx, hresp⟩⟩
    · exact absurd hanswer (not_answersM6_of_error (congrArg PairCtx.setupState hctx) hresp).1
    · exact absurd hanswer
        (not_answersM6_of_error ((congrArg PairCtx.setupState hctx).trans setupM5ClientPk_state) hresp).1
    · obtain ⟨he, hopens, pk, hpk⟩ := hkey pt hopen hset ha
      refine ⟨⟨pt, hopens.opens, ?_⟩, fun out hout => m6_sealed he (hresp ▸ hout)⟩
      -- the key of this message is the one that was stored
      have hstored : ctx'.clientPk = pk := by
        rw [hctx, setupM5ClientPk_eq, hpk.carried]
      rw [hstored]
      exact hpk
  · rcases handleSetupM5_exits h with
      ⟨_, _, hctx, hresp⟩ | ⟨pt, hopen, ⟨hctx, _, _, hresp⟩ | ⟨hset, ha, _, _⟩⟩
    · exact (not_answersM6_of_error (congrArg PairCtx.setupState hctx) hresp).2 hsome
    · exact (not_answersM6_of_error ((congrArg PairCtx.setupState hctx).trans setupM5ClientPk_state) hresp).2 hsome
    · obtain ⟨_, hopens, pk, hpk⟩ := hkey pt hopen hset ha
      exact absurd hpk (hno pt pk hopens.opens)

theorem fits_of_installsKey {e : SetupM5Env} (he : e.Clean) (hreach : e.resp = true ∨ ctx.setupState ≠ 6)
    (h : InstallsKey P ctx items e) : M5Fits P ctx items e (ctx.clientPkSet = true) := by
  intro ha
  -- an M5 that opens where a key is known is answered with M6, so its own key is there
  have hkey : ∀ pt, M5Opens P ctx (setupKey P ctx) items e pt →
      (ctx.clientPkSet = true ∨ (setupM5Pk e.sub pt).isSome) → ∃ pk, SubTlvKey e.sub pt pk := by
    intro pt hopens hknown
    have hcall := handleSetupM5_m6 ((setupM5Open_opens he).mpr hopens) (setupM5ClientPk_set.mpr hknown) ha
    have hanswer : AnswersM6 ctx { setupM5ClientPk ctx e.sub pt with setupState := 6 }
        (tlvBuild e.resp (setupM6Items P (setupM5ClientPk ctx e.sub pt)
          (setupM5EncKey P (setupM5ClientPk ctx e.sub pt) e) e)) := by
      rcases hreach with hbuf | hne
      · refine .inl ⟨?_, m6_not_error P _ _ e⟩
        rw [hbuf]
        rfl
      · exact .inr ⟨hne, rfl⟩
    obtain ⟨⟨pt', hopens', hpk⟩, _⟩ := h.installed _ _ hcall hanswer
    rw [← hopens.opens.unique hopens'] at hpk
    exact ⟨_, hpk⟩
  refine ⟨he, fun pt hopens => ⟨fun hlen => ?_, fun hset => hkey pt hopens (.inl hset)⟩⟩
  by_contra htable
  have hparse : tlvParse e.sub pt = none := if_neg htable
  have hraw : (setupM5Pk e.sub pt).isSome := by
    rw [setupM5Pk, hparse]
    exact Option.isSome_iff_exists.mpr ⟨⟨pt, hlen⟩, Block.ofBytes?_eq_some.mpr rfl⟩
  obtain ⟨_, _, _, hsub, _⟩ := hkey pt hopens (.inr hraw)
  rw [hparse] at hsub
  exact nomatch hsub

/-- **One call** whose libcrypto calls go through and whose answer is seen installs its key exactly when it fits. -/
theorem installsKey_iff {e : SetupM5Env} (he : e.Clean) (hreach : e.resp = true ∨ ctx.setupState ≠ 6) :
    InstallsKey P ctx items e ↔ M5Fits P ctx items e (ctx.clientPkSet = true) :=
  ⟨fits_of_installsKey he hreach, installsKey_of_fits⟩

/-! ## Runs

The flag that a call finds is a fact about the calls before it: the last one that wrote it was an M5 with a key. With
this a call of a run fits by its own message and by what came before. -/

/-- The call is a pair-setup M5 with the items `items` and the outcomes `e`. -/
def IsM5 (x : PairStep) (items : List TlvItem) (e : SetupM5Env) : Prop :=
  ∃ body env, x.input = .setup body env ∧ incoming env.tlv body = some (5, items) ∧ env.m5 = e

/-- A call is one message. -/
theorem IsM5.unique {x : PairStep} {items items' : List TlvItem} {e e' : SetupM5Env} (h : IsM5 x items e)
    (h' : IsM5 x items' e') : items = items' ∧ e = e' := by
  obtain ⟨body, env, hinput, hin, rfl⟩ := h
  obtain ⟨body', env', hinput', hin', rfl⟩ := h'
  obtain ⟨rfl, rfl⟩ := PairInput.setup.inj (hinput.symm.trans hinput')
  exact ⟨(Prod.mk.inj (Option.some.inj (hin.symm.trans hin'))).2, rfl⟩

/-- The client's key is stored: of the calls that write it or its flag, the last is an M5 that stored one. -/
def KeyStored (P : OpenSSL) (h : List PairStep) : Prop :=
  ∃ m pk, Last (WritesClientPk P) h m ∧ StoresClientPk P m pk

/-- **The flag of the context** says whether one is. -/
theorem clientPkSet_iff {sk pk : Block 32} {pin : Option Bytes} {h : List PairStep} {ctx : PairCtx}
    (hr : PairRun P (pairCtxCreate sk pk pin) h ctx) : ctx.clientPkSet = true ↔ KeyStored P h := by
  have hframe : ∀ s i s', pairStep P s i s' → ¬ WritesClientPk P ⟨s, i, s'⟩ → s'.clientPkSet = s.clientPkSet :=
    fun s i s' hs hno => (clientPk_of_step hs (fun h => hno (.inl h)) (fun pk h => hno (.inr ⟨pk, h⟩))).2
  constructor
  · intro hset
    rcases hr.last_write (WritesClientPk P) PairCtx.clientPkSet hframe with ⟨m, hm, hf⟩ | ⟨_, hf⟩
    · rcases hm.sat with hM1 | ⟨pk', hM5⟩
      · rw [hf, hM1.post (hr.step_of_mem hm.mem)] at hset
        exact nomatch hset
      · exact ⟨m, pk', hm, hM5⟩
    · rw [hf] at hset
      exact nomatch hset
  · rintro ⟨m, pk', hm, hM5⟩
    rw [hr.value_of_last PairCtx.clientPkSet hframe hm]
    exact (hM5.post (hr.step_of_mem hm.mem)).2

/-- The step, if it is an M5, fits behind the steps `pre`. -/
def M5Guarded (P : OpenSSL) (pre : List PairStep) (x : PairStep) : Prop :=
  ∀ items e, IsM5 x items e → M5Fits P x.pre items e (KeyStored P pre)

section Run

variable {sk pk : Block 32} {pin : Option Bytes} {h : List PairStep}

/-- **The M5 of a run install their keys** where all of them fit. -/
theorem m5_installs (hr : PairRun P (pairCtxCreate sk pk pin) h ctx) (hfits : Along (M5Guarded P) h) :
    ∀ x ∈ h, ∀ items e, IsM5 x items e → InstallsKey P x.pre items e := by
  intro x hx items e hm5
  obtain ⟨pre, post, hh⟩ := List.append_of_mem hx
  apply installsKey_of_fits
  rw [clientPkSet_iff (hr.split hh).1]
  exact hfits pre x post hh items e hm5

/-- Where the libcrypto calls of a run go through and its answers are seen, its M5 install their keys exactly when all
    of them fit. -/
theorem m5_installs_iff (hr : PairRun P (pairCtxCreate sk pk pin) h ctx)
    (hclean : ∀ x ∈ h, ∀ items e, IsM5 x items e → e.Clean ∧ e.resp = true) :
    (∀ x ∈ h, ∀ items e, IsM5 x items e → InstallsKey P x.pre items e) ↔ Along (M5Guarded P) h := by
  refine ⟨?_, m5_installs hr⟩
  intro hall pre x post hh items e hm5
  have hx : x ∈ h := by
    rw [hh]
    simp
  obtain ⟨he, hbuf⟩ := hclean x hx items e hm5
  have hfits := fits_of_installsKey he (.inl hbuf) (hall x hx items e hm5)
  rwa [clientPkSet_iff (hr.split hh).1] at hfits

end Run

/-! ### Two M5 in one session -/

/-- An M5 that seals the items `sub`. -/
def m5Items (P : OpenSSL) (ctx : PairCtx) (sub : List TlvItem) : List TlvItem :=
  let sealed := P.chachaSeal (setupKey P ctx) (OpenSSL.nonce12 noncePsMsg05) [] (sub.flatMap tlvEncode)
  [⟨tlvState, [5]⟩, ⟨tlvEncryptedData, sealed.1 ++ sealed.2.val⟩]

/-- The call with such an M5, in which every call of its environment is granted. -/
def m5Call (P : OpenSSL) (ctx : PairCtx) (sub : List TlvItem) : PairInput :=
  .setup ((m5Items P ctx sub).flatMap tlvEncode) (.ok 0 (Block.zero 32))

theorem setupEnv_ok_clean (s : Fin (2 ^ 128)) (b : Block 32) : (SetupEnv.ok s b).m5.Clean := ⟨rfl, rfl, rfl, rfl⟩

theorem setupEnv_ok_answers (s : Fin (2 ^ 128)) (b : Block 32) : (SetupEnv.ok s b).m5.Answers :=
  ⟨rfl, rfl, rfl, rfl, rfl⟩

theorem isM5_m5Call (P : OpenSSL) (ctx ctx' : PairCtx) (sub : List TlvItem) :
    IsM5 ⟨ctx, m5Call P ctx sub, ctx'⟩ (m5Items P ctx sub) (SetupEnv.ok 0 (Block.zero 32)).m5 := by
  have hsep : Separated (m5Items P ctx sub) :=
    .cons_cons (show tlvState ≠ tlvEncryptedData by decide) (.singleton _)
  exact ⟨_, _, rfl, incoming_build hsep (by simp [maxTlvItems]), rfl⟩

/-- With a session key, such an M5 opens to what was sealed. -/
theorem setupM5Open_m5Items {sub : List TlvItem} (hkey : ctx.srpHasSessionKey = true) (hsub : sub ≠ []) :
    setupM5Open P ctx (m5Items P ctx sub) (SetupEnv.ok 0 (Block.zero 32)).m5 = .ok (sub.flatMap tlvEncode) := by
  have hpos : (sub.flatMap tlvEncode).length ≠ 0 := by
    obtain ⟨i, rest, rfl⟩ := List.exists_cons_of_ne_nil hsub
    have := tlvEncode_length_pos i
    rw [List.flatMap_cons, List.length_append]
    omega
  have hfind : tlvFind (m5Items P ctx sub) tlvEncryptedData =
      some ((P.chachaSeal (setupKey P ctx) (OpenSSL.nonce12 noncePsMsg05) [] (sub.flatMap tlvEncode)).1 ++
        (P.chachaSeal (setupKey P ctx) (OpenSSL.nonce12 noncePsMsg05) [] (sub.flatMap tlvEncode)).2.val) := rfl
  have hdec : P.chachaDecrypt true (setupKey P ctx) noncePsMsg05
      (P.chachaSeal (setupKey P ctx) (OpenSSL.nonce12 noncePsMsg05) [] (sub.flatMap tlvEncode)).1
      (P.chachaSeal (setupKey P ctx) (OpenSSL.nonce12 noncePsMsg05) [] (sub.flatMap tlvEncode)).2
        = some (sub.flatMap tlvEncode) := by
    rw [OpenSSL.chachaDecrypt, if_pos rfl, P.open_seal]
  unfold setupM5Open
  rw [setupM5EncKey_eq (setupEnv_ok_clean 0 (Block.zero 32)), hfind, Option.bind_some, splitTag_append]
  simp only [hkey, SetupEnv.ok, P.seal_length, hpos, hdec, Bool.true_eq_false, if_false]

/-- An M5 is answered with M6 once a key is known. -/
theorem m5_step {sub : List TlvItem} (hkey : ctx.srpHasSessionKey = true) (hsub : sub ≠ [])
    (hset : (setupM5ClientPk ctx .ok (sub.flatMap tlvEncode)).clientPkSet = true) :
    pairStep P ctx (m5Call P ctx sub)
      { setupM5ClientPk ctx .ok (sub.flatMap tlvEncode) with setupState := 6 } := by
  obtain ⟨body, env, hinput, hin, he⟩ := isM5_m5Call P ctx ctx sub
  obtain ⟨rfl, rfl⟩ := PairInput.setup.inj hinput
  have hcall : pairCall P ctx (m5Call P ctx sub) =
      handleSetupM5 P ctx (m5Items P ctx sub) (SetupEnv.ok 0 (Block.zero 32)).m5 := by
    show pairSetupHandle P ctx _ _ = _
    rw [pairSetupHandle, hin]
    rfl
  have hopen := setupM5Open_m5Items (P := P) hkey hsub
  exact ⟨_, hcall.trans (handleSetupM5_m6 hopen hset (setupEnv_ok_answers 0 (Block.zero 32)))⟩

/-- An accepted proof leaves a session key. -/
theorem AcceptsProof.hasKey {i : PairInput} {A proof : Bytes} {serverM2 : Block 64}
    (h : AcceptsProof P ⟨ctx, i, ctx'⟩ A proof serverM2) (hstep : pairStep P ctx i ctx') :
    ctx'.srpHasSessionKey = true := by
  obtain ⟨body, e, items, sessionKey, rfl, hin, _, _, hcheck⟩ := h
  obtain ⟨resp, hcall⟩ := hstep
  have hm3 : handleSetupM3 P ctx items e.m3 = some (ctx', resp) := by
    rw [← hcall, pairCall, pairSetupHandle, hin]
    rfl
  rw [handleSetupM3, hcheck] at hm3
  rw [result_eq hm3]

def subWithKey : List TlvItem := [⟨tlvPublicKey, (toyDigest 32 [7]).val⟩]

def subWithoutKey : List TlvItem := [⟨tlvIdentifier, [1]⟩]

theorem subWithKey_parse : tlvParse .ok (subWithKey.flatMap tlvEncode) = some subWithKey :=
  tlvParse_tlvBuild (.singleton _) (by simp [subWithKey, maxTlvItems])

theorem subWithoutKey_parse : tlvParse .ok (subWithoutKey.flatMap tlvEncode) = some subWithoutKey :=
  tlvParse_tlvBuild (.singleton _) (by simp [subWithoutKey, maxTlvItems])

theorem setupM5Pk_subWithKey : setupM5Pk .ok (subWithKey.flatMap tlvEncode) = some (toyDigest 32 [7]) := by
  rw [setupM5Pk, subWithKey_parse]
  rfl

theorem setupM5Pk_subWithoutKey : setupM5Pk .ok (subWithoutKey.flatMap tlvEncode) = none := by
  rw [setupM5Pk, subWithoutKey_parse]
  rfl

/-- An accepted M3, an M5 with a key, and nothing else: what the context then has. -/
theorem session_with_key (P : OpenSSL) :
    ∃ m3 ctx ctx', PairRun P (pairCtxCreate (Block.zero 32) (Block.zero 32) none)
        ([m3] ++ [⟨ctx, m5Call P ctx subWithKey, ctx'⟩]) ctx' ∧
      ctx'.srpHasSessionKey = true ∧ ctx'.clientPkSet = true ∧ ∀ items e, ¬ IsM5 m3 items e := by
  obtain ⟨ctx, serverM2, hstep, hacc⟩ := setup_accepts_without_pin P (Block.zero 32) (Block.zero 32) none
  have hkey := hacc.hasKey hstep
  have hset : (setupM5ClientPk ctx .ok (subWithKey.flatMap tlvEncode)).clientPkSet = true :=
    setupM5ClientPk_set.mpr (.inr (by rw [setupM5Pk_subWithKey]; rfl))
  have hrun := (Run.snoc Run.nil hstep).snoc (m5_step (P := P) hkey (List.cons_ne_nil _ _) hset)
  refine ⟨_, _, _, hrun, ?_, hset, ?_⟩
  · show (setupM5ClientPk ctx .ok (subWithKey.flatMap tlvEncode)).srpHasSessionKey = true
    rw [setupM5ClientPk_eq, setupM5Pk_subWithKey]
    exact hkey
  · rintro items e ⟨body', env', hinput', hin', _⟩
    obtain ⟨body, env, items', _, hinput, hin, _⟩ := hacc
    obtain ⟨rfl, rfl⟩ := PairInput.setup.inj (hinput.symm.trans hinput')
    exact absurd (Prod.mk.inj (Option.some.inj (hin.symm.trans hin'))).1 (by decide)

/-- The M5 of such a session has no call that fails, and its key in the sub-TLV. -/
theorem m5Call_clean {sub items : List TlvItem} {e : SetupM5Env} (hm5 : IsM5 ⟨ctx, m5Call P ctx sub, ctx'⟩ items e) :
    e = (SetupEnv.ok 0 (Block.zero 32)).m5 ∧ items = m5Items P ctx sub := by
  obtain ⟨hitems, he⟩ := hm5.unique (isM5_m5Call P ctx ctx' sub)
  exact ⟨he, hitems⟩

theorem m5Items_opens (P : OpenSSL) (ctx : PairCtx) (sub : List TlvItem) :
    OpensTo P (setupKey P ctx) noncePsMsg05 (m5Items P ctx sub) (sub.flatMap tlvEncode) :=
  ⟨_, _, _, rfl, splitTag_append _ _, P.open_seal _ _ _ _⟩

theorem subWithKey_fits (P : OpenSSL) (ctx : PairCtx) (known : Prop) :
    M5Fits P ctx (m5Items P ctx subWithKey) (SetupEnv.ok 0 (Block.zero 32)).m5 known := by
  refine fun _ => ⟨setupEnv_ok_clean 0 (Block.zero 32), fun pt hopens => ⟨fun _ => rfl, fun _ => ?_⟩⟩
  rw [hopens.opens.unique (m5Items_opens P ctx subWithKey)]
  exact ⟨toyDigest 32 [7], subWithKey, _, subWithKey_parse, rfl, by decide, by decide⟩

/-- A session whose one M5 has a key installs it. -/
theorem m5_installs_session :
    ∃ h ctx, PairRun .toy (pairCtxCreate (Block.zero 32) (Block.zero 32) none) h ctx ∧
      (∃ x ∈ h, ∃ items e, IsM5 x items e) ∧ ∀ x ∈ h, ∀ items e, IsM5 x items e → InstallsKey .toy x.pre items e := by
  obtain ⟨m3, ctx, ctx', hrun, _, _, hno⟩ := session_with_key .toy
  refine ⟨_, ctx', hrun, ⟨_, by simp, _, _, isM5_m5Call .toy ctx ctx' subWithKey⟩, m5_installs hrun ?_⟩
  intro pre x post hh items e hm5
  have hx : x ∈ [m3] ++ [⟨ctx, m5Call .toy ctx subWithKey, ctx'⟩] := by
    rw [hh]
    simp
  rcases List.mem_append.mp hx with hx | hx
  · rw [List.mem_singleton.mp hx] at hm5
    exact absurd hm5 (hno items e)
  · rw [List.mem_singleton.mp hx] at hm5 ⊢
    obtain ⟨rfl, rfl⟩ := m5Call_clean hm5
    exact subWithKey_fits .toy ctx _

/-- **A second M5 needs no key**: it is answered with M6 all the same. -/
theorem m5_not_installed :
    ¬ ∀ (P : OpenSSL) (sk pk : Block 32) (pin : Option Bytes) (h : List PairStep) (ctx : PairCtx),
      PairRun P (pairCtxCreate sk pk pin) h ctx →
      ∀ x ∈ h, ∀ items e, IsM5 x items e → InstallsKey P x.pre items e := by
  intro hall
  obtain ⟨m3, ctx, ctx', hrun, hkey, hset, hno⟩ := session_with_key .toy
  have hset' : (setupM5ClientPk ctx' .ok (subWithoutKey.flatMap tlvEncode)).clientPkSet = true :=
    setupM5ClientPk_set.mpr (.inl hset)
  have hrun' := hrun.snoc (m5_step (P := .toy) hkey (List.cons_ne_nil _ _) hset')
  have hm5 := isM5_m5Call .toy ctx' { setupM5ClientPk ctx' .ok (subWithoutKey.flatMap tlvEncode) with setupState := 6 }
    subWithoutKey
  have hclean : (SetupEnv.ok 0 (Block.zero 32)).m5.Clean := setupEnv_ok_clean 0 (Block.zero 32)
  have hinstalls := hall _ _ _ _ _ _ hrun' _ (List.mem_append_right _ (List.mem_singleton_self _)) _ _ hm5
  -- it opens, it is answered, and a key is known, but there is none in it
  have hopens : M5Opens .toy ctx' (setupKey .toy ctx') (m5Items .toy ctx' subWithoutKey)
      (SetupEnv.ok 0 (Block.zero 32)).m5 (subWithoutKey.flatMap tlvEncode) :=
    (setupM5Open_opens hclean).mp (setupM5Open_m5Items hkey (List.cons_ne_nil _ _))
  obtain ⟨_, hfits⟩ := fits_of_installsKey hclean (.inl rfl) hinstalls (setupEnv_ok_answers 0 (Block.zero 32))
  obtain ⟨pk, hpk⟩ := (hfits _ hopens).2 hset
  have hcarried := hpk.carried
  rw [show (SetupEnv.ok 0 (Block.zero 32)).m5.sub = TlvAlloc.ok from rfl, setupM5Pk_subWithoutKey] at hcarried
  exact nomatch hcarried

end Showcase
