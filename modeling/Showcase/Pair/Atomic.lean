import Showcase.Pair.Run

/-!
# `Pair.Atomic` — what a handler that answers with an error leaves behind

Four handlers end in one of many error exits. The two M3 handlers write to the context only once they are through;
`handle_setup_m5` has stored the client's key before its last exits, and `handle_verify_m1` the client's X25519 key
before all but its first. Behind the ECDH exchange an exit of `handle_verify_m1` has also freed `verify_ecdh_ours`
and put another `EVP_PKEY` in its place, so none of these leaves the context as it was.

Each handler is taken exit by exit, with the context that the exit leaves (`handleSetupM5_exits`,
`handleVerifyM1_cases`, `verifyM1Reply_exits`). A context that was written to is the old one exactly when what was
written was there already, and for `verify_ecdh_ours` that is never the case (`withEcdh_ours`).

## Contents
- `IsErrorAnswer` — an answer with an Error item;
- `PairHandler` — one call of one of the four handlers;
- `PairHandler.Keeps` — the message and the exit that is taken leave nothing new behind;
- **`atomic_iff`** — this is when an error answer leaves the context alone;
- **`not_atomic`** — and it does not always.
-/

namespace Showcase

open Lib

/-! ## Error answers -/

/-- The answer is a TLV8 with an Error item. -/
def IsErrorAnswer (resp : Option Bytes) : Prop :=
  ∃ out items, resp = some out ∧ tlvParse .ok out = some items ∧ (tlvFind items tlvError).isSome

/-- `make_error_response` makes one, if it gets its buffer. -/
theorem isErrorAnswer_makeErrorResponse (state code : UInt8) :
    IsErrorAnswer (makeErrorResponse true state code) := by
  have hsep : Separated [⟨tlvState, [state]⟩, ⟨tlvError, [code]⟩] :=
    .cons_cons (show tlvState ≠ tlvError by decide) (.singleton _)
  exact ⟨_, _, rfl, tlvParse_tlvBuild hsep (by simp [maxTlvItems]), rfl⟩

/-- An answer built from items without an Error is none. -/
theorem not_isErrorAnswer {alloc : Bool} {items : List TlvItem} (hsep : Separated items)
    (hmax : items.length ≤ maxTlvItems) (hno : tlvFind items tlvError = none) :
    ¬ IsErrorAnswer (tlvBuild alloc items) := by
  rintro ⟨out, items', hout, hparse, herr⟩
  unfold tlvBuild at hout
  split at hout
  · rw [← Option.some.inj hout, tlvParse_tlvBuild hsep hmax, Option.some.injEq] at hparse
    rw [← hparse, hno] at herr
    exact nomatch herr
  · exact nomatch hout

theorem m6_not_error (P : OpenSSL) (ctx : PairCtx) (encKey : Block 32) (e : SetupM5Env) :
    ¬ IsErrorAnswer (tlvBuild e.resp (setupM6Items P ctx encKey e)) :=
  not_isErrorAnswer (.cons_cons (show tlvState ≠ tlvEncryptedData by decide) (.singleton _))
    (by simp [setupM6Items, maxTlvItems]) rfl

/-! ## The four handlers -/

/-- One call of a handler that can answer with an error, with the outcomes of everything it asks for. -/
inductive PairHandler where
  | setupM3 (e : SetupM3Env)
  | setupM5 (e : SetupM5Env)
  | verifyM1 (e : VerifyM1Env)
  | verifyM3 (e : VerifyM3Env)

/-- The call: the context it leaves and its answer; `none` when the process dies in it. -/
def PairHandler.run (P : OpenSSL) (ctx : PairCtx) (items : List TlvItem) :
    PairHandler → Option (PairCtx × Option Bytes)
  | .setupM3 e => handleSetupM3 P ctx items e
  | .setupM5 e => handleSetupM5 P ctx items e
  | .verifyM1 e => handleVerifyM1 P ctx items e
  | .verifyM3 e => handleVerifyM3 P ctx items e

/-- No exit of `handle_verify_m1` in front of the ECDH values is taken. -/
structure VerifyM1Env.MakesEcdh (e : VerifyM1Env) : Prop where
  pctx : e.pctx = true
  keygen : e.keygen.isSome
  theirKey : e.theirKey = true

/-- **Nothing new is left behind.** The two M3 store nothing in front of an exit. An M5 that opens and carries a key
    carries the one in the context. An M1 has no 32-byte PublicKey, or it has the one in the context and one of the
    calls in front of the ECDH values fails. -/
def PairHandler.Keeps (P : OpenSSL) (ctx : PairCtx) (items : List TlvItem) : PairHandler → Prop
  | .setupM3 _ => True
  | .setupM5 e => ∀ pt pk, M5Opens P ctx (setupM5EncKey P ctx e) items e pt → setupM5Pk e.sub pt = some pk →
      ctx.clientPk = pk ∧ ctx.clientPkSet = true
  | .verifyM1 e => ∀ pk, verifyM1Pk items = some pk →
      ¬ e.MakesEcdh ∧ ctx.clientEcdhPk = pk ∧ ctx.clientEcdhPkSet = true
  | .verifyM3 _ => True

variable {P : OpenSSL} {ctx ctx' : PairCtx} {items : List TlvItem} {resp : Option Bytes}

/-! ## The handlers that write last -/

theorem setupM3_atomic {e : SetupM3Env} (h : handleSetupM3 P ctx items e = some (ctx', resp))
    (herr : IsErrorAnswer resp) : ctx' = ctx := by
  unfold handleSetupM3 at h
  split at h
  · exact nomatch h
  · exact result_eq h
  · rename_i serverM2 sessionKey _
    rw [answer_eq h] at herr
    have hsep : Separated [⟨tlvState, [4]⟩, ⟨tlvProof, serverM2.val⟩] :=
      .cons_cons (show tlvState ≠ tlvProof by decide) (.singleton _)
    exact absurd herr (not_isErrorAnswer hsep (by simp [maxTlvItems]) rfl)

theorem verifyM3_atomic {e : VerifyM3Env} (h : handleVerifyM3 P ctx items e = some (ctx', resp))
    (herr : IsErrorAnswer resp) : ctx' = ctx := by
  unfold handleVerifyM3 at h
  split at h
  · exact result_eq h
  · split at h
    · exact nomatch h
    · rw [answer_eq h] at herr
      exact absurd herr (not_isErrorAnswer (.singleton _) (by simp [maxTlvItems]) rfl)

/-! ## Pair-setup M5 -/

/-- Storing a key changes nothing exactly when it is there. -/
theorem setupM5ClientPk_eq_self {sub : TlvAlloc} {pt : Bytes} :
    setupM5ClientPk ctx sub pt = ctx ↔
      ∀ pk, setupM5Pk sub pt = some pk → ctx.clientPk = pk ∧ ctx.clientPkSet = true := by
  rw [setupM5ClientPk_eq]
  cases setupM5Pk sub pt with
  | none => exact ⟨fun _ pk h => (nomatch h), fun _ => rfl⟩
  | some pk =>
      constructor
      · intro h pk' hpk
        rw [← Option.some.inj hpk, ← h]
        exact ⟨rfl, rfl⟩
      · intro h
        obtain ⟨hpk, hset⟩ := h pk rfl
        simp only
        rw [← hpk, ← hset]

theorem setupM5_atomic_iff {e : SetupM5Env} (h : handleSetupM5 P ctx items e = some (ctx', resp))
    (herr : IsErrorAnswer resp) : ctx' = ctx ↔ (PairHandler.setupM5 e).Keeps P ctx items := by
  rcases handleSetupM5_exits h with ⟨code, hopen, hctx, _⟩ | ⟨pt, hopen, ⟨hctx, _⟩ | ⟨_, _, _, hresp⟩⟩
  · refine ⟨fun _ pt pk hopens => ?_, fun _ => hctx⟩
    rw [setupM5Open_iff.mpr hopens] at hopen
    exact nomatch hopen
  · rw [hctx, setupM5ClientPk_eq_self]
    constructor
    · intro hall pt' pk hopens hpk
      rw [setupM5Open_iff.mpr hopens, Except.ok.injEq] at hopen
      exact hall pk (hopen ▸ hpk)
    · intro hall pk hpk
      exact hall pt pk (setupM5Open_iff.mp hopen) hpk
  · rw [hresp] at herr
    exact absurd herr (m6_not_error P ctx _ e)

/-! ## Pair-verify M1 -/

theorem withClientEcdh_eq_self {pk : Block 32} :
    ctx.withClientEcdh pk = ctx ↔ ctx.clientEcdhPk = pk ∧ ctx.clientEcdhPkSet = true := by
  constructor
  · intro h
    rw [← h]
    exact ⟨rfl, rfl⟩
  · rintro ⟨hpk, hset⟩
    rw [PairCtx.withClientEcdh, ← hpk, ← hset]

/-- With the ECDH values our key is another one. -/
theorem withEcdh_ours {pk ours : Block 32} {e : VerifyM1Env} :
    (ctx.withEcdh P pk ours e).verifyEcdhOurs ≠ ctx.verifyEcdhOurs :=
  EvpPkey.next_ne ctx.verifyEcdhOurs ours

/-- The exits in front of the ECDH values are those of three calls. -/
theorem verifyM1Ecdh_makes {pk : Block 32} {e : VerifyM1Env} {c : PairCtx} {code : Option UInt8}
    (h : verifyM1Ecdh P ctx pk e = (c, code)) : e.MakesEcdh ↔ code = none := by
  unfold verifyM1Ecdh at h
  simp only at h
  split at h
  · rename_i hpctx
    refine ⟨fun hm => ?_, fun hc => ?_⟩
    · rw [hm.pctx] at hpctx
      exact nomatch hpctx
    · rw [← (Prod.mk.inj h).2] at hc
      exact nomatch hc
  rename_i hpctx
  split at h
  · rename_i hkey
    refine ⟨fun hm => ?_, fun hc => ?_⟩
    · have hsome := hm.keygen
      rw [hkey] at hsome
      exact nomatch hsome
    · rw [← (Prod.mk.inj h).2] at hc
      exact nomatch hc
  rename_i hkey
  split at h
  · rename_i htheir
    refine ⟨fun hm => ?_, fun hc => ?_⟩
    · rw [hm.theirKey] at htheir
      exact nomatch htheir
    · rw [← (Prod.mk.inj h).2] at hc
      exact nomatch hc
  · rename_i htheir
    exact ⟨fun _ => (Prod.mk.inj h).2.symm,
      fun _ => ⟨by simpa using hpctx, by rw [hkey]; rfl, by simpa using htheir⟩⟩

/-- Behind the ECDH values no error answer leaves the context as it was. -/
theorem verifyM1Reply_not_atomic {pk ours : Block 32} {e : VerifyM1Env}
    (h : verifyM1Reply P (ctx.withEcdh P pk ours e) e = some (ctx', resp)) : ctx' ≠ ctx := by
  have hours : (ctx.withEcdh P pk ours e).verifyEcdhOurs ≠ ctx.verifyEcdhOurs := withEcdh_ours
  rintro rfl
  rcases verifyM1Reply_cases h with ⟨_, hctx⟩ | ⟨_, _, hctx⟩ | ⟨_, hctx⟩
  · exact hours (congrArg PairCtx.verifyEcdhOurs hctx).symm
  · exact hours (congrArg PairCtx.verifyEcdhOurs hctx).symm
  · exact hours (congrArg PairCtx.verifyEcdhOurs hctx).symm

theorem verifyM1_atomic_iff {e : VerifyM1Env} (h : handleVerifyM1 P ctx items e = some (ctx', resp)) :
    ctx' = ctx ↔ (PairHandler.verifyM1 e).Keeps P ctx items := by
  rcases handleVerifyM1_cases h with ⟨hpk, hctx⟩ | ⟨pk, hpk, hexit⟩
  · refine ⟨fun _ pk hsome => ?_, fun _ => hctx⟩
    rw [hpk] at hsome
    exact nomatch hsome
  have hkeeps : (PairHandler.verifyM1 e).Keeps P ctx items ↔
      ¬ e.MakesEcdh ∧ ctx.clientEcdhPk = pk ∧ ctx.clientEcdhPkSet = true := by
    refine ⟨fun hall => hall pk hpk, fun hall pk' hpk' => ?_⟩
    rw [← Option.some.inj (hpk.symm.trans hpk')]
    exact hall
  rw [hkeeps]
  rcases hexit with ⟨code, hcode, hctx⟩ | ⟨ours, hcode, hreply⟩
  · -- an exit in front of the ECDH values: only the client's key was stored
    have hno : ¬ e.MakesEcdh := fun hm => nomatch (verifyM1Ecdh_makes hcode).mp hm
    rw [hctx, withClientEcdh_eq_self]
    exact ⟨fun hall => ⟨hno, hall⟩, fun hall => hall.2⟩
  · have hmakes : e.MakesEcdh := (verifyM1Ecdh_makes hcode).mpr rfl
    exact ⟨fun hsame => absurd hsame (verifyM1Reply_not_atomic hreply), fun hall => absurd hmakes hall.1⟩

/-! ## All four -/

/-- **When a handler is atomic.** An error answer of one of the four handlers, for any context, message and outcomes,
    leaves every field of the context as it was exactly when message and exit leave nothing new behind. -/
theorem atomic_iff {call : PairHandler} (h : call.run P ctx items = some (ctx', resp)) (herr : IsErrorAnswer resp) :
    ctx' = ctx ↔ call.Keeps P ctx items := by
  cases call with
  | setupM3 e => exact ⟨fun _ => trivial, fun _ => setupM3_atomic h herr⟩
  | setupM5 e => exact setupM5_atomic_iff h herr
  | verifyM1 e => exact verifyM1_atomic_iff h
  | verifyM3 e => exact ⟨fun _ => trivial, fun _ => verifyM3_atomic h herr⟩

/-- Every call of M1 succeeds, but no key pair of our own is made. -/
def VerifyM1Env.noKeygen : VerifyM1Env where
  pctx := true
  keygen := none
  rawPk := none
  theirKey := true
  derive := none
  sigMsg := true
  edKey := true
  mdctx := true
  sign := none
  subBuf := true
  encKey := none
  encCt := true
  encrypt := true
  encOut := true
  resp := true

/-- An M1 with the client's key `pk` whose `EVP_PKEY_keygen` fails stores the key and answers with an error. -/
theorem verifyM1_noKeygen (P : OpenSSL) (ctx : PairCtx) (pk : Block 32) :
    (PairHandler.verifyM1 .noKeygen).run P ctx [⟨tlvPublicKey, pk.val⟩] =
      some (ctx.withClientEcdh pk, makeErrorResponse true 2 1) := by
  have hpk : verifyM1Pk [⟨tlvPublicKey, pk.val⟩] = some pk := by
    rw [verifyM1Pk, tlvFind_cons, if_pos rfl, Option.bind_some, Block.ofBytes?_val]
  show handleVerifyM1 P ctx _ .noKeygen = _
  rw [handleVerifyM1, hpk]
  rfl

/-- A repeated M1: the key of the first is there when the second fails. -/
theorem atomic_iff_repeated :
    let ctx := (pairCtxCreate (Block.zero 32) (Block.zero 32) none).withClientEcdh (toyDigest 32 [7])
    ctx.withClientEcdh (toyDigest 32 [7]) = ctx ∧
      (PairHandler.verifyM1 .noKeygen).Keeps .toy ctx [⟨tlvPublicKey, (toyDigest 32 [7]).val⟩] := by
  intro ctx
  exact ⟨rfl, (atomic_iff (verifyM1_noKeygen .toy ctx (toyDigest 32 [7]))
    (isErrorAnswer_makeErrorResponse 2 1)).mp rfl⟩

/-- **Handlers are not always atomic**: a first M1 that fails has stored the client's key. -/
theorem not_atomic :
    ¬ ∀ (P : OpenSSL) (ctx ctx' : PairCtx) (items : List TlvItem) (call : PairHandler) (resp : Option Bytes),
      call.run P ctx items = some (ctx', resp) → IsErrorAnswer resp → ctx' = ctx := by
  intro hall
  have hsame := hall .toy (pairCtxCreate (Block.zero 32) (Block.zero 32) none) _ _ _ _
    (verifyM1_noKeygen .toy _ (toyDigest 32 [7])) (isErrorAnswer_makeErrorResponse 2 1)
  exact nomatch congrArg PairCtx.clientEcdhPkSet hsame

end Showcase
