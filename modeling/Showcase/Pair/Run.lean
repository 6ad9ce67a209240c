import Showcase.Lib.History
import Showcase.Pair.Verify

/-!
# `Pair.Run` — the runs of one pairing context

The calls of `pair_setup_handle` and `pair_verify_handle` on one context as a step relation, the events of such
a run, and what a step can do to the pair-verify fields (`VerifyEffect`) and to the client's key. A step carries
the outcomes of the allocations, random draws and libcrypto calls in its input; a call in which the process
dies is not a step.
-/

namespace Showcase

open Lib

/-! ## The calls of one context -/

/-- A call on a pairing context: the message and the outcomes of everything it asks of its environment. -/
inductive PairInput where
  | setup (body : Bytes) (e : SetupEnv)
  | verify (body : Bytes) (e : VerifyEnv)

/-- One call: the new context and the answer; `none` when the process dies in it. -/
def pairCall (P : OpenSSL) (ctx : PairCtx) : PairInput → Option (PairCtx × Option Bytes)
  | .setup body e => pairSetupHandle P ctx body e
  | .verify body e => pairVerifyHandle P ctx body e

/-- One call as a step of the context. -/
def pairStep (P : OpenSSL) (ctx : PairCtx) (i : PairInput) (ctx' : PairCtx) : Prop :=
  ∃ resp, pairCall P ctx i = some (ctx', resp)

/-- A step of a run of calls. -/
abbrev PairStep := Step PairCtx PairInput

/-- The runs of calls on one context. -/
abbrev PairRun (P : OpenSSL) := Run (pairStep P)

/-! ## Events of a run -/

/-- The call is a pair-setup message with State `n`. -/
def IsSetupMsg (n : UInt8) (x : PairStep) : Prop :=
  ∃ body e items, x.input = .setup body e ∧ incoming e.tlv body = some (n, items)

/-- The call is a pair-setup M1. -/
abbrev IsSetupM1 : PairStep → Prop := IsSetupMsg 1

/-- The call is a pair-setup M5 that stores the client's Ed25519 key `pk`. -/
def StoresClientPk (P : OpenSSL) (x : PairStep) (pk : Block 32) : Prop :=
  ∃ body e items pt, x.input = .setup body e ∧ incoming e.tlv body = some (5, items) ∧
    setupM5Open P x.pre items e.m5 = .ok pt ∧
    setupM5ClientPk x.pre e.m5.sub pt = { x.pre with clientPk := pk, clientPkSet := true }

/-- The call writes the client's long-term key or its flag. -/
def WritesClientPk (P : OpenSSL) (x : PairStep) : Prop :=
  IsSetupM1 x ∨ ∃ pk, StoresClientPk P x pk

/-- The call is the pair-verify message with State `n`, the items `items` and the outcomes `e`. -/
def IsVerifyMsg (n : UInt8) (x : PairStep) (e : VerifyEnv) (items : List TlvItem) : Prop :=
  ∃ body, x.input = .verify body e ∧ incoming e.tlv body = some (n, items)

/-- The call is a pair-verify M1 that stores the client's X25519 key `pk`. -/
def StoresClientEcdh (x : PairStep) (pk : Block 32) : Prop :=
  ∃ e items, IsVerifyMsg 1 x e items ∧ verifyM1Pk items = some pk

/-- The call is a pair-verify M1 that stores the ECDH values of the client key `pk` and our key `ours`. -/
def StoresEcdh (P : OpenSSL) (x : PairStep) (pk ours : Block 32) (e : VerifyEnv) : Prop :=
  ∃ items, IsVerifyMsg 1 x e items ∧ verifyM1Pk items = some pk ∧
    verifyM1Ecdh P x.pre pk e.m1 = (x.pre.withEcdh P pk ours e.m1, none)

/-- The call is a pair-verify M3 that opens its message under the context's key, to the identifier `ident` and
    the signature `sig`, and comes through the signature check with `report`: the calls that write
    `verify_state = 4`. -/
def CompletesVerify (P : OpenSSL) (x : PairStep) (ident : Bytes) (sig : Block 64) (report : SigCheck) : Prop :=
  ∃ e items, IsVerifyMsg 3 x e items ∧ verifyM3Open P x.pre items e.m3 = .ok (ident, sig) ∧
    verifySignature P x.pre ident sig e.m3 = some report

variable {P : OpenSSL} {x : PairStep}

/-- A call is one message. -/
theorem IsVerifyMsg.unique {n m : UInt8} {e e' : VerifyEnv} {items items' : List TlvItem}
    (h : IsVerifyMsg n x e items) (h' : IsVerifyMsg m x e' items') : n = m ∧ e = e' ∧ items = items' := by
  obtain ⟨body, hx, hin⟩ := h
  obtain ⟨body', hx', hin'⟩ := h'
  obtain ⟨rfl, rfl⟩ := PairInput.verify.inj (hx.symm.trans hx')
  obtain ⟨rfl, rfl⟩ := Prod.mk.inj (Option.some.inj (hin.symm.trans hin'))
  exact ⟨rfl, rfl, rfl⟩

theorem StoresEcdh.clientEcdh {pk ours : Block 32} {e : VerifyEnv} (h : StoresEcdh P x pk ours e) :
    StoresClientEcdh x pk := by
  obtain ⟨items, hmsg, hpk, _⟩ := h
  exact ⟨e, items, hmsg, hpk⟩

/-! ## The pair-verify fields over a step

The handlers have been split in `Pair.Setup` and `Pair.Verify`. Here their cases are named by what a run remembers: a
key that is stored, a verification that is complete, or neither. -/

/-- The fields the pair-verify handlers write. -/
def PairCtx.verify (ctx : PairCtx) :
    Nat × Option EvpPkey × Block 32 × Block 32 × Block 32 × Block 32 × Bool :=
  (ctx.verifyState, ctx.verifyEcdhOurs, ctx.verifyShared, ctx.verifyEncKey, ctx.verifyOurEcdhPk,
    ctx.clientEcdhPk, ctx.clientEcdhPkSet)

/-- **What a call does to the pair-verify fields**: nothing, or one of the five ways through M1 and M3. -/
inductive VerifyEffect (P : OpenSSL) (x : PairStep) : Prop where
  | other (hM1 : ∀ pk, ¬ StoresClientEcdh x pk) (hM3 : ∀ ident sig report, ¬ CompletesVerify P x ident sig report)
      (h : x.post.verify = x.pre.verify)
  | clientEcdh (pk : Block 32) (hM1 : StoresClientEcdh x pk) (hno : ∀ pk ours e, ¬ StoresEcdh P x pk ours e)
      (h : x.post = x.pre.withClientEcdh pk)
  | ecdh (pk ours : Block 32) (e : VerifyEnv) (hM1 : StoresEcdh P x pk ours e) (hno : ¬ e.m1.ReachesKey)
      (h : x.post = x.pre.withEcdh P pk ours e.m1)
  | encKey (pk ours : Block 32) (e : VerifyEnv) (hM1 : StoresEcdh P x pk ours e) (hkey : e.m1.ReachesKey)
      (hno : ¬ e.m1.Answers) (h : x.post = (x.pre.withEcdh P pk ours e.m1).withEncKey P e.m1)
  | answered (pk ours : Block 32) (e : VerifyEnv) (hM1 : StoresEcdh P x pk ours e) (hkey : e.m1.ReachesKey)
      (h : x.post = { (x.pre.withEcdh P pk ours e.m1).withEncKey P e.m1 with verifyState := 2 })
  | completed (ident : Bytes) (sig : Block 64) (report : SigCheck) (hM3 : CompletesVerify P x ident sig report)
      (h : x.post = { x.pre with verifyState := 4 })

theorem handleSetupM1_verify (P : OpenSSL) (ctx : PairCtx) (e : SetupM1Env) :
    (handleSetupM1 P ctx e).1.verify = ctx.verify := by
  obtain ⟨n, hctx⟩ := handleSetupM1_ctx P ctx e
  rcases setupM1Begin_cases P ctx e with ⟨_, hbeg⟩ | ⟨_, _, _, hbeg⟩
  · rw [hctx, hbeg]
    rfl
  · rw [hctx, hbeg]
    rfl

/-- The pair-setup handlers leave the pair-verify fields alone. -/
theorem pairSetupHandle_verify {ctx ctx' : PairCtx} {body : Bytes} {e : SetupEnv} {resp : Option Bytes}
    (h : pairSetupHandle P ctx body e = some (ctx', resp)) : ctx'.verify = ctx.verify := by
  unfold pairSetupHandle at h
  split at h
  · rw [result_eq h]
  split at h
  · have hctx : ctx' = (handleSetupM1 P ctx e.m1).1 := (congrArg Prod.fst (Option.some.inj h)).symm
    rw [hctx, handleSetupM1_verify]
  split at h
  · rcases handleSetupM3_cases h with rfl | ⟨_, _, _, rfl⟩
    · rfl
    · rfl
  split at h
  · rcases handleSetupM5_cases h with rfl | ⟨pt, n, _, rfl⟩
    · rfl
    · rcases setupM5ClientPk_cases ctx e.m5.sub pt with hpk | ⟨pk, hpk⟩
      · rw [hpk]
        rfl
      · rw [hpk]
        rfl
  · rw [result_eq h]

/-- A message of another number stores no X25519 key. -/
theorem not_storesClientEcdh {n : UInt8} {e : VerifyEnv} {items : List TlvItem} (hmsg : IsVerifyMsg n x e items)
    (h : n = 1 → verifyM1Pk items = none) (pk : Block 32) : ¬ StoresClientEcdh x pk := by
  rintro ⟨e', items', hmsg', hpk⟩
  obtain ⟨rfl, rfl, rfl⟩ := hmsg.unique hmsg'
  rw [h rfl] at hpk
  exact absurd hpk (by simp)

/-- A message of another number, or one that does not open, completes nothing. -/
theorem not_completesVerify {n : UInt8} {e : VerifyEnv} {items : List TlvItem} (hmsg : IsVerifyMsg n x e items)
    (h : n = 3 → ∃ code, verifyM3Open P x.pre items e.m3 = .error code) (ident : Bytes) (sig : Block 64)
    (report : SigCheck) : ¬ CompletesVerify P x ident sig report := by
  rintro ⟨e', items', hmsg', hopen, _⟩
  obtain ⟨rfl, rfl, rfl⟩ := hmsg.unique hmsg'
  obtain ⟨code, hcode⟩ := h rfl
  rw [hcode] at hopen
  exact absurd hopen (by simp)

theorem verifyEffect_m1 {ctx ctx' : PairCtx} {body : Bytes} {e : VerifyEnv} {items : List TlvItem}
    {resp : Option Bytes} (hin : incoming e.tlv body = some (1, items))
    (h : handleVerifyM1 P ctx items e.m1 = some (ctx', resp)) :
    VerifyEffect P ⟨ctx, .verify body e, ctx'⟩ := by
  have hmsg : IsVerifyMsg 1 ⟨ctx, .verify body e, ctx'⟩ e items := ⟨body, rfl, hin⟩
  rcases handleVerifyM1_cases h with ⟨hpk, hctx⟩ | ⟨pk, hpk, ⟨code, hecdh, hctx⟩ | ⟨ours, hecdh, hreply⟩⟩
  · refine .other (not_storesClientEcdh hmsg (fun _ => hpk))
      (not_completesVerify hmsg (fun h3 => absurd h3 (by decide))) ?_
    rw [hctx]
  · refine .clientEcdh pk ⟨e, items, hmsg, hpk⟩ ?_ hctx
    rintro pk' ours e' ⟨items', hmsg', hpk', hecdh'⟩
    obtain ⟨_, rfl, rfl⟩ := hmsg.unique hmsg'
    obtain rfl := Option.some.inj (hpk.symm.trans hpk')
    rw [hecdh] at hecdh'
    exact absurd (congrArg Prod.snd hecdh') (by simp)
  · have hstore : StoresEcdh P ⟨ctx, .verify body e, ctx'⟩ pk ours e := ⟨items, hmsg, hpk, hecdh⟩
    rcases verifyM1Reply_cases hreply with ⟨hno, hctx⟩ | ⟨hkey, hno, hctx⟩ | ⟨hkey, hctx⟩
    · exact .ecdh pk ours e hstore hno hctx
    · exact .encKey pk ours e hstore hkey hno hctx
    · exact .answered pk ours e hstore hkey hctx

/-- Every call has one of these effects. -/
theorem verifyEffect_of_step {ctx ctx' : PairCtx} {i : PairInput} (h : pairStep P ctx i ctx') :
    VerifyEffect P ⟨ctx, i, ctx'⟩ := by
  obtain ⟨resp, h⟩ := h
  cases i with
  | setup body e =>
      refine .other ?_ ?_ (pairSetupHandle_verify h)
      · rintro pk ⟨_, _, ⟨_, hi, _⟩, _⟩
        exact absurd hi (by simp)
      · rintro ident sig report ⟨_, _, ⟨_, hi, _⟩, _⟩
        exact absurd hi (by simp)
  | verify body e =>
      simp only [pairCall, pairVerifyHandle] at h
      split at h
      · rename_i hin
        refine .other ?_ ?_ (by rw [result_eq h])
        · rintro pk ⟨_, _, ⟨_, hi, hin'⟩, _⟩
          obtain ⟨rfl, rfl⟩ := PairInput.verify.inj hi
          rw [hin] at hin'
          exact absurd hin' (by simp)
        · rintro ident sig report ⟨_, _, ⟨_, hi, hin'⟩, _⟩
          obtain ⟨rfl, rfl⟩ := PairInput.verify.inj hi
          rw [hin] at hin'
          exact absurd hin' (by simp)
      rename_i n items hin
      have hmsg : IsVerifyMsg n ⟨ctx, .verify body e, ctx'⟩ e items := ⟨body, rfl, hin⟩
      split at h
      · rename_i h1
        subst h1
        exact verifyEffect_m1 hin h
      rename_i h1
      split at h
      · rename_i h3
        subst h3
        rcases handleVerifyM3_cases h with ⟨code, hopen, hctx⟩ | ⟨ident, sig, report, hopen, hrep, hctx⟩
        · exact .other (not_storesClientEcdh hmsg (fun h1 => absurd h1 (by decide)))
            (not_completesVerify hmsg (fun _ => ⟨code, hopen⟩)) (by rw [hctx])
        · exact .completed ident sig report ⟨e, items, hmsg, hopen, hrep⟩ hctx
      · rename_i h3
        exact .other (not_storesClientEcdh hmsg (fun hn => absurd hn h1))
          (not_completesVerify hmsg (fun hn => absurd hn h3)) (by rw [result_eq h])

/-! ## The pair-setup fields over a step

Of these only the client's long-term key is followed. It has one writer and one that clears its flag; the other
handlers are gone through to see that they are neither. -/

/-- The fields the pair-setup handlers write. -/
def PairCtx.setup (ctx : PairCtx) :
    Bytes × Block 16 × Block 32 × Option Bytes × Nat × Block 64 × Bool × Block 32 × Bool :=
  (ctx.pin, ctx.srpSalt, ctx.srpB, ctx.srpVerifier, ctx.srpVerifierLen, ctx.srpSessionKey,
    ctx.srpHasSessionKey, ctx.clientPk, ctx.clientPkSet)

/-- The pair-verify handlers leave the pair-setup fields alone. -/
theorem pairVerifyHandle_setup {ctx ctx' : PairCtx} {body : Bytes} {e : VerifyEnv} {resp : Option Bytes}
    (h : pairVerifyHandle P ctx body e = some (ctx', resp)) : ctx'.setup = ctx.setup := by
  unfold pairVerifyHandle at h
  split at h
  · rw [result_eq h]
  split at h
  · rcases handleVerifyM1_cases h with ⟨_, rfl⟩ | ⟨_, _, ⟨_, _, rfl⟩ | ⟨_, _, hreply⟩⟩
    · rfl
    · rfl
    · rcases verifyM1Reply_cases hreply with ⟨_, rfl⟩ | ⟨_, _, rfl⟩ | ⟨_, rfl⟩
      · rfl
      · rfl
      · rfl
  split at h
  · rcases handleVerifyM3_cases h with ⟨_, _, rfl⟩ | ⟨_, _, _, _, _, rfl⟩
    · rfl
    · rfl
  · rw [result_eq h]

/-- The client's key changes only when an M5 stores it and when an M1 clears its flag. -/
theorem clientPk_of_step {ctx ctx' : PairCtx} {i : PairInput} (h : pairStep P ctx i ctx')
    (hM1 : ¬ IsSetupM1 ⟨ctx, i, ctx'⟩) (hM5 : ∀ pk, ¬ StoresClientPk P ⟨ctx, i, ctx'⟩ pk) :
    ctx'.clientPk = ctx.clientPk ∧ ctx'.clientPkSet = ctx.clientPkSet := by
  obtain ⟨resp, h⟩ := h
  cases i with
  | setup body e =>
      simp only [pairCall, pairSetupHandle] at h
      split at h
      · rw [result_eq h]
        exact ⟨rfl, rfl⟩
      rename_i n items hin
      split at h
      · rename_i h1
        subst h1
        exact absurd ⟨body, e, items, rfl, hin⟩ hM1
      split at h
      · rcases handleSetupM3_cases h with rfl | ⟨_, _, _, rfl⟩
        · exact ⟨rfl, rfl⟩
        · exact ⟨rfl, rfl⟩
      split at h
      · rename_i h5
        subst h5
        rcases handleSetupM5_cases h with rfl | ⟨pt, n, hopen, rfl⟩
        · exact ⟨rfl, rfl⟩
        · rcases setupM5ClientPk_cases ctx e.m5.sub pt with hpk | ⟨pk, hpk⟩
          · rw [hpk]
            exact ⟨rfl, rfl⟩
          · exact absurd ⟨body, e, items, pt, rfl, hin, hopen, hpk⟩ (hM5 pk)
      · rw [result_eq h]
        exact ⟨rfl, rfl⟩
  | verify body e =>
      have hsetup := pairVerifyHandle_setup h
      simp only [PairCtx.setup, Prod.mk.injEq] at hsetup
      exact ⟨hsetup.2.2.2.2.2.2.2.1, hsetup.2.2.2.2.2.2.2.2⟩

theorem StoresClientPk.post {x : PairStep} {pk : Block 32} (h : StoresClientPk P x pk)
    (hs : pairStep P x.pre x.input x.post) : x.post.clientPk = pk ∧ x.post.clientPkSet = true := by
  obtain ⟨body, e, items, pt, hi, hin, hopen, hpk⟩ := h
  obtain ⟨resp, hcall⟩ := hs
  rw [hi] at hcall
  simp only [pairCall, pairSetupHandle, hin, handleSetupM5, hopen, hpk] at hcall
  simp only [show (5 : UInt8) ≠ 1 by decide, show (5 : UInt8) ≠ 3 by decide, if_false, if_true,
    Bool.true_eq_false] at hcall
  obtain ⟨n, hctx⟩ := setupM5Reply_ctx hcall
  rw [hctx]
  exact ⟨rfl, rfl⟩

/-- M1 forgets the client's key. -/
theorem IsSetupM1.post {x : PairStep} (h : IsSetupM1 x) (hs : pairStep P x.pre x.input x.post) :
    x.post.clientPkSet = false := by
  obtain ⟨body, e, items, hi, hin⟩ := h
  obtain ⟨resp, hcall⟩ := hs
  rw [hi] at hcall
  simp only [pairCall, pairSetupHandle, hin, if_true] at hcall
  obtain ⟨n, hctx⟩ := handleSetupM1_ctx P x.pre e.m1
  have hpost : x.post = (handleSetupM1 P x.pre e.m1).1 := (congrArg Prod.fst (Option.some.inj hcall)).symm
  rw [hpost, hctx]
  rcases setupM1Begin_cases P x.pre e.m1 with ⟨_, hbeg⟩ | ⟨_, _, _, hbeg⟩
  · rw [hbeg]
    rfl
  · rw [hbeg]
    rfl

end Showcase
