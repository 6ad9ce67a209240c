import Showcase.Pair.Context

/-!
# `Pair.Setup` — the pair-setup handlers

`handle_setup_m1`, `handle_setup_m3`, `handle_setup_m5` and `pair_setup_handle` of `carplay_pair.c`. The part
of each handler that decides between an error and an answer has a name of its own (`setupM1Begin`,
`setupM3Check`, `setupM5Open`). A handler has no result (`none`) where the source uses a NULL pointer.
-/

namespace Showcase

open Lib

/-! ## M1 -/

/-- The outcomes of one `handle_setup_m1`. -/
structure SetupM1Env where
  sv : SaltVerifierEnv
  /-- What `RAND_bytes(ctx->srp_b, 32)` draws; `none` leaves `srp_b` as it is. -/
  b : Option (Block 32)
  createB : CreateBEnv
  /-- The buffer of the answer. -/
  resp : Bool

/-- The reset at the start of M1. -/
def setupM1Reset (ctx : PairCtx) : PairCtx :=
  { ctx with srpVerifier := none, srpHasSessionKey := false, clientPkSet := false }

/-- M1 up to the answer: the new context, and `B` unless an error exit was taken. -/
def setupM1Begin (P : OpenSSL) (ctx : PairCtx) (e : SetupM1Env) : PairCtx × Option Bytes :=
  let ctx := setupM1Reset ctx
  match srpCreateSaltVerifier P srpUsername ctx.pin e.sv with
  | (salt, none) => ({ ctx with srpSalt := salt.getD ctx.srpSalt }, none)
  | (salt, some verifier) =>
      let ctx := { ctx with
        srpSalt := salt.getD ctx.srpSalt
        srpVerifier := some verifier
        srpVerifierLen := verifier.length
        srpB := e.b.getD ctx.srpB }
      (ctx, srpCreateB P verifier ctx.srpB e.createB)

/-- `handle_setup_m1`. -/
def handleSetupM1 (P : OpenSSL) (ctx : PairCtx) (e : SetupM1Env) : PairCtx × Option Bytes :=
  match setupM1Begin P ctx e with
  | (ctx, none) => (ctx, makeErrorResponse e.resp 2 1)
  | (ctx, some B) =>
      ({ ctx with setupState := 2 },
        tlvBuild e.resp [⟨tlvState, [2]⟩, ⟨tlvSalt, ctx.srpSalt.val⟩, ⟨tlvPublicKey, B⟩])

/-! ## M3 -/

/-- The outcomes of one `handle_setup_m3`. -/
structure SetupM3Env where
  ver : VerifierEnv
  resp : Bool

/-- M3 up to the answer: the server proof and the session key, or an error exit. -/
def setupM3Check (P : OpenSSL) (ctx : PairCtx) (items : List TlvItem) (e : VerifierEnv) :
    Option (Option (Block 64 × Block 64)) :=
  match tlvFind items tlvPublicKey, tlvFind items tlvProof with
  | some A, some proof =>
      if proof.length ≠ 64 then some none
      else
        match srpVerifierNew P srpUsername ctx.srpSalt ctx.srpVerifier ctx.srpVerifierLen A ctx.srpB e with
        | none => none
        | some none => some none
        | some (some ver) => some (srpVerifierVerify ver proof)
  | _, _ => some none

/-- `handle_setup_m3`. -/
def handleSetupM3 (P : OpenSSL) (ctx : PairCtx) (items : List TlvItem) (e : SetupM3Env) :
    Option (PairCtx × Option Bytes) :=
  match setupM3Check P ctx items e.ver with
  | none => none
  | some none => some (ctx, makeErrorResponse e.resp 4 2)
  | some (some (serverM2, sessionKey)) =>
      some ({ ctx with srpSessionKey := sessionKey, srpHasSessionKey := true, setupState := 4 },
        tlvBuild e.resp [⟨tlvState, [4]⟩, ⟨tlvProof, serverM2.val⟩])

/-! ## M5 -/

/-- The outcomes of one `handle_setup_m5`. -/
structure SetupM5Env where
  /-- What a failed HMAC call leaves in the encryption key. -/
  encKey : Option (Block 32)
  plaintext : Bool
  decrypt : Bool
  sub : TlvAlloc
  accessoryX : Option (Block 32)
  /-- `malloc(sign_msg_len)` and `EVP_MD_CTX_new`, used without a NULL check. -/
  signBufs : Bool
  signKey : Bool
  /-- What a failed `EVP_DigestSign` leaves in the signature. -/
  sign : Option (Block 64)
  subBuf : Bool
  encCt : Bool
  encrypt : Bool
  encOut : Bool
  resp : Bool

/-- `"90:B9:31:AC:86:A0"`. -/
def deviceId : Bytes := ascii "90:B9:31:AC:86:A0"

def noncePsMsg05 : Block 8 := ⟨ascii "PS-Msg05", by decide⟩
def noncePsMsg06 : Block 8 := ⟨ascii "PS-Msg06", by decide⟩

/-- M5: the client's Ed25519 key from the decrypted sub-TLV, or from a raw 32-byte plaintext when the
    sub-TLV's table could not be allocated. -/
def setupM5ClientPk (ctx : PairCtx) (sub : TlvAlloc) (pt : Bytes) : PairCtx :=
  match tlvParse sub pt with
  | some items =>
      match (tlvFind items tlvPublicKey).bind (fun pk => Block.ofBytes? 32 (pk.take 32)) with
      | some pk => { ctx with clientPk := pk, clientPkSet := true }
      | none => ctx
  | none =>
      match Block.ofBytes? 32 pt with
      | some pk => { ctx with clientPk := pk, clientPkSet := true }
      | none => ctx

/-- M5: our signed and encrypted sub-TLV. -/
def setupM5Reply (P : OpenSSL) (ctx : PairCtx) (encKey : Block 32) (e : SetupM5Env) :
    Option (PairCtx × Option Bytes) :=
  let accessoryX := unchecked e.accessoryX
    (P.hkdfSha512 ctx.srpSessionKey.val (ascii "Pair-Setup-Accessory-Sign-Salt")
      (ascii "Pair-Setup-Accessory-Sign-Info") 32 OpenSSL.keyLength_le)
  if e.signBufs = false then none
  else
    let signMsg := accessoryX.val ++ deviceId ++ ctx.ourPk.val
    let signature :=
      if e.signKey then unchecked e.sign (P.ed25519Sign ctx.ourSk signMsg) else Block.zero 64
    match tlvBuild e.subBuf [⟨tlvIdentifier, deviceId⟩, ⟨tlvPublicKey, ctx.ourPk.val⟩,
        ⟨tlvSignature, signature.val⟩] with
    | none => some (ctx, makeErrorResponse e.resp 6 1)
    | some subBuf =>
        if e.encCt = false then some (ctx, makeErrorResponse e.resp 6 1)
        else
          match P.chachaEncrypt e.encrypt encKey noncePsMsg06 subBuf with
          | none => some (ctx, makeErrorResponse e.resp 6 1)
          | some (ct, tag) =>
              if e.encOut = false then some (ctx, makeErrorResponse e.resp 6 1)
              else
                some ({ ctx with setupState := 6 },
                  tlvBuild e.resp [⟨tlvState, [6]⟩, ⟨tlvEncryptedData, ct ++ tag.val⟩])

/-- The key of the M5 and M6 payloads. -/
def setupM5EncKey (P : OpenSSL) (ctx : PairCtx) (e : SetupM5Env) : Block 32 :=
  unchecked e.encKey
    (P.hkdfSha512 ctx.srpSessionKey.val (ascii "Pair-Setup-Encrypt-Salt")
      (ascii "Pair-Setup-Encrypt-Info") 32 OpenSSL.keyLength_le)

/-- M5 up to the decrypted sub-TLV, or an error code. -/
def setupM5Open (P : OpenSSL) (ctx : PairCtx) (items : List TlvItem) (e : SetupM5Env) :
    Except UInt8 Bytes :=
  if ctx.srpHasSessionKey = false then .error 2
  else
    match (tlvFind items tlvEncryptedData).bind splitTag with
    | none => .error 2
    | some (ct, tag) =>
        if ct.length = 0 then .error 2
        else if e.plaintext = false then .error 1
        else
          match P.chachaDecrypt e.decrypt (setupM5EncKey P ctx e) noncePsMsg05 ct tag with
          | none => .error 2
          | some pt => if pt.length = 0 then .error 2 else .ok pt

/-- `handle_setup_m5`. -/
def handleSetupM5 (P : OpenSSL) (ctx : PairCtx) (items : List TlvItem) (e : SetupM5Env) :
    Option (PairCtx × Option Bytes) :=
  match setupM5Open P ctx items e with
  | .error code => some (ctx, makeErrorResponse e.resp 6 code)
  | .ok pt =>
      let ctx := setupM5ClientPk ctx e.sub pt
      if ctx.clientPkSet = false then some (ctx, makeErrorResponse e.resp 6 2)
      else setupM5Reply P ctx (setupM5EncKey P ctx e) e

/-! ## The dispatcher -/

/-- The outcomes of one `pair_setup_handle`. -/
structure SetupEnv where
  tlv : TlvAlloc
  m1 : SetupM1Env
  m3 : SetupM3Env
  m5 : SetupM5Env
  resp : Bool

/-- `pair_setup_handle`. -/
def pairSetupHandle (P : OpenSSL) (ctx : PairCtx) (body : Bytes) (e : SetupEnv) :
    Option (PairCtx × Option Bytes) :=
  match incoming e.tlv body with
  | none => some (ctx, none)
  | some (state, items) =>
      if state = 1 then some (handleSetupM1 P ctx e.m1)
      else if state = 3 then handleSetupM3 P ctx items e.m3
      else if state = 5 then handleSetupM5 P ctx items e.m5
      else some (ctx, makeErrorResponse e.resp (state + 1) 1)

/-! ## What each handler can do to the context

Every handler is unfolded here once, exit by exit, and the contexts it can leave are collected; the proofs about runs
only look at these. M5 stores something only behind a message that opens, so the messages that do are characterised on
the way. -/

variable {P : OpenSSL} {ctx ctx' : PairCtx} {items : List TlvItem} {resp : Option Bytes}

/-- M1 touches the SRP fields, the two flags it resets and `setup_state`. -/
theorem handleSetupM1_ctx (P : OpenSSL) (ctx : PairCtx) (e : SetupM1Env) :
    ∃ n, (handleSetupM1 P ctx e).1 = { (setupM1Begin P ctx e).1 with setupState := n } := by
  unfold handleSetupM1
  split
  · rename_i c h
    exact ⟨c.setupState, by rw [h]⟩
  · rename_i c B h
    exact ⟨2, by rw [h]⟩

/-- The context M1 leaves: the flags reset, and salt, verifier and `b` as far as it got. -/
theorem setupM1Begin_cases (P : OpenSSL) (ctx : PairCtx) (e : SetupM1Env) :
    (∃ salt, setupM1Begin P ctx e = ({ setupM1Reset ctx with srpSalt := salt }, none)) ∨
    (∃ salt verifier, srpCreateSaltVerifier P srpUsername ctx.pin e.sv = (some salt, some verifier) ∧
      setupM1Begin P ctx e =
        ({ setupM1Reset ctx with
            srpSalt := salt
            srpVerifier := some verifier
            srpVerifierLen := verifier.length
            srpB := e.b.getD ctx.srpB }, srpCreateB P verifier (e.b.getD ctx.srpB) e.createB)) := by
  have hpin : (setupM1Reset ctx).pin = ctx.pin := rfl
  rcases hsv : srpCreateSaltVerifier P srpUsername ctx.pin e.sv with ⟨salt, _ | verifier⟩
  · refine .inl ⟨salt.getD ctx.srpSalt, ?_⟩
    simp only [setupM1Begin, hpin, hsv]
    rfl
  · obtain ⟨salt, rfl, _⟩ := srpCreateSaltVerifier_eq hsv
    refine .inr ⟨salt, verifier, rfl, ?_⟩
    simp only [setupM1Begin, hpin, hsv]
    rfl

/-- M3 changes nothing, or accepts the proof. -/
theorem handleSetupM3_cases {e : SetupM3Env} (h : handleSetupM3 P ctx items e = some (ctx', resp)) :
    ctx' = ctx ∨ ∃ serverM2 sessionKey,
      setupM3Check P ctx items e.ver = some (some (serverM2, sessionKey)) ∧
      ctx' = { ctx with srpSessionKey := sessionKey, srpHasSessionKey := true, setupState := 4 } := by
  unfold handleSetupM3 at h
  split at h
  · exact absurd h (by simp)
  · exact .inl (result_eq h)
  · rename_i serverM2 sessionKey hc
    exact .inr ⟨serverM2, sessionKey, hc, result_eq h⟩

/-- M5 stores at most the client's key. -/
theorem setupM5ClientPk_cases (ctx : PairCtx) (sub : TlvAlloc) (pt : Bytes) :
    setupM5ClientPk ctx sub pt = ctx ∨
      ∃ pk, setupM5ClientPk ctx sub pt = { ctx with clientPk := pk, clientPkSet := true } := by
  unfold setupM5ClientPk
  split
  · split
    · exact .inr ⟨_, rfl⟩
    · exact .inl rfl
  · split
    · exact .inr ⟨_, rfl⟩
    · exact .inl rfl

/-- The Ed25519 key an M5 carries: the first 32 bytes of the PublicKey of its sub-TLV, or a raw plaintext of 32
    bytes when the sub-TLV's table could not be allocated. -/
def setupM5Pk (sub : TlvAlloc) (pt : Bytes) : Option (Block 32) :=
  match tlvParse sub pt with
  | some items => (tlvFind items tlvPublicKey).bind fun pk => Block.ofBytes? 32 (pk.take 32)
  | none => Block.ofBytes? 32 pt

/-- The key an M5 carries is the key that it stores. -/
theorem setupM5ClientPk_eq (ctx : PairCtx) (sub : TlvAlloc) (pt : Bytes) :
    setupM5ClientPk ctx sub pt =
      match setupM5Pk sub pt with
      | some pk => { ctx with clientPk := pk, clientPkSet := true }
      | none => ctx := by
  unfold setupM5ClientPk setupM5Pk
  cases tlvParse sub pt with
  | none => rfl
  | some items => rfl

/-- No exit of M5 behind the client's key is taken. -/
structure SetupM5Env.Answers (e : SetupM5Env) : Prop where
  signBufs : e.signBufs = true
  subBuf : e.subBuf = true
  encCt : e.encCt = true
  encrypt : e.encrypt = true
  encOut : e.encOut = true

/-- Key material of the M6 signature. -/
def setupM5AccessoryX (P : OpenSSL) (ctx : PairCtx) (e : SetupM5Env) : Block 32 :=
  unchecked e.accessoryX
    (P.hkdfSha512 ctx.srpSessionKey.val (ascii "Pair-Setup-Accessory-Sign-Salt")
      (ascii "Pair-Setup-Accessory-Sign-Info") 32 OpenSSL.keyLength_le)

/-- The signature of M6. -/
def setupM5Signature (P : OpenSSL) (ctx : PairCtx) (e : SetupM5Env) : Block 64 :=
  if e.signKey then
    unchecked e.sign (P.ed25519Sign ctx.ourSk ((setupM5AccessoryX P ctx e).val ++ deviceId ++ ctx.ourPk.val))
  else Block.zero 64

/-- The items M6 is sealed from. -/
def setupM6SubItems (P : OpenSSL) (ctx : PairCtx) (e : SetupM5Env) : List TlvItem :=
  [⟨tlvIdentifier, deviceId⟩, ⟨tlvPublicKey, ctx.ourPk.val⟩, ⟨tlvSignature, (setupM5Signature P ctx e).val⟩]

/-- The items of M6. -/
def setupM6Items (P : OpenSSL) (ctx : PairCtx) (encKey : Block 32) (e : SetupM5Env) : List TlvItem :=
  let sealed := P.chachaSeal encKey (OpenSSL.nonce12 noncePsMsg06) [] ((setupM6SubItems P ctx e).flatMap tlvEncode)
  [⟨tlvState, [6]⟩, ⟨tlvEncryptedData, sealed.1 ++ sealed.2.val⟩]

/-- Once the client's key is known, M5 ends in an error or in M6. -/
theorem setupM5Reply_exits {encKey : Block 32} {e : SetupM5Env}
    (h : setupM5Reply P ctx encKey e = some (ctx', resp)) :
    (¬ e.Answers ∧ ctx' = ctx ∧ resp = makeErrorResponse e.resp 6 1) ∨
    (e.Answers ∧ ctx' = { ctx with setupState := 6 } ∧
      resp = tlvBuild e.resp (setupM6Items P ctx encKey e)) := by
  unfold setupM5Reply at h
  simp only at h
  by_cases hbufs : e.signBufs = true
  case neg => simp [hbufs] at h
  rw [if_neg (by simp [hbufs])] at h
  by_cases hsub : e.subBuf = true
  case neg =>
    simp only [hsub, tlvBuild, if_false, Bool.false_eq_true] at h
    exact .inl ⟨fun ha => hsub ha.subBuf, result_eq h, answer_eq h⟩
  simp only [hsub, tlvBuild_true, OpenSSL.chachaEncrypt] at h
  by_cases hct : e.encCt = true
  case neg =>
    rw [if_pos (by simpa using hct)] at h
    exact .inl ⟨fun ha => hct ha.encCt, result_eq h, answer_eq h⟩
  by_cases henc : e.encrypt = true
  case neg =>
    simp only [hct, henc, Bool.true_eq_false, if_false, Bool.false_eq_true] at h
    exact .inl ⟨fun ha => henc ha.encrypt, result_eq h, answer_eq h⟩
  by_cases hout : e.encOut = true
  case neg =>
    simp only [hct, henc, hout, Bool.true_eq_false, if_false, if_true] at h
    exact .inl ⟨fun ha => hout ha.encOut, result_eq h, answer_eq h⟩
  simp only [hct, henc, hout, Bool.true_eq_false, if_false, if_true] at h
  exact .inr ⟨⟨hbufs, hsub, hct, henc, hout⟩, result_eq h, answer_eq h⟩

theorem setupM5Reply_ctx {encKey : Block 32} {e : SetupM5Env}
    (h : setupM5Reply P ctx encKey e = some (ctx', resp)) : ∃ n, ctx' = { ctx with setupState := n } := by
  rcases setupM5Reply_exits h with ⟨_, hctx, _⟩ | ⟨_, hctx, _⟩
  · exact ⟨ctx.setupState, hctx⟩
  · exact ⟨6, hctx⟩

/-- The EncryptedData of a message opens to `pt` under `key`. -/
def OpensTo (P : OpenSSL) (key : Block 32) (nonce : Block 8) (items : List TlvItem) (pt : Bytes) : Prop :=
  ∃ enc ct tag, tlvFind items tlvEncryptedData = some enc ∧ splitTag enc = some (ct, tag) ∧
    P.chachaOpen key (OpenSSL.nonce12 nonce) [] ct tag = some pt

/-- A message opens to one text at most. -/
theorem OpensTo.unique {key : Block 32} {nonce : Block 8} {pt pt' : Bytes} (h : OpensTo P key nonce items pt)
    (h' : OpensTo P key nonce items pt') : pt = pt' := by
  obtain ⟨enc, ct, tag, hfind, hsplit, hopen⟩ := h
  obtain ⟨enc', ct', tag', hfind', hsplit', hopen'⟩ := h'
  obtain rfl := Option.some.inj (hfind.symm.trans hfind')
  obtain ⟨rfl, rfl⟩ := Prod.mk.inj (Option.some.inj (hsplit.symm.trans hsplit'))
  exact Option.some.inj (hopen.symm.trans hopen')

/-- An M5 opens to the text `pt` under `key`: M4 was sent, the message holds the text, sealed, and neither the buffer
    for it nor the decryption fails. -/
structure M5Opens (P : OpenSSL) (ctx : PairCtx) (key : Block 32) (items : List TlvItem) (e : SetupM5Env)
    (pt : Bytes) : Prop where
  session : ctx.srpHasSessionKey = true
  plaintext : e.plaintext = true
  decrypt : e.decrypt = true
  opens : OpensTo P key noncePsMsg05 items pt
  text : pt.length ≠ 0

/-- M5 gets as far as a sub-TLV with the messages that open. -/
theorem setupM5Open_iff {pt : Bytes} {e : SetupM5Env} :
    setupM5Open P ctx items e = .ok pt ↔ M5Opens P ctx (setupM5EncKey P ctx e) items e pt := by
  constructor
  · intro h
    unfold setupM5Open at h
    split at h
    · exact nomatch h
    rename_i hkey
    split at h
    · exact nomatch h
    rename_i ct tag henc
    obtain ⟨enc, hfind, hsplit⟩ := Option.bind_eq_some_iff.mp henc
    split at h
    · exact nomatch h
    split at h
    · exact nomatch h
    rename_i hbuf
    split at h
    · exact nomatch h
    rename_i pt' hdec
    split at h
    · exact nomatch h
    rename_i htext
    obtain rfl := Except.ok.inj h
    unfold OpenSSL.chachaDecrypt at hdec
    split at hdec
    · rename_i hcipher
      exact ⟨by simpa using hkey, by simpa using hbuf, hcipher, ⟨enc, ct, tag, hfind, hsplit, hdec⟩, htext⟩
    · exact nomatch hdec
  · rintro ⟨hkey, hbuf, hcipher, ⟨enc, ct, tag, hfind, hsplit, hopen⟩, htext⟩
    have hct : ct.length ≠ 0 := P.open_length hopen ▸ htext
    have hdec : P.chachaDecrypt true (setupM5EncKey P ctx e) noncePsMsg05 ct tag = some pt := hopen
    unfold setupM5Open
    rw [hfind, Option.bind_some, hsplit]
    simp only [hkey, hbuf, hcipher, hct, hdec, htext, Bool.true_eq_false, if_false]

/-- M5 does not open its message, or stores what key it carries and ends without one, in an error, or in M6. -/
theorem handleSetupM5_exits {e : SetupM5Env} (h : handleSetupM5 P ctx items e = some (ctx', resp)) :
    (∃ code, setupM5Open P ctx items e = .error code ∧ ctx' = ctx ∧ resp = makeErrorResponse e.resp 6 code) ∨
    ∃ pt, setupM5Open P ctx items e = .ok pt ∧
      ((ctx' = setupM5ClientPk ctx e.sub pt ∧
          ((setupM5ClientPk ctx e.sub pt).clientPkSet = false ∨ ¬ e.Answers) ∧
          ∃ code, resp = makeErrorResponse e.resp 6 code) ∨
        ((setupM5ClientPk ctx e.sub pt).clientPkSet = true ∧ e.Answers ∧
          ctx' = { setupM5ClientPk ctx e.sub pt with setupState := 6 } ∧
          resp = tlvBuild e.resp (setupM6Items P ctx (setupM5EncKey P ctx e) e))) := by
  unfold handleSetupM5 at h
  split at h
  · rename_i code hopen
    exact .inl ⟨code, hopen, result_eq h, answer_eq h⟩
  · rename_i pt hopen
    refine .inr ⟨pt, hopen, ?_⟩
    simp only at h
    split at h
    · rename_i hset
      exact .inl ⟨result_eq h, .inl hset, 2, answer_eq h⟩
    · rename_i hset
      rcases setupM5Reply_exits h with ⟨hno, hctx, hresp⟩ | ⟨ha, hctx, hresp⟩
      · exact .inl ⟨hctx, .inr hno, 1, hresp⟩
      · refine .inr ⟨by simpa using hset, ha, hctx, ?_⟩
        -- M6 is made from fields that the client's key is not among
        rcases setupM5ClientPk_cases ctx e.sub pt with hpk | ⟨pk, hpk⟩
        · rw [hresp, hpk]
        · rw [hresp, hpk]
          rfl

/-- M5 leaves the context alone, or opens its message and touches the client's key, its flag and `setup_state`
    only. -/
theorem handleSetupM5_cases {e : SetupM5Env} (h : handleSetupM5 P ctx items e = some (ctx', resp)) :
    ctx' = ctx ∨ ∃ pt n, setupM5Open P ctx items e = .ok pt ∧
      ctx' = { setupM5ClientPk ctx e.sub pt with setupState := n } := by
  rcases handleSetupM5_exits h with ⟨_, _, hctx, _⟩ | ⟨pt, hopen, ⟨hctx, _⟩ | ⟨_, _, hctx, _⟩⟩
  · exact .inl hctx
  · exact .inr ⟨pt, (setupM5ClientPk ctx e.sub pt).setupState, hopen, hctx⟩
  · exact .inr ⟨pt, 6, hopen, hctx⟩

end Showcase
