import Showcase.Pair.Setup

/-!
# `Pair.Verify` — the pair-verify handlers

`handle_verify_m1`, `handle_verify_m3` and `pair_verify_handle` of `carplay_pair.c` (the OpenSSL 1.1.1+ build).

`handle_verify_m1` is cut at the points where it changes the context: `verifyM1Ecdh` up to the stored ECDH
values, `verifyM1Reply` from there to the answer.
-/

namespace Showcase

open Lib

/-! ## M1 -/

/-- The outcomes of one `handle_verify_m1`. -/
structure VerifyM1Env where
  pctx : Bool
  /-- The X25519 private key `EVP_PKEY_keygen` makes; `none` when it fails. -/
  keygen : Option (Block 32)
  rawPk : Option (Block 32)
  theirKey : Bool
  /-- What a failed `EVP_PKEY_derive` leaves in `verify_shared`. -/
  derive : Option (Block 32)
  sigMsg : Bool
  edKey : Bool
  /-- `EVP_MD_CTX_new`, used without a NULL check. -/
  mdctx : Bool
  sign : Option (Block 64)
  subBuf : Bool
  /-- What a failed HMAC call leaves in `verify_enc_key`. -/
  encKey : Option (Block 32)
  encCt : Bool
  encrypt : Bool
  encOut : Bool
  resp : Bool

def noncePvMsg02 : Block 8 := ⟨ascii "PV-Msg02", by decide⟩
def noncePvMsg03 : Block 8 := ⟨ascii "PV-Msg03", by decide⟩

/-- The client's X25519 key of an M1. -/
def verifyM1Pk (items : List TlvItem) : Option (Block 32) :=
  (tlvFind items tlvPublicKey).bind (Block.ofBytes? 32)

/-- M1 up to the stored ECDH values: the new context, and an error code for each exit before them. -/
def verifyM1Ecdh (P : OpenSSL) (ctx : PairCtx) (pk : Block 32) (e : VerifyM1Env) : PairCtx × Option UInt8 :=
  let ctx := { ctx with clientEcdhPk := pk, clientEcdhPkSet := true }
  if e.pctx = false then (ctx, some 1)
  else
    match e.keygen with
    | none => (ctx, some 1)
    | some ours =>
        if e.theirKey = false then (ctx, some 2)
        else
          ({ ctx with
              verifyShared := unchecked e.derive (P.x25519 ours pk)
              verifyEcdhOurs := some (.next ctx.verifyEcdhOurs ours)
              verifyOurEcdhPk := unchecked e.rawPk (P.x25519Public ours) }, none)

/-- M1 from the signature to the answer. -/
def verifyM1Reply (P : OpenSSL) (ctx : PairCtx) (e : VerifyM1Env) : Option (PairCtx × Option Bytes) :=
  if e.sigMsg = false then some (ctx, makeErrorResponse e.resp 2 1)
  else if e.edKey = false then some (ctx, makeErrorResponse e.resp 2 1)
  else if e.mdctx = false then none
  else
    let sigMsg := ctx.verifyOurEcdhPk.val ++ deviceId ++ ctx.clientEcdhPk.val
    let signature := unchecked e.sign (P.ed25519Sign ctx.ourSk sigMsg)
    match tlvBuild e.subBuf [⟨tlvIdentifier, deviceId⟩, ⟨tlvSignature, signature.val⟩] with
    | none => some (ctx, makeErrorResponse e.resp 2 1)
    | some subBuf =>
        let ctx := { ctx with verifyEncKey := unchecked e.encKey (verifyEncryptKey P ctx.verifyShared) }
        if e.encCt = false then some (ctx, makeErrorResponse e.resp 2 1)
        else
          match P.chachaEncrypt e.encrypt ctx.verifyEncKey noncePvMsg02 subBuf with
          | none => some (ctx, makeErrorResponse e.resp 2 1)
          | some (ct, tag) =>
              if e.encOut = false then some (ctx, makeErrorResponse e.resp 2 1)
              else
                some ({ ctx with verifyState := 2 },
                  tlvBuild e.resp [⟨tlvState, [2]⟩, ⟨tlvPublicKey, ctx.verifyOurEcdhPk.val⟩,
                    ⟨tlvEncryptedData, ct ++ tag.val⟩])

/-- `handle_verify_m1`. -/
def handleVerifyM1 (P : OpenSSL) (ctx : PairCtx) (items : List TlvItem) (e : VerifyM1Env) :
    Option (PairCtx × Option Bytes) :=
  match verifyM1Pk items with
  | none => some (ctx, makeErrorResponse e.resp 2 2)
  | some pk =>
      match verifyM1Ecdh P ctx pk e with
      | (ctx, some code) => some (ctx, makeErrorResponse e.resp 2 code)
      | (ctx, none) => verifyM1Reply P ctx e

/-! ## M3 -/

/-- The outcomes of one `handle_verify_m3`. -/
structure VerifyM3Env where
  pt : Bool
  decrypt : Bool
  sub : TlvAlloc
  verifyMsg : Bool
  clientEd : Bool
  /-- `EVP_MD_CTX_new`, used without a NULL check. -/
  vctx : Bool
  resp : Bool

/-- M3 up to the signature check: identifier and signature of the decrypted sub-TLV, or an error code. -/
def verifyM3Open (P : OpenSSL) (ctx : PairCtx) (items : List TlvItem) (e : VerifyM3Env) :
    Except UInt8 (Bytes × Block 64) :=
  match (tlvFind items tlvEncryptedData).bind splitTag with
  | none => .error 2
  | some (ct, tag) =>
      if e.pt = false then .error 1
      else
        match P.chachaDecrypt e.decrypt ctx.verifyEncKey noncePvMsg03 ct tag with
        | none => .error 2
        | some pt =>
            match tlvParse e.sub pt with
            | none => .error 2
            | some sub =>
                match tlvFind sub tlvIdentifier, (tlvFind sub tlvSignature).bind (Block.ofBytes? 64) with
                | some ident, some sig => .ok (ident, sig)
                | _, _ => .error 2

/-- What the signature check of M3 reports. -/
inductive SigCheck where
  /-- "Ed25519 signature verification PASSED" -/
  | passed
  /-- "Ed25519 signature verification FAILED", "Proceeding anyway (accepting client)" -/
  | failed
  /-- "Could not load client Ed25519 pk for verification" -/
  | notLoaded
  /-- The message could not be allocated: nothing is reported. -/
  | noMemory
  /-- "Skipping signature verification" -/
  | skipped
deriving Repr, DecidableEq

/-- The message an M3 signature is checked against. -/
def verifyMsg (ctx : PairCtx) (ident : Bytes) : Bytes :=
  ctx.clientEcdhPk.val ++ ident ++ ctx.verifyOurEcdhPk.val

/-- The signature check of M3. Its outcome is printed and otherwise unused. -/
def verifySignature (P : OpenSSL) (ctx : PairCtx) (ident : Bytes) (sig : Block 64) (e : VerifyM3Env) :
    Option SigCheck :=
  if ctx.clientPkSet ∧ ctx.clientEcdhPkSet then
    if e.verifyMsg = false then some .noMemory
    else if e.clientEd = false then some .notLoaded
    else if e.vctx = false then none
    else if P.ed25519Verify ctx.clientPk sig (verifyMsg ctx ident) then some .passed
    else some .failed
  else some .skipped

/-- `handle_verify_m3`. -/
def handleVerifyM3 (P : OpenSSL) (ctx : PairCtx) (items : List TlvItem) (e : VerifyM3Env) :
    Option (PairCtx × Option Bytes) :=
  match verifyM3Open P ctx items e with
  | .error code => some (ctx, makeErrorResponse e.resp 4 code)
  | .ok (ident, sig) =>
      match verifySignature P ctx ident sig e with
      | none => none
      | some _ => some ({ ctx with verifyState := 4 }, tlvBuild e.resp [⟨tlvState, [4]⟩])

/-! ## What each handler can do to the context

As the handler is cut where it changes the context, each exit lies in one of its parts and leaves what the parts in
front of it have stored. -/

variable {P : OpenSSL} {ctx ctx' : PairCtx} {items : List TlvItem} {resp : Option Bytes}

/-- The client key of an M1 in the context: all that is stored before our key pair is made. -/
def PairCtx.withClientEcdh (ctx : PairCtx) (pk : Block 32) : PairCtx :=
  { ctx with clientEcdhPk := pk, clientEcdhPkSet := true }

/-- The ECDH values of an M1 in the context. -/
def PairCtx.withEcdh (P : OpenSSL) (ctx : PairCtx) (pk ours : Block 32) (e : VerifyM1Env) : PairCtx :=
  { ctx.withClientEcdh pk with
    verifyShared := unchecked e.derive (P.x25519 ours pk)
    verifyEcdhOurs := some (.next ctx.verifyEcdhOurs ours)
    verifyOurEcdhPk := unchecked e.rawPk (P.x25519Public ours) }

/-- The pair-verify key of an M1 in the context. -/
def PairCtx.withEncKey (P : OpenSSL) (ctx : PairCtx) (e : VerifyM1Env) : PairCtx :=
  { ctx with verifyEncKey := unchecked e.encKey (verifyEncryptKey P ctx.verifyShared) }

theorem verifyM1Ecdh_cases (P : OpenSSL) (ctx : PairCtx) (pk : Block 32) (e : VerifyM1Env) :
    (∃ code, verifyM1Ecdh P ctx pk e = (ctx.withClientEcdh pk, some code)) ∨
    (∃ ours, e.keygen = some ours ∧ verifyM1Ecdh P ctx pk e = (ctx.withEcdh P pk ours e, none)) := by
  unfold verifyM1Ecdh
  simp only
  split
  · exact .inl ⟨1, rfl⟩
  split
  · exact .inl ⟨1, rfl⟩
  · rename_i ours hours
    split
    · exact .inl ⟨2, rfl⟩
    · exact .inr ⟨ours, hours, rfl⟩

/-- No exit of M1 between the stored ECDH values and the pair-verify key is taken. -/
structure VerifyM1Env.ReachesKey (e : VerifyM1Env) : Prop where
  sigMsg : e.sigMsg = true
  edKey : e.edKey = true
  subBuf : e.subBuf = true

/-- No exit of M1 behind the pair-verify key is taken. -/
structure VerifyM1Env.Answers (e : VerifyM1Env) : Prop where
  encCt : e.encCt = true
  encrypt : e.encrypt = true
  encOut : e.encOut = true

/-- Once the ECDH values are stored, M1 ends in an error before the key, in an error behind it, or in M2. -/
theorem verifyM1Reply_exits {e : VerifyM1Env} (h : verifyM1Reply P ctx e = some (ctx', resp)) :
    (¬ e.ReachesKey ∧ ctx' = ctx ∧ resp = makeErrorResponse e.resp 2 1) ∨
    (e.ReachesKey ∧ ¬ e.Answers ∧ ctx' = ctx.withEncKey P e ∧ resp = makeErrorResponse e.resp 2 1) ∨
    (e.ReachesKey ∧ e.Answers ∧ ctx' = { ctx.withEncKey P e with verifyState := 2 } ∧
      ∃ enc, resp = tlvBuild e.resp [⟨tlvState, [2]⟩, ⟨tlvPublicKey, ctx.verifyOurEcdhPk.val⟩,
        ⟨tlvEncryptedData, enc⟩]) := by
  unfold verifyM1Reply at h
  by_cases hsig : e.sigMsg = true
  case neg =>
    rw [if_pos (by simpa using hsig)] at h
    exact .inl ⟨fun hk => hsig hk.sigMsg, result_eq h, answer_eq h⟩
  by_cases hed : e.edKey = true
  case neg =>
    rw [if_neg (by simp [hsig]), if_pos (by simpa using hed)] at h
    exact .inl ⟨fun hk => hed hk.edKey, result_eq h, answer_eq h⟩
  by_cases hmd : e.mdctx = true
  case neg => simp [hsig, hed, hmd] at h
  by_cases hsub : e.subBuf = true
  case neg =>
    simp only [hsig, hed, hmd, hsub, tlvBuild, Bool.true_eq_false, if_false, Bool.false_eq_true] at h
    exact .inl ⟨fun hk => hsub hk.subBuf, result_eq h, answer_eq h⟩
  have hkey : e.ReachesKey := ⟨hsig, hed, hsub⟩
  rw [if_neg (by simp [hsig]), if_neg (by simp [hed]), if_neg (by simp [hmd]), hsub] at h
  simp only [tlvBuild_true, OpenSSL.chachaEncrypt] at h
  by_cases hct : e.encCt = true
  case neg =>
    rw [if_pos (by simpa using hct)] at h
    exact .inr (.inl ⟨hkey, fun ha => hct ha.encCt, result_eq h, answer_eq h⟩)
  by_cases henc : e.encrypt = true
  case neg =>
    simp only [hct, henc, Bool.true_eq_false, if_false, Bool.false_eq_true] at h
    exact .inr (.inl ⟨hkey, fun ha => henc ha.encrypt, result_eq h, answer_eq h⟩)
  by_cases hout : e.encOut = true
  case neg =>
    simp only [hct, henc, hout, Bool.true_eq_false, if_false, if_true] at h
    exact .inr (.inl ⟨hkey, fun ha => hout ha.encOut, result_eq h, answer_eq h⟩)
  simp only [hct, henc, hout, Bool.true_eq_false, if_false, if_true] at h
  exact .inr (.inr ⟨hkey, ⟨hct, henc, hout⟩, result_eq h, _, answer_eq h⟩)

/-- What these exits do to the context. -/
theorem verifyM1Reply_cases {e : VerifyM1Env} (h : verifyM1Reply P ctx e = some (ctx', resp)) :
    (¬ e.ReachesKey ∧ ctx' = ctx) ∨ (e.ReachesKey ∧ ¬ e.Answers ∧ ctx' = ctx.withEncKey P e) ∨
      (e.ReachesKey ∧ ctx' = { ctx.withEncKey P e with verifyState := 2 }) := by
  rcases verifyM1Reply_exits h with ⟨hkey, hctx, _⟩ | ⟨hkey, hno, hctx, _⟩ | ⟨hkey, _, hctx, _⟩
  · exact .inl ⟨hkey, hctx⟩
  · exact .inr (.inl ⟨hkey, hno, hctx⟩)
  · exact .inr (.inr ⟨hkey, hctx⟩)

/-- M1 leaves the context alone, stores the client key, or stores the ECDH values and goes on from there. -/
theorem handleVerifyM1_cases {e : VerifyM1Env} (h : handleVerifyM1 P ctx items e = some (ctx', resp)) :
    (verifyM1Pk items = none ∧ ctx' = ctx) ∨ ∃ pk, verifyM1Pk items = some pk ∧
      ((∃ code, verifyM1Ecdh P ctx pk e = (ctx.withClientEcdh pk, some code) ∧
          ctx' = ctx.withClientEcdh pk) ∨
        ∃ ours, verifyM1Ecdh P ctx pk e = (ctx.withEcdh P pk ours e, none) ∧
          verifyM1Reply P (ctx.withEcdh P pk ours e) e = some (ctx', resp)) := by
  unfold handleVerifyM1 at h
  split at h
  · rename_i hpk
    exact .inl ⟨hpk, result_eq h⟩
  · rename_i pk hpk
    refine .inr ⟨pk, hpk, ?_⟩
    rcases verifyM1Ecdh_cases P ctx pk e with ⟨code, hc⟩ | ⟨ours, _, hc⟩
    · rw [hc] at h
      exact .inl ⟨code, hc, result_eq h⟩
    · rw [hc] at h
      exact .inr ⟨ours, hc, h⟩

/-- M3 opens nothing and leaves the context alone, or opens its message and sets `verify_state` to 4. -/
theorem handleVerifyM3_cases {e : VerifyM3Env} (h : handleVerifyM3 P ctx items e = some (ctx', resp)) :
    (∃ code, verifyM3Open P ctx items e = .error code ∧ ctx' = ctx) ∨
      ∃ ident sig report, verifyM3Open P ctx items e = .ok (ident, sig) ∧
        verifySignature P ctx ident sig e = some report ∧ ctx' = { ctx with verifyState := 4 } := by
  unfold handleVerifyM3 at h
  split at h
  · rename_i code hopen
    exact .inl ⟨code, hopen, result_eq h⟩
  · rename_i ident sig hopen
    split at h
    · exact absurd h (by simp)
    · rename_i report hrep
      exact .inr ⟨ident, sig, report, hopen, hrep, result_eq h⟩

/-! ## The dispatcher -/

/-- The outcomes of one `pair_verify_handle`. -/
structure VerifyEnv where
  tlv : TlvAlloc
  m1 : VerifyM1Env
  m3 : VerifyM3Env
  resp : Bool

/-- `pair_verify_handle`. -/
def pairVerifyHandle (P : OpenSSL) (ctx : PairCtx) (body : Bytes) (e : VerifyEnv) :
    Option (PairCtx × Option Bytes) :=
  match incoming e.tlv body with
  | none => some (ctx, none)
  | some (state, items) =>
      if state = 1 then handleVerifyM1 P ctx items e.m1
      else if state = 3 then handleVerifyM3 P ctx items e.m3
      else some (ctx, makeErrorResponse e.resp (state + 1) 1)

end Showcase
