import Showcase.Pair.Srp
import Showcase.Pair.Tlv

/-!
# `Pair.Context` — the pairing context and the keys derived from it

`pair_ctx_s`, `pair_ctx_create` and the three `pair_derive_*` functions of `carplay_pair.c`.
-/

namespace Showcase

open Lib

/-- An `EVP_PKEY` of ours: its private key, and which of the keys made for the context it is. A new one is made while
    the last one is still allocated, so it has another address; `serial` stands for that. -/
structure EvpPkey where
  serial : Nat
  key : Block 32

/-- The `EVP_PKEY` that `EVP_PKEY_keygen` allocates while `last` is in the context. -/
def EvpPkey.next (last : Option EvpPkey) (key : Block 32) : EvpPkey where
  serial := last.elim 0 (·.serial + 1)
  key := key

/-- The new key pair is another object than the one in the context. -/
theorem EvpPkey.next_ne (last : Option EvpPkey) (key : Block 32) : some (EvpPkey.next last key) ≠ last := by
  intro h
  have hserial := congrArg (fun k => k.elim 0 (EvpPkey.serial · + 1)) h
  cases last with
  | none => exact nomatch h
  | some k => exact absurd hserial (by simp [EvpPkey.next])

/-- `pair_ctx_s`. -/
structure PairCtx where
  ourSk : Block 32
  ourPk : Block 32
  pin : Bytes
  srpSalt : Block 16
  srpB : Block 32
  /-- The `malloc`ed verifier, `none` for NULL. -/
  srpVerifier : Option Bytes
  srpVerifierLen : Nat
  srpSessionKey : Block 64
  srpHasSessionKey : Bool
  clientPk : Block 32
  clientPkSet : Bool
  setupState : Nat
  verifyState : Nat
  /-- Our X25519 key, `none` for NULL. -/
  verifyEcdhOurs : Option EvpPkey
  verifyShared : Block 32
  verifyEncKey : Block 32
  verifyOurEcdhPk : Block 32
  clientEcdhPk : Block 32
  clientEcdhPkSet : Bool

def srpDefaultPin : Bytes := ascii "3939"

/-- `pair_ctx_create` once its `calloc` succeeded: all zero but our identity and the PIN, which is cut to the
    15 bytes `strncpy` copies; `none` is a NULL `pin`. -/
def pairCtxCreate (sk pk : Block 32) (pin : Option Bytes) : PairCtx where
  ourSk := sk
  ourPk := pk
  pin := ((pin.getD srpDefaultPin).takeWhile (· != 0)).take 15
  srpSalt := Block.zero 16
  srpB := Block.zero 32
  srpVerifier := none
  srpVerifierLen := 0
  srpSessionKey := Block.zero 64
  srpHasSessionKey := false
  clientPk := Block.zero 32
  clientPkSet := false
  setupState := 0
  verifyState := 0
  verifyEcdhOurs := none
  verifyShared := Block.zero 32
  verifyEncKey := Block.zero 32
  verifyOurEcdhPk := Block.zero 32
  clientEcdhPk := Block.zero 32
  clientEcdhPkSet := false

/-- `pair_setup_is_complete`. -/
def pairSetupIsComplete (ctx : PairCtx) : Bool := ctx.setupState == 6

/-- `pair_verify_is_complete`. -/
def pairVerifyIsComplete (ctx : PairCtx) : Bool := ctx.verifyState == 4

/-! ## Derived keys -/

/-- A 32-byte key derived from the pair-verify shared secret. -/
def verifyHkdf (P : OpenSSL) (shared : Block 32) (salt info : Bytes) : Block 32 :=
  P.hkdfSha512 shared.val salt info 32 OpenSSL.keyLength_le

/-- The key of the pair-verify messages. -/
def verifyEncryptKey (P : OpenSSL) (shared : Block 32) : Block 32 :=
  verifyHkdf P shared (ascii "Pair-Verify-Encrypt-Salt") (ascii "Pair-Verify-Encrypt-Info")

/-- A read and a write key. -/
structure KeyPair where
  readKey : Block 32
  writeKey : Block 32
deriving DecidableEq

/-- `pair_derive_control_keys`: `none` is the return value -1. -/
def pairDeriveControlKeys (P : OpenSSL) (ctx : PairCtx) : Option KeyPair :=
  if ctx.verifyState ≠ 4 then none
  else some
    { readKey := verifyHkdf P ctx.verifyShared (ascii "Control-Salt")
        (ascii "Control-Write-Encryption-Key")
      writeKey := verifyHkdf P ctx.verifyShared (ascii "Control-Salt")
        (ascii "Control-Read-Encryption-Key") }

/-- `pair_derive_event_keys`. -/
def pairDeriveEventKeys (P : OpenSSL) (ctx : PairCtx) : Option KeyPair :=
  if ctx.verifyState ≠ 4 then none
  else some
    { readKey := verifyHkdf P ctx.verifyShared (ascii "Events-Salt") (ascii "Events-Read-Encryption-Key")
      writeKey := verifyHkdf P ctx.verifyShared (ascii "Events-Salt")
        (ascii "Events-Write-Encryption-Key") }

/-- `pair_derive_stream_key`. -/
def pairDeriveStreamKey (P : OpenSSL) (ctx : PairCtx) (streamConnectionID : UInt64) : Option (Block 32) :=
  if ctx.verifyState ≠ 4 then none
  else some (verifyHkdf P ctx.verifyShared
    (ascii ("DataStream-Salt" ++ toString streamConnectionID.toNat))
    (ascii "DataStream-Output-Encryption-Key"))

/-- Some `pair_derive_*` call returns 0. -/
def DerivesKeys (P : OpenSSL) (ctx : PairCtx) : Prop :=
  (pairDeriveControlKeys P ctx).isSome ∨ (pairDeriveEventKeys P ctx).isSome ∨
    ∃ id, (pairDeriveStreamKey P ctx id).isSome

/-- All three check the same flag. -/
theorem derivesKeys_iff {P : OpenSSL} {ctx : PairCtx} : DerivesKeys P ctx ↔ ctx.verifyState = 4 := by
  unfold DerivesKeys pairDeriveControlKeys pairDeriveEventKeys pairDeriveStreamKey
  by_cases h : ctx.verifyState = 4
  · simp [h]
  · simp [h]

/-! ## Messages

Every handler returns `some` of a pair, and a proof about one begins with such an equation; these take it apart. -/

/-- The context a handler returned. -/
theorem result_eq {ctx ctx' : PairCtx} {r r' : Option Bytes} (h : some (ctx, r) = some (ctx', r')) :
    ctx' = ctx :=
  (Prod.mk.inj (Option.some.inj h)).1.symm

/-- The answer a handler returned. -/
theorem answer_eq {ctx ctx' : PairCtx} {r r' : Option Bytes} (h : some (ctx, r) = some (ctx', r')) : r' = r :=
  (Prod.mk.inj (Option.some.inj h)).2.symm

/-- The check both dispatchers make before they look at the message: a TLV8 with a one-byte State item. -/
def incoming (alloc : TlvAlloc) (body : Bytes) : Option (UInt8 × List TlvItem) :=
  if body.length = 0 then none
  else
    match tlvParse alloc body with
    | none => none
    | some items =>
        match tlvFind items tlvState with
        | some [state] => some (state, items)
        | _ => none

/-- A message built from separated items of which the first is its State comes in as these items. -/
theorem incoming_build {state : UInt8} {items : List TlvItem}
    (hsep : Separated (⟨tlvState, [state]⟩ :: items)) (hmax : items.length < maxTlvItems) :
    incoming TlvAlloc.ok ((⟨tlvState, [state]⟩ :: items : List TlvItem).flatMap tlvEncode)
      = some (state, ⟨tlvState, [state]⟩ :: items) := by
  have hpos : (((⟨tlvState, [state]⟩ :: items : List TlvItem)).flatMap tlvEncode).length ≠ 0 := by
    have := tlvEncode_length_pos ⟨tlvState, [state]⟩
    rw [List.flatMap_cons, List.length_append]
    omega
  rw [incoming, if_neg hpos, tlvParse_tlvBuild hsep (by simpa using Nat.succ_le_of_lt hmax)]
  simp [tlvFind_cons]

end Showcase
