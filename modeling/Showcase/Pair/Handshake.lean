import Showcase.Pair.SetupKey
import Showcase.Pair.SrpComplete
import Showcase.Pair.VerifyAuth

/-!
# `Pair.Handshake` — the pairing exchange with a controller

`pair_setup_handle` and `pair_verify_handle` against the other party of the protocol. The context is one global, and
every connection's messages go to it, so the controller's five messages can have anything in between them.

The controller is the phone's side as HAP prescribes it: it answers only what it was sent, checks the server proof of
M4 and both of our signatures, and derives its keys from its own X25519 key.

## Contents
- `Controller`, `Phase` — what the phone brings, and how far it is;
- `pairingStep` — the system: an exchange of the controller, or a call of somebody else;
- `LeavesAlone` — what a call of somebody else must leave alone in each phase;
- `PairingInv` — what the context holds for the controller in each phase;
- **`pairing_completes`** — every exchange of an undisturbed run succeeds, and both sides end with the same keys.
-/

namespace Showcase

open Lib

variable {P : OpenSSL}

/-! ## The controller -/

/-- What the phone brings to a pairing. -/
structure Controller where
  pin : Bytes
  identifier : Bytes
  /-- Its long-term Ed25519 pair. -/
  ltsk : Block 32
  ltpk : Block 32
  /-- The private key of SRP, the form in which it sends `A`, and the form of the secret it hashes. -/
  srpA : Nat
  bytesA : Bytes
  mode : Srp.Kdf
  /-- The private X25519 key of pair-verify. -/
  ecdh : Block 32

/-- How far the controller is, named by the message it sends next. -/
inductive Phase where
  | setupM1
  | setupM3 (salt : Block 16) (B : Bytes)
  | setupM5 (key : Block 64)
  /-- Our long-term public key is known. -/
  | verifyM1 (accessory : Block 32)
  | verifyM3 (accessory serverPk : Block 32)
  | paired (accessory shared : Block 32)
  /-- An answer was not what the controller expects. -/
  | failed

/-- The number of exchanges behind a phase. -/
def Phase.number : Phase → Nat
  | .setupM1 => 0
  | .setupM3 _ _ => 1
  | .setupM5 _ => 2
  | .verifyM1 _ => 3
  | .verifyM3 _ _ => 4
  | .paired _ _ => 5
  | .failed => 6

/-- A 32-byte key derived from the SRP session key. -/
def setupHkdf (P : OpenSSL) (key : Block 64) (salt info : Bytes) : Block 32 :=
  P.hkdfSha512 key.val salt info 32 OpenSSL.keyLength_le

namespace Controller

variable (P : OpenSSL) (c : Controller)

/-- The key of the M5 and M6 payloads. -/
def setupEncryptKey (key : Block 64) : Block 32 :=
  setupHkdf P key (ascii "Pair-Setup-Encrypt-Salt") (ascii "Pair-Setup-Encrypt-Info")

/-- The sub-TLV of M5: who the controller is, signed with its long-term key. -/
def m5SubItems (key : Block 64) : List TlvItem :=
  let controllerX := setupHkdf P key (ascii "Pair-Setup-Controller-Sign-Salt") (ascii "Pair-Setup-Controller-Sign-Info")
  [⟨tlvIdentifier, c.identifier⟩, ⟨tlvPublicKey, c.ltpk.val⟩,
    ⟨tlvSignature, (P.ed25519Sign c.ltsk (controllerX.val ++ c.identifier ++ c.ltpk.val)).val⟩]

def m5Items (key : Block 64) : List TlvItem :=
  let sealed := P.chachaSeal (setupEncryptKey P key) (OpenSSL.nonce12 noncePsMsg05) []
    ((c.m5SubItems P key).flatMap tlvEncode)
  [⟨tlvState, [5]⟩, ⟨tlvEncryptedData, sealed.1 ++ sealed.2.val⟩]

/-- The X25519 public key of the controller. -/
def ecdhPk : Block 32 := P.x25519Public c.ecdh

/-- The shared secret with our X25519 key. -/
def shared (serverPk : Block 32) : Block 32 := P.x25519 c.ecdh serverPk

/-- The signature of the pair-verify M3. -/
def signature (serverPk : Block 32) : Block 64 :=
  P.ed25519Sign c.ltsk ((c.ecdhPk P).val ++ c.identifier ++ serverPk.val)

/-- The message of a phase, as a call in which every allocation and libcrypto call succeeds; the salt, `b` and our
    X25519 key are what is drawn for it. -/
def call (s : Fin (2 ^ 128)) (b ours : Block 32) : Phase → Option PairInput
  | .setupM1 => some (.setup setupM1Body (.ok s b))
  | .setupM3 salt B =>
      let proof := SrpClient.proof P c.mode salt c.pin c.srpA (ofBE B)
      some (.setup ((setupM3Items c.bytesA proof.val).flatMap tlvEncode) (.ok s b))
  | .setupM5 key => some (.setup ((c.m5Items P key).flatMap tlvEncode) (.ok s b))
  | .verifyM1 _ => some (verifyM1Call (c.ecdhPk P) ours)
  | .verifyM3 _ serverPk =>
      some (verifyM3Call P (verifyEncryptKey P (c.shared P serverPk)) c.identifier (c.signature P serverPk))
  | .paired _ _ => none
  | .failed => none

/-! ### What it makes of the answers -/

/-- The items of an answer with the State it expects. -/
def items (state : UInt8) (answer : Bytes) : Option (List TlvItem) :=
  match tlvParse .ok answer with
  | none => none
  | some items => if tlvFind items tlvState = some [state] then some items else none

/-- The sealed sub-TLV of an answer. -/
def subItems (key : Block 32) (nonce : Block 8) (items : List TlvItem) : Option (List TlvItem) :=
  match (tlvFind items tlvEncryptedData).bind splitTag with
  | none => none
  | some (ct, tag) => (P.chachaOpen key (OpenSSL.nonce12 nonce) [] ct tag).bind (tlvParse .ok)

/-- The 32-byte key of some items. -/
def publicKey (items : List TlvItem) : Option (Block 32) :=
  (tlvFind items tlvPublicKey).bind (Block.ofBytes? 32)

/-- Identifier and signature of some items. -/
def signed (items : List TlvItem) : Option (Bytes × Block 64) :=
  match tlvFind items tlvIdentifier, (tlvFind items tlvSignature).bind (Block.ofBytes? 64) with
  | some ident, some sig => some (ident, sig)
  | _, _ => none

/-- M2: salt and `B`. -/
def readSetupM2 (answer : Bytes) : Option Phase := do
  let items ← items 2 answer
  let salt ← (tlvFind items tlvSalt).bind (Block.ofBytes? 16)
  let B ← tlvFind items tlvPublicKey
  some (.setupM3 salt B)

/-- M4: the server has to know the PIN as well. -/
def readSetupM4 (salt : Block 16) (B answer : Bytes) : Option Phase := do
  let items ← items 4 answer
  let proof ← tlvFind items tlvProof
  if proof = (SrpClient.serverProof P c.mode salt c.pin c.srpA (ofBE B)).val then
    some (.setupM5 (SrpClient.key P c.mode salt.val c.pin c.srpA (ofBE B)))
  else none

/-- M6: our long-term key, signed by itself. -/
def readSetupM6 (key : Block 64) (answer : Bytes) : Option Phase := do
  let items ← items 6 answer
  let sub ← subItems P (setupEncryptKey P key) noncePsMsg06 items
  let accessory ← publicKey sub
  let (ident, sig) ← signed sub
  let accessoryX := setupHkdf P key (ascii "Pair-Setup-Accessory-Sign-Salt") (ascii "Pair-Setup-Accessory-Sign-Info")
  if P.ed25519Verify accessory sig (accessoryX.val ++ ident ++ accessory.val) then some (.verifyM1 accessory) else none

/-- The pair-verify M2: our X25519 key, signed with the long-term key of M6. -/
def readVerifyM2 (accessory : Block 32) (answer : Bytes) : Option Phase := do
  let items ← items 2 answer
  let serverPk ← publicKey items
  let sub ← subItems P (verifyEncryptKey P (c.shared P serverPk)) noncePvMsg02 items
  let (ident, sig) ← signed sub
  if P.ed25519Verify accessory sig (serverPk.val ++ ident ++ (c.ecdhPk P).val) then some (.verifyM3 accessory serverPk)
  else none

/-- The pair-verify M4. -/
def readVerifyM4 (accessory serverPk : Block 32) (answer : Bytes) : Option Phase := do
  let items ← items 4 answer
  if tlvFind items tlvError = none then some (.paired accessory (c.shared P serverPk)) else none

/-- The phase behind an answer. -/
def read (answer : Bytes) : Phase → Option Phase
  | .setupM1 => readSetupM2 answer
  | .setupM3 salt B => c.readSetupM4 P salt B answer
  | .setupM5 key => readSetupM6 P key answer
  | .verifyM1 accessory => c.readVerifyM2 P accessory answer
  | .verifyM3 accessory serverPk => c.readVerifyM4 P accessory serverPk answer
  | .paired _ _ => none
  | .failed => none

end Controller

/-! ## The system -/

/-- The pairing context and the controller. -/
structure Pairing where
  ctx : PairCtx
  phase : Phase

inductive PairingInput where
  /-- The controller's message goes in and the answer comes back; `s`, `b` and `ours` are drawn. -/
  | exchange (s : Fin (2 ^ 128)) (b ours : Block 32)
  /-- A call of somebody else. -/
  | other (i : PairInput)

/-- A step of the system; `none` when the process dies, or when the controller has no message. -/
def pairingStep (P : OpenSSL) (c : Controller) (sys : Pairing) : PairingInput → Option Pairing
  | .exchange s b ours =>
      match c.call P s b ours sys.phase with
      | none => none
      | some i =>
          match pairCall P sys.ctx i with
          | none => none
          | some (ctx, answer) => some ⟨ctx, (answer.bind fun body => c.read P body sys.phase).getD .failed⟩
  | .other i =>
      match pairCall P sys.ctx i with
      | none => none
      | some (ctx, _) => some ⟨ctx, sys.phase⟩

abbrev PairingRun (P : OpenSSL) (c : Controller) := Run fun sys i sys' => pairingStep P c sys i = some sys'

/-- The call is a pair-setup M3 whose proof is accepted. -/
def AcceptsSomeProof (P : OpenSSL) (x : PairStep) : Prop :=
  ∃ A proof serverM2, AcceptsProof P x A proof serverM2

/-- **A call of somebody else leaves the exchange alone**: it begins or finishes none of the message pairs that the
    controller is in the middle of or has finished. -/
def LeavesAlone (P : OpenSSL) (x : PairStep) : Phase → Prop
  | .setupM1 => True
  | .setupM3 _ _ => ¬ IsSetupM1 x
  | .setupM5 _ => ¬ IsSetupM1 x ∧ ¬ AcceptsSomeProof P x
  | .verifyM1 _ => ¬ WritesClientPk P x
  | .verifyM3 _ _ => ¬ WritesClientPk P x ∧ ∀ pk, ¬ StoresClientEcdh x pk
  | .paired _ _ => ¬ WritesClientPk P x ∧ ∀ pk, ¬ StoresClientEcdh x pk
  | .failed => True

/-- What is drawn for an M1: the salt does not begin with a zero byte, and the two forms of the secret do not have
    one proof for two keys. -/
def DrawsFit (P : OpenSSL) (c : Controller) (s : Fin (2 ^ 128)) (b : Block 32) : Prop :=
  (sentSalt s).val.head? ≠ some 0 ∧
    ProofsDistinct P (sentSalt s) (SrpClient.A c.srpA) (Srp.B P (Srp.v P s c.pin) (ofBE b.val))
      (Srp.S P (Srp.v P s c.pin) (ofBE b.val) (SrpClient.A c.srpA))

/-- The condition on a step. -/
def PairingFits (P : OpenSSL) (c : Controller) (x : Step Pairing PairingInput) : Prop :=
  match x.input with
  | .exchange s b _ => x.pre.phase = .setupM1 → DrawsFit P c s b
  | .other i => LeavesAlone P ⟨x.pre.ctx, i, x.post.ctx⟩ x.pre.phase

/-- `pk` is the public key of the Ed25519 seed `sk`. -/
def SignsFor (P : OpenSSL) (sk pk : Block 32) : Prop := ∀ m, P.ed25519Verify pk (P.ed25519Sign sk m) m = true

/-- Both sides of X25519 get the same secret. -/
def SharedSecrets (P : OpenSSL) : Prop := ∀ a b, P.x25519 a (P.x25519Public b) = P.x25519 b (P.x25519Public a)

/-- Controller and context fit together: the PIN is the same, the key pairs are pairs, and `A` is sent as it is. -/
structure ControllerFits (P : OpenSSL) (c : Controller) (ctx : PairCtx) : Prop where
  pin : ctx.pin = c.pin
  ours : SignsFor P ctx.ourSk ctx.ourPk
  theirs : SignsFor P c.ltsk c.ltpk
  bytesA : ofBE c.bytesA = SrpClient.A c.srpA

/-! ## What a call leaves alone

Calls of others may come between two messages of the controller. They change a field only in one of a few ways
(`VerifyEffect`, `AcceptsSomeProof`), and `LeavesAlone` names those that must not come now. -/

section Frame

variable {ctx ctx' : PairCtx} {i : PairInput}

/-- Who the context stands for. -/
def PairCtx.identity (ctx : PairCtx) : Block 32 × Block 32 × Bytes := (ctx.ourSk, ctx.ourPk, ctx.pin)

/-- No call changes it. -/
theorem pairStep_identity (h : pairStep P ctx i ctx') : ctx'.identity = ctx.identity := by
  obtain ⟨resp, h⟩ := h
  cases i with
  | setup body e =>
      simp only [pairCall, pairSetupHandle] at h
      split at h
      · rw [result_eq h]
      split at h
      · have hctx : ctx' = (handleSetupM1 P ctx e.m1).1 := (congrArg Prod.fst (Option.some.inj h)).symm
        obtain ⟨n, hm1⟩ := handleSetupM1_ctx P ctx e.m1
        rw [hctx, hm1]
        rcases setupM1Begin_cases P ctx e.m1 with ⟨_, hbeg⟩ | ⟨_, _, _, hbeg⟩
        · rw [hbeg]
          rfl
        · rw [hbeg]
          rfl
      split at h
      · rcases handleSetupM3_cases h with rfl | ⟨_, _, _, rfl⟩
        · rfl
        · rfl
      split at h
      · rcases handleSetupM5_cases h with rfl | ⟨pt, n, _, rfl⟩
        · rfl
        · rcases setupM5ClientPk_cases ctx e.m5.sub pt with hpk | ⟨pk, hpk⟩
          · rw [hpk]
            rfl
          · rw [hpk]
            rfl
      · rw [result_eq h]
  | verify body e =>
      cases verifyEffect_of_step ⟨resp, h⟩ with
      | other hM1 hM3 _ =>
          simp only [pairCall, pairVerifyHandle] at h
          split at h
          · rw [result_eq h]
          rename_i n items hin
          split at h
          · rename_i h1
            subst h1
            rcases handleVerifyM1_cases h with ⟨_, rfl⟩ | ⟨pk, hpk, _⟩
            · rfl
            · exact absurd ⟨e, items, ⟨body, rfl, hin⟩, hpk⟩ (hM1 pk)
          split at h
          · rename_i h3
            subst h3
            rcases handleVerifyM3_cases h with ⟨_, _, rfl⟩ | ⟨ident, sig, report, hopen, hrep, _⟩
            · rfl
            · exact absurd ⟨e, items, ⟨body, rfl, hin⟩, hopen, hrep⟩ (hM3 ident sig report)
          · rw [result_eq h]
      | clientEcdh pk _ _ heq => exact (congrArg PairCtx.identity heq).trans rfl
      | ecdh pk ours e' _ _ heq => exact (congrArg PairCtx.identity heq).trans rfl
      | encKey pk ours e' _ _ _ heq => exact (congrArg PairCtx.identity heq).trans rfl
      | answered pk ours e' _ _ heq => exact (congrArg PairCtx.identity heq).trans rfl
      | completed ident sig report _ heq => exact (congrArg PairCtx.identity heq).trans rfl

/-- The session key changes only when an M1 drops it and when an M3 is accepted. -/
theorem sessionKey_of_step (h : pairStep P ctx i ctx') (hM1 : ¬ IsSetupM1 ⟨ctx, i, ctx'⟩)
    (hM3 : ¬ AcceptsSomeProof P ⟨ctx, i, ctx'⟩) :
    ctx'.srpSessionKey = ctx.srpSessionKey ∧ ctx'.srpHasSessionKey = ctx.srpHasSessionKey := by
  obtain ⟨resp, h⟩ := h
  cases i with
  | setup body e =>
      simp only [pairCall, pairSetupHandle] at h
      split at h
      · rw [result_eq h]
        exact ⟨rfl, rfl⟩
      rename_i n items hin
      split at h
      · rename_i h1
        subst h1
        exact absurd ⟨body, e, items, rfl, hin⟩ hM1
      split at h
      · rename_i h3
        subst h3
        rcases handleSetupM3_cases h with rfl | ⟨serverM2, sessionKey, hcheck, _⟩
        · exact ⟨rfl, rfl⟩
        · obtain ⟨A, proof, hA, hproof⟩ : ∃ A proof, tlvFind items tlvPublicKey = some A ∧
              tlvFind items tlvProof = some proof := by
            unfold setupM3Check at hcheck
            split at hcheck
            · rename_i A proof hA hproof
              exact ⟨A, proof, hA, hproof⟩
            · cases hcheck
          exact absurd ⟨A, proof, serverM2, body, e, items, sessionKey, rfl, hin, hA, hproof, hcheck⟩ hM3
      split at h
      · rcases handleSetupM5_cases h with rfl | ⟨pt, n, _, rfl⟩
        · exact ⟨rfl, rfl⟩
        · rcases setupM5ClientPk_cases ctx e.m5.sub pt with hpk | ⟨pk, hpk⟩
          · rw [hpk]
            exact ⟨rfl, rfl⟩
          · rw [hpk]
            exact ⟨rfl, rfl⟩
      · rw [result_eq h]
        exact ⟨rfl, rfl⟩
  | verify body e =>
      have hsetup := pairVerifyHandle_setup h
      simp only [PairCtx.setup, Prod.mk.injEq] at hsetup
      exact ⟨hsetup.2.2.2.2.2.1, hsetup.2.2.2.2.2.2.1⟩

/-- Without an M1 of pair-verify, its fields change only when an M3 sets `verify_state` to 4. -/
theorem verify_of_step (h : pairStep P ctx i ctx') (hM1 : ∀ pk, ¬ StoresClientEcdh ⟨ctx, i, ctx'⟩ pk) :
    ctx'.verify = ctx.verify ∨ ctx'.verify = { ctx with verifyState := 4 }.verify := by
  cases verifyEffect_of_step h with
  | other _ _ heq => exact .inl heq
  | clientEcdh pk hM1' _ _ => exact absurd hM1' (hM1 pk)
  | ecdh pk ours e hM1' _ _ => exact absurd hM1'.clientEcdh (hM1 pk)
  | encKey pk ours e hM1' _ _ _ => exact absurd hM1'.clientEcdh (hM1 pk)
  | answered pk ours e hM1' _ _ => exact absurd hM1'.clientEcdh (hM1 pk)
  | completed _ _ _ _ heq => exact .inr (congrArg PairCtx.verify heq)

end Frame

/-! ## The invariant -/

/-- The context has the client's long-term key, and the controller has ours. -/
structure KeysKnown (c : Controller) (ctx : PairCtx) (accessory : Block 32) : Prop where
  accessory : accessory = ctx.ourPk
  clientPk : ctx.clientPk = c.ltpk
  clientPkSet : ctx.clientPkSet = true

/-- The context is behind an M1 that drew what the controller was sent. -/
def AwaitsSetupM3 (P : OpenSSL) (c : Controller) (ctx : PairCtx) (salt : Block 16) (B : Bytes) : Prop :=
  ∃ s b, DrawsFit P c s b ∧ salt = sentSalt s ∧ B = minBE (Srp.B P (Srp.v P s c.pin) (ofBE b.val)) ∧
    ctx.srp = (c.pin, sentSalt s, b, some (minBE (Srp.v P s c.pin)), (minBE (Srp.v P s c.pin)).length)

/-- The context is behind an M1 with the controller's X25519 key. -/
structure AwaitsVerifyM3 (P : OpenSSL) (c : Controller) (ctx : PairCtx) (serverPk : Block 32) : Prop where
  clientEcdhPk : ctx.clientEcdhPk = c.ecdhPk P
  clientEcdhPkSet : ctx.clientEcdhPkSet = true
  ourEcdhPk : ctx.verifyOurEcdhPk = serverPk
  shared : ctx.verifyShared = c.shared P serverPk
  encKey : ctx.verifyEncKey = verifyEncryptKey P (c.shared P serverPk)

/-- **What the context holds for the controller** in each phase. -/
def PairingInv (P : OpenSSL) (c : Controller) (sys : Pairing) : Prop :=
  ControllerFits P c sys.ctx ∧
    match sys.phase with
    | .setupM1 => True
    | .setupM3 salt B => AwaitsSetupM3 P c sys.ctx salt B
    | .setupM5 key => sys.ctx.srpSessionKey = key ∧ sys.ctx.srpHasSessionKey = true
    | .verifyM1 accessory => KeysKnown c sys.ctx accessory
    | .verifyM3 accessory serverPk => KeysKnown c sys.ctx accessory ∧ AwaitsVerifyM3 P c sys.ctx serverPk
    | .paired accessory shared =>
        KeysKnown c sys.ctx accessory ∧ sys.ctx.verifyShared = shared ∧ sys.ctx.verifyState = 4
    | .failed => False

theorem ControllerFits.frame {c : Controller} {ctx ctx' : PairCtx} (h : ControllerFits P c ctx)
    (heq : ctx'.identity = ctx.identity) : ControllerFits P c ctx' := by
  simp only [PairCtx.identity, Prod.mk.injEq] at heq
  obtain ⟨hsk, hpk, hpin⟩ := heq
  exact ⟨hpin.trans h.pin, by rw [hsk, hpk]; exact h.ours, h.theirs, h.bytesA⟩

theorem KeysKnown.frame {c : Controller} {ctx ctx' : PairCtx} {i : PairInput} {accessory : Block 32}
    (h : KeysKnown c ctx accessory) (hs : pairStep P ctx i ctx') (hno : ¬ WritesClientPk P ⟨ctx, i, ctx'⟩) :
    KeysKnown c ctx' accessory := by
  have hid := pairStep_identity hs
  simp only [PairCtx.identity, Prod.mk.injEq] at hid
  obtain ⟨hpk, hset⟩ := clientPk_of_step hs (fun h => hno (.inl h)) (fun pk h => hno (.inr ⟨pk, h⟩))
  exact ⟨h.accessory.trans hid.2.1.symm, hpk.trans h.clientPk, hset.trans h.clientPkSet⟩

/-- A call of somebody else keeps the invariant. -/
theorem pairingInv_other {c : Controller} {sys : Pairing} {i : PairInput} {ctx' : PairCtx}
    (h : PairingInv P c sys) (hs : pairStep P sys.ctx i ctx') (hno : LeavesAlone P ⟨sys.ctx, i, ctx'⟩ sys.phase) :
    PairingInv P c ⟨ctx', sys.phase⟩ := by
  obtain ⟨hfits, hphase⟩ := h
  refine ⟨hfits.frame (pairStep_identity hs), ?_⟩
  revert hphase hno
  cases sys.phase with
  | setupM1 => exact fun _ _ => trivial
  | setupM3 salt B =>
      rintro hno ⟨s, b, hdraws, hsalt, hB, hsrp⟩
      exact ⟨s, b, hdraws, hsalt, hB, (pairStep_srp hs hno).trans hsrp⟩
  | setupM5 key =>
      rintro ⟨hM1, hM3⟩ ⟨hkey, hhas⟩
      obtain ⟨hkey', hhas'⟩ := sessionKey_of_step hs hM1 hM3
      exact ⟨hkey'.trans hkey, hhas'.trans hhas⟩
  | verifyM1 accessory => exact fun hno hkeys => hkeys.frame hs hno
  | verifyM3 accessory serverPk =>
      rintro ⟨hpk, hecdh⟩ ⟨hkeys, hawaits⟩
      refine ⟨hkeys.frame hs hpk, ?_⟩
      obtain ⟨hclient, hset, hours, hshared, henc⟩ := hawaits
      rcases verify_of_step hs hecdh with heq | heq
      · simp only [PairCtx.verify, Prod.mk.injEq] at heq
        obtain ⟨_, _, hshared', henc', hours', hclient', hset'⟩ := heq
        exact ⟨hclient'.trans hclient, hset'.trans hset, hours'.trans hours, hshared'.trans hshared,
          henc'.trans henc⟩
      · simp only [PairCtx.verify, Prod.mk.injEq] at heq
        obtain ⟨_, _, hshared', henc', hours', hclient', hset'⟩ := heq
        exact ⟨hclient'.trans hclient, hset'.trans hset, hours'.trans hours, hshared'.trans hshared,
          henc'.trans henc⟩
  | paired accessory shared =>
      rintro ⟨hpk, hecdh⟩ ⟨hkeys, hshared, hstate⟩
      refine ⟨hkeys.frame hs hpk, ?_⟩
      rcases verify_of_step hs hecdh with heq | heq
      · simp only [PairCtx.verify, Prod.mk.injEq] at heq
        exact ⟨heq.2.2.1.trans hshared, heq.1.trans hstate⟩
      · simp only [PairCtx.verify, Prod.mk.injEq] at heq
        exact ⟨heq.2.2.1.trans hshared, heq.1⟩
  | failed => exact fun _ h => h

/-! ## One exchange

For each phase: the message goes in, every test on the way passes by the invariant, the answer is read by the
controller as it was built, and the context is one that the next phase asks for. -/

/-- **The exchange of a phase**: the message is answered, the answer is what the controller expects, and the next phase
    keeps the invariant. The M3 that ends pair-verify is found to be signed by the controller. -/
def Exchanges (P : OpenSSL) (c : Controller) (ctx : PairCtx) (s : Fin (2 ^ 128)) (b ours : Block 32) (phase : Phase) :
    Prop :=
  ∃ i ctx' answer phase', c.call P s b ours phase = some i ∧ pairCall P ctx i = some (ctx', some answer) ∧
    c.read P answer phase = some phase' ∧ PairingInv P c ⟨ctx', phase'⟩ ∧ phase'.number = phase.number + 1 ∧
    ∀ accessory serverPk, phase = .verifyM3 accessory serverPk →
      CompletesVerify P ⟨ctx, i, ctx'⟩ c.identifier (c.signature P serverPk) .passed

section Exchange

variable {c : Controller} {ctx : PairCtx} {s : Fin (2 ^ 128)} {b ours : Block 32}

theorem items_built {state : UInt8} {rest : List TlvItem} (hsep : Separated (⟨tlvState, [state]⟩ :: rest))
    (hmax : rest.length < maxTlvItems) :
    Controller.items state ((⟨tlvState, [state]⟩ :: rest : List TlvItem).flatMap tlvEncode)
      = some (⟨tlvState, [state]⟩ :: rest) := by
  rw [Controller.items, tlvParse_tlvBuild hsep (Nat.succ_le_of_lt hmax)]
  simp [tlvFind_cons]

theorem subItems_sealed {key : Block 32} {nonce : Block 8} {items sub : List TlvItem} (hsep : Separated sub)
    (hmax : sub.length ≤ maxTlvItems)
    (hdata : tlvFind items tlvEncryptedData =
      some ((P.chachaSeal key (OpenSSL.nonce12 nonce) [] (sub.flatMap tlvEncode)).1 ++
        (P.chachaSeal key (OpenSSL.nonce12 nonce) [] (sub.flatMap tlvEncode)).2.val)) :
    Controller.subItems P key nonce items = some sub := by
  rw [Controller.subItems, hdata, Option.bind_some, splitTag_append]
  simp only [P.open_seal, Option.bind_some]
  exact tlvParse_tlvBuild hsep hmax

/-- The controller finds salt and `B` in M2. -/
theorem readSetupM2_m2 (P : OpenSSL) (ctx : PairCtx) (s : Fin (2 ^ 128)) (b : Block 32) :
    Controller.readSetupM2 ((m2Items P ctx s b).flatMap tlvEncode)
      = some (.setupM3 (sentSalt s) (minBE (Srp.B P (Srp.v P s ctx.pin) (ofBE b.val)))) := by
  have hitems : Controller.items 2 ((m2Items P ctx s b).flatMap tlvEncode) = some (m2Items P ctx s b) :=
    items_built (by simp [Separated, tlvState, tlvSalt, tlvPublicKey]) (by simp [maxTlvItems])
  have hsalt : tlvFind (m2Items P ctx s b) tlvSalt = some (sentSalt s).val := rfl
  have hB : tlvFind (m2Items P ctx s b) tlvPublicKey = some (minBE (Srp.B P (Srp.v P s ctx.pin) (ofBE b.val))) := rfl
  simp only [Controller.readSetupM2, hitems, Option.bind_eq_bind, Option.bind_some, hsalt, hB, Block.ofBytes?_val]

/-- Behind M1 the context has what the controller was sent. -/
theorem awaitsSetupM3_afterM1 (hpin : ctx.pin = c.pin) (hdraws : DrawsFit P c s b) :
    AwaitsSetupM3 P c (afterM1 P ctx s b) (sentSalt s) (minBE (Srp.B P (Srp.v P s ctx.pin) (ofBE b.val))) := by
  have hsrp : (afterM1 P ctx s b).srp =
      (ctx.pin, sentSalt s, b, some (minBE (Srp.v P s ctx.pin)), (minBE (Srp.v P s ctx.pin)).length) := rfl
  rw [hpin] at hsrp ⊢
  exact ⟨s, b, hdraws, rfl, rfl, hsrp⟩

/-- M1 and M2 of pair-setup, from any context. -/
theorem exchange_setupM1 (hfits : ControllerFits P c ctx) (hdraws : DrawsFit P c s b) :
    Exchanges P c ctx s b ours .setupM1 := by
  refine ⟨.setup setupM1Body (.ok s b), afterM1 P ctx s b, _,
    .setupM3 (sentSalt s) (minBE (Srp.B P (Srp.v P s ctx.pin) (ofBE b.val))), rfl, setupM1_ok P ctx s b, ?_, ?_, rfl, ?_⟩
  · rw [Controller.read]
    exact readSetupM2_m2 P ctx s b
  · have hid : (afterM1 P ctx s b).identity = ctx.identity := by simp only [PairCtx.identity, afterM1, setupM1Reset]
    exact ⟨hfits.frame hid, awaitsSetupM3_afterM1 hfits.pin hdraws⟩
  · intro _ _ h
    cases h

/-- M3 and M4 of pair-setup: both sides know the PIN. -/
theorem exchange_setupM3 {salt : Block 16} {B : Bytes} (hfits : ControllerFits P c ctx)
    (hawaits : AwaitsSetupM3 P c ctx salt B) : Exchanges P c ctx s b ours (.setupM3 salt B) := by
  obtain ⟨s', b', ⟨hs, hd⟩, rfl, rfl, hsrp⟩ := hawaits
  simp only [PairCtx.srp, Prod.mk.injEq] at hsrp
  obtain ⟨hpin, hsalt, hb, hverifier, hlen⟩ := hsrp
  let B := Srp.B P (Srp.v P s' c.pin) (ofBE b'.val)
  let K := SrpClient.key P c.mode (sentSalt s').val c.pin c.srpA B
  let proof := SrpClient.proof P c.mode (sentSalt s') c.pin c.srpA B
  let serverProof := SrpClient.serverProof P c.mode (sentSalt s') c.pin c.srpA B
  have hsecret : SrpClient.S P (sentSalt s').val c.pin c.srpA B
      = Srp.S P (Srp.v P s' c.pin) (ofBE b'.val) (SrpClient.A c.srpA) := client_secret_eq hs
  -- the verifier is the one behind the M1, whatever else has been called since
  obtain ⟨ver, hver, hprescribed⟩ := afterM1_verifier P ctx s' b' hfits.bytesA
  have hnew : srpVerifierNew P srpUsername ctx.srpSalt ctx.srpVerifier ctx.srpVerifierLen c.bytesA ctx.srpB .ok
      = some (some ver) := by
    rw [hsalt, hb, hverifier, hlen, ← hpin]
    exact hver
  rw [hpin] at hprescribed
  have hcheck : setupM3Check P ctx (setupM3Items c.bytesA proof.val) .ok = some (some (serverProof, K)) := by
    rw [setupM3Check_verifier ctx hnew]
    have hverify := verify_accepts hprescribed hd c.mode
    rw [← hsecret] at hverify
    exact congrArg some hverify
  have hcall := setupM3_call P ctx c.bytesA proof s b
  rw [handleSetupM3, hcheck] at hcall
  have hitems : Controller.items 4 ((m4Items serverProof).flatMap tlvEncode) = some (m4Items serverProof) :=
    items_built (by simp [Separated, tlvState, tlvProof]) (by simp [maxTlvItems])
  have hread : c.readSetupM4 P (sentSalt s') (minBE B) ((m4Items serverProof).flatMap tlvEncode)
      = some (.setupM5 K) := by
    have hfind : tlvFind (m4Items serverProof) tlvProof = some serverProof.val := rfl
    simp only [Controller.readSetupM4, hitems, Option.bind_eq_bind, Option.bind_some, hfind, ofBE_minBE]
    exact if_pos rfl
  have hnext : PairingInv P c ⟨{ ctx with srpSessionKey := K, srpHasSessionKey := true, setupState := 4 }, .setupM5 K⟩ :=
    ⟨hfits.frame rfl, rfl, rfl⟩
  refine ⟨.setup ((setupM3Items c.bytesA proof.val).flatMap tlvEncode) (.ok s b), _, _, .setupM5 K, ?_, hcall, hread,
    hnext, rfl, ?_⟩
  · rw [Controller.call, ofBE_minBE]
  · intro _ _ h
    cases h

theorem m5SubItems_separated (P : OpenSSL) (c : Controller) (key : Block 64) : Separated (c.m5SubItems P key) :=
  .cons_cons (show tlvIdentifier ≠ tlvPublicKey by decide)
    (.cons_cons (show tlvPublicKey ≠ tlvSignature by decide) (.singleton _))

/-- M5 carries the controller's long-term key. -/
theorem setupM5ClientPk_controller (P : OpenSSL) (c : Controller) (ctx : PairCtx) (key : Block 64) :
    setupM5ClientPk ctx .ok ((c.m5SubItems P key).flatMap tlvEncode)
      = { ctx with clientPk := c.ltpk, clientPkSet := true } := by
  have hparse : tlvParse .ok ((c.m5SubItems P key).flatMap tlvEncode) = some (c.m5SubItems P key) :=
    tlvParse_tlvBuild (m5SubItems_separated P c key) (by simp [Controller.m5SubItems, maxTlvItems])
  have hkey : SubTlvKey .ok ((c.m5SubItems P key).flatMap tlvEncode) c.ltpk :=
    ⟨c.m5SubItems P key, c.ltpk.val, hparse, rfl, Nat.le_of_eq c.ltpk.property.symm,
      (List.take_of_length_le (Nat.le_of_eq c.ltpk.property)).symm⟩
  rw [setupM5ClientPk_eq, hkey.carried]

/-- The controller finds our key in M6, signed by itself. -/
theorem readSetupM6_m6 {e : SetupM5Env} (he : e.Clean) (hours : SignsFor P ctx.ourSk ctx.ourPk) :
    Controller.readSetupM6 P ctx.srpSessionKey ((setupM6Items P ctx (setupM5EncKey P ctx e) e).flatMap tlvEncode)
      = some (.verifyM1 ctx.ourPk) := by
  have hitems : Controller.items 6 ((setupM6Items P ctx (setupM5EncKey P ctx e) e).flatMap tlvEncode)
      = some (setupM6Items P ctx (setupM5EncKey P ctx e) e) :=
    items_built (by simp [Separated, tlvState, tlvEncryptedData]) (by simp [maxTlvItems])
  have hsub : Controller.subItems P (Controller.setupEncryptKey P ctx.srpSessionKey) noncePsMsg06
      (setupM6Items P ctx (setupM5EncKey P ctx e) e) = some (setupM6SubItems P ctx e) := by
    refine subItems_sealed ?_ (by simp [setupM6SubItems, maxTlvItems]) ?_
    · exact .cons_cons (show tlvIdentifier ≠ tlvPublicKey by decide)
        (.cons_cons (show tlvPublicKey ≠ tlvSignature by decide) (.singleton _))
    · rw [setupM5EncKey_eq he]
      rfl
  have hpk : Controller.publicKey (setupM6SubItems P ctx e) = some ctx.ourPk := by
    have hfind : tlvFind (setupM6SubItems P ctx e) tlvPublicKey = some ctx.ourPk.val := rfl
    rw [Controller.publicKey, hfind, Option.bind_some, Block.ofBytes?_val]
  have hsigned : Controller.signed (setupM6SubItems P ctx e) = some (deviceId, setupM5Signature P ctx e) := by
    have hident : tlvFind (setupM6SubItems P ctx e) tlvIdentifier = some deviceId := rfl
    have hsig : tlvFind (setupM6SubItems P ctx e) tlvSignature = some (setupM5Signature P ctx e).val := rfl
    simp only [Controller.signed, hident, hsig, Option.bind_some, Block.ofBytes?_val]
  have hverify : P.ed25519Verify ctx.ourPk (setupM5Signature P ctx e)
      ((setupHkdf P ctx.srpSessionKey (ascii "Pair-Setup-Accessory-Sign-Salt")
        (ascii "Pair-Setup-Accessory-Sign-Info")).val ++ deviceId ++ ctx.ourPk.val) = true := by
    rw [setupM5Signature_eq he]
    exact hours _
  simp only [Controller.readSetupM6, hitems, hsub, hpk, hsigned, Option.bind_eq_bind, Option.bind_some, hverify, if_true]

/-- M5 and M6 of pair-setup: each side has the long-term key of the other. -/
theorem exchange_setupM5 {key : Block 64} (hfits : ControllerFits P c ctx) (hkey : ctx.srpSessionKey = key)
    (hhas : ctx.srpHasSessionKey = true) : Exchanges P c ctx s b ours (.setupM5 key) := by
  subst hkey
  have hin : incoming (SetupEnv.ok s b).tlv ((c.m5Items P ctx.srpSessionKey).flatMap tlvEncode)
      = some (5, c.m5Items P ctx.srpSessionKey) :=
    incoming_build (by simp [Separated, tlvState, tlvEncryptedData]) (by simp [maxTlvItems])
  have hopen : setupM5Open P ctx (c.m5Items P ctx.srpSessionKey) (SetupEnv.ok s b).m5
      = .ok ((c.m5SubItems P ctx.srpSessionKey).flatMap tlvEncode) :=
    setupM5Open_m5Items hhas (List.cons_ne_nil _ _)
  have hpk := setupM5ClientPk_controller P c ctx ctx.srpSessionKey
  have hm6 := handleSetupM5_m6 (e := (SetupEnv.ok s b).m5) hopen (by rw [show (SetupEnv.ok s b).m5.sub = .ok from rfl, hpk])
    (setupEnv_ok_answers s b)
  rw [show (SetupEnv.ok s b).m5.sub = .ok from rfl, hpk] at hm6
  have hcall : pairSetupHandle P ctx ((c.m5Items P ctx.srpSessionKey).flatMap tlvEncode) (.ok s b) =
      handleSetupM5 P ctx (c.m5Items P ctx.srpSessionKey) (SetupEnv.ok s b).m5 := by
    rw [pairSetupHandle, hin]
    rfl
  refine ⟨_, _, _, _, rfl, hcall.trans hm6, readSetupM6_m6 (setupEnv_ok_clean s b) hfits.ours,
    ⟨hfits.frame rfl, rfl, rfl, rfl⟩, rfl, ?_⟩
  intro _ _ h
  cases h

/-- The context behind a pair-verify M1 in which every call succeeds. -/
def afterVerifyM1 (P : OpenSSL) (ctx : PairCtx) (pk ours : Block 32) : PairCtx :=
  { ctx with
    clientEcdhPk := pk
    clientEcdhPkSet := true
    verifyShared := P.x25519 ours pk
    verifyEcdhOurs := some (.next ctx.verifyEcdhOurs ours)
    verifyOurEcdhPk := P.x25519Public ours
    verifyEncKey := verifyEncryptKey P (P.x25519 ours pk)
    verifyState := 2 }

/-- The sub-TLV of its M2. -/
def verifyM2SubItems (P : OpenSSL) (ctx : PairCtx) (pk ours : Block 32) : List TlvItem :=
  [⟨tlvIdentifier, deviceId⟩,
    ⟨tlvSignature, (P.ed25519Sign ctx.ourSk ((P.x25519Public ours).val ++ deviceId ++ pk.val)).val⟩]

def verifyM2Items (P : OpenSSL) (ctx : PairCtx) (pk ours : Block 32) : List TlvItem :=
  let sealed := P.chachaSeal (verifyEncryptKey P (P.x25519 ours pk)) (OpenSSL.nonce12 noncePvMsg02) []
    ((verifyM2SubItems P ctx pk ours).flatMap tlvEncode)
  [⟨tlvState, [2]⟩, ⟨tlvPublicKey, (P.x25519Public ours).val⟩, ⟨tlvEncryptedData, sealed.1 ++ sealed.2.val⟩]

theorem verifyM1_ok (P : OpenSSL) (ctx : PairCtx) (pk ours : Block 32) :
    pairCall P ctx (verifyM1Call pk ours)
      = some (afterVerifyM1 P ctx pk ours, some ((verifyM2Items P ctx pk ours).flatMap tlvEncode)) := by
  have hin : incoming (VerifyEnv.ok ours).tlv ((verifyM1Items pk).flatMap tlvEncode)
      = some (1, verifyM1Items pk) := incoming_verifyM1 pk
  have hpk : verifyM1Pk (verifyM1Items pk) = some pk := by
    simp [verifyM1Pk, verifyM1Items, tlvFind_cons, tlvState, tlvPublicKey, Block.ofBytes?_val]
  have hecdh : verifyM1Ecdh P ctx pk (VerifyEnv.ok ours).m1 =
      (ctx.withEcdh P pk ours (VerifyEnv.ok ours).m1, none) := rfl
  simp only [pairCall, verifyM1Call, pairVerifyHandle, hin, if_true, handleVerifyM1, hpk, hecdh]
  rfl

/-- The controller finds our X25519 key in M2, signed with the key of M6. -/
theorem readVerifyM2_m2 (hdh : SharedSecrets P) (hours : SignsFor P ctx.ourSk ctx.ourPk) :
    c.readVerifyM2 P ctx.ourPk ((verifyM2Items P ctx (c.ecdhPk P) ours).flatMap tlvEncode)
      = some (.verifyM3 ctx.ourPk (P.x25519Public ours)) := by
  have hitems : Controller.items 2 ((verifyM2Items P ctx (c.ecdhPk P) ours).flatMap tlvEncode)
      = some (verifyM2Items P ctx (c.ecdhPk P) ours) :=
    items_built (by simp [Separated, tlvState, tlvPublicKey, tlvEncryptedData]) (by simp [maxTlvItems])
  have hpk : Controller.publicKey (verifyM2Items P ctx (c.ecdhPk P) ours) = some (P.x25519Public ours) := by
    have hfind : tlvFind (verifyM2Items P ctx (c.ecdhPk P) ours) tlvPublicKey = some (P.x25519Public ours).val := rfl
    rw [Controller.publicKey, hfind, Option.bind_some, Block.ofBytes?_val]
  have hsub : Controller.subItems P (verifyEncryptKey P (c.shared P (P.x25519Public ours))) noncePvMsg02
      (verifyM2Items P ctx (c.ecdhPk P) ours) = some (verifyM2SubItems P ctx (c.ecdhPk P) ours) := by
    refine subItems_sealed ?_ (by simp [verifyM2SubItems, maxTlvItems]) ?_
    · exact .cons_cons (show tlvIdentifier ≠ tlvSignature by decide) (.singleton _)
    · rw [Controller.shared, hdh]
      rfl
  have hsigned : Controller.signed (verifyM2SubItems P ctx (c.ecdhPk P) ours)
      = some (deviceId, P.ed25519Sign ctx.ourSk ((P.x25519Public ours).val ++ deviceId ++ (c.ecdhPk P).val)) := by
    have hident : tlvFind (verifyM2SubItems P ctx (c.ecdhPk P) ours) tlvIdentifier = some deviceId := rfl
    have hsig : tlvFind (verifyM2SubItems P ctx (c.ecdhPk P) ours) tlvSignature =
        some (P.ed25519Sign ctx.ourSk ((P.x25519Public ours).val ++ deviceId ++ (c.ecdhPk P).val)).val := rfl
    simp only [Controller.signed, hident, hsig, Option.bind_some, Block.ofBytes?_val]
  have hverify := hours ((P.x25519Public ours).val ++ deviceId ++ (c.ecdhPk P).val)
  simp only [Controller.readVerifyM2, hitems, hpk, hsub, hsigned, Option.bind_eq_bind, Option.bind_some, hverify, if_true]

/-- M1 and M2 of pair-verify: both sides have the secret. -/
theorem exchange_verifyM1 {accessory : Block 32} (hdh : SharedSecrets P) (hfits : ControllerFits P c ctx)
    (hkeys : KeysKnown c ctx accessory) : Exchanges P c ctx s b ours (.verifyM1 accessory) := by
  obtain ⟨rfl, hpk, hset⟩ := hkeys
  have hshared : P.x25519 ours (c.ecdhPk P) = c.shared P (P.x25519Public ours) := (hdh _ _).symm
  have hawaits : AwaitsVerifyM3 P c (afterVerifyM1 P ctx (c.ecdhPk P) ours) (P.x25519Public ours) :=
    ⟨rfl, rfl, rfl, hshared, congrArg (verifyEncryptKey P) hshared⟩
  refine ⟨verifyM1Call (c.ecdhPk P) ours, afterVerifyM1 P ctx (c.ecdhPk P) ours, _,
    .verifyM3 ctx.ourPk (P.x25519Public ours), rfl, verifyM1_ok P ctx (c.ecdhPk P) ours, ?_, ?_, rfl, ?_⟩
  · exact readVerifyM2_m2 hdh hfits.ours
  · exact ⟨hfits.frame rfl, ⟨rfl, hpk, hset⟩, hawaits⟩
  · intro _ _ h
    cases h

/-- An M3 under the context's key is answered with M4, and with the stored keys' signature it is found to be signed. -/
theorem verifyM3_ok {ident : Bytes} {sig : Block 64} (hset : ctx.clientPkSet = true)
    (hecdh : ctx.clientEcdhPkSet = true) (hsig : P.ed25519Verify ctx.clientPk sig (verifyMsg ctx ident) = true) :
    pairCall P ctx (verifyM3Call P ctx.verifyEncKey ident sig)
        = some ({ ctx with verifyState := 4 }, some (([⟨tlvState, [4]⟩] : List TlvItem).flatMap tlvEncode)) ∧
      CompletesVerify P ⟨ctx, verifyM3Call P ctx.verifyEncKey ident sig, { ctx with verifyState := 4 }⟩
        ident sig .passed := by
  obtain ⟨report, -, e, items, ⟨body, hi, hin⟩, hopen, hrep⟩ := verifyM3_step P ctx ident sig
  obtain ⟨rfl, rfl⟩ := PairInput.verify.inj hi
  have hpassed : verifySignature P ctx ident sig (VerifyEnv.ok (Block.zero 32)).m3 = some .passed := by
    rw [verifySignature, if_pos ⟨hset, hecdh⟩]
    show (if P.ed25519Verify ctx.clientPk sig (verifyMsg ctx ident) = true then some SigCheck.passed
      else some SigCheck.failed) = _
    rw [if_pos hsig]
  refine ⟨?_, _, items, ⟨_, rfl, hin⟩, hopen, hpassed⟩
  simp only [pairCall, verifyM3Call, pairVerifyHandle, hin, handleVerifyM3, hopen, hpassed]
  rfl

/-- M3 and M4 of pair-verify. -/
theorem exchange_verifyM3 {accessory serverPk : Block 32} (hfits : ControllerFits P c ctx)
    (hkeys : KeysKnown c ctx accessory) (hawaits : AwaitsVerifyM3 P c ctx serverPk) :
    Exchanges P c ctx s b ours (.verifyM3 accessory serverPk) := by
  have hsig : P.ed25519Verify ctx.clientPk (c.signature P serverPk) (verifyMsg ctx c.identifier) = true := by
    rw [hkeys.clientPk, verifyMsg, hawaits.clientEcdhPk, hawaits.ourEcdhPk]
    exact hfits.theirs _
  obtain ⟨hcall, hdone⟩ := verifyM3_ok hkeys.clientPkSet hawaits.clientEcdhPkSet hsig
  have hitems : Controller.items 4 (([⟨tlvState, [4]⟩] : List TlvItem).flatMap tlvEncode) = some [⟨tlvState, [4]⟩] :=
    items_built (.singleton _) (by simp [maxTlvItems])
  have hread : c.readVerifyM4 P accessory serverPk (([⟨tlvState, [4]⟩] : List TlvItem).flatMap tlvEncode)
      = some (.paired accessory (c.shared P serverPk)) := by
    simp only [Controller.readVerifyM4, hitems, Option.bind_eq_bind, Option.bind_some]
    rfl
  refine ⟨_, _, _, .paired accessory (c.shared P serverPk), ?_, hcall, hread, ?_, rfl, ?_⟩
  · rw [Controller.call, hawaits.encKey]
  · exact ⟨hfits.frame rfl, ⟨hkeys.accessory, hkeys.clientPk, hkeys.clientPkSet⟩, hawaits.shared, rfl⟩
  · intro _ _ h
    cases h
    exact hdone

/-- **Every exchange succeeds.** -/
theorem exchanges_of_inv {sys : Pairing} (hdh : SharedSecrets P) (h : PairingInv P c sys)
    (hdraws : sys.phase = .setupM1 → DrawsFit P c s b) :
    Exchanges P c sys.ctx s b ours sys.phase ∨ ∃ accessory shared, sys.phase = .paired accessory shared := by
  obtain ⟨ctx, phase⟩ := sys
  obtain ⟨hfits, hphase⟩ := h
  cases phase with
  | setupM1 => exact .inl (exchange_setupM1 hfits (hdraws rfl))
  | setupM3 salt B => exact .inl (exchange_setupM3 hfits hphase)
  | setupM5 key => exact .inl (exchange_setupM5 hfits hphase.1 hphase.2)
  | verifyM1 accessory => exact .inl (exchange_verifyM1 hdh hfits hphase)
  | verifyM3 accessory serverPk => exact .inl (exchange_verifyM3 hfits hphase.1 hphase.2)
  | paired accessory shared => exact .inr ⟨accessory, shared, rfl⟩
  | failed => exact hphase.elim

end Exchange

/-! ## The property

The number of exchanges tells the phase, so it is enough to carry `PairingInv` through the run and to look at the
phase behind it. -/

/-- The keys the controller derives from the shared secret, by the labels of the other side. -/
structure SessionKeys (P : OpenSSL) (ctx : PairCtx) (shared : Block 32) : Prop where
  control : pairDeriveControlKeys P ctx = some
    { readKey := verifyHkdf P shared (ascii "Control-Salt") (ascii "Control-Write-Encryption-Key")
      writeKey := verifyHkdf P shared (ascii "Control-Salt") (ascii "Control-Read-Encryption-Key") }
  events : pairDeriveEventKeys P ctx = some
    { readKey := verifyHkdf P shared (ascii "Events-Salt") (ascii "Events-Read-Encryption-Key")
      writeKey := verifyHkdf P shared (ascii "Events-Salt") (ascii "Events-Write-Encryption-Key") }
  stream : ∀ id, pairDeriveStreamKey P ctx id =
    some (verifyHkdf P shared (ascii ("DataStream-Salt" ++ toString id.toNat)) (ascii "DataStream-Output-Encryption-Key"))

/-- The exchanges of a run. -/
def exchangeCount (h : List (Step Pairing PairingInput)) : Nat :=
  h.countP fun x => match x.input with
    | .exchange _ _ _ => true
    | .other _ => false

/-- **The pairing completes.** -/
structure PairingOk (P : OpenSSL) (c : Controller) (h : List (Step Pairing PairingInput)) (sys : Pairing) : Prop where
  /-- No exchange has failed. -/
  phase : sys.phase.number = exchangeCount h
  /-- The next one, if there is one, will not fail either. -/
  progress : ∀ s b ours, (sys.phase = .setupM1 → DrawsFit P c s b) → sys.phase.number < 5 →
    ∃ sys', pairingStep P c sys (.exchange s b ours) = some sys' ∧ sys'.phase.number = sys.phase.number + 1
  /-- At the end the two sides know each other and derive the same keys. -/
  agreement : ∀ accessory shared, sys.phase = .paired accessory shared →
    KeysKnown c sys.ctx accessory ∧ SessionKeys P sys.ctx shared
  /-- The M3 of pair-verify was found to be signed with the key of M5. -/
  authenticated : ∀ x ∈ h, ∀ s b ours accessory serverPk, x.input = .exchange s b ours →
    x.pre.phase = .verifyM3 accessory serverPk → ∃ i, c.call P s b ours x.pre.phase = some i ∧
      CompletesVerify P ⟨x.pre.ctx, i, x.post.ctx⟩ c.identifier (c.signature P serverPk) .passed

/-- The step of an exchange. -/
theorem pairingStep_exchange {c : Controller} {sys : Pairing} {s : Fin (2 ^ 128)} {b ours : Block 32}
    (h : Exchanges P c sys.ctx s b ours sys.phase) :
    ∃ i sys', c.call P s b ours sys.phase = some i ∧ pairingStep P c sys (.exchange s b ours) = some sys' ∧
      PairingInv P c sys' ∧ sys'.phase.number = sys.phase.number + 1 ∧
      ∀ accessory serverPk, sys.phase = .verifyM3 accessory serverPk →
        CompletesVerify P ⟨sys.ctx, i, sys'.ctx⟩ c.identifier (c.signature P serverPk) .passed := by
  obtain ⟨i, ctx', answer, phase', hi, hcall, hread, hinv, hnumber, hdone⟩ := h
  refine ⟨i, ⟨ctx', phase'⟩, hi, ?_, hinv, hnumber, hdone⟩
  simp only [pairingStep, hi, hcall, Option.bind_some, hread, Option.getD_some]

/-- A controller that is not through has a next exchange. -/
theorem pairingStep_next {c : Controller} {sys : Pairing} {s : Fin (2 ^ 128)} {b : Block 32} (ours : Block 32)
    (hdh : SharedSecrets P) (h : PairingInv P c sys) (hdraws : sys.phase = .setupM1 → DrawsFit P c s b)
    (hlt : sys.phase.number < 5) :
    ∃ sys', pairingStep P c sys (.exchange s b ours) = some sys' ∧ PairingInv P c sys' ∧
      sys'.phase.number = sys.phase.number + 1 := by
  rcases exchanges_of_inv (b := b) hdh h hdraws with hex | ⟨_, _, hpaired⟩
  · obtain ⟨_, sys', _, hstep, hinv, hnumber, _⟩ := pairingStep_exchange hex
    exact ⟨sys', hstep, hinv, hnumber⟩
  · rw [hpaired] at hlt
    exact absurd hlt (Nat.lt_irrefl 5)

/-- The exchanges that ended pair-verify were signed. -/
def Authenticated (P : OpenSSL) (c : Controller) (x : Step Pairing PairingInput) : Prop :=
  ∀ s b ours accessory serverPk, x.input = .exchange s b ours → x.pre.phase = .verifyM3 accessory serverPk →
    ∃ i, c.call P s b ours x.pre.phase = some i ∧
      CompletesVerify P ⟨x.pre.ctx, i, x.post.ctx⟩ c.identifier (c.signature P serverPk) .passed

/-- What a run keeps. -/
def PairingRunInv (P : OpenSSL) (c : Controller) (h : List (Step Pairing PairingInput)) (sys : Pairing) : Prop :=
  PairingInv P c sys ∧ sys.phase.number = exchangeCount h ∧ ∀ x ∈ h, Authenticated P c x

/-- A step keeps it. -/
theorem pairingRunInv_step {c : Controller} {h : List (Step Pairing PairingInput)} {sys sys' : Pairing}
    {i : PairingInput} (hdh : SharedSecrets P) (hinv : PairingRunInv P c h sys)
    (hs : pairingStep P c sys i = some sys') (hfits : PairingFits P c ⟨sys, i, sys'⟩) :
    PairingRunInv P c (h ++ [⟨sys, i, sys'⟩]) sys' := by
  obtain ⟨hsys, hnumber, hauth⟩ := hinv
  have hmem : ∀ {x}, x ∈ h ++ [⟨sys, i, sys'⟩] → x ∈ h ∨ x = ⟨sys, i, sys'⟩ := by
    intro x hx
    rcases List.mem_append.mp hx with hx | hx
    · exact .inl hx
    · exact .inr (List.mem_singleton.mp hx)
  cases i with
  | exchange s b ours =>
      rcases exchanges_of_inv hdh hsys hfits with hex | ⟨_, _, hpaired⟩
      · obtain ⟨i, sys'', hi, hstep, hinv', hnumber', hdone⟩ := pairingStep_exchange hex
        obtain rfl := Option.some.inj (hs.symm.trans hstep)
        refine ⟨hinv', ?_, ?_⟩
        · rw [hnumber', hnumber, exchangeCount, exchangeCount, List.countP_append]
          rfl
        · intro x hx
          rcases hmem hx with hx | rfl
          · exact hauth x hx
          · intro s' b' ours' accessory serverPk hinput hphase
            cases hinput
            exact ⟨i, hi, hdone accessory serverPk hphase⟩
      · -- a paired controller has no message
        rw [pairingStep, hpaired] at hs
        cases hs
  | other i =>
      have hcall : ∃ ctx', pairStep P sys.ctx i ctx' ∧ sys' = ⟨ctx', sys.phase⟩ := by
        rw [pairingStep] at hs
        split at hs
        · cases hs
        · rename_i ctx' resp hcall
          exact ⟨ctx', ⟨resp, hcall⟩, (Option.some.inj hs).symm⟩
      obtain ⟨ctx', hstep, rfl⟩ := hcall
      refine ⟨pairingInv_other hsys hstep hfits, ?_, ?_⟩
      · rw [exchangeCount, List.countP_append]
        exact hnumber
      · intro x hx
        rcases hmem hx with hx | rfl
        · exact hauth x hx
        · intro _ _ _ _ _ hinput
          cases hinput

/-- The derivations of a context whose pair-verify is complete. -/
theorem sessionKeys_of_shared {ctx : PairCtx} {shared : Block 32} (hshared : ctx.verifyShared = shared)
    (hstate : ctx.verifyState = 4) : SessionKeys P ctx shared := by
  subst hshared
  refine ⟨?_, ?_, fun id => ?_⟩
  · rw [pairDeriveControlKeys, if_neg (not_not_intro hstate)]
  · rw [pairDeriveEventKeys, if_neg (not_not_intro hstate)]
  · rw [pairDeriveStreamKey, if_neg (not_not_intro hstate)]

/-- **Pairing completes.** From any context with the controller's PIN, and whatever calls of others come in between as
    long as they leave the exchange alone, each of the five exchanges succeeds; behind them both sides know the long-term
    key of the other, each has checked the other's signature, and the session keys are the same on both sides. -/
theorem pairing_completes {c : Controller} {ctx : PairCtx} {h : List (Step Pairing PairingInput)} {sys : Pairing}
    (hdh : SharedSecrets P) (hc : ControllerFits P c ctx) (hr : PairingRun P c ⟨ctx, .setupM1⟩ h sys)
    (hfits : ∀ x ∈ h, PairingFits P c x) : PairingOk P c h sys := by
  obtain ⟨hinv, hnumber, hauth⟩ : PairingRunInv P c h sys :=
    Run.induction (PairingFits P c) (PairingRunInv P c) ⟨⟨hc, trivial⟩, rfl, fun _ hx => absurd hx List.not_mem_nil⟩
      (fun _ _ _ _ _ hinv hs hg => pairingRunInv_step hdh hinv hs hg) hr hfits
  refine ⟨hnumber, ?_, ?_, hauth⟩
  · intro s b ours hdraws hlt
    obtain ⟨sys', hstep, -, hnumber'⟩ := pairingStep_next ours hdh hinv hdraws hlt
    exact ⟨sys', hstep, hnumber'⟩
  · intro accessory shared hpaired
    have hphase := hinv.2
    rw [hpaired] at hphase
    exact ⟨hphase.1, sessionKeys_of_shared hphase.2.1 hphase.2.2⟩

/-! ### A pairing with a call of somebody else in the middle -/

section Example

theorem toy_sharedSecrets : SharedSecrets .toy := by
  intro _ _
  apply Subtype.ext
  exact List.zipWith_comm_of_comm (fun x y => UInt8.xor_comm x y)

theorem toy_signsFor (sk : Block 32) : SignsFor .toy sk sk := by
  intro m
  simp only [OpenSSL.toy, decide_true]

/-- The toy digest does not see leading zeros, so both forms of a secret have one key. -/
theorem toy_drawsFit (c : Controller) {s : Fin (2 ^ 128)} (b : Block 32) (hs : (sentSalt s).val.head? ≠ some 0) :
    DrawsFit .toy c s b := by
  refine ⟨hs, fun _ => ?_⟩
  have hlt : Srp.S .toy (Srp.v .toy s c.pin) (ofBE b.val) (SrpClient.A c.srpA) < 256 ^ 384 :=
    Nat.lt_trans (Nat.mod_lt _ (Nat.lt_trans Nat.zero_lt_one one_lt_srpN)) srpN_lt
  generalize Srp.S .toy (Srp.v .toy s c.pin) (ofBE b.val) (SrpClient.A c.srpA) = S at hlt
  apply Subtype.ext
  show toBE 64 (ofBE (minBE S)) = toBE 64 (ofBE (Srp.pad S))
  rw [ofBE_minBE, Srp.pad, ofBE_toBE, Nat.mod_eq_of_lt hlt]

/-- A phone. -/
def toyController : Controller where
  pin := srpDefaultPin
  identifier := ascii "phone"
  ltsk := Block.zero 32
  ltpk := Block.zero 32
  srpA := 1
  bytesA := minBE (SrpClient.A 1)
  mode := .padded
  ecdh := Block.zero 32

theorem toyController_fits : ControllerFits .toy toyController (pairCtxCreate (Block.zero 32) (Block.zero 32) none) where
  pin := by decide
  ours := toy_signsFor _
  theirs := toy_signsFor _
  bytesA := ofBE_minBE _

/-- A salt that begins with 128. -/
def toySalt : Fin (2 ^ 128) := ⟨2 ^ 127, by decide⟩

theorem toySalt_head : (sentSalt toySalt).val.head? ≠ some 0 := by decide

/-- Behind M4 of pair-setup, another connection begins a pair-verify. -/
theorem pairing_completes_interleaved : ∃ (c : Controller) (ctx : PairCtx) (h : List (Step Pairing PairingInput))
    (sys : Pairing), PairingRun .toy c ⟨ctx, .setupM1⟩ h sys ∧ h.length = 6 ∧ exchangeCount h = 5 ∧
      PairingOk .toy c h sys := by
  let ctx := pairCtxCreate (Block.zero 32) (Block.zero 32) none
  have hdraws : DrawsFit .toy toyController toySalt (Block.zero 32) := toy_drawsFit _ _ toySalt_head
  have hex : ∀ sys : Pairing, PairingInv .toy toyController sys → sys.phase.number < 5 → ∃ sys',
      pairingStep .toy toyController sys (.exchange toySalt (Block.zero 32) (Block.zero 32)) = some sys' ∧
      PairingInv .toy toyController sys' ∧ sys'.phase.number = sys.phase.number + 1 := fun sys h hlt =>
    pairingStep_next (Block.zero 32) toy_sharedSecrets h (fun _ => hdraws) hlt
  have h₀ : PairingInv .toy toyController ⟨ctx, .setupM1⟩ := ⟨toyController_fits, trivial⟩
  obtain ⟨s₁, hs₁, hi₁, hn₁⟩ := hex _ h₀ (Nat.zero_lt_succ 4)
  have hone : s₁.phase.number = 1 := hn₁
  obtain ⟨s₂, hs₂, hi₂, hn₂⟩ := hex s₁ hi₁ (by omega)
  -- the call of the other connection
  have hother : ∃ s₃, pairingStep .toy toyController s₂ (.other (verifyM1Call (Block.zero 32) (Block.zero 32))) = some s₃ ∧
      s₃.phase = s₂.phase ∧ pairStep .toy s₂.ctx (verifyM1Call (Block.zero 32) (Block.zero 32)) s₃.ctx := by
    have hcall := verifyM1_ok .toy s₂.ctx (Block.zero 32) (Block.zero 32)
    refine ⟨⟨afterVerifyM1 .toy s₂.ctx (Block.zero 32) (Block.zero 32), s₂.phase⟩, ?_, rfl, _, hcall⟩
    rw [pairingStep, hcall]
  obtain ⟨s₃, hs₃, hphase, hstep⟩ := hother
  have htwo : ∃ key, s₂.phase = .setupM5 key := by
    cases hphase₂ : s₂.phase with
    | setupM5 key => exact ⟨key, rfl⟩
    | _ =>
        rw [hphase₂, hone] at hn₂
        cases hn₂
  obtain ⟨key, hkey⟩ := htwo
  have hfit₃ : LeavesAlone .toy ⟨s₂.ctx, verifyM1Call (Block.zero 32) (Block.zero 32), s₃.ctx⟩ s₂.phase := by
    rw [hkey]
    constructor
    · rintro ⟨_, _, _, hi, _⟩
      cases hi
    · rintro ⟨_, _, _, _, _, _, _, hi, _⟩
      cases hi
  have hi₃ : PairingInv .toy toyController s₃ := by
    have hkept := pairingInv_other hi₂ hstep hfit₃
    rw [← hphase] at hkept
    exact hkept
  have hn₃ : s₃.phase.number = 2 := by rw [hphase, hn₂, hone]
  obtain ⟨s₄, hs₄, hi₄, hn₄⟩ := hex s₃ hi₃ (by omega)
  obtain ⟨s₅, hs₅, hi₅, hn₅⟩ := hex s₄ hi₄ (by omega)
  obtain ⟨s₆, hs₆, -, -⟩ := hex s₅ hi₅ (by omega)
  have hr := (((((Run.snoc (Run.nil (R := fun sys i sys' => pairingStep .toy toyController sys i = some sys')) hs₁).snoc
    hs₂).snoc hs₃).snoc hs₄).snoc hs₅).snoc hs₆
  refine ⟨toyController, ctx, _, s₆, hr, rfl, rfl,
    pairing_completes toy_sharedSecrets toyController_fits hr fun x hx => ?_⟩
  simp only [List.nil_append, List.cons_append, List.mem_cons, List.not_mem_nil, or_false] at hx
  rcases hx with rfl | rfl | rfl | rfl | rfl | rfl
  · exact fun _ => hdraws
  · exact fun _ => hdraws
  · exact hfit₃
  · exact fun _ => hdraws
  · exact fun _ => hdraws
  · exact fun _ => hdraws

end Example

end Showcase
