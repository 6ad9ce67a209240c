import Mathlib.Data.Nat.ModEq
import Showcase.Pair.SetupSound

/-!
# `Pair.SrpComplete` — a client with the right PIN

The client side of SRP-6a as HAP and RFC 5054 prescribe it, on what it received in M2, and whether
`handle_setup_m3` accepts its proof. The server hashes the salt as a number (`calculate_x` by `H_ns`), the client
hashes the 16 bytes it was sent; a leading zero byte makes two different hash inputs of them.

* `secret_eq` — with one `x` on both sides the secrets agree.
* `setup_complete_iff` — a client with the PIN is accepted, whatever hash is used, exactly when the salt does not
  begin with a zero byte.
-/

namespace Showcase

open Lib

/-! ## The client -/

namespace SrpClient

variable (P : OpenSSL)

/-- `x = H(salt || H(I:P))` over the salt bytes as they were sent. -/
def x (salt pin : Bytes) : Nat :=
  ofBE (P.sha512 (salt ++ (P.sha512 (srpUsername ++ ascii ":" ++ pin)).val)).val

/-- `A = g^a mod N`. -/
def A (a : Nat) : Nat := srpG ^ a % srpN

/-- `(B - k*g^x)^(a + u*x) mod N`. -/
def secret (k u x a B : Nat) : Nat := (B + (srpN - k * srpG ^ x % srpN)) ^ (a + u * x) % srpN

/-- The shared secret of the client. -/
def S (salt pin : Bytes) (a B : Nat) : Nat := secret (Srp.k P) (Srp.u P (A a) B) (x P salt pin) a B

def key (mode : Srp.Kdf) (salt pin : Bytes) (a B : Nat) : Block 64 := Srp.key P mode (S P salt pin a B)

def proof (mode : Srp.Kdf) (salt : Block 16) (pin : Bytes) (a B : Nat) : Block 64 :=
  Srp.M P salt (A a) B (key P mode salt.val pin a B)

/-- The server proof it expects in M4. -/
def serverProof (mode : Srp.Kdf) (salt : Block 16) (pin : Bytes) (a B : Nat) : Block 64 :=
  Srp.serverProof P (A a) (proof P mode salt pin a B) (key P mode salt.val pin a B)

end SrpClient

/-! ## The secrets -/

/-- `g^b` is what is left of `B` without `k*v`. -/
theorem base_modEq (k x b : Nat) :
    (k * (srpG ^ x % srpN) + srpG ^ b) % srpN + (srpN - k * srpG ^ x % srpN) ≡ srpG ^ b [MOD srpN] := by
  have hle : k * srpG ^ x % srpN ≤ srpN := Nat.le_of_lt (Nat.mod_lt _ (Nat.lt_trans Nat.zero_lt_one one_lt_srpN))
  have hkv : k * (srpG ^ x % srpN) ≡ k * srpG ^ x % srpN [MOD srpN] := by
    have hpow : k * (srpG ^ x % srpN) ≡ k * srpG ^ x [MOD srpN] := Nat.ModEq.mul_left k (Nat.mod_modEq _ _)
    exact hpow.trans (Nat.mod_modEq _ _).symm
  have hB : (k * (srpG ^ x % srpN) + srpG ^ b) % srpN ≡ k * srpG ^ x % srpN + srpG ^ b [MOD srpN] :=
    (Nat.mod_modEq _ _).trans (hkv.add_right _)
  have hsum : k * srpG ^ x % srpN + srpG ^ b + (srpN - k * srpG ^ x % srpN) = srpG ^ b + srpN := by omega
  refine (hB.add_right _).trans ?_
  rw [hsum]
  exact Nat.add_modEq_right

/-- **The secrets agree** when the client's `x` is the server's. -/
theorem secret_eq (k u x a b : Nat) :
    SrpClient.secret k u x a ((k * (srpG ^ x % srpN) + srpG ^ b) % srpN)
      = ((srpG ^ a % srpN) * (srpG ^ x % srpN) ^ u) ^ b % srpN := by
  have hclient : ((k * (srpG ^ x % srpN) + srpG ^ b) % srpN + (srpN - k * srpG ^ x % srpN)) ^ (a + u * x)
      ≡ (srpG ^ b) ^ (a + u * x) [MOD srpN] := (base_modEq k x b).pow _
  have hserver : ((srpG ^ a % srpN) * (srpG ^ x % srpN) ^ u) ^ b ≡ (srpG ^ a * (srpG ^ x) ^ u) ^ b [MOD srpN] :=
    ((Nat.mod_modEq _ _).mul ((Nat.mod_modEq _ _).pow u)).pow b
  have hexp : (srpG ^ b) ^ (a + u * x) = (srpG ^ a * (srpG ^ x) ^ u) ^ b := by
    rw [← Nat.pow_mul, ← Nat.pow_mul, ← Nat.pow_add, ← Nat.pow_mul]
    congr 1
    ring
  exact hclient.trans (hexp ▸ hserver.symm)

/-- **With two different `x` they can differ**: for all private keys there are hash values for which they do. -/
theorem secrets_differ (a b : Nat) :
    ∃ k u xs xc, k ≤ 2 ∧ u ≤ 2 ∧ xs ≤ 2 ∧ xc ≤ 2 ∧
      SrpClient.secret k u xc a ((k * (srpG ^ xs % srpN) + srpG ^ b) % srpN)
        ≠ ((srpG ^ a % srpN) * (srpG ^ xs % srpN) ^ u) ^ b % srpN := by
  by_cases hb : srpG ^ b ≡ 1 [MOD srpN]
  · -- the server's secret is a power of `g^b`, the client's one of 26 - 5
    have hserver : ∀ u, ((srpG ^ a % srpN) * (srpG ^ 2 % srpN) ^ u) ^ b ≡ 1 [MOD srpN] := by
      intro u
      have hpow : ((srpG ^ a % srpN) * (srpG ^ 2 % srpN) ^ u) ^ b ≡ (srpG ^ a * (srpG ^ 2) ^ u) ^ b [MOD srpN] :=
        ((Nat.mod_modEq _ _).mul ((Nat.mod_modEq _ _).pow u)).pow b
      have hexp : (srpG ^ a * (srpG ^ 2) ^ u) ^ b = (srpG ^ b) ^ (a + 2 * u) := by
        rw [← Nat.pow_mul, ← Nat.pow_add, ← Nat.pow_mul, ← Nat.pow_mul, Nat.mul_comm]
      have hone : (srpG ^ b) ^ (a + 2 * u) ≡ 1 ^ (a + 2 * u) [MOD srpN] := hb.pow _
      rw [Nat.one_pow, ← hexp] at hone
      exact hpow.trans hone
    have hbase : (1 * (srpG ^ 2 % srpN) + srpG ^ b) % srpN + (srpN - 1 * srpG ^ 1 % srpN) ≡ 21 [MOD srpN] := by
      have h2 : 1 * (srpG ^ 2 % srpN) = 25 := by decide +kernel
      have h1 : 1 * srpG ^ 1 % srpN = 5 := by decide +kernel
      have h5 : 5 ≤ srpN := by decide +kernel
      have hsum : 25 + 1 + (srpN - 5) = 21 + srpN := by omega
      have hB : (25 + srpG ^ b) % srpN ≡ 25 + 1 [MOD srpN] := (Nat.mod_modEq _ _).trans (hb.add_left 25)
      rw [h2, h1]
      refine (hB.add_right _).trans ?_
      rw [hsum]
      exact Nat.add_modEq_right
    have hclient : ∀ u, SrpClient.secret 1 u 1 a ((1 * (srpG ^ 2 % srpN) + srpG ^ b) % srpN)
        = 21 ^ (a + u) % srpN := by
      intro u
      have hpow := hbase.pow (a + u * 1)
      rw [Nat.mul_one] at hpow
      rw [SrpClient.secret, Nat.mul_one]
      exact hpow
    by_cases ha : 21 ^ a ≡ 1 [MOD srpN]
    · refine ⟨1, 1, 2, 1, by omega, by omega, by omega, by omega, ?_⟩
      rw [hclient, Nat.pow_succ]
      intro heq
      have h21 : 21 ≡ 1 [MOD srpN] := by
        have hmul : 21 ^ a * 21 ≡ 1 * 21 [MOD srpN] := ha.mul_right 21
        exact hmul.symm.trans (Nat.ModEq.trans heq (hserver 1))
      exact absurd h21 (by decide +kernel)
    · refine ⟨1, 0, 2, 1, by omega, by omega, by omega, by omega, ?_⟩
      rw [hclient, Nat.add_zero]
      intro heq
      exact ha (Nat.ModEq.trans heq (hserver 0))
  · -- without `k` the client misses the factor `v^(u*b)`
    refine ⟨0, 1, 1, 0, by omega, by omega, by omega, by omega, ?_⟩
    intro heq
    apply hb
    have hclient : ((0 * (srpG ^ 1 % srpN) + srpG ^ b) % srpN + (srpN - 0 * srpG ^ 0 % srpN)) ^ (a + 1 * 0)
        ≡ (srpG ^ b) ^ a [MOD srpN] := by
      rw [Nat.zero_mul, Nat.zero_mul, Nat.zero_mod, Nat.sub_zero, Nat.zero_add, Nat.mul_zero, Nat.add_zero]
      exact (Nat.add_modEq_right.trans (Nat.mod_modEq _ _)).pow a
    have hserver : ((srpG ^ a % srpN) * (srpG ^ 1 % srpN) ^ 1) ^ b ≡ (srpG ^ b) ^ a * srpG ^ b [MOD srpN] := by
      have hpow : ((srpG ^ a % srpN) * (srpG ^ 1 % srpN) ^ 1) ^ b ≡ (srpG ^ a * (srpG ^ 1) ^ 1) ^ b [MOD srpN] :=
        ((Nat.mod_modEq _ _).mul ((Nat.mod_modEq _ _).pow 1)).pow b
      have hexp : (srpG ^ a * (srpG ^ 1) ^ 1) ^ b = (srpG ^ b) ^ a * srpG ^ b := by
        rw [Nat.pow_one, Nat.pow_one, Nat.mul_pow, ← Nat.pow_mul, ← Nat.pow_mul, Nat.mul_comm a b]
      exact hexp ▸ hpow
    have hcop : Nat.Coprime srpN ((srpG ^ b) ^ a) := ((coprime_srpG_srpN.pow_left b).pow_left a).symm
    have hall : (srpG ^ b) ^ a * srpG ^ b ≡ (srpG ^ b) ^ a * 1 [MOD srpN] := by
      rw [Nat.mul_one]
      exact hserver.symm.trans (Nat.ModEq.trans (Eq.symm heq) hclient)
    exact Nat.ModEq.cancel_left_of_coprime hcop hall

/-! ## The exchange

M1 and M3 are followed with every call granted, and the hash left open. What remains is an equation between two
secrets, and this is one between two hash inputs. -/

/-- The salt as it is sent. -/
def sentSalt (s : Fin (2 ^ 128)) : Block 16 := ⟨toBE 16 s, toBE_length _ _⟩

/-- The hash does not give the proofs of the two modes one value for two keys. -/
def ProofsDistinct (P : OpenSSL) (salt : Block 16) (A B S : Nat) : Prop :=
  Srp.M P salt A B (Srp.key P .minimal S) = Srp.M P salt A B (Srp.key P .padded S) →
    Srp.key P .minimal S = Srp.key P .padded S

/-- M1 and M3 of a client that computes its proof from the M2 it received, with the PIN of the context: the proof
    is accepted, both sides have the key, and the M4 holds the server proof the client expects. -/
def ClientCompletes (P : OpenSSL) (ctx : PairCtx) (s : Fin (2 ^ 128)) (b : Block 32) (a : Nat) (bytesA : Bytes)
    (mode : Srp.Kdf) : Prop :=
  ∃ ctx₁ m2 items salt B, pairSetupHandle P ctx setupM1Body (.ok s b) = some (ctx₁, some m2) ∧
    tlvParse .ok m2 = some items ∧ tlvFind items tlvSalt = some salt.val ∧
    tlvFind items tlvPublicKey = some B ∧
    ∃ ctx₂ m4 items', pairSetupHandle P ctx₁
        ((setupM3Items bytesA (SrpClient.proof P mode salt ctx.pin a (ofBE B)).val).flatMap tlvEncode) (.ok s b)
          = some (ctx₂, some m4) ∧
      ctx₂.srpHasSessionKey = true ∧ ctx₂.srpSessionKey = SrpClient.key P mode salt.val ctx.pin a (ofBE B) ∧
      tlvParse .ok m4 = some items' ∧ tlvFind items' tlvState = some [4] ∧
      tlvFind items' tlvProof = some (SrpClient.serverProof P mode salt ctx.pin a (ofBE B)).val

/-- **SRP completeness** for a salt, the private keys and a PIN: whatever the hash, the state of the context, the
    form of `A` and the mode of the client. -/
def SetupComplete (s : Fin (2 ^ 128)) (b : Block 32) (a : Nat) (pin : Bytes) : Prop :=
  ∀ (P : OpenSSL) (ctx : PairCtx) (bytesA : Bytes) (mode : Srp.Kdf), ctx.pin = pin →
    ofBE bytesA = SrpClient.A a →
    (let v := Srp.v P s pin
     let B := Srp.B P v (ofBE b.val)
     ProofsDistinct P (sentSalt s) (SrpClient.A a) B (Srp.S P v (ofBE b.val) (SrpClient.A a))) →
    ClientCompletes P ctx s b a bytesA mode

section Exchange

variable {P : OpenSSL} {ctx : PairCtx} {s : Fin (2 ^ 128)} {b : Block 32}

/-- The context behind an M1 in which every call succeeds. -/
def afterM1 (P : OpenSSL) (ctx : PairCtx) (s : Fin (2 ^ 128)) (b : Block 32) : PairCtx :=
  { setupM1Reset ctx with
    srpSalt := sentSalt s
    srpVerifier := some (minBE (Srp.v P s ctx.pin))
    srpVerifierLen := (minBE (Srp.v P s ctx.pin)).length
    srpB := b
    setupState := 2 }

/-- The items of its M2. -/
def m2Items (P : OpenSSL) (ctx : PairCtx) (s : Fin (2 ^ 128)) (b : Block 32) : List TlvItem :=
  [⟨tlvState, [2]⟩, ⟨tlvSalt, (sentSalt s).val⟩,
    ⟨tlvPublicKey, minBE (Srp.B P (Srp.v P s ctx.pin) (ofBE b.val))⟩]

theorem handleSetupM1_ok {salt : Block 16} {verifier B : Bytes}
    (hsv : srpCreateSaltVerifier P srpUsername ctx.pin (SetupM1Env.ok s b).sv = (some salt, some verifier))
    (hB : srpCreateB P verifier b (SetupM1Env.ok s b).createB = some B) :
    handleSetupM1 P ctx (.ok s b) =
      ({ setupM1Reset ctx with
          srpSalt := salt
          srpVerifier := some verifier
          srpVerifierLen := verifier.length
          srpB := b
          setupState := 2 },
        tlvBuild true [⟨tlvState, [2]⟩, ⟨tlvSalt, salt.val⟩, ⟨tlvPublicKey, B⟩]) := by
  have hpin : (setupM1Reset ctx).pin = ctx.pin := rfl
  have hdraw : (SetupM1Env.ok s b).b = some b := rfl
  simp only [handleSetupM1, setupM1Begin, hpin, hsv, hdraw, Option.getD_some, hB]
  rfl

theorem setupM1_ok (P : OpenSSL) (ctx : PairCtx) (s : Fin (2 ^ 128)) (b : Block 32) :
    pairSetupHandle P ctx setupM1Body (.ok s b)
      = some (afterM1 P ctx s b, some ((m2Items P ctx s b).flatMap tlvEncode)) := by
  have hin : incoming (SetupEnv.ok s b).tlv setupM1Body = some (1, [⟨tlvState, [1]⟩]) := incoming_setupM1
  have hsv : srpCreateSaltVerifier P srpUsername ctx.pin (SetupM1Env.ok s b).sv
      = (some (sentSalt s), some (minBE (Srp.v P s ctx.pin))) := by
    have hx : calculateX P true true s srpUsername ctx.pin = some (Srp.x P s ctx.pin) := rfl
    simp only [srpCreateSaltVerifier, SetupM1Env.ok, hx, if_true, unchecked_none, modExp_eq]
    rfl
  have hB : srpCreateB P (minBE (Srp.v P s ctx.pin)) b (SetupM1Env.ok s b).createB
      = some (minBE (Srp.B P (Srp.v P s ctx.pin) (ofBE b.val))) := by
    have hk : hNnPad P true srpN srpN srpG = some (Srp.k P) :=
      hNnPad_some (Nat.le_of_eq numBytes_srpN) numBytes_srpG
    simp only [srpCreateB, SetupM1Env.ok, if_true, hk, ofBE_minBE, srpPublicB_eq]
  rw [pairSetupHandle, hin]
  show some (handleSetupM1 P ctx (SetupM1Env.ok s b)) = _
  rw [handleSetupM1_ok hsv hB]
  rfl

theorem m2Items_parse (P : OpenSSL) (ctx : PairCtx) (s : Fin (2 ^ 128)) (b : Block 32) :
    tlvParse .ok ((m2Items P ctx s b).flatMap tlvEncode) = some (m2Items P ctx s b) := by
  refine tlvParse_tlvBuild ?_ (by simp [m2Items, maxTlvItems])
  simp [Separated, m2Items, tlvState, tlvSalt, tlvPublicKey]

theorem setupM3_call (P : OpenSSL) (ctx : PairCtx) (A : Bytes) (proof : Block 64) (s : Fin (2 ^ 128))
    (b : Block 32) :
    pairSetupHandle P ctx ((setupM3Items A proof.val).flatMap tlvEncode) (.ok s b)
      = handleSetupM3 P ctx (setupM3Items A proof.val) ⟨.ok, true⟩ := by
  have hin : incoming (SetupEnv.ok s b).tlv ((setupM3Items A proof.val).flatMap tlvEncode)
      = some (3, setupM3Items A proof.val) := incoming_setupM3 A proof.val
  rw [pairSetupHandle, hin]
  rfl

/-- A rejected proof leaves the context as it was. -/
theorem handleSetupM3_reject {items : List TlvItem} {e : SetupM3Env}
    (h : setupM3Check P ctx items e.ver = some none) :
    handleSetupM3 P ctx items e = some (ctx, makeErrorResponse e.resp 4 2) := by
  rw [handleSetupM3, h]

/-- What the check of an M3 makes of the verifier. -/
theorem setupM3Check_verifier (ctx : PairCtx) {A : Bytes} {proof : Block 64} {ver : SrpVerifier}
    (hver : srpVerifierNew P srpUsername ctx.srpSalt ctx.srpVerifier ctx.srpVerifierLen A ctx.srpB .ok
      = some (some ver)) :
    setupM3Check P ctx (setupM3Items A proof.val) .ok = some (srpVerifierVerify ver proof.val) := by
  have hlen := proof.property
  simp [setupM3Check, setupM3Items, tlvFind_cons, tlvState, tlvPublicKey, tlvProof, hver, hlen]

/-- The verifier of the exchange, and what it holds. -/
theorem afterM1_verifier (P : OpenSSL) (ctx : PairCtx) (s : Fin (2 ^ 128)) (b : Block 32) {bytesA : Bytes} {a : Nat}
    (hA : ofBE bytesA = SrpClient.A a) :
    ∃ ver, srpVerifierNew P srpUsername (afterM1 P ctx s b).srpSalt (afterM1 P ctx s b).srpVerifier
        (afterM1 P ctx s b).srpVerifierLen bytesA (afterM1 P ctx s b).srpB .ok = some (some ver) ∧
      ver.Prescribed P (sentSalt s) (SrpClient.A a) (Srp.B P (Srp.v P s ctx.pin) (ofBE b.val))
        (Srp.S P (Srp.v P s ctx.pin) (ofBE b.val) (SrpClient.A a)) := by
  let v := Srp.v P s ctx.pin
  have hv : bnOfPointer (some (minBE v)) (minBE v).length = some v := by
    simp only [bnOfPointer, List.take_length, ofBE_minBE]
  have hlen : numBytes (ofBE bytesA) ≤ 384 := by
    rw [hA]
    exact numBytes_mod_srpN _
  have hA0 : ofBE bytesA % srpN ≠ 0 := by
    rw [hA, SrpClient.A, Nat.mod_mod]
    intro h
    have hdvd : srpN ∣ srpG ^ a := Nat.dvd_of_mod_eq_zero h
    have hone : srpN = 1 := Nat.Coprime.eq_one_of_dvd (coprime_srpG_srpN.pow_left a).symm hdvd
    exact absurd hone (Nat.ne_of_gt one_lt_srpN)
  obtain ⟨ver, hver⟩ := srpVerifierNew_some P (sentSalt s) b hv hlen hA0
  refine ⟨ver, hver, ?_⟩
  rw [← hA]
  exact srpVerifierNew_eq VerifierEnv.ok_clean hv hver

/-- A verifier accepts the proof of either mode with this mode's key. -/
theorem verify_accepts {salt : Block 16} {A B S : Nat} {ver : SrpVerifier} (hver : ver.Prescribed P salt A B S)
    (hd : ProofsDistinct P salt A B S) (mode : Srp.Kdf) :
    srpVerifierVerify ver (Srp.M P salt A B (Srp.key P mode S)).val
      = some (Srp.serverProof P A (Srp.M P salt A B (Srp.key P mode S)) (Srp.key P mode S), Srp.key P mode S) := by
  have hM : ver.M = Srp.M P salt A B (Srp.key P .minimal S) := hver.sessionKey ▸ hver.M
  have hMp : ver.mPadded = Srp.M P salt A B (Srp.key P .padded S) := hver.sessionKeyPadded ▸ hver.mPadded
  unfold srpVerifierVerify
  rw [hver.hAmk, hver.hAmkPadded, hM, hMp, hver.sessionKey, hver.sessionKeyPadded]
  cases mode with
  | minimal => rw [if_pos rfl]
  | padded =>
      by_cases hsame : (Srp.M P salt A B (Srp.key P .minimal S)).val = (Srp.M P salt A B (Srp.key P .padded S)).val
      · rw [hd (Subtype.ext hsame), if_pos rfl]
      · rw [if_neg hsame, if_pos rfl]

/-! ## Salts without a leading zero -/

/-- The salt begins with a zero byte exactly when its number has a shorter form. -/
theorem salt_head (s : Fin (2 ^ 128)) : (sentSalt s).val.head? = some 0 ↔ numBytes s ≤ 15 := by
  have hlt : s.val < 256 ^ 16 := s.isLt
  have hsplit : toBE 16 s = UInt8.ofNat (s / 256 ^ 15) :: toBE 15 s := by
    rw [show 16 = 1 + 15 from rfl, toBE_add, toBE_one, List.singleton_append]
  have hhead : (sentSalt s).val.head? = some (UInt8.ofNat (s / 256 ^ 15)) := by
    show (toBE 16 s).head? = _
    rw [hsplit, List.head?_cons]
  have hdiv : s.val / 256 ^ 15 < 256 := by
    rw [Nat.div_lt_iff_lt_mul (by omega)]
    exact hlt
  rw [hhead, Option.some.injEq]
  constructor
  · intro h
    have hnat := congrArg UInt8.toNat h
    rw [UInt8.toNat_ofNat', Nat.mod_eq_of_lt hdiv] at hnat
    exact numBytes_le_of_lt ((Nat.div_eq_zero_iff_lt (by omega)).mp hnat)
  · intro h
    have hs : s.val < 256 ^ 15 := Nat.lt_of_lt_of_le (lt_pow_numBytes s) (Nat.pow_le_pow_right (by omega) h)
    rw [Nat.div_eq_of_lt hs]
    rfl

/-- The two sides hash the same bytes. -/
theorem x_eq {pin : Bytes} (hs : (sentSalt s).val.head? ≠ some 0) :
    SrpClient.x P (sentSalt s).val pin = Srp.x P s pin := by
  have hlt : s.val < 256 ^ 16 := s.isLt
  have hle := numBytes_le_of_lt hlt
  have hge : ¬ numBytes s ≤ 15 := fun h => hs ((salt_head s).mpr h)
  have hlen : numBytes s = 16 := by omega
  have hmin : minBE s = (sentSalt s).val := by
    rw [minBE, hlen]
    rfl
  rw [Srp.x, hmin]
  rfl

theorem client_secret_eq {pin : Bytes} {a : Nat} (hs : (sentSalt s).val.head? ≠ some 0) :
    SrpClient.S P (sentSalt s).val pin a (Srp.B P (Srp.v P s pin) (ofBE b.val))
      = Srp.S P (Srp.v P s pin) (ofBE b.val) (SrpClient.A a) := by
  rw [SrpClient.S, x_eq hs]
  exact secret_eq _ _ _ _ _

/-- The M4. -/
def m4Items (proof : Block 64) : List TlvItem := [⟨tlvState, [4]⟩, ⟨tlvProof, proof.val⟩]

theorem m4Items_parse (proof : Block 64) :
    tlvParse .ok ((m4Items proof).flatMap tlvEncode) = some (m4Items proof) := by
  refine tlvParse_tlvBuild ?_ (by simp [m4Items, maxTlvItems])
  simp [Separated, m4Items, tlvState, tlvProof]

/-- **Without a leading zero byte the exchange completes.** -/
theorem completes_of_salt (hs : (sentSalt s).val.head? ≠ some 0) (a : Nat) (pin : Bytes) :
    SetupComplete s b a pin := by
  intro P ctx bytesA mode hpin hA hd
  subst hpin
  have hsecret : SrpClient.S P (sentSalt s).val ctx.pin a (Srp.B P (Srp.v P s ctx.pin) (ofBE b.val))
      = Srp.S P (Srp.v P s ctx.pin) (ofBE b.val) (SrpClient.A a) := client_secret_eq hs
  obtain ⟨ver, hver, hprescribed⟩ := afterM1_verifier P ctx s b hA
  let B := Srp.B P (Srp.v P s ctx.pin) (ofBE b.val)
  have hcheck : setupM3Check P (afterM1 P ctx s b)
      (setupM3Items bytesA (SrpClient.proof P mode (sentSalt s) ctx.pin a B).val) .ok
        = some (some (SrpClient.serverProof P mode (sentSalt s) ctx.pin a B,
            SrpClient.key P mode (sentSalt s).val ctx.pin a B)) := by
    rw [setupM3Check_verifier (afterM1 P ctx s b) hver]
    have hverify := verify_accepts hprescribed hd mode
    rw [← hsecret] at hverify
    exact congrArg some hverify
  have hcall := setupM3_call P (afterM1 P ctx s b) bytesA (SrpClient.proof P mode (sentSalt s) ctx.pin a B) s b
  rw [handleSetupM3, hcheck] at hcall
  refine ⟨afterM1 P ctx s b, _, m2Items P ctx s b, sentSalt s, minBE B, setupM1_ok P ctx s b,
    m2Items_parse P ctx s b, rfl, rfl, ?_⟩
  rw [ofBE_minBE]
  exact ⟨_, _, m4Items (SrpClient.serverProof P mode (sentSalt s) ctx.pin a B), hcall, rfl, rfl,
    m4Items_parse _, rfl, rfl⟩

end Exchange

/-! ## Salts with a leading zero

The two sides hash byte strings of different lengths, so a hash can be chosen that separates their values of `x`, and
with them the secrets. `splitHash` is such a one; it also keeps the two modes apart. -/

/-- A small number as a hash value. -/
def hashValue (n : Nat) : Block 64 := ⟨toBE 64 n, toBE_length _ _⟩

theorem hashValue_toNat {n : Nat} (h : n ≤ 7) : ofBE (hashValue n).val = n := by
  show ofBE (toBE 64 n) = n
  rw [ofBE_toBE]
  exact Nat.mod_eq_of_lt (Nat.lt_of_le_of_lt h (by decide))

/-- A hash under which the secrets of the two sides come apart: `k`, `u` and the two `x` are given, the padded
    secret of the client has a value of its own, and a proof is the key it is made from. -/
def splitHash (k u xs xc S : Nat) (m : Bytes) : Block 64 :=
  if h : m.length = 976 then ⟨m.drop 912, by rw [List.length_drop, h]⟩
  else if m.length = 768 then hashValue (if m = Srp.pad srpN ++ Srp.pad srpG then k else u)
  else if m = Srp.pad S then hashValue 7
  else if m.length = 80 then hashValue xc
  else if 64 ≤ m.length ∧ m.length < 80 then hashValue xs
  else hashValue 0

/-- The primitives with this hash. -/
def splitSSL (k u xs xc S : Nat) : OpenSSL := { OpenSSL.toy with sha512 := splitHash k u xs xc S }

section Split

variable {k u xs xc S : Nat}

theorem split_sha512 (m : Bytes) : (splitSSL k u xs xc S).sha512 m = splitHash k u xs xc S m := rfl

theorem pad_length (n : Nat) : (Srp.pad n).length = 384 := toBE_length _ _

theorem pad_inj {m n : Nat} (hm : m ≤ srpN) (hn : n ≤ srpN) (h : Srp.pad m = Srp.pad n) : m = n := by
  have hnat := congrArg ofBE h
  have hN := srpN_lt
  rw [Srp.pad, Srp.pad, ofBE_toBE, ofBE_toBE, Nat.mod_eq_of_lt (by omega), Nat.mod_eq_of_lt (by omega)] at hnat
  exact hnat

theorem split_k (hk : k ≤ 2) : Srp.k (splitSSL k u xs xc S) = k := by
  have hlen : (Srp.pad srpN ++ Srp.pad srpG).length = 768 := by
    rw [List.length_append, pad_length, pad_length]
  show ofBE (splitHash k u xs xc S (Srp.pad srpN ++ Srp.pad srpG)).val = k
  rw [splitHash, dif_neg (by omega), if_pos hlen, if_pos rfl, hashValue_toNat (by omega)]

theorem split_u (hu : u ≤ 2) {A B : Nat} (hA : A < srpN) : Srp.u (splitSSL k u xs xc S) A B = u := by
  have hlen : (Srp.pad A ++ Srp.pad B).length = 768 := by
    rw [List.length_append, pad_length, pad_length]
  have hne : Srp.pad A ++ Srp.pad B ≠ Srp.pad srpN ++ Srp.pad srpG := by
    intro h
    have hpad := (List.append_inj h (by rw [pad_length, pad_length])).1
    exact absurd (pad_inj (Nat.le_of_lt hA) (Nat.le_refl _) hpad) (Nat.ne_of_lt hA)
  show ofBE (splitHash k u xs xc S (Srp.pad A ++ Srp.pad B)).val = u
  rw [splitHash, dif_neg (by omega), if_pos hlen, if_neg hne, hashValue_toNat (by omega)]

/-- The client hashes 80 bytes. -/
theorem split_xc (hx : xc ≤ 2) (s : Fin (2 ^ 128)) (pin : Bytes) :
    SrpClient.x (splitSSL k u xs xc S) (sentSalt s).val pin = xc := by
  let P := splitSSL k u xs xc S
  let m := (sentSalt s).val ++ (P.sha512 (srpUsername ++ ascii ":" ++ pin)).val
  have hlen : m.length = 80 := by
    rw [List.length_append, (sentSalt s).property, (P.sha512 _).property]
  have hne : m ≠ Srp.pad S := by
    intro h
    rw [h, pad_length] at hlen
    omega
  show ofBE (splitHash k u xs xc S m).val = xc
  rw [splitHash, dif_neg (by omega), if_neg (by omega), if_neg hne, if_pos hlen, hashValue_toNat (by omega)]

/-- The server hashes less than 80 bytes when the salt begins with a zero byte. -/
theorem split_xs (hx : xs ≤ 2) {s : Nat} (hs : numBytes s ≤ 15) (pin : Bytes) :
    Srp.x (splitSSL k u xs xc S) s pin = xs := by
  let P := splitSSL k u xs xc S
  let m := minBE s ++ (P.sha512 (srpUsername ++ ascii ":" ++ pin)).val
  have hlen : m.length = numBytes s + 64 := by
    rw [List.length_append, minBE_length, (P.sha512 _).property]
  have hne : m ≠ Srp.pad S := by
    intro h
    rw [h, pad_length] at hlen
    omega
  show ofBE (splitHash k u xs xc S m).val = xs
  rw [splitHash, dif_neg (by omega), if_neg (by omega), if_neg hne, if_neg (by omega), if_pos (by omega),
    hashValue_toNat (by omega)]

/-- The hash of a long message is its last 64 bytes. -/
theorem splitHash_long {front : Bytes} (hfront : front.length = 912) (K : Block 64) :
    splitHash k u xs xc S (front ++ K.val) = K := by
  have hlen : (front ++ K.val).length = 976 := by
    rw [List.length_append, hfront, K.property]
  rw [splitHash, dif_pos hlen]
  apply Subtype.ext
  show (front ++ K.val).drop 912 = K.val
  rw [← hfront, List.drop_left]

/-- A proof is its key. -/
theorem split_M (salt : Block 16) (A B : Nat) (K : Block 64) : Srp.M (splitSSL k u xs xc S) salt A B K = K := by
  let P := splitSSL k u xs xc S
  let front := ((P.sha512 (minBE srpN)).xor (P.sha512 (minBE srpG))).val ++ (P.sha512 srpUsername).val ++ salt.val
    ++ Srp.pad A ++ Srp.pad B
  have hfront : front.length = 912 := by
    simp only [front, List.length_append, pad_length, salt.property, (P.sha512 srpUsername).property,
      ((P.sha512 (minBE srpN)).xor (P.sha512 (minBE srpG))).property]
  rw [Srp.M, split_sha512]
  exact splitHash_long hfront K

/-- The padded key of the client's secret. -/
theorem split_key : Srp.key (splitSSL k u xs xc S) .padded S = hashValue 7 := by
  have hlen := pad_length S
  rw [Srp.key, split_sha512, splitHash, dif_neg (by omega), if_neg (by omega), if_pos rfl]

/-- No key of another secret is the same. -/
theorem split_key_ne (hS : S < srpN) {S' : Nat} (hS' : S' < srpN) (hne : S' ≠ S) (hxs : xs ≤ 2) (hxc : xc ≤ 2)
    (mode : Srp.Kdf) : Srp.key (splitSSL k u xs xc S) mode S' ≠ hashValue 7 := by
  have hother : ∀ m : Bytes, m.length ≤ 384 → m ≠ Srp.pad S → splitHash k u xs xc S m ≠ hashValue 7 := by
    intro m hlen hm heq
    have hnat := congrArg (fun h => ofBE h.val) heq
    simp only [splitHash] at hnat
    rw [dif_neg (by omega), if_neg (by omega), if_neg hm, hashValue_toNat (Nat.le_refl 7)] at hnat
    split at hnat
    · rw [hashValue_toNat (by omega)] at hnat
      omega
    split at hnat
    · rw [hashValue_toNat (by omega)] at hnat
      omega
    · rw [hashValue_toNat (by omega)] at hnat
      omega
  have hN := srpN_lt
  cases mode with
  | minimal =>
      rw [Srp.key, split_sha512]
      apply hother
      · rw [minBE_length]
        exact numBytes_le_of_lt (Nat.lt_trans hS' hN)
      · intro h
        have hnat := congrArg ofBE h
        rw [ofBE_minBE, Srp.pad, ofBE_toBE, Nat.mod_eq_of_lt (Nat.lt_trans hS hN)] at hnat
        exact hne hnat
  | padded =>
      rw [Srp.key, split_sha512]
      apply hother
      · rw [pad_length]
      · intro h
        exact hne (pad_inj (Nat.le_of_lt hS') (Nat.le_of_lt hS) h)

end Split

/-- **With a leading zero byte it does not complete**: under some hash the proof of a client that pads its secret
    is rejected. -/
theorem not_complete_of_salt {s : Fin (2 ^ 128)} (hs : (sentSalt s).val.head? = some 0) (b : Block 32) (a : Nat)
    (pin : Bytes) : ¬ SetupComplete s b a pin := by
  intro hall
  have hN : 0 < srpN := Nat.lt_trans Nat.zero_lt_one one_lt_srpN
  obtain ⟨k, u, xs, xc, hk, hu, hxs, hxc, hdiffer⟩ := secrets_differ a (ofBE b.val)
  let B := (k * (srpG ^ xs % srpN) + srpG ^ ofBE b.val) % srpN
  let Sc := SrpClient.secret k u xc a B
  let Ss := ((srpG ^ a % srpN) * (srpG ^ xs % srpN) ^ u) ^ ofBE b.val % srpN
  let P := splitSSL k u xs xc Sc
  let ctx : PairCtx := { pairCtxCreate (Block.zero 32) (Block.zero 32) none with pin := pin }
  -- the values of the exchange under this hash
  have hv : Srp.v P s pin = srpG ^ xs % srpN := by
    show srpG ^ Srp.x P s pin % srpN = _
    rw [split_xs hxs ((salt_head s).mp hs)]
  have hB : Srp.B P (Srp.v P s pin) (ofBE b.val) = B := by
    rw [hv, Srp.B, split_k hk]
  have hu' : Srp.u P (SrpClient.A a) B = u := split_u hu (Nat.mod_lt _ hN)
  have hSs : Srp.S P (Srp.v P s pin) (ofBE b.val) (SrpClient.A a) = Ss := by
    rw [Srp.S, hB, hu', hv]
    rfl
  have hSc : SrpClient.S P (sentSalt s).val pin a B = Sc := by
    rw [SrpClient.S, hu', split_k hk, split_xc hxc]
  have hproof : SrpClient.proof P .padded (sentSalt s) pin a B = hashValue 7 := by
    rw [SrpClient.proof, split_M, SrpClient.key, hSc, split_key]
  have hbytes : ofBE (Srp.pad (SrpClient.A a)) = SrpClient.A a := by
    rw [Srp.pad, ofBE_toBE]
    exact Nat.mod_eq_of_lt (Nat.lt_trans (Nat.mod_lt _ hN) srpN_lt)
  obtain ⟨ctx₁, m2, items, salt, Bsent, hm1, hparse, hsalt, hpk, ctx₂, m4, _, hm3, hkey, _⟩ :=
    hall P ctx (Srp.pad (SrpClient.A a)) .padded rfl hbytes (by
      intro v B' heq
      rw [split_M, split_M] at heq
      exact heq)
  -- the M2 is the one the code sends
  rw [setupM1_ok, Option.some.injEq, Prod.mk.injEq, Option.some.injEq] at hm1
  obtain ⟨rfl, rfl⟩ := hm1
  rw [m2Items_parse, Option.some.injEq] at hparse
  subst hparse
  have hsaltEq : sentSalt s = salt := Subtype.ext (Option.some.inj hsalt)
  have hBsent : minBE (Srp.B P (Srp.v P s pin) (ofBE b.val)) = Bsent := Option.some.inj hpk
  subst hsaltEq hBsent
  rw [ofBE_minBE, hB] at hm3
  rw [show ctx.pin = pin from rfl, hproof, setupM3_call] at hm3
  -- neither proof of the verifier is the client's
  obtain ⟨ver, hver, hprescribed⟩ := afterM1_verifier P ctx s b hbytes
  have hne : Ss ≠ Sc := fun h => hdiffer h.symm
  have hM : ver.M ≠ hashValue 7 := by
    rw [hprescribed.M, split_M, hprescribed.sessionKey]
    show Srp.key P .minimal (Srp.S P (Srp.v P s pin) (ofBE b.val) (SrpClient.A a)) ≠ _
    rw [hSs]
    exact split_key_ne (Nat.mod_lt _ hN) (Nat.mod_lt _ hN) hne hxs hxc .minimal
  have hMp : ver.mPadded ≠ hashValue 7 := by
    rw [hprescribed.mPadded, split_M, hprescribed.sessionKeyPadded]
    show Srp.key P .padded (Srp.S P (Srp.v P s pin) (ofBE b.val) (SrpClient.A a)) ≠ _
    rw [hSs]
    exact split_key_ne (Nat.mod_lt _ hN) (Nat.mod_lt _ hN) hne hxs hxc .padded
  have hreject : srpVerifierVerify ver (hashValue 7).val = none := by
    rw [srpVerifierVerify, if_neg (fun h => hM (Subtype.ext h)), if_neg (fun h => hMp (Subtype.ext h))]
  have hcheck : setupM3Check P (afterM1 P ctx s b) (setupM3Items (Srp.pad (SrpClient.A a)) (hashValue 7).val)
      (⟨.ok, true⟩ : SetupM3Env).ver = some none :=
    (setupM3Check_verifier _ hver).trans (congrArg some hreject)
  rw [handleSetupM3_reject hcheck] at hm3
  obtain ⟨rfl, _⟩ := Prod.mk.inj (Option.some.inj hm3)
  cases hkey

/-- **A client with the right PIN is accepted** in every mode and under every hash, exactly when the salt does not
    begin with a zero byte. -/
theorem setup_complete_iff (s : Fin (2 ^ 128)) (b : Block 32) (a : Nat) (pin : Bytes) :
    SetupComplete s b a pin ↔ (sentSalt s).val.head? ≠ some 0 := by
  constructor
  · intro h hs
    exact not_complete_of_salt hs b a pin h
  · intro hs
    exact completes_of_salt hs a pin

/-- A salt that begins with a zero byte. -/
theorem setup_not_complete :
    ¬ ∀ (s : Fin (2 ^ 128)) (b : Block 32) (a : Nat) (pin : Bytes), SetupComplete s b a pin := by
  intro hall
  have hs : (sentSalt (1 : Fin (2 ^ 128))).val.head? = some 0 := by decide
  exact not_complete_of_salt hs (Block.zero 32) 3 srpDefaultPin (hall _ _ _ _)

end Showcase
