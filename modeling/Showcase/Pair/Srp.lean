import Showcase.OpenSSL

/-!
# `Pair.Srp` — the SRP-6a core of `carplay_pair.c`

The 3072-bit group, the hash helpers over BIGNUMs, the server's verifier, its public key `B` and the check of a
client proof, function by function. BIGNUMs are natural numbers. Outcomes of allocations and random draws are
inputs. Many BIGNUM calls of the source are not checked: when one fails, its result keeps whatever it held,
which is again an input (see `unchecked`). A function that would write or read through a NULL pointer has no result
(`none`).

Below the translation stands what the protocol prescribes (`Srp.proof` and its parts), and
`srpVerifierNew_proof`: when no unchecked call fails, the verifier expects exactly the prescribed proofs.
-/

namespace Showcase

open Lib

/-! ## The group and the hash helpers -/

/-- RFC 5054 / RFC 3526 3072-bit group. -/
def srpN : Nat :=
  0xFFFFFFFFFFFFFFFFC90FDAA22168C234C4C6628B80DC1CD129024E088A67CC74020BBEA63B139B22514A08798E3404DDEF9519B3CD3A431B302B0A6DF25F14374FE1356D6D51C245E485B576625E7EC6F44C42E9A637ED6B0BFF5CB6F406B7EDEE386BFB5A899FA5AE9F24117C4B1FE649286651ECE45B3DC2007CB8A163BF0598DA48361C55D39A69163FA8FD24CF5F83655D23DCA3AD961C62F356208552BB9ED529077096966D670C354E4ABC9804F1746C08CA18217C32905E462E36CE3BE39E772C180E86039B2783A2EC07A28FB5C55DF06F4C52C9DE2BCBF6955817183995497CEA956AE515D2261898FA051015728E5A8AAAC42DAD33170D04507A33A85521ABDF1CBA64ECFB850458DBEF0A8AEA71575D060C7DB3970F85A6E1E4C7ABF5AE8CDB0933D71E8C94E04A25619DCEE3D2261AD2EE6BF12FFA06D98A0864D87602733EC86A64521F2B18177B200CBBE117577A615D6C770988C0BAD946E208E24FA074E5AB3143DB5BFCE0FD108E4B82D120A93AD2CAFFFFFFFFFFFFFFFF

/-- The generator. -/
def srpG : Nat := 5

def srpUsername : Bytes := ascii "Pair-Setup"

theorem numBytes_srpN : numBytes srpN = 384 := by decide +kernel

theorem one_lt_srpN : 1 < srpN := by decide +kernel

theorem coprime_srpG_srpN : Nat.Coprime srpG srpN := by decide +kernel

/-- `BN_bn2bin(n, buf + (len - BN_num_bytes(n)))` into a zeroed buffer of `len` bytes. -/
def leftPad (len n : Nat) : Bytes := List.replicate (len - numBytes n) 0 ++ minBE n

theorem leftPad_eq {len n : Nat} (h : numBytes n ≤ len) : leftPad len n = toBE len n :=
  replicate_append_minBE h

/-- `H_nn_pad`: `H(n1 || n2)` with zero-padding to `len(N)`; `none` is NULL. -/
def hNnPad (P : OpenSSL) (alloc : Bool) (N n1 n2 : Nat) : Option Nat :=
  if alloc = false then none
  else if numBytes n1 > numBytes N ∨ numBytes n2 > numBytes N then none
  else some (ofBE (P.sha512 (leftPad (numBytes N) n1 ++ leftPad (numBytes N) n2)).val)

/-- `H_ns`: `H(n || bytes)`. -/
def hNs (P : OpenSSL) (alloc : Bool) (n : Nat) (bytes : Bytes) : Option Nat :=
  if alloc then some (ofBE (P.sha512 (minBE n ++ bytes)).val) else none

/-- `calculate_x`: `H(salt || H(username:password))`; `hctx` and `hns` are the allocations of the two
    hashes. -/
def calculateX (P : OpenSSL) (hctx hns : Bool) (salt : Nat) (username password : Bytes) : Option Nat :=
  if hctx then hNs P hns salt (P.sha512 (username ++ ascii ":" ++ password)).val else none

/-- `hash_bn` into a zeroed `dest`: when its `malloc` fails it returns without touching `dest`. -/
def hashBn (P : OpenSSL) (alloc : Bool) (n : Nat) : Block 64 :=
  if alloc then P.sha512 (minBE n) else Block.zero 64

/-- `hash_session_key`: `K = SHA-512(S)`. -/
def hashSessionKey (P : OpenSSL) (alloc : Bool) (S : Nat) : Option (Block 64) :=
  if alloc then some (P.sha512 (minBE S)) else none

/-- `hash_session_key_padded`: `K = SHA-512(PAD(S))`. -/
def hashSessionKeyPadded (P : OpenSSL) (alloc : Bool) (S paddedLen : Nat) : Option (Block 64) :=
  if numBytes S > paddedLen then none
  else if alloc then some (P.sha512 (leftPad paddedLen S)) else none

/-- The allocations of one `calculate_M`: the two unchecked ones in `hash_bn`, and the buffers and hash
    context that are used without a NULL check. -/
structure ProofAlloc where
  hashN : Bool
  hashG : Bool
  bufs : Bool
deriving Repr, DecidableEq

def ProofAlloc.ok : ProofAlloc := ⟨true, true, true⟩

/-- `calculate_M`: `H(H(N) xor H(g) || H(I) || s || PAD(A) || PAD(B) || K)`; `none` is a write through
    NULL. -/
def calculateM (P : OpenSSL) (e : ProofAlloc) (I : Bytes) (salt : Bytes) (A B : Nat) (K : Block 64) :
    Option (Block 64) :=
  if e.bufs then
    let hXor := (hashBn P e.hashN srpN).xor (hashBn P e.hashG srpG)
    let lenN := numBytes srpN
    some (P.sha512 (hXor.val ++ (P.sha512 I).val ++ salt ++ leftPad lenN A ++ leftPad lenN B ++ K.val))
  else none

/-- `calculate_H_AMK`: `H(PAD(A) || M || K)`. -/
def calculateHAmk (P : OpenSSL) (bufs : Bool) (A : Nat) (M K : Block 64) (lenN : Nat) : Option (Block 64) :=
  if bufs then some (P.sha512 (leftPad lenN A ++ M.val ++ K.val)) else none

/-! ## Salt, verifier and `B` -/

instance saltRange_neZero : NeZero (2 ^ 128) := ⟨(Nat.two_pow_pos 128).ne'⟩

/-- The outcomes of one `srp_create_salt_verifier`. -/
structure SaltVerifierEnv where
  /-- The BIGNUMs, the context and the group were allocated. -/
  init : Bool
  /-- The salt `BN_rand` draws. -/
  s : Fin (2 ^ 128)
  hctx : Bool
  hns : Bool
  /-- What a failed `BN_mod_exp` leaves in `v`. -/
  expV : Option Nat
  /-- `malloc(vlen)`. -/
  out : Bool
deriving Repr, DecidableEq

/-- `srp_create_salt_verifier`: what it writes to `salt_out` (if it gets that far) and the verifier. -/
def srpCreateSaltVerifier (P : OpenSSL) (username password : Bytes) (e : SaltVerifierEnv) :
    Option (Block 16) × Option Bytes :=
  if e.init then
    match calculateX P e.hctx e.hns e.s username password with
    | none => (none, none)
    | some x =>
        let v := unchecked e.expV (modExp srpG x srpN)
        -- the salt is padded to exactly SRP_SALT_BYTES
        let salt : Block 16 := ⟨toBE 16 e.s, toBE_length _ _⟩
        if e.out then (some salt, some (minBE v)) else (some salt, none)
  else (none, none)

/-- The outcomes of one `srp_create_B`. -/
structure CreateBEnv where
  init : Bool
  kAlloc : Bool
  mulKV : Option Nat
  expB : Option Nat
  addB : Option Nat
  out : Bool
deriving Repr, DecidableEq

/-- `B = k*v + g^b (mod N)` with the three unchecked calls that compute it. -/
def srpPublicB (mulKV expB addB : Option Nat) (k v b : Nat) : Nat :=
  let tmp1 := unchecked mulKV (k * v % srpN)
  let tmp2 := unchecked expB (modExp srpG b srpN)
  unchecked addB ((tmp1 + tmp2) % srpN)

/-- `srp_create_B`. -/
def srpCreateB (P : OpenSSL) (verifier : Bytes) (b : Block 32) (e : CreateBEnv) : Option Bytes :=
  if e.init then
    match hNnPad P e.kAlloc srpN srpN srpG with
    | none => none
    | some k =>
        let B := srpPublicB e.mulKV e.expB e.addB k (ofBE verifier) (ofBE b.val)
        if e.out then some (minBE B) else none
  else none

/-! ## The verifier of a client proof -/

/-- `srp_verifier_t`: the expected proofs, the server proofs and the keys, for the minimal and the padded
    `S`. -/
structure SrpVerifier where
  M : Block 64
  hAmk : Block 64
  sessionKey : Block 64
  mPadded : Block 64
  hAmkPadded : Block 64
  sessionKeyPadded : Block 64

/-- The outcomes of one `srp_verifier_new`. -/
structure VerifierEnv where
  init : Bool
  modA : Option Nat
  kAlloc : Bool
  mulKV : Option Nat
  expB : Option Nat
  addB : Option Nat
  uAlloc : Bool
  expU : Option Nat
  mulA : Option Nat
  expS : Option Nat
  verAlloc : Bool
  username : Bool
  /-- `ver->ng = ng_new()`, used without a NULL check. -/
  ng : Bool
  keyAlloc : Bool
  keyPaddedAlloc : Bool
  m : ProofAlloc
  mPadded : ProofAlloc
  amk : Bool
  amkPadded : Bool
deriving Repr, DecidableEq

/-- `BN_bin2bn(verifier, vlen, NULL)`: reading `vlen > 0` bytes through a NULL pointer has no result. -/
def bnOfPointer (ptr : Option Bytes) (len : Nat) : Option Nat :=
  match ptr with
  | some b => some (ofBE (b.take len))
  | none => if len = 0 then some 0 else none

/-- The session keys, proofs and server proofs of `srp_verifier_new`, once `S` is known. -/
def srpVerifierKeys (P : OpenSSL) (username salt : Bytes) (A B S : Nat) (e : VerifierEnv) :
    Option (Option SrpVerifier) :=
  match hashSessionKey P e.keyAlloc S, hashSessionKeyPadded P e.keyPaddedAlloc S (numBytes srpN) with
  | some K, some Kp => do
      let M ← calculateM P e.m username salt A B K
      let hAmk ← calculateHAmk P e.amk A M K (numBytes srpN)
      let Mp ← calculateM P e.mPadded username salt A B Kp
      let hAmkP ← calculateHAmk P e.amkPadded A Mp Kp (numBytes srpN)
      some (some ⟨M, hAmk, K, Mp, hAmkP, Kp⟩)
  | _, _ => some none

/-- `srp_verifier_new`: no result when it dereferences NULL, `some none` when it returns NULL. -/
def srpVerifierNew (P : OpenSSL) (username : Bytes) (salt : Block 16) (verifier : Option Bytes) (vlen : Nat)
    (bytesA : Bytes) (b : Block 32) (e : VerifierEnv) : Option (Option SrpVerifier) :=
  match bnOfPointer verifier vlen with
  | none => none
  | some v =>
      let A := ofBE bytesA
      if e.init = false then some none
      -- SRP-6a safety check: A mod N != 0
      else if unchecked e.modA (A % srpN) = 0 then some none
      else
        match hNnPad P e.kAlloc srpN srpN srpG with
        | none => some none
        | some k =>
            let B := srpPublicB e.mulKV e.expB e.addB k v (ofBE b.val)
            match hNnPad P e.uAlloc srpN A B with
            | none => some none
            | some u =>
                -- S = (A * v^u) ^ b (mod N)
                let tmp1 := unchecked e.expU (modExp v u srpN)
                let tmp2 := unchecked e.mulA (A * tmp1)
                let S := unchecked e.expS (modExp tmp2 (ofBE b.val) srpN)
                if e.verAlloc = false ∨ e.username = false then some none
                else if e.ng = false then none
                else srpVerifierKeys P username salt.val A B S e

/-- `srp_verifier_verify`: the server proof and the session key of the mode whose proof matches. -/
def srpVerifierVerify (ver : SrpVerifier) (clientM : Bytes) : Option (Block 64 × Block 64) :=
  if ver.M.val = clientM then some (ver.hAmk, ver.sessionKey)
  else if ver.mPadded.val = clientM then some (ver.hAmkPadded, ver.sessionKeyPadded)
  else none

/-! ## What the protocol prescribes -/

namespace Srp

variable (P : OpenSSL)

/-- `PAD(n)`: left-padded to the length of `N`. -/
def pad (n : Nat) : Bytes := toBE 384 n

/-- `k = H(N || PAD(g))`. -/
def k : Nat := ofBE (P.sha512 (pad srpN ++ pad srpG)).val

/-- `x` for a PIN and the salt number. -/
def x (salt : Nat) (pin : Bytes) : Nat :=
  ofBE (P.sha512 (minBE salt ++ (P.sha512 (srpUsername ++ ascii ":" ++ pin)).val)).val

/-- The verifier `v = g^x mod N`. -/
def v (salt : Nat) (pin : Bytes) : Nat := srpG ^ x P salt pin % srpN

/-- The server's public key `B = k*v + g^b mod N`. -/
def B (v b : Nat) : Nat := (k P * v + srpG ^ b) % srpN

/-- The scrambling parameter `u = H(PAD(A) || PAD(B))`. -/
def u (A B : Nat) : Nat := ofBE (P.sha512 (pad A ++ pad B)).val

/-- The shared secret `S = (A * v^u)^b mod N` of the server. -/
def S (v b A : Nat) : Nat := (A * v ^ u P A (B P v b)) ^ b % srpN

/-- How the session key is made from `S`. -/
inductive Kdf where
  | minimal
  | padded
deriving Repr, DecidableEq

/-- The session key. -/
def key (mode : Kdf) (S : Nat) : Block 64 :=
  match mode with
  | .minimal => P.sha512 (minBE S)
  | .padded => P.sha512 (pad S)

/-- `M = H(H(N) xor H(g) || H(I) || salt || PAD(A) || PAD(B) || K)`. -/
def M (salt : Block 16) (A B : Nat) (K : Block 64) : Block 64 :=
  P.sha512 (((P.sha512 (minBE srpN)).xor (P.sha512 (minBE srpG))).val ++ (P.sha512 srpUsername).val
    ++ salt.val ++ pad A ++ pad B ++ K.val)

/-- The server's proof `H(PAD(A) || M || K)`. -/
def serverProof (A : Nat) (M K : Block 64) : Block 64 := P.sha512 (pad A ++ M.val ++ K.val)

/-- **The client proof** the server side prescribes for salt, verifier, private key and `A`. -/
def proof (mode : Kdf) (salt : Block 16) (v b A : Nat) : Block 64 :=
  M P salt A (B P v b) (key P mode (S P v b A))

end Srp

/-- The generator is invertible mod `N`, so no verifier is 0. -/
theorem Srp.v_ne_zero (P : OpenSSL) (salt : Nat) (pin : Bytes) : Srp.v P salt pin ≠ 0 := by
  intro h
  have hdvd : srpN ∣ srpG ^ Srp.x P salt pin := Nat.dvd_of_mod_eq_zero h
  have hcop : Nat.Coprime (srpG ^ Srp.x P salt pin) srpN := Nat.Coprime.pow_left _ coprime_srpG_srpN
  have hone : srpN = 1 := Nat.Coprime.eq_one_of_dvd hcop.symm hdvd
  exact absurd hone (Nat.ne_of_gt one_lt_srpN)

/-! ## The translation meets the prescription

Each function is compared with its own part of the prescription, under the assumption that its unchecked calls
succeed. A value that was returned gives the checked ones, and the padding is never too short for a number below `N`.
-/

/-- No unchecked call of `calculate_M` fails. -/
def ProofAlloc.Clean (e : ProofAlloc) : Prop := e.hashN = true ∧ e.hashG = true

/-- No unchecked call of `srp_verifier_new` fails. -/
structure VerifierEnv.Clean (e : VerifierEnv) : Prop where
  mulKV : e.mulKV = none
  expB : e.expB = none
  addB : e.addB = none
  expU : e.expU = none
  mulA : e.mulA = none
  expS : e.expS = none
  m : e.m.Clean
  mPadded : e.mPadded.Clean

theorem hNnPad_eq {P : OpenSSL} {alloc : Bool} {n1 n2 r : Nat} (h : hNnPad P alloc srpN n1 n2 = some r) :
    r = ofBE (P.sha512 (Srp.pad n1 ++ Srp.pad n2)).val ∧ numBytes n1 ≤ 384 ∧ numBytes n2 ≤ 384 := by
  simp only [hNnPad, numBytes_srpN] at h
  split at h
  · exact absurd h (by simp)
  · split at h
    · exact absurd h (by simp)
    · rename_i hlen
      have h1 : numBytes n1 ≤ 384 := by omega
      have h2 : numBytes n2 ≤ 384 := by omega
      rw [leftPad_eq h1, leftPad_eq h2] at h
      exact ⟨(Option.some.inj h).symm, h1, h2⟩

theorem srpPublicB_eq (P : OpenSSL) (v b : Nat) :
    srpPublicB none none none (Srp.k P) v b = Srp.B P v b := by
  simp only [srpPublicB, unchecked_none, modExp_eq, Srp.B]
  exact (Nat.add_mod _ _ _).symm

/-- `S = (A * v^u)^b mod N`, reduced on the way. -/
theorem srpSecret_eq (P : OpenSSL) (v b A : Nat) :
    modExp (A * modExp v (ofBE (P.sha512 (Srp.pad A ++ Srp.pad (Srp.B P v b))).val) srpN) b srpN
      = Srp.S P v b A := by
  rw [modExp_eq, modExp_eq, Nat.pow_mod, Nat.mul_mod_mod, ← Nat.pow_mod]
  rfl

theorem numBytes_le_of_lt {n k : Nat} (h : n < 256 ^ k) : numBytes n ≤ k := by
  unfold numBytes
  by_cases hn : n = 0
  · simp [hn]
  · rw [if_neg hn]
    have hlog : Nat.log2 n < 8 * k := by
      rw [Nat.log2_lt hn, Nat.pow_mul]
      exact h
    omega

theorem srpN_lt : srpN < 256 ^ 384 := by decide +kernel

theorem calculateM_eq {P : OpenSSL} {e : ProofAlloc} {salt : Block 16} {A B : Nat} {K M : Block 64}
    (he : e.Clean) (hA : numBytes A ≤ 384) (hB : numBytes B ≤ 384)
    (h : calculateM P e srpUsername salt.val A B K = some M) : M = Srp.M P salt A B K := by
  simp only [calculateM, hashBn, he.1, he.2, if_true, numBytes_srpN, leftPad_eq hA, leftPad_eq hB] at h
  split at h
  · exact (Option.some.inj h).symm
  · exact absurd h (by simp)

/-- A verifier is returned only after the salt was written, and is `g^x mod N` for that salt. -/
theorem srpCreateSaltVerifier_eq {P : OpenSSL} {pin verifier : Bytes} {e : SaltVerifierEnv}
    {salt : Option (Block 16)} (h : srpCreateSaltVerifier P srpUsername pin e = (salt, some verifier)) :
    ∃ saltOut : Block 16, salt = some saltOut ∧ ofBE saltOut.val = e.s ∧
      verifier = minBE (unchecked e.expV (Srp.v P (ofBE saltOut.val) pin)) := by
  have hs : ofBE (toBE 16 e.s) = e.s := by
    rw [ofBE_toBE]
    exact Nat.mod_eq_of_lt e.s.isLt
  unfold srpCreateSaltVerifier at h
  split at h
  · split at h
    · simp at h
    · rename_i x hx
      have hxs : x = Srp.x P e.s pin := by
        unfold calculateX hNs at hx
        split at hx
        · split at hx
          · exact (Option.some.inj hx).symm
          · exact absurd hx (by simp)
        · exact absurd hx (by simp)
      simp only at h
      split at h
      · simp only [Prod.mk.injEq, Option.some.injEq] at h
        obtain ⟨hsalt, hver⟩ := h
        refine ⟨_, hsalt.symm, hs, ?_⟩
        rw [← hver, hs, modExp_eq, hxs]
        rfl
      · simp at h
  · simp at h

/-- What a verifier holds for the shared secret `S`: keys, proofs and server proofs of both modes. -/
structure SrpVerifier.Prescribed (P : OpenSSL) (ver : SrpVerifier) (salt : Block 16) (A B S : Nat) : Prop where
  sessionKey : ver.sessionKey = Srp.key P .minimal S
  M : ver.M = Srp.M P salt A B ver.sessionKey
  hAmk : ver.hAmk = Srp.serverProof P A ver.M ver.sessionKey
  sessionKeyPadded : ver.sessionKeyPadded = Srp.key P .padded S
  mPadded : ver.mPadded = Srp.M P salt A B ver.sessionKeyPadded
  hAmkPadded : ver.hAmkPadded = Srp.serverProof P A ver.mPadded ver.sessionKeyPadded

theorem calculateHAmk_eq {P : OpenSSL} {bufs : Bool} {A : Nat} {M K r : Block 64} (hA : numBytes A ≤ 384)
    (h : calculateHAmk P bufs A M K (numBytes srpN) = some r) : r = Srp.serverProof P A M K := by
  simp only [calculateHAmk, numBytes_srpN, leftPad_eq hA] at h
  split at h
  · exact (Option.some.inj h).symm
  · exact absurd h (by simp)

theorem hashSessionKey_eq {P : OpenSSL} {alloc : Bool} {S : Nat} {K : Block 64}
    (h : hashSessionKey P alloc S = some K) : K = Srp.key P .minimal S := by
  unfold hashSessionKey at h
  split at h
  · exact (Option.some.inj h).symm
  · exact nomatch h

theorem hashSessionKeyPadded_eq {P : OpenSSL} {alloc : Bool} {S : Nat} {K : Block 64}
    (h : hashSessionKeyPadded P alloc S (numBytes srpN) = some K) : K = Srp.key P .padded S := by
  unfold hashSessionKeyPadded at h
  rw [numBytes_srpN] at h
  split at h
  · exact nomatch h
  rename_i hS
  split at h
  · rw [leftPad_eq (by omega)] at h
    exact (Option.some.inj h).symm
  · exact nomatch h

/-- The parts of a verifier that was returned. -/
theorem srpVerifierKeys_some {P : OpenSSL} {username salt : Bytes} {A B S : Nat} {e : VerifierEnv}
    {ver : SrpVerifier} (h : srpVerifierKeys P username salt A B S e = some (some ver)) :
    hashSessionKey P e.keyAlloc S = some ver.sessionKey ∧
    hashSessionKeyPadded P e.keyPaddedAlloc S (numBytes srpN) = some ver.sessionKeyPadded ∧
    calculateM P e.m username salt A B ver.sessionKey = some ver.M ∧
    calculateHAmk P e.amk A ver.M ver.sessionKey (numBytes srpN) = some ver.hAmk ∧
    calculateM P e.mPadded username salt A B ver.sessionKeyPadded = some ver.mPadded ∧
    calculateHAmk P e.amkPadded A ver.mPadded ver.sessionKeyPadded (numBytes srpN) = some ver.hAmkPadded := by
  unfold srpVerifierKeys at h
  split at h
  · rename_i K Kp hK hKp
    simp only [Option.bind_eq_bind, Option.bind_eq_some_iff] at h
    obtain ⟨M, hM, hAmk, hH, Mp, hMp, hAmkP, hHp, hver⟩ := h
    rw [← Option.some.inj (Option.some.inj hver)]
    exact ⟨hK, hKp, hM, hH, hMp, hHp⟩
  · exact nomatch h

/-- What the last part of `srp_verifier_new` puts into the verifier. -/
theorem srpVerifierKeys_eq {P : OpenSSL} {salt : Block 16} {A B S : Nat} {e : VerifierEnv}
    {ver : SrpVerifier} (he : e.Clean) (hA : numBytes A ≤ 384) (hB : numBytes B ≤ 384)
    (h : srpVerifierKeys P srpUsername salt.val A B S e = some (some ver)) : ver.Prescribed P salt A B S := by
  obtain ⟨hK, hKp, hM, hH, hMp, hHp⟩ := srpVerifierKeys_some h
  exact
    { sessionKey := hashSessionKey_eq hK
      M := calculateM_eq he.m hA hB hM
      hAmk := calculateHAmk_eq hA hH
      sessionKeyPadded := hashSessionKeyPadded_eq hKp
      mPadded := calculateM_eq he.mPadded hA hB hMp
      hAmkPadded := calculateHAmk_eq hA hHp }

/-- **What a verifier holds.** When no unchecked call fails, `srp_verifier_new` computes the prescribed values. -/
theorem srpVerifierNew_eq {P : OpenSSL} {salt : Block 16} {ptr : Option Bytes} {vlen v : Nat} {bytesA : Bytes}
    {b : Block 32} {e : VerifierEnv} {ver : SrpVerifier} (he : e.Clean) (hv : bnOfPointer ptr vlen = some v)
    (h : srpVerifierNew P srpUsername salt ptr vlen bytesA b e = some (some ver)) :
    ver.Prescribed P salt (ofBE bytesA) (Srp.B P v (ofBE b.val)) (Srp.S P v (ofBE b.val) (ofBE bytesA)) := by
  simp only [srpVerifierNew, hv] at h
  split at h
  · exact absurd h (by simp)
  split at h
  · exact absurd h (by simp)
  split at h
  · exact absurd h (by simp)
  rename_i k hk
  obtain ⟨hkEq, _, _⟩ := hNnPad_eq hk
  have hkSpec : k = Srp.k P := hkEq
  subst hkSpec
  rw [he.mulKV, he.expB, he.addB, srpPublicB_eq] at h
  split at h
  · exact absurd h (by simp)
  rename_i u hu
  obtain ⟨huEq, hA, hB⟩ := hNnPad_eq hu
  split at h
  · exact absurd h (by simp)
  split at h
  · exact absurd h (by simp)
  rw [he.expU, he.mulA, he.expS] at h
  simp only [unchecked_none, huEq, srpSecret_eq] at h
  exact srpVerifierKeys_eq he hA hB h

/-- **The verifier expects the prescribed proofs.** When no unchecked call fails, a verifier made by
    `srp_verifier_new` holds the two proofs of the protocol. -/
theorem srpVerifierNew_proof {P : OpenSSL} {salt : Block 16} {ptr : Option Bytes} {vlen v : Nat}
    {bytesA : Bytes} {b : Block 32} {e : VerifierEnv} {ver : SrpVerifier} (he : e.Clean)
    (hv : bnOfPointer ptr vlen = some v)
    (h : srpVerifierNew P srpUsername salt ptr vlen bytesA b e = some (some ver)) :
    ver.M = Srp.proof P .minimal salt v (ofBE b.val) (ofBE bytesA) ∧
    ver.mPadded = Srp.proof P .padded salt v (ofBE b.val) (ofBE bytesA) := by
  have hver := srpVerifierNew_eq he hv h
  refine ⟨?_, ?_⟩
  · rw [hver.M, hver.sessionKey]
    rfl
  · rw [hver.mPadded, hver.sessionKeyPadded]
    rfl

/-! ## A verifier is made

The other direction, with all calls granted: the numbers fit into the buffers because they are reduced modulo `N`. -/

/-- Every call of `srp_verifier_new` succeeds. -/
def VerifierEnv.ok : VerifierEnv where
  init := true
  modA := none
  kAlloc := true
  mulKV := none
  expB := none
  addB := none
  uAlloc := true
  expU := none
  mulA := none
  expS := none
  verAlloc := true
  username := true
  ng := true
  keyAlloc := true
  keyPaddedAlloc := true
  m := .ok
  mPadded := .ok
  amk := true
  amkPadded := true

theorem VerifierEnv.ok_clean : VerifierEnv.ok.Clean :=
  ⟨rfl, rfl, rfl, rfl, rfl, rfl, ⟨rfl, rfl⟩, ⟨rfl, rfl⟩⟩

theorem numBytes_srpG : numBytes srpG ≤ 384 := by decide

theorem hNnPad_some {P : OpenSSL} {n1 n2 : Nat} (h1 : numBytes n1 ≤ 384) (h2 : numBytes n2 ≤ 384) :
    hNnPad P true srpN n1 n2 = some (ofBE (P.sha512 (Srp.pad n1 ++ Srp.pad n2)).val) := by
  have hfit : ¬ (numBytes n1 > 384 ∨ numBytes n2 > 384) := by omega
  simp only [hNnPad, numBytes_srpN, hfit, if_false, leftPad_eq h1, leftPad_eq h2]
  rfl

theorem numBytes_mod_srpN (n : Nat) : numBytes (n % srpN) ≤ 384 :=
  numBytes_le_of_lt (Nat.lt_trans (Nat.mod_lt n (Nat.lt_trans Nat.zero_lt_one one_lt_srpN)) srpN_lt)

/-- With every allocation granted, a secret of at most `len(N)` bytes gets its keys and proofs. -/
theorem srpVerifierKeys_ok (P : OpenSSL) (salt : Bytes) (A B : Nat) {S : Nat} (hS : numBytes S ≤ numBytes srpN) :
    ∃ ver, srpVerifierKeys P srpUsername salt A B S .ok = some (some ver) := by
  have hfit : ¬ numBytes S > numBytes srpN := by omega
  simp only [srpVerifierKeys, hashSessionKey, hashSessionKeyPadded, hfit, calculateM, calculateHAmk,
    VerifierEnv.ok, ProofAlloc.ok, if_true, if_false]
  exact ⟨_, rfl⟩

/-- With every allocation granted, an `A` of at most `len(N)` bytes that is not 0 mod `N` gets a verifier. -/
theorem srpVerifierNew_some (P : OpenSSL) (salt : Block 16) (b : Block 32) {ptr : Option Bytes} {vlen v : Nat}
    {bytesA : Bytes} (hv : bnOfPointer ptr vlen = some v)
    (hA : numBytes (ofBE bytesA) ≤ 384) (hA0 : ofBE bytesA % srpN ≠ 0) :
    ∃ ver, srpVerifierNew P srpUsername salt ptr vlen bytesA b .ok = some (some ver) := by
  have hB : numBytes (Srp.B P v (ofBE b.val)) ≤ 384 := numBytes_mod_srpN _
  have hS : numBytes (Srp.S P v (ofBE b.val) (ofBE bytesA)) ≤ numBytes srpN := by
    rw [numBytes_srpN]
    exact numBytes_mod_srpN _
  obtain ⟨ver, hver⟩ := srpVerifierKeys_ok P salt.val (ofBE bytesA) (Srp.B P v (ofBE b.val)) hS
  refine ⟨ver, ?_⟩
  rw [← hver]
  simp only [srpVerifierNew, hv, VerifierEnv.ok, unchecked_none, hA0, if_false,
    hNnPad_some (Nat.le_of_eq numBytes_srpN) numBytes_srpG]
  rw [show ofBE (P.sha512 (Srp.pad srpN ++ Srp.pad srpG)).val = Srp.k P from rfl, srpPublicB_eq,
    hNnPad_some hA hB]
  simp only [srpSecret_eq, Bool.true_eq_false, or_self, if_false]

end Showcase
