import Showcase.Lib.Bytes

/-!
# `OpenSSL` — the libcrypto primitives the helpers call

libcrypto is not part of the repository, so its primitives are a parameter of the model: one value of
`OpenSSL` for the whole development. The fields are the *results* of the calls; whether a call succeeds at all
(allocations, contexts) is an input of the handler that makes it. The laws are the documented ones that the
code relies on: ChaCha20-Poly1305 keeps the length and opens what it sealed under the same key, nonce and
associated data. A call whose failure the source overlooks is wrapped in `unchecked`.
-/

namespace Showcase

open Lib

/-- The primitives of libcrypto used by `carplay_pair.c` and `carplay_services.m`. -/
structure OpenSSL where
  /-- `SHA512(d, n, md)`. -/
  sha512 : Bytes → Block 64
  /-- `HMAC(EVP_sha512(), key, ...)`: key, then data. -/
  hmacSha512 : Bytes → Bytes → Block 64
  /-- `EVP_chacha20_poly1305` encryption: key, nonce, AAD, plaintext; ciphertext and tag. -/
  chachaSeal : Block 32 → Block 12 → Bytes → Bytes → Bytes × Block 16
  /-- `EVP_chacha20_poly1305` decryption: key, nonce, AAD, ciphertext, tag; `none` when the tag is wrong. -/
  chachaOpen : Block 32 → Block 12 → Bytes → Bytes → Block 16 → Option Bytes
  /-- The public key of an X25519 private key. -/
  x25519Public : Block 32 → Block 32
  /-- `EVP_PKEY_derive` for X25519: our private key, the peer's public key. -/
  x25519 : Block 32 → Block 32 → Block 32
  /-- `EVP_DigestSign` with an Ed25519 key seed. -/
  ed25519Sign : Block 32 → Bytes → Block 64
  /-- `EVP_DigestVerify` with an Ed25519 public key: key, signature, message. -/
  ed25519Verify : Block 32 → Block 64 → Bytes → Bool
  /-- A stream cipher: the ciphertext is as long as the plaintext. -/
  seal_length : ∀ k n aad pt, (chachaSeal k n aad pt).1.length = pt.length
  /-- What was sealed opens under the same key, nonce and associated data. -/
  open_seal : ∀ k n aad pt,
    chachaOpen k n aad (chachaSeal k n aad pt).1 (chachaSeal k n aad pt).2 = some pt
  /-- Decryption keeps the length. -/
  open_length : ∀ {k n aad ct tag pt}, chachaOpen k n aad ct tag = some pt → pt.length = ct.length

attribute [simp] OpenSSL.seal_length OpenSSL.open_seal

namespace OpenSSL

variable (P : OpenSSL)

/-- `hkdf_sha512`: extract, then the first block of expand, cut to `okm_len ≤ 64` bytes. -/
def hkdfSha512 (ikm salt info : Bytes) (okmLen : Nat) (h : okmLen ≤ 64) : Block okmLen :=
  let prk := P.hmacSha512 salt ikm
  (P.hmacSha512 prk.val (info ++ [0x01])).take okmLen h

/-- The keys have 32 bytes. -/
theorem keyLength_le : 32 ≤ 64 := by omega

/-- The 12-byte nonce of the pairing messages: four zero bytes, then the 8-byte label. -/
def nonce12 (nonce8 : Block 8) : Block 12 :=
  ⟨List.replicate 4 0 ++ nonce8.val, by simp [nonce8.property]⟩

/-- `chacha_decrypt` of `carplay_pair.c` (no associated data); `cipher` says whether the EVP context and
    calls went through. -/
def chachaDecrypt (cipher : Bool) (key : Block 32) (nonce8 : Block 8) (ct : Bytes) (tag : Block 16) :
    Option Bytes :=
  if cipher then P.chachaOpen key (nonce12 nonce8) [] ct tag else none

/-- `chacha_encrypt` of `carplay_pair.c`. -/
def chachaEncrypt (cipher : Bool) (key : Block 32) (nonce8 : Block 8) (pt : Bytes) :
    Option (Bytes × Block 16) :=
  if cipher then some (P.chachaSeal key (nonce12 nonce8) [] pt) else none

end OpenSSL

/-! ## Sealed messages -/

/-- A ciphertext and the 16-byte tag behind it. -/
def splitTag (enc : Bytes) : Option (Bytes × Block 16) :=
  if h : 16 ≤ enc.length then
    some (enc.take (enc.length - 16), ⟨enc.drop (enc.length - 16), by rw [List.length_drop]; omega⟩)
  else none

@[simp] theorem splitTag_append (ct : Bytes) (tag : Block 16) :
    splitTag (ct ++ tag.val) = some (ct, tag) := by
  have hlen : (ct ++ tag.val).length - 16 = ct.length := by
    rw [List.length_append, tag.property]
    omega
  have h16 : 16 ≤ (ct ++ tag.val).length := by
    rw [List.length_append, tag.property]
    omega
  unfold splitTag
  rw [dif_pos h16]
  congr 2
  · rw [hlen, List.take_left]
  · apply Subtype.ext
    show (ct ++ tag.val).drop ((ct ++ tag.val).length - 16) = tag.val
    rw [hlen, List.drop_left]

/-- What comes apart as `n` bytes of ciphertext and a tag was their concatenation. -/
theorem splitTag_eq_some {n : Nat} {b ct : Bytes} {tag : Block 16} (h : splitTag b = some (ct, tag))
    (hlen : b.length = n + 16) : b = ct ++ tag.val ∧ ct.length = n := by
  unfold splitTag at h
  rw [dif_pos (by omega), Option.some.injEq, Prod.mk.injEq] at h
  obtain ⟨hct, htag⟩ := h
  have htag' : tag.val = b.drop (b.length - 16) := by rw [← htag]
  refine ⟨?_, ?_⟩
  · rw [htag', ← hct, List.take_append_drop]
  · rw [← hct, List.length_take]
    omega

/-! ## A toy instance

The laws are consistent: a model without any secrecy meets them. -/

/-- The last `n` bytes of a byte string. -/
def toyDigest (n : Nat) (b : Bytes) : Block n := ⟨toBE n (ofBE b), toBE_length _ _⟩

/-- No encryption, and a digest of key, nonce, data and text as the tag. -/
def OpenSSL.toy : OpenSSL where
  sha512 m := toyDigest 64 m
  hmacSha512 k m := toyDigest 64 (k ++ m).reverse
  chachaSeal k n aad pt := (pt, toyDigest 16 (k.val ++ n.val ++ aad ++ pt))
  chachaOpen k n aad ct tag := if tag = toyDigest 16 (k.val ++ n.val ++ aad ++ ct) then some ct else none
  x25519Public sk := sk
  x25519 sk pk := sk.xor pk
  ed25519Sign sk m := toyDigest 64 (sk.val ++ m)
  ed25519Verify pk sig m := decide (sig = toyDigest 64 (pk.val ++ m))
  seal_length := by simp
  open_seal := by simp
  open_length := by
    intro k n aad ct tag pt h
    split at h
    · rw [Option.some.inj h]
    · exact absurd h (by simp)

/-- What a libcrypto call whose return value is not looked at leaves in its result: the documented value, or
    `left` when the call failed. -/
def unchecked {α : Type} (left : Option α) (value : α) : α := left.getD value

@[simp] theorem unchecked_none {α : Type} (value : α) : unchecked none value = value := rfl

/-- The bytes of an ASCII string literal of the source. -/
def ascii (s : String) : Bytes := s.toList.map (fun c => UInt8.ofNat c.toNat)

theorem ascii_append (s t : String) : ascii (s ++ t) = ascii s ++ ascii t := by
  rw [ascii, String.toList_append, List.map_append]
  rfl

end Showcase
