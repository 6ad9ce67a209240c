import Showcase.Lib.CString
import Showcase.Pair.Context

/-!
# `Pair.KeySeparation` — the keys made from the pair-verify secret

Six calls of `hkdf_sha512` have the pair-verify shared secret as their key material; one of them is made for every
stream. Each call passes its salt and its info as a pointer and a length that is written beside the string by hand
(or is what `snprintf` returned). Here every call keeps both, and what HKDF is given is what it finds in memory.

## Contents
- `HkdfArg` — a pointer and a length, and the bytes that are read through them;
- `VerifyUse`, `VerifyUse.call` — the uses and their calls, with `keys_are_uses`, that the derived keys are theirs;
- `decimal_injective`, `decimal_length` — the decimal number in the salt of a stream;
- **`verifyUses_separated`** — distinct uses have distinct inputs, and every length is the length of its string.
-/

namespace Showcase

open Lib

/-! ## Arguments in memory -/

/-- What a pointer argument points to, and the length passed beside it. -/
structure HkdfArg where
  object : Bytes
  len : Nat

/-- The bytes HKDF reads; none where the length leads out of the object. -/
def HkdfArg.bytes (a : HkdfArg) : Option Bytes :=
  if a.len ≤ a.object.length then some (a.object.take a.len) else none

/-- A string literal, with its terminating zero, and a length. -/
def literal (s : String) (len : Nat) : HkdfArg := ⟨ascii s ++ [0], len⟩

/-- One call of `hkdf_sha512` on `verify_shared`, 32 bytes long. -/
structure HkdfCall where
  salt : HkdfArg
  info : HkdfArg

/-! ## The uses -/

/-- What keys are made for. -/
inductive VerifyUse where
  | verifyEncrypt
  | controlRead
  | controlWrite
  | eventsRead
  | eventsWrite
  | stream (streamConnectionID : UInt64)
deriving DecidableEq

/-- `%llu`. -/
def decimal (n : Nat) : Bytes := ascii (toString n)

/-- The text that is printed into `saltBuf`. -/
def streamSaltText (streamConnectionID : UInt64) : Bytes :=
  ascii "DataStream-Salt" ++ decimal streamConnectionID.toNat

/-- `saltBuf` and `saltLen`: `snprintf` writes at most 63 bytes of the text and a zero, and returns the length of the
    whole text. -/
def streamSaltBuf (streamConnectionID : UInt64) : HkdfArg :=
  ⟨(streamSaltText streamConnectionID).take (64 - 1) ++ [0], (streamSaltText streamConnectionID).length⟩

/-- The calls, as `handle_verify_m1` and the `pair_derive_*` functions write them. -/
def VerifyUse.call : VerifyUse → HkdfCall
  | .verifyEncrypt => ⟨literal "Pair-Verify-Encrypt-Salt" 24, literal "Pair-Verify-Encrypt-Info" 24⟩
  | .controlRead => ⟨literal "Control-Salt" 12, literal "Control-Write-Encryption-Key" 28⟩
  | .controlWrite => ⟨literal "Control-Salt" 12, literal "Control-Read-Encryption-Key" 27⟩
  | .eventsRead => ⟨literal "Events-Salt" 11, literal "Events-Read-Encryption-Key" 26⟩
  | .eventsWrite => ⟨literal "Events-Salt" 11, literal "Events-Write-Encryption-Key" 27⟩
  | .stream id => ⟨streamSaltBuf id, literal "DataStream-Output-Encryption-Key" 32⟩

/-- The salt a use is meant to have. -/
def VerifyUse.salt : VerifyUse → Bytes
  | .verifyEncrypt => ascii "Pair-Verify-Encrypt-Salt"
  | .controlRead | .controlWrite => ascii "Control-Salt"
  | .eventsRead | .eventsWrite => ascii "Events-Salt"
  | .stream id => streamSaltText id

/-- The info a use is meant to have. -/
def VerifyUse.info : VerifyUse → Bytes
  | .verifyEncrypt => ascii "Pair-Verify-Encrypt-Info"
  | .controlRead => ascii "Control-Write-Encryption-Key"
  | .controlWrite => ascii "Control-Read-Encryption-Key"
  | .eventsRead => ascii "Events-Read-Encryption-Key"
  | .eventsWrite => ascii "Events-Write-Encryption-Key"
  | .stream _ => ascii "DataStream-Output-Encryption-Key"

/-- The key a call makes from what it reads. -/
def VerifyUse.key (P : OpenSSL) (shared : Block 32) (use : VerifyUse) : Option (Block 32) :=
  use.call.salt.bytes.bind fun salt => use.call.info.bytes.map fun info => verifyHkdf P shared salt info

/-! ## Exact lengths -/

/-- The length passed beside a string is that of the string, up to its terminating zero, and what is read through
    them is the whole string. -/
structure HkdfArg.Exact (a : HkdfArg) (text : Bytes) : Prop where
  strlen : memchr 0 a.object = some a.len
  length : a.len = text.length
  bytes : a.bytes = some text

theorem HkdfArg.Exact.ofText {text : Bytes} {len : Nat} (hlen : len = text.length) (h0 : 0 ∉ text) :
    HkdfArg.Exact ⟨text ++ [0], len⟩ text where
  strlen := by rw [hlen, memchr_append h0]
  length := hlen
  bytes := by
    have hfit : text.length ≤ (text ++ [0]).length := by
      rw [List.length_append]
      omega
    rw [hlen, HkdfArg.bytes, if_pos hfit, List.take_left]

/-! ## Decimal numbers -/

theorem decimal_eq (n : Nat) : decimal n = (Nat.toDigits 10 n).map (fun c => UInt8.ofNat c.toNat) := by
  rw [decimal, ascii, Nat.toString_eq_repr, Nat.toList_repr]

/-- A digit keeps its number as a byte, and is not the terminating zero. -/
theorem digit_toNat {n : Nat} {c : Char} (hc : c ∈ Nat.toDigits 10 n) :
    (UInt8.ofNat c.toNat).toNat = c.toNat ∧ 48 ≤ c.toNat := by
  have hdigit := Nat.isDigit_of_mem_toDigits (by decide) (by decide) hc
  rw [Char.isDigit_iff_toNat] at hdigit
  have hrange : '0'.toNat = 48 ∧ '9'.toNat = 57 := ⟨rfl, rfl⟩
  refine ⟨?_, by omega⟩
  rw [UInt8.toNat_ofNat']
  omega

/-- **The number can be read back** from its decimal form. -/
theorem ofDigits_decimal (n : Nat) : ofDigits (decimal n) = n := by
  have hread : ∀ acc, ∀ c ∈ Nat.toDigits 10 n,
      acc * 10 + ((UInt8.ofNat c.toNat).toNat - 48) = 10 * acc + (c.toNat - '0'.toNat) := by
    intro acc c hc
    rw [(digit_toNat hc).1, Nat.mul_comm]
    rfl
  rw [decimal_eq, ofDigits, List.foldl_map, List.foldl_ext _ _ _ hread, ← Nat.ofDigitChars_eq_foldl,
    Nat.ofDigitChars_ten_toDigits]

theorem decimal_injective {m n : Nat} (h : decimal m = decimal n) : m = n := by
  rw [← ofDigits_decimal m, h, ofDigits_decimal]

/-- A 64-bit number has at most 20 digits. -/
theorem decimal_length (id : UInt64) : (decimal id.toNat).length ≤ 20 := by
  have hlt : id.toNat < 10 ^ 20 := Nat.lt_trans id.toNat_lt (by decide)
  rw [decimal_eq, List.length_map]
  exact (Nat.length_toDigits_le_iff (by decide) (by decide)).mpr hlt

theorem zero_not_mem_decimal (n : Nat) : 0 ∉ decimal n := by
  rw [decimal_eq]
  intro h
  obtain ⟨c, hc, hzero⟩ := List.mem_map.mp h
  obtain ⟨hread, hlow⟩ := digit_toNat hc
  rw [hzero, UInt8.toNat_zero] at hread
  omega

/-! ## The salt of a stream -/

theorem streamSaltText_length (id : UInt64) : (streamSaltText id).length < 64 := by
  have hdigits := decimal_length id
  have hlabel : (ascii "DataStream-Salt").length = 15 := by decide
  rw [streamSaltText, List.length_append, hlabel]
  omega

/-- `saltBuf` holds the whole text. -/
theorem streamSaltBuf_eq (id : UInt64) :
    streamSaltBuf id = ⟨streamSaltText id ++ [0], (streamSaltText id).length⟩ := by
  have hlen := streamSaltText_length id
  rw [streamSaltBuf, List.take_of_length_le (by omega)]

theorem zero_not_mem_streamSaltText (id : UInt64) : 0 ∉ streamSaltText id := by
  intro h
  rcases List.mem_append.mp h with hlabel | hdigits
  · exact absurd hlabel (by decide)
  · exact zero_not_mem_decimal _ hdigits

theorem streamSaltText_injective {id id' : UInt64} (h : streamSaltText id = streamSaltText id') : id = id' :=
  UInt64.toNat_inj.mp (decimal_injective (List.append_cancel_left h))

/-! ## Separation

Two uses with one salt and one info are the same use: the infos tell all but the streams apart, and among the streams
the salts do, since a decimal number can be read back. -/

theorem call_salt_exact (use : VerifyUse) : use.call.salt.Exact use.salt := by
  cases use with
  | verifyEncrypt => exact .ofText (by decide) (by decide)
  | controlRead => exact .ofText (by decide) (by decide)
  | controlWrite => exact .ofText (by decide) (by decide)
  | eventsRead => exact .ofText (by decide) (by decide)
  | eventsWrite => exact .ofText (by decide) (by decide)
  | stream id =>
      show (streamSaltBuf id).Exact (streamSaltText id)
      rw [streamSaltBuf_eq]
      exact .ofText rfl (zero_not_mem_streamSaltText id)

theorem call_info_exact (use : VerifyUse) : use.call.info.Exact use.info := by
  cases use with
  | verifyEncrypt => exact .ofText (by decide) (by decide)
  | controlRead => exact .ofText (by decide) (by decide)
  | controlWrite => exact .ofText (by decide) (by decide)
  | eventsRead => exact .ofText (by decide) (by decide)
  | eventsWrite => exact .ofText (by decide) (by decide)
  | stream id => exact .ofText (by decide) (by decide)

/-- The infos tell all uses apart but the streams among themselves. -/
theorem info_eq {use use' : VerifyUse} (h : use.info = use'.info) :
    use = use' ∨ ∃ id id', use = .stream id ∧ use' = .stream id' := by
  cases use <;> cases use' <;> simp only [VerifyUse.info] at h
  -- two streams; every other pair is one use twice or two different literals
  case stream.stream id id' => exact .inr ⟨id, id', rfl, rfl⟩
  all_goals first
    | exact .inl rfl
    | exact absurd h (by decide)

theorem inputs_injective {use use' : VerifyUse} (hsalt : use.salt = use'.salt) (hinfo : use.info = use'.info) :
    use = use' := by
  rcases info_eq hinfo with h | ⟨id, id', rfl, rfl⟩
  · exact h
  · rw [streamSaltText_injective hsalt]

theorem VerifyUse.key_eq (P : OpenSSL) (shared : Block 32) (use : VerifyUse) :
    use.key P shared = some (verifyHkdf P shared use.salt use.info) := by
  rw [VerifyUse.key, (call_salt_exact use).bytes, (call_info_exact use).bytes]
  rfl

/-- The keys that are derived are those of the uses. -/
structure KeysAreUses (P : OpenSSL) (ctx : PairCtx) : Prop where
  verifyEncrypt : VerifyUse.verifyEncrypt.key P ctx.verifyShared = some (verifyEncryptKey P ctx.verifyShared)
  control : ∀ keys, pairDeriveControlKeys P ctx = some keys →
    VerifyUse.controlRead.key P ctx.verifyShared = some keys.readKey ∧
    VerifyUse.controlWrite.key P ctx.verifyShared = some keys.writeKey
  events : ∀ keys, pairDeriveEventKeys P ctx = some keys →
    VerifyUse.eventsRead.key P ctx.verifyShared = some keys.readKey ∧
    VerifyUse.eventsWrite.key P ctx.verifyShared = some keys.writeKey
  stream : ∀ id key, pairDeriveStreamKey P ctx id = some key →
    (VerifyUse.stream id).key P ctx.verifyShared = some key

theorem keys_are_uses (P : OpenSSL) (ctx : PairCtx) : KeysAreUses P ctx where
  verifyEncrypt := VerifyUse.key_eq P ctx.verifyShared .verifyEncrypt
  control := by
    intro keys h
    unfold pairDeriveControlKeys at h
    split at h
    · exact nomatch h
    · rw [VerifyUse.key_eq, VerifyUse.key_eq, ← Option.some.inj h]
      exact ⟨rfl, rfl⟩
  events := by
    intro keys h
    unfold pairDeriveEventKeys at h
    split at h
    · exact nomatch h
    · rw [VerifyUse.key_eq, VerifyUse.key_eq, ← Option.some.inj h]
      exact ⟨rfl, rfl⟩
  stream := by
    intro id key h
    unfold pairDeriveStreamKey at h
    split at h
    · exact nomatch h
    · rw [VerifyUse.key_eq, ← Option.some.inj h, VerifyUse.salt, streamSaltText, decimal, ← ascii_append]
      rfl

/-- **Domain separation.** Every length that is passed is the length of its string, and HKDF reads the whole string;
    distinct uses are given distinct pairs of salt and info. The salt of a stream fits `saltBuf` and is another one
    for every connection id. -/
theorem verifyUses_separated :
    (∀ use : VerifyUse, use.call.salt.Exact use.salt ∧ use.call.info.Exact use.info) ∧
    (∀ use use' : VerifyUse, use ≠ use' →
      (use.call.salt.bytes, use.call.info.bytes) ≠ (use'.call.salt.bytes, use'.call.info.bytes)) ∧
    (∀ id, (streamSaltText id).length < 64) ∧
    (∀ id id', streamSaltText id = streamSaltText id' → id = id') ∧
    (∀ P ctx, KeysAreUses P ctx) := by
  refine ⟨fun use => ⟨call_salt_exact use, call_info_exact use⟩, ?_, streamSaltText_length,
    fun id id' => streamSaltText_injective, keys_are_uses⟩
  intro use use' hne h
  rw [Prod.mk.injEq, (call_salt_exact use).bytes, (call_salt_exact use').bytes, (call_info_exact use).bytes,
    (call_info_exact use').bytes] at h
  exact hne (inputs_injective (Option.some.inj h.1) (Option.some.inj h.2))

end Showcase
