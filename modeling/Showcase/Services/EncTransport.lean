import Showcase.Lib.Socket
import Showcase.OpenSSL

/-!
# `Services.EncTransport` — the encrypted transport

`encrypted_ctx_t`, `enc_recv_frame` and `enc_send_frame` of `carplay_services.m`. A frame is a 2-byte
little-endian length, which is also the associated data, the ciphertext and its 16-byte tag; the nonce is a
64-bit counter for each direction.

The AEAD is a parameter (`AeadSeal`, `AeadOpen`), so that a frame can be received both under libcrypto's
ChaCha20-Poly1305 and under an ideal cipher.
-/

namespace Showcase

open Lib

/-- AEAD encryption: key, nonce, associated data, plaintext. -/
abbrev AeadSeal := Block 32 → Block 12 → Bytes → Bytes → Bytes × Block 16

/-- AEAD decryption: key, nonce, associated data, ciphertext, tag. -/
abbrev AeadOpen := Block 32 → Block 12 → Bytes → Bytes → Block 16 → Option Bytes

/-- `encrypted_ctx_t`. -/
structure EncryptedCtx where
  readKey : Block 32
  writeKey : Block 32
  readNonce : UInt64
  writeNonce : UInt64
  active : Bool
deriving DecidableEq

/-- The buffer both callers of `enc_recv_frame` pass, and the bound of `enc_send_frame`. -/
def maxFrame : Nat := 16384

/-! ## Header and nonce -/

/-- `hdr[0] = n & 0xFF; hdr[1] = (n >> 8) & 0xFF`. -/
def lenHeader (n : Nat) : Bytes := [UInt8.ofNat (n % 256), UInt8.ofNat (n / 256 % 256)]

/-- `hdr[0] | (uint16_t)hdr[1] << 8`. -/
def headerLen : Bytes → Nat
  | [lo, hi] => lo.toNat + hi.toNat * 256
  | _ => 0

/-- The 12-byte nonce of a frame: four zero bytes, then the counter, least significant byte first. -/
def counterNonce (n : UInt64) : Block 12 :=
  ⟨List.replicate 4 0 ++ (toBE 8 n.toNat).reverse, by simp⟩

@[simp] theorem lenHeader_length (n : Nat) : (lenHeader n).length = 2 := rfl

/-- Lengths up to 65535 survive the header. -/
theorem headerLen_lenHeader {n : Nat} (h : n < 65536) : headerLen (lenHeader n) = n := by
  have hlo : (UInt8.ofNat (n % 256)).toNat = n % 256 := by
    rw [UInt8.toNat_ofNat']
    omega
  have hhi : (UInt8.ofNat (n / 256 % 256)).toNat = n / 256 % 256 := by
    rw [UInt8.toNat_ofNat']
    omega
  simp only [headerLen, lenHeader, hlo, hhi]
  omega

theorem headerLen_lt (hdr : Bytes) : headerLen hdr < 65536 := by
  unfold headerLen
  split
  · rename_i lo hi
    have hlo : lo.toNat < 256 := lo.toNat_lt
    have hhi : hi.toNat < 256 := hi.toNat_lt
    omega
  · omega

/-- The header is determined by the length it gives. -/
theorem lenHeader_headerLen {hdr : Bytes} (h : hdr.length = 2) : lenHeader (headerLen hdr) = hdr := by
  obtain ⟨lo, hi, rfl⟩ := List.length_eq_two.mp h
  have hlo : lo.toNat < 256 := lo.toNat_lt
  have hhi : hi.toNat < 256 := hi.toNat_lt
  have h1 : (lo.toNat + hi.toNat * 256) % 256 = lo.toNat := by omega
  have h2 : (lo.toNat + hi.toNat * 256) / 256 % 256 = hi.toNat := by omega
  simp only [headerLen, lenHeader, h1, h2, UInt8.ofNat_toNat]

/-- Different counters give different nonces. -/
theorem counterNonce_inj {n m : UInt64} (h : counterNonce n = counterNonce m) : n = m := by
  have hv : (toBE 8 n.toNat).reverse = (toBE 8 m.toNat).reverse :=
    List.append_cancel_left (congrArg Subtype.val h)
  have hbe := congrArg ofBE (List.reverse_injective hv)
  rw [ofBE_toBE, ofBE_toBE] at hbe
  have hn : n.toNat < 2 ^ 64 := n.toNat_lt
  have hm : m.toNat < 2 ^ 64 := m.toNat_lt
  apply UInt64.toNat_inj.mp
  omega

/-! ## enc_recv_frame -/

/-- The outcomes of the other calls of one `enc_recv_frame`. -/
structure RecvEnv where
  /-- `malloc(totalRead)`. -/
  frame : Bool
  /-- `EVP_CIPHER_CTX_new`. -/
  cipherCtx : Bool
  /-- The `EVP_Decrypt*` calls in front of the tag check. -/
  cipher : Bool

/-- Every call succeeds. -/
def RecvEnv.ok : RecvEnv := ⟨true, true, true⟩

/-- The return value of `enc_recv_frame`: the plaintext (its length is returned), -2, or -1. -/
inductive RecvResult where
  | plaintext (b : Bytes)
  | idle
  | error
deriving DecidableEq

/-- `enc_recv_frame`: the result, the context and the rest of the socket. -/
def encRecvFrame (aead : AeadOpen) (enc : EncryptedCtx) (sock : Sock) (outBufSize : Nat) (e : RecvEnv) :
    RecvResult × EncryptedCtx × Sock :=
  match recvLoop 2 sock [] with
  | (.error, sock) => (.error, enc, sock)
  | (.timeout, sock) => (.idle, enc, sock)
  | (.ok hdr, sock) =>
      let ptLen := headerLen hdr
      if ptLen = 0 ∨ outBufSize < ptLen then (.error, enc, sock)
      else if e.frame = false then (.error, enc, sock)
      else
        match recvLoop (ptLen + 16) sock [] with
        | (.error, sock) => (.error, enc, sock)
        | (.timeout, sock) => (.idle, enc, sock)
        | (.ok frame, sock) =>
            if e.cipherCtx = false ∨ e.cipher = false then (.error, enc, sock)
            else
              match (splitTag frame).bind (fun (ct, tag) =>
                  aead enc.readKey (counterNonce enc.readNonce) hdr ct tag) with
              | none => (.error, enc, sock)
              | some pt => (.plaintext pt, { enc with readNonce := enc.readNonce + 1 }, sock)

/-! ## enc_send_frame -/

/-- The outcomes of the calls of one `enc_send_frame`. -/
structure SendEnv where
  /-- `malloc(dataLen)`. -/
  ct : Bool
  /-- `EVP_CIPHER_CTX_new`. -/
  cipherCtx : Bool
  /-- The `EVP_Encrypt*` calls and the read of the tag. -/
  cipher : Bool
  /-- `malloc(totalLen)`. -/
  out : Bool
  /-- How many bytes each `send` takes; 0 stands for a failure, and so does the end of the list. -/
  sends : List Nat

/-- The header, the ciphertext and the tag of one frame. -/
def sealedFrame (aead : AeadSeal) (key : Block 32) (nonce : UInt64) (data : Bytes) : Bytes :=
  let sealed := aead key (counterNonce nonce) (lenHeader data.length) data
  lenHeader data.length ++ sealed.1 ++ sealed.2.val

/-- The `send` loop: the bytes that went out, and whether these are all. -/
def sendLoop : List Nat → Bytes → Bytes × Bool
  | _, [] => ([], true)
  | [], _ :: _ => ([], false)
  | 0 :: _, _ :: _ => ([], false)
  | (n + 1) :: sends, b :: out =>
      let (sent, ok) := sendLoop sends (out.drop n)
      (b :: out.take n ++ sent, ok)

/-- `enc_send_frame`: whether it returns 0, the bytes that went out, and the context. -/
def encSendFrame (aead : AeadSeal) (enc : EncryptedCtx) (data : Bytes) (e : SendEnv) :
    Bool × Bytes × EncryptedCtx :=
  if maxFrame < data.length then (false, [], enc)
  else if e.ct = false ∨ e.cipherCtx = false then (false, [], enc)
  else if e.cipher = false ∨ e.out = false then (false, [], enc)
  else
    match sendLoop e.sends (sealedFrame aead enc.writeKey enc.writeNonce data) with
    | (sent, false) => (false, sent, enc)
    | (sent, true) => (true, sent, { enc with writeNonce := enc.writeNonce + 1 })

/-- A complete `send` loop sent everything. -/
theorem sendLoop_complete {sends : List Nat} {out sent : Bytes} (h : sendLoop sends out = (sent, true)) :
    sent = out := by
  induction sends generalizing out sent with
  | nil =>
      cases out with
      | nil => exact (congrArg Prod.fst h).symm
      | cons b out => exact absurd (congrArg Prod.snd h) (by simp [sendLoop])
  | cons n sends ih =>
      cases out with
      | nil => exact (congrArg Prod.fst h).symm.trans (by simp [sendLoop])
      | cons b out =>
          cases n with
          | zero => exact absurd (congrArg Prod.snd h) (by simp [sendLoop])
          | succ n =>
              rcases hrest : sendLoop sends (out.drop n) with ⟨rest, ok⟩
              simp only [sendLoop, hrest, Prod.mk.injEq] at h
              obtain ⟨rfl, rfl⟩ := h
              rw [ih hrest, List.cons_append, List.take_append_drop]

/-- **What an accepted message does**: it fits, its frame went out, and the counter moved on. -/
theorem encSendFrame_accepted {aead : AeadSeal} {enc enc' : EncryptedCtx} {data sent : Bytes} {e : SendEnv}
    (h : encSendFrame aead enc data e = (true, sent, enc')) :
    data.length ≤ maxFrame ∧ sent = sealedFrame aead enc.writeKey enc.writeNonce data ∧
      enc' = { enc with writeNonce := enc.writeNonce + 1 } := by
  unfold encSendFrame at h
  split at h
  · exact absurd (congrArg Prod.fst h) (by simp)
  rename_i hlen
  split at h
  · exact absurd (congrArg Prod.fst h) (by simp)
  split at h
  · exact absurd (congrArg Prod.fst h) (by simp)
  split at h
  · exact absurd (congrArg Prod.fst h) (by simp)
  · rename_i hloop
    simp only [Prod.mk.injEq, true_and] at h
    exact ⟨by omega, h.1.symm.trans (sendLoop_complete hloop), h.2.symm⟩

/-! ## What one call of enc_recv_frame does

The call is split at each of its exits. All of them but the last return the context they were given, so an accepted
frame is the only case with anything to say. -/

variable {aead : AeadOpen} {enc enc' : EncryptedCtx} {sock sock' : Sock} {outBufSize : Nat} {e : RecvEnv}
  {r : RecvResult}

/-- **A call accepts a frame, or leaves the context alone.** An accepted plaintext is the opening of the next
    bytes of the stream under the read key, the current counter and the header in front of them; a call that
    reports a timeout met one. Both use up something of the socket. -/
theorem encRecvFrame_cases (h : encRecvFrame aead enc sock outBufSize e = (r, enc', sock')) :
    (∃ pt ct tag, r = .plaintext pt ∧ enc' = { enc with readNonce := enc.readNonce + 1 } ∧
        sock.stream = lenHeader ct.length ++ ct ++ tag.val ++ sock'.stream ∧ ct.length < 65536 ∧
        aead enc.readKey (counterNonce enc.readNonce) (lenHeader ct.length) ct tag = some pt ∧
        sock'.work < sock.work) ∨
      (r = .idle ∧ enc' = enc ∧ RecvEvent.again ∈ sock ∧ sock'.work < sock.work) ∨
      (r = .error ∧ enc' = enc) := by
  unfold encRecvFrame at h
  rcases hhdr : recvLoop 2 sock [] with ⟨rh, s₁⟩
  obtain ⟨hok, htime, hmem⟩ := recvLoop_inv hhdr (by simp)
  rw [hhdr] at h
  cases rh with
  | error =>
      simp only [Prod.mk.injEq] at h
      exact .inr (.inr ⟨h.1.symm, h.2.1.symm⟩)
  | timeout =>
      simp only [Prod.mk.injEq] at h
      obtain ⟨_, hsock⟩ := htime rfl
      have hwork := recvLoop_work hhdr (by simp) (by simp)
      exact .inr (.inl ⟨h.1.symm, h.2.1.symm, by rw [hsock]; exact List.mem_cons_self .., h.2.2 ▸ hwork⟩)
  | ok hdr =>
      obtain ⟨hhdrLen, hstream⟩ := hok hdr rfl
      have hwork := recvLoop_work hhdr (by simp) (by simp)
      simp only at h
      split at h
      · rw [Prod.mk.injEq, Prod.mk.injEq] at h
        exact .inr (.inr ⟨h.1.symm, h.2.1.symm⟩)
      split at h
      · rw [Prod.mk.injEq, Prod.mk.injEq] at h
        exact .inr (.inr ⟨h.1.symm, h.2.1.symm⟩)
      rcases hbody : recvLoop (headerLen hdr + 16) s₁ [] with ⟨rb, s₂⟩
      obtain ⟨hok₂, htime₂, _⟩ := recvLoop_inv hbody (by simp)
      rw [hbody] at h
      cases rb with
      | error =>
          simp only [Prod.mk.injEq] at h
          exact .inr (.inr ⟨h.1.symm, h.2.1.symm⟩)
      | timeout =>
          simp only [Prod.mk.injEq] at h
          obtain ⟨_, hs₁⟩ := htime₂ rfl
          have hwork₂ := recvLoop_work hbody (by simp) (by simp)
          exact .inr (.inl ⟨h.1.symm, h.2.1.symm, hmem (by rw [hs₁]; exact List.mem_cons_self ..),
            h.2.2 ▸ Nat.lt_trans hwork₂ hwork⟩)
      | ok frame =>
          obtain ⟨hframeLen, hstream₂⟩ := hok₂ frame rfl
          have hwork₂ := recvLoop_work hbody (by simp) (by simp)
          simp only at h
          split at h
          · rw [Prod.mk.injEq, Prod.mk.injEq] at h
            exact .inr (.inr ⟨h.1.symm, h.2.1.symm⟩)
          split at h
          · rw [Prod.mk.injEq, Prod.mk.injEq] at h
            exact .inr (.inr ⟨h.1.symm, h.2.1.symm⟩)
          rename_i pt hopen
          rw [Prod.mk.injEq, Prod.mk.injEq] at h
          obtain ⟨hr, henc, hs₂⟩ := h
          obtain ⟨⟨ct, tag⟩, hsplit, hopen⟩ := Option.bind_eq_some_iff.mp hopen
          obtain ⟨hframe, hct⟩ := splitTag_eq_some hsplit hframeLen
          have hhdrEq : lenHeader ct.length = hdr := by
            rw [hct, lenHeader_headerLen hhdrLen]
          have hct' : ct.length < 65536 := hct ▸ headerLen_lt hdr
          refine .inl ⟨pt, ct, tag, hr.symm, henc.symm, ?_, hct', by rw [hhdrEq]; exact hopen,
            hs₂ ▸ Nat.lt_trans hwork₂ hwork⟩
          rw [List.nil_append] at hstream hstream₂
          rw [hstream, hstream₂, hframe, hhdrEq, hs₂]
          simp

end Showcase
