import Showcase.Lib.ReadExact
import Showcase.Services.EncTransport

/-!
# `Screen.Stream` — the video stream

The message loop of `screen_thread_func` in `carplay_services.m`. A message is a 128-byte header, which begins with
the size of the body and the opcode, and the body; the body of a video frame is sealed under the screen key, with
the header as associated data and the number of the frame as the nonce. Allocations succeed.

A decryption is two calls: `EVP_DecryptUpdate` writes, `EVP_DecryptFinal_ex` looks at the tag (`AeadStream`). What it
writes is in the buffer whatever the tag says, and the buffer is the one of the messages before.

* `screenLoop_messages` — the loop does to every message what `handled` says, as long as it stays within memory.
* `video_stream` — the nonces and the payloads of a stream.
-/

namespace Showcase

open Lib

/-! ## Decryption -/

/-- `EVP_DecryptUpdate` (key, nonce, ciphertext; what it writes) and `EVP_DecryptFinal_ex` (key, nonce, associated
    data, ciphertext, tag; whether it accepts). -/
structure AeadStream where
  update : Block 32 → Block 12 → Bytes → Bytes
  final : Block 32 → Block 12 → Bytes → Bytes → Block 16 → Bool
  update_length : ∀ k n ct, (update k n ct).length = ct.length

/-- Both calls: the plaintext of an accepted tag. -/
def AeadStream.open (A : AeadStream) : AeadOpen := fun k n aad ct tag =>
  if A.final k n aad ct tag then some (A.update k n ct) else none

/-! ## The messages -/

/-- `MSG_VIDEO_CONFIG`. -/
def msgVideoConfig : UInt8 := 0x01

/-- `MSG_VIDEO_FRAME`. -/
def msgVideoFrame : UInt8 := 0x02

/-- `header[0] | (header[1] << 8) | ...`. -/
def headerBodySize (header : Bytes) : Nat := ofLE (header.take 4)

/-- `header[4]`. -/
def headerOpcode (header : Bytes) : UInt8 := header.getD 4 0

/-! ## The loop -/

/-- What a message finds: the globals `g_screen_key` and `g_screen_key_valid`, and what new memory holds. -/
structure ScreenEnv where
  screenKey : Option (Block 32)
  fresh : Nat → UInt8

/-- What the loop keeps: the body buffer (`bodyAlloc` is its length) and the counter. -/
structure ScreenState where
  body : Bytes
  chachaNonce : UInt64

/-- `body = NULL`, `chachaNonce = 0`. -/
def ScreenState.start : ScreenState := ⟨[], 0⟩

/-- What the loop did with a message: its opcode, the counter it found, and its call of `app_send_msg`. -/
structure ScreenLog where
  opcode : UInt8
  nonce : UInt64
  sent : Option (UInt8 × Bytes)
deriving DecidableEq

/-- `realloc(body, n)`. -/
def realloc (fresh : Nat → UInt8) (body : Bytes) (n : Nat) : Bytes :=
  body.take n ++ (List.range' body.length (n - body.length)).map fresh

/-- The buffer for a body. The new size is the sum of a `uint32_t` and an `int`, a `uint32_t`. -/
def growBody (fresh : Nat → UInt8) (body : Bytes) (bodySize : Nat) : Bytes :=
  if body.length < bodySize then realloc fresh body ((bodySize + 4096) % 2 ^ 32) else body

/-- `case 1`: the payload for the app is the width, the height and the body; a `uint32_t` that wraps makes it too
    small. -/
def videoConfig (header body : Bytes) (bodySize : Nat) : Option Bytes :=
  if (8 + bodySize) % 2 ^ 32 < 8 + bodySize then none
  else some ((header.drop 16).take 4 ++ (header.drop 20).take 4 ++ body.take bodySize)

/-- `case 0`: the state behind it and the payload for the app. `EVP_DecryptUpdate` takes the length as an `int`. -/
def videoFrame (A : AeadStream) (screenKey : Option (Block 32)) (header : Bytes) (bodySize : Nat)
    (st : ScreenState) : Option (ScreenState × Option Bytes) :=
  match screenKey with
  | none => some ({ st with chachaNonce := st.chachaNonce + 1 }, none)
  | some key =>
      if bodySize < 16 then some ({ st with chachaNonce := st.chachaNonce + 1 }, none)
      else
        let ctLen := bodySize - 16
        let nonce := counterNonce st.chachaNonce
        let ct := st.body.take ctLen
        let body := A.update key nonce ct ++ st.body.drop ctLen
        if 2 ^ 31 ≤ ctLen then none
        else
          match Block.ofBytes? 16 ((body.drop ctLen).take 16) with
          | none => none
          | some tag =>
              let st := ⟨body, st.chachaNonce + 1⟩
              if A.final key nonce header ct tag then some (st, some (st.body.take ctLen)) else some (st, none)

/-- The `switch`: the call of `app_send_msg` and the state behind it. -/
def screenDispatch (A : AeadStream) (e : ScreenEnv) (header : Bytes) (st : ScreenState) :
    Option (Option (UInt8 × Bytes) × ScreenState) :=
  if headerOpcode header = 1 then
    match videoConfig header st.body (headerBodySize header) with
    | none => none
    | some msg => some (some (msgVideoConfig, msg), st)
  else if headerOpcode header = 0 then
    match videoFrame A e.screenKey header (headerBodySize header) st with
    | none => none
    | some (st, payload) => some (payload.map (msgVideoFrame, ·), st)
  else some (none, st)

/-- How a round ends. -/
inductive ScreenRound where
  /-- A write outside the memory it is meant for. -/
  | undefined
  | closed
  | message (log : ScreenLog) (st : ScreenState) (sock : Sock)

/-- `tcp_read_exact`. -/
def tcpReadExact (sock : Sock) (len : Nat) : Option Bytes × Sock := readExact len sock []

/-- One round of `while (1)`. -/
def screenRound (A : AeadStream) (e : ScreenEnv) (st : ScreenState) (sock : Sock) : ScreenRound :=
  match tcpReadExact sock 128 with
  | (none, _) => .closed
  | (some header, sock) =>
      let bodySize := headerBodySize header
      let body := growBody e.fresh st.body bodySize
      if body.length < bodySize then .undefined
      else
        match tcpReadExact sock bodySize with
        | (none, _) => .closed
        | (some read, sock) =>
            let st := { st with body := read ++ body.drop bodySize }
            match screenDispatch A e header st with
            | none => .undefined
            | some (sent, st') => .message ⟨headerOpcode header, st.chachaNonce, sent⟩ st' sock

theorem screenRound_work {A : AeadStream} {e : ScreenEnv} {st st' : ScreenState} {sock sock' : Sock}
    {log : ScreenLog} (h : screenRound A e st sock = .message log st' sock') : sock'.work < sock.work := by
  unfold screenRound at h
  rcases hhdr : tcpReadExact sock 128 with ⟨header, s₁⟩
  rw [hhdr] at h
  cases header with
  | none => cases h
  | some header =>
      have hs₁ : s₁.work < sock.work := readExact_work hhdr (by simp)
      simp only at h
      split at h
      · cases h
      rcases hbody : tcpReadExact s₁ (headerBodySize header) with ⟨read, s₂⟩
      rw [hbody] at h
      cases read with
      | none => cases h
      | some read =>
          have hs₂ : s₂.work ≤ s₁.work := by
            rcases Nat.eq_zero_or_pos (headerBodySize header) with hzero | hpos
            · rw [tcpReadExact, hzero, readExact_done (Nat.le_refl 0), Prod.mk.injEq] at hbody
              rw [hbody.2]
            · exact Nat.le_of_lt (readExact_work hbody hpos)
          simp only at h
          split at h
          · cases h
          · rw [ScreenRound.message.injEq] at h
            rw [← h.2.2]
            omega

/-- The loop from message `i` on, to the end of the connection. -/
def screenLoop (A : AeadStream) (env : Nat → ScreenEnv) (i : Nat) (st : ScreenState) (sock : Sock) :
    Option (List ScreenLog) :=
  match _h : screenRound A (env i) st sock with
  | .undefined => none
  | .closed => some []
  | .message log st' sock' => (screenLoop A env (i + 1) st' sock').map (log :: ·)
termination_by sock.work
decreasing_by exact screenRound_work _h

/-- `screen_thread_func` from the accepted connection on. -/
def screenThread (A : AeadStream) (env : Nat → ScreenEnv) (sock : Sock) : Option (List ScreenLog) :=
  screenLoop A env 0 .start sock

/-! ## What a message calls for

A round on a whole message is the function `handled` of that message, as long as the buffers have room. Headers and
bodies are cut off the front of the stream, in whatever pieces it comes. -/

/-- A message: the header gives the size of the body. -/
structure ScreenMsg where
  header : Block 128
  body : Bytes
  size : body.length = headerBodySize header.val

namespace ScreenMsg

variable (m : ScreenMsg)

def opcode : UInt8 := headerOpcode m.header.val

def wire : Bytes := m.header.val ++ m.body

/-- The plaintext of a video frame whose tag is right for a counter. -/
def plaintext (A : AeadStream) (screenKey : Option (Block 32)) (nonce : UInt64) : Option Bytes :=
  screenKey.bind fun key => (splitTag m.body).bind fun (ct, tag) =>
    A.open key (counterNonce nonce) m.header.val ct tag

/-- The message for the app. -/
def handled (A : AeadStream) (screenKey : Option (Block 32)) (nonce : UInt64) : Option (UInt8 × Bytes) :=
  if m.opcode = 1 then
    some (msgVideoConfig, (m.header.val.drop 16).take 4 ++ (m.header.val.drop 20).take 4 ++ m.body)
  else if m.opcode = 0 then (m.plaintext A screenKey nonce).map (msgVideoFrame, ·)
  else none

/-- The counter behind the message. -/
def nonceAfter (nonce : UInt64) : UInt64 := if m.opcode = 0 then nonce + 1 else nonce

/-- The size of the buffer behind the message. -/
def allocAfter (alloc : Nat) : Nat :=
  if alloc < m.body.length then (m.body.length + 4096) % 2 ^ 32 else alloc

/-- The message stays within the buffers and the `int` of `EVP_DecryptUpdate`. -/
def InMemory (keyed : Bool) (alloc : Nat) : Prop :=
  m.body.length ≤ m.allocAfter alloc ∧ (m.opcode = 1 → 8 + m.body.length < 2 ^ 32) ∧
    (m.opcode = 0 → keyed → m.body.length < 2 ^ 31 + 16)

end ScreenMsg

section Round

variable {A : AeadStream} {e : ScreenEnv} {st : ScreenState} {m : ScreenMsg}

theorem realloc_length (fresh : Nat → UInt8) (body : Bytes) (n : Nat) : (realloc fresh body n).length = n := by
  rw [realloc, List.length_append, List.length_take, List.length_map, List.length_range']
  omega

theorem growBody_length (fresh : Nat → UInt8) (body : Bytes) (m : ScreenMsg) :
    (growBody fresh body m.body.length).length = m.allocAfter body.length := by
  unfold growBody ScreenMsg.allocAfter
  split
  · exact realloc_length _ _ _
  · rfl

/-- A body and its tag at the front of the buffer. -/
theorem splitTag_of_le {b : Bytes} (h : 16 ≤ b.length) :
    ∃ tag, splitTag b = some (b.take (b.length - 16), tag) ∧ b.drop (b.length - 16) = tag.val := by
  rw [splitTag, dif_pos h]
  exact ⟨_, rfl, rfl⟩

/-- **The frame at the front of the buffer**: the counter moves on in every case, and what is sent is the plaintext
    of this frame. -/
theorem videoFrame_eq {slack : Bytes} {bodySize : Nat} (hbody : st.body = m.body ++ slack)
    (hsize : bodySize = m.body.length) (hint : e.screenKey.isSome → m.body.length < 2 ^ 31 + 16) :
    ∃ body, videoFrame A e.screenKey m.header.val bodySize st
        = some (⟨body, st.chachaNonce + 1⟩, m.plaintext A e.screenKey st.chachaNonce) ∧
      body.length = st.body.length := by
  subst hsize
  unfold videoFrame ScreenMsg.plaintext
  cases hkey : e.screenKey with
  | none => exact ⟨st.body, rfl, rfl⟩
  | some key =>
      simp only [Option.bind_some]
      by_cases hsmall : m.body.length < 16
      · rw [if_pos hsmall, splitTag, dif_neg (by omega)]
        exact ⟨st.body, rfl, rfl⟩
      have hlt : m.body.length < 2 ^ 31 + 16 := hint (by rw [hkey]; rfl)
      obtain ⟨tag, hsplit, htag⟩ := splitTag_of_le (b := m.body) (by omega)
      let ctLen := m.body.length - 16
      let nonce := counterNonce st.chachaNonce
      have hct : st.body.take ctLen = m.body.take ctLen := by
        rw [hbody, List.take_append_of_le_length (Nat.sub_le _ _)]
      have hrest : st.body.drop ctLen = tag.val ++ slack := by
        rw [hbody, List.drop_append_of_le_length (Nat.sub_le _ _), htag]
      have hlen : (A.update key nonce (m.body.take ctLen)).length = ctLen := by
        rw [A.update_length, List.length_take]
        omega
      have hbehind : (A.update key nonce (m.body.take ctLen) ++ (tag.val ++ slack)).drop ctLen = tag.val ++ slack :=
        List.drop_left' hlen
      have hpt : (A.update key nonce (m.body.take ctLen) ++ (tag.val ++ slack)).take ctLen
          = A.update key nonce (m.body.take ctLen) := List.take_left' hlen
      have htake : (tag.val ++ slack).take 16 = tag.val := List.take_left' tag.property
      have hbuf : (A.update key nonce (m.body.take ctLen) ++ (tag.val ++ slack)).length = st.body.length := by
        rw [List.length_append, hlen, ← hrest, List.length_drop, hbody, List.length_append]
        omega
      rw [if_neg hsmall, hsplit]
      simp only [Option.bind_some, AeadStream.open]
      rw [if_neg (by omega)]
      simp only [ctLen, nonce] at hct hrest hbehind hpt hbuf
      simp only [hct, hrest, hbehind, htake, Block.ofBytes?_val, hpt]
      by_cases hauth : A.final key (counterNonce st.chachaNonce) m.header.val (m.body.take (m.body.length - 16)) tag
      · rw [if_pos hauth, if_pos hauth]
        exact ⟨_, rfl, hbuf⟩
      · rw [if_neg hauth, if_neg hauth]
        exact ⟨_, rfl, hbuf⟩

/-- The `switch` on a message at the front of the buffer. -/
theorem screenDispatch_eq (A : AeadStream) {slack : Bytes} (hbody : st.body = m.body ++ slack) {alloc : Nat}
    (hmem : m.InMemory e.screenKey.isSome alloc) :
    ∃ body, screenDispatch A e m.header.val st
        = some (m.handled A e.screenKey st.chachaNonce, ⟨body, m.nonceAfter st.chachaNonce⟩) ∧
      body.length = st.body.length := by
  obtain ⟨_, hwrap, hint⟩ := hmem
  have hopcode : headerOpcode m.header.val = m.opcode := rfl
  rw [screenDispatch, hopcode, ScreenMsg.handled, ScreenMsg.nonceAfter]
  by_cases hconfig : m.opcode = 1
  · have hmsg : videoConfig m.header.val st.body (headerBodySize m.header.val)
        = some ((m.header.val.drop 16).take 4 ++ (m.header.val.drop 20).take 4 ++ m.body) := by
      have hlt := hwrap hconfig
      rw [videoConfig, ← m.size, if_neg (by rw [Nat.mod_eq_of_lt hlt]; omega), hbody, List.take_left]
    rw [if_pos hconfig, if_pos hconfig, if_neg (by rw [hconfig]; decide), hmsg]
    exact ⟨st.body, rfl, rfl⟩
  by_cases hframe : m.opcode = 0
  · obtain ⟨body, hvideo, hlen⟩ := videoFrame_eq (A := A) hbody m.size.symm (hint hframe)
    rw [if_neg hconfig, if_neg hconfig, if_pos hframe, if_pos hframe, if_pos hframe, hvideo]
    exact ⟨body, rfl, hlen⟩
  · rw [if_neg hconfig, if_neg hconfig, if_neg hframe, if_neg hframe, if_neg hframe]
    exact ⟨st.body, rfl, rfl⟩

/-- The `switch` leaves memory when the message does and the buffer had room for it. -/
theorem screenDispatch_undefined (st : ScreenState) {alloc : Nat} (hroom : m.body.length ≤ m.allocAfter alloc)
    (hmem : ¬ m.InMemory e.screenKey.isSome alloc) : screenDispatch A e m.header.val st = none := by
  have hopcode : headerOpcode m.header.val = m.opcode := rfl
  rw [screenDispatch, hopcode]
  by_cases hconfig : m.opcode = 1
  · have hbig : 2 ^ 32 ≤ 8 + m.body.length := by
      by_contra hlt
      exact hmem ⟨hroom, fun _ => by omega, fun h => absurd (hconfig.symm.trans h) (by decide)⟩
    rw [if_pos hconfig, videoConfig, ← m.size, if_pos (by omega)]
  by_cases hframe : m.opcode = 0
  · have hbig : e.screenKey.isSome ∧ 2 ^ 31 + 16 ≤ m.body.length := by
      by_contra hno
      refine hmem ⟨hroom, fun h => absurd h hconfig, fun _ hk => ?_⟩
      by_contra hlt
      exact hno ⟨hk, by omega⟩
    obtain ⟨key, hkey⟩ := Option.isSome_iff_exists.mp hbig.1
    rw [if_neg hconfig, if_pos hframe, ← m.size, hkey, videoFrame]
    simp only
    rw [if_neg (by omega), if_pos (by omega)]
  · exact absurd ⟨hroom, fun h => absurd h hconfig, fun h => absurd h hframe⟩ hmem

/-- The header of the next message, and the buffer for its body. -/
theorem screenRound_header (A : AeadStream) (e : ScreenEnv) (st : ScreenState) {sock : Sock} {rest : Bytes}
    (hsock : sock.arriving = m.header.val ++ rest) :
    ∃ s₁, s₁.arriving = rest ∧ screenRound A e st sock =
      if m.allocAfter st.body.length < m.body.length then .undefined
      else
        match tcpReadExact s₁ m.body.length with
        | (none, _) => .closed
        | (some read, s₂) =>
            match screenDispatch A e m.header.val
                { st with body := read ++ (growBody e.fresh st.body m.body.length).drop m.body.length } with
            | none => .undefined
            | some (sent, st') => .message ⟨m.opcode, st.chachaNonce, sent⟩ st' s₂ := by
  obtain ⟨s₁, hread, hs₁⟩ := readExact_ok hsock m.header.property
  refine ⟨s₁, hs₁, ?_⟩
  have htcp : tcpReadExact sock 128 = (some m.header.val, s₁) := hread
  rw [screenRound, htcp]
  simp only [← m.size, growBody_length]
  rfl

/-- **A whole message**: the round does what it calls for, and the next one begins behind it. -/
theorem screenRound_message {sock : Sock} {rest : Bytes} (hsock : sock.arriving = m.wire ++ rest)
    (hmem : m.InMemory e.screenKey.isSome st.body.length) :
    ∃ st' sock', screenRound A e st sock
        = .message ⟨m.opcode, st.chachaNonce, m.handled A e.screenKey st.chachaNonce⟩ st' sock' ∧
      sock'.arriving = rest ∧ st'.body.length = m.allocAfter st.body.length ∧
      st'.chachaNonce = m.nonceAfter st.chachaNonce := by
  rw [ScreenMsg.wire, List.append_assoc] at hsock
  obtain ⟨s₁, hs₁, hround⟩ := screenRound_header A e st hsock
  obtain ⟨s₂, hread, hs₂⟩ := readExact_ok hs₁ rfl
  have htcp : tcpReadExact s₁ m.body.length = (some m.body, s₂) := hread
  let slack := (growBody e.fresh st.body m.body.length).drop m.body.length
  let buffered : ScreenState := { st with body := m.body ++ slack }
  have hfront : buffered.body = m.body ++ slack := rfl
  obtain ⟨body, hdispatch, hlen⟩ := screenDispatch_eq A hfront hmem
  have hbuf : (m.body ++ slack).length = m.allocAfter st.body.length := by
    rw [List.length_append, List.length_drop, growBody_length]
    have hroom := hmem.1
    omega
  refine ⟨⟨body, m.nonceAfter st.chachaNonce⟩, s₂, ?_, hs₂, hlen.trans hbuf, rfl⟩
  rw [hround, if_neg (Nat.not_lt.mpr hmem.1), htcp]
  simp only
  rw [hdispatch]

/-- **A message that leaves memory.** -/
theorem screenRound_undefined {sock : Sock} {rest : Bytes} (hsock : sock.arriving = m.wire ++ rest)
    (hmem : ¬ m.InMemory e.screenKey.isSome st.body.length) : screenRound A e st sock = .undefined := by
  rw [ScreenMsg.wire, List.append_assoc] at hsock
  obtain ⟨s₁, hs₁, hround⟩ := screenRound_header A e st hsock
  rw [hround]
  by_cases hroom : m.allocAfter st.body.length < m.body.length
  · rw [if_pos hroom]
  obtain ⟨s₂, hread, _⟩ := readExact_ok hs₁ rfl
  have htcp : tcpReadExact s₁ m.body.length = (some m.body, s₂) := hread
  rw [if_neg hroom, htcp]
  simp only
  rw [screenDispatch_undefined _ (Nat.not_lt.mp hroom) hmem]

/-- **The end of the stream within a message.** -/
theorem screenRound_closed {sock : Sock} (hsock : sock.arriving.length < m.wire.length)
    (hpre : sock.arriving <+: m.wire) (hroom : m.body.length ≤ m.allocAfter st.body.length) :
    screenRound A e st sock = .closed := by
  have hhdr : m.header.val.length = 128 := m.header.property
  by_cases hshort : sock.arriving.length < 128
  · have hnone : (tcpReadExact sock 128).1 = none := readExact_short hshort
    rcases htcp : tcpReadExact sock 128 with ⟨header, s₁⟩
    rw [htcp] at hnone
    subst hnone
    rw [screenRound, htcp]
  · have hfront : m.header.val <+: sock.arriving :=
      List.prefix_of_prefix_length_le (List.prefix_append _ _) hpre (by omega)
    obtain ⟨rest, hrest⟩ := hfront
    obtain ⟨s₁, hs₁, hround⟩ := screenRound_header A e st hrest.symm
    rw [ScreenMsg.wire, ← hrest, List.length_append, List.length_append] at hsock
    have hnone : (tcpReadExact s₁ m.body.length).1 = none := readExact_short (by
      rw [hs₁]
      omega)
    rcases htcp : tcpReadExact s₁ m.body.length with ⟨read, s₂⟩
    rw [htcp] at hnone
    subst hnone
    rw [hround, if_neg (Nat.not_lt.mpr hroom), htcp]

end Round

/-! ## A phone -/

/-- A digest of key, nonce, associated data and text. -/
def toyTag (key : Block 32) (nonce : Block 12) (aad text : Bytes) : Block 16 :=
  toyDigest 16 (key.val ++ nonce.val ++ aad ++ text)

/-- No encryption, and this tag. -/
def AeadStream.toy : AeadStream where
  update _ _ ct := ct
  final k n aad ct tag := tag = toyTag k n aad ct
  update_length _ _ _ := rfl

theorem AeadStream.toy_open (key : Block 32) (nonce : Block 12) (aad text : Bytes) :
    AeadStream.toy.open key nonce aad text (toyTag key nonce aad text) = some text := by
  have hfinal : AeadStream.toy.final key nonce aad text (toyTag key nonce aad text) = true := by
    simp [AeadStream.toy]
  unfold AeadStream.open
  exact if_pos hfinal

/-- A header with an opcode, and zeros behind it. -/
def plainHeader (bodySize : Nat) (opcode : UInt8) : Block 128 :=
  ⟨toLE 4 bodySize ++ opcode :: List.replicate 123 0, by simp⟩

theorem plainHeader_size {n : Nat} (h : n < 2 ^ 32) (opcode : UInt8) :
    headerBodySize (plainHeader n opcode).val = n := by
  have hfour : (toLE 4 n).length = 4 := toLE_length 4 n
  show ofLE ((toLE 4 n ++ opcode :: List.replicate 123 0).take 4) = n
  rw [List.take_left' hfour, ofLE_toLE]
  exact Nat.mod_eq_of_lt h

/-- The message with a body. -/
def plainMsg (opcode : UInt8) (body : Bytes) (h : body.length < 2 ^ 32) : ScreenMsg :=
  ⟨plainHeader body.length opcode, body, (plainHeader_size h opcode).symm⟩

/-- A frame that is sealed under a counter. -/
def sealedMsg (key : Block 32) (nonce : UInt64) (text : Bytes) (h : text.length + 16 < 2 ^ 32) : ScreenMsg :=
  let header := plainHeader (text.length + 16) 0
  let tag := toyTag key (counterNonce nonce) header.val text
  ⟨header, text ++ tag.val, by rw [plainHeader_size h, List.length_append, tag.property]⟩

theorem sealedMsg_length (key : Block 32) (nonce : UInt64) (text : Bytes) (h : text.length + 16 < 2 ^ 32) :
    (sealedMsg key nonce text h).body.length = text.length + 16 := by
  let tag := toyTag key (counterNonce nonce) (plainHeader (text.length + 16) 0).val text
  show (text ++ tag.val).length = text.length + 16
  rw [List.length_append, tag.property]

theorem sealedMsg_plaintext (key : Block 32) (nonce : UInt64) (text : Bytes) (h : text.length + 16 < 2 ^ 32) :
    (sealedMsg key nonce text h).plaintext AeadStream.toy (some key) nonce = some text := by
  let header := plainHeader (text.length + 16) 0
  have hsplit : splitTag (sealedMsg key nonce text h).body
      = some (text, toyTag key (counterNonce nonce) header.val text) := splitTag_append _ _
  rw [ScreenMsg.plaintext, Option.bind_some, hsplit, Option.bind_some]
  exact AeadStream.toy_open _ _ _ _

/-! ## The whole stream -/

section Stream

variable {A : AeadStream} {env : Nat → ScreenEnv}

/-- What the loop does with the messages from the `i`-th on. -/
def handledAll (A : AeadStream) (env : Nat → ScreenEnv) : Nat → UInt64 → List ScreenMsg → List ScreenLog
  | _, _, [] => []
  | i, nonce, m :: msgs =>
      ⟨m.opcode, nonce, m.handled A (env i).screenKey nonce⟩ :: handledAll A env (i + 1) (m.nonceAfter nonce) msgs

/-- All messages from the `i`-th on stay within memory. -/
def AllInMemory (env : Nat → ScreenEnv) : Nat → Nat → List ScreenMsg → Prop
  | _, _, [] => True
  | i, alloc, m :: msgs =>
      m.InMemory (env i).screenKey.isSome alloc ∧ AllInMemory env (i + 1) (m.allocAfter alloc) msgs

/-- The buffer behind all messages. -/
def allocAfterAll : Nat → List ScreenMsg → Nat
  | alloc, [] => alloc
  | alloc, m :: msgs => allocAfterAll (m.allocAfter alloc) msgs

/-- The stream ends between two messages, or within one for which there would be room. -/
def Ends (alloc : Nat) (tail : Bytes) : Prop :=
  ∃ m : ScreenMsg, tail <+: m.wire ∧ tail.length < m.wire.length ∧ m.body.length ≤ m.allocAfter alloc

/-- **The loop does to every message what it calls for.** -/
theorem screenLoop_messages {msgs : List ScreenMsg} {tail : Bytes} {i : Nat} {st : ScreenState} {sock : Sock}
    (hsock : sock.arriving = msgs.flatMap ScreenMsg.wire ++ tail) (hmem : AllInMemory env i st.body.length msgs)
    (htail : Ends (allocAfterAll st.body.length msgs) tail) :
    screenLoop A env i st sock = some (handledAll A env i st.chachaNonce msgs) := by
  induction msgs generalizing i st sock with
  | nil =>
      obtain ⟨m, hpre, hlen, hroom⟩ := htail
      rw [List.flatMap_nil, List.nil_append] at hsock
      rw [← hsock] at hpre hlen
      rw [screenLoop]
      split
      · rename_i h
        rw [screenRound_closed hlen hpre hroom] at h
        cases h
      · rfl
      · rename_i h
        rw [screenRound_closed hlen hpre hroom] at h
        cases h
  | cons m msgs ih =>
      rw [List.flatMap_cons, List.append_assoc] at hsock
      obtain ⟨st', sock', hround, hsock', hbody, hnonce⟩ := screenRound_message (A := A) hsock hmem.1
      have hrest := ih (i := i + 1) hsock' (hbody ▸ hmem.2) (hbody ▸ htail)
      rw [screenLoop]
      split
      · rename_i h
        rw [hround] at h
        cases h
      · rename_i h
        rw [hround] at h
        cases h
      · rename_i log st₂ sock₂ h
        rw [hround, ScreenRound.message.injEq] at h
        obtain ⟨rfl, rfl, rfl⟩ := h
        rw [hrest, hnonce]
        rfl

/-- A message that leaves memory makes the whole run undefined. -/
theorem screenLoop_undefined {msgs : List ScreenMsg} {tail : Bytes} {i : Nat} {st : ScreenState} {sock : Sock}
    (hsock : sock.arriving = msgs.flatMap ScreenMsg.wire ++ tail)
    (hmem : ¬ AllInMemory env i st.body.length msgs) : screenLoop A env i st sock = none := by
  induction msgs generalizing i st sock with
  | nil => exact absurd trivial hmem
  | cons m msgs ih =>
      rw [List.flatMap_cons, List.append_assoc] at hsock
      by_cases hm : m.InMemory (env i).screenKey.isSome st.body.length
      · obtain ⟨st', sock', hround, hsock', hbody, _⟩ := screenRound_message (A := A) hsock hm
        have hrest := ih (i := i + 1) hsock' (fun h => hmem ⟨hm, hbody ▸ h⟩)
        rw [screenLoop]
        split
        · rfl
        · rename_i h
          rw [hround] at h
          cases h
        · rename_i log st₂ sock₂ h
          rw [hround, ScreenRound.message.injEq] at h
          obtain ⟨rfl, rfl, rfl⟩ := h
          rw [hrest]
          rfl
      · rw [screenLoop]
        split
        · rfl
        · rename_i h
          rw [screenRound_undefined hsock hm] at h
          cases h
        · rename_i h
          rw [screenRound_undefined hsock hm] at h
          cases h

/-! ## Nonces and payloads

The counter is moved by the video frames and by nothing else. So the nonce of a frame is the number of frames in front
of it, and the payloads come out in order because the messages do. -/

/-- The video frames among the messages. -/
def frames (msgs : List ScreenMsg) : List ScreenMsg := msgs.filter (·.opcode = 0)

/-- The video frame a message made of a call of `app_send_msg`. -/
def ScreenLog.video (log : ScreenLog) : Option Bytes :=
  match log.sent with
  | some (type, payload) => if type = msgVideoFrame then some payload else none
  | none => none

theorem handledAll_opcode (i : Nat) (nonce : UInt64) (msgs : List ScreenMsg) :
    (handledAll A env i nonce msgs).map (·.opcode) = msgs.map (·.opcode) := by
  induction msgs generalizing i nonce with
  | nil => rfl
  | cons m msgs ih => rw [handledAll, List.map_cons, List.map_cons, ih]

theorem ofNat_succ_uint64 (k : Nat) : UInt64.ofNat k + 1 = UInt64.ofNat (k + 1) := (UInt64.ofNat_add k 1).symm

/-- **The frames are numbered**: only a video frame moves the counter, and each one does. -/
theorem handledAll_nonces (i k : Nat) (msgs : List ScreenMsg) :
    ((handledAll A env i (UInt64.ofNat k) msgs).filter (·.opcode = 0)).map (·.nonce)
      = (List.range' k (frames msgs).length).map UInt64.ofNat := by
  induction msgs generalizing i k with
  | nil => rfl
  | cons m msgs ih =>
      rw [handledAll, frames, ScreenMsg.nonceAfter]
      by_cases hframe : m.opcode = 0
      · rw [if_pos hframe, ofNat_succ_uint64, List.filter_cons_of_pos (by simpa using hframe),
          List.filter_cons_of_pos (by simpa using hframe), List.map_cons, ih, List.length_cons,
          List.range'_succ, List.map_cons]
        rfl
      · rw [if_neg hframe, List.filter_cons_of_neg (by simpa using hframe),
          List.filter_cons_of_neg (by simpa using hframe), ih]
        rfl

/-- A frame is sent as its plaintext, or not at all. -/
theorem handledAll_sent {key : Option (Block 32)} (hkey : ∀ i, (env i).screenKey = key) (i k : Nat)
    (msgs : List ScreenMsg) :
    ((handledAll A env i (UInt64.ofNat k) msgs).filter (·.opcode = 0)).map (·.sent)
      = ((frames msgs).zipIdx k).map fun (m, j) => (m.plaintext A key (UInt64.ofNat j)).map (msgVideoFrame, ·) := by
  induction msgs generalizing i k with
  | nil => rfl
  | cons m msgs ih =>
      rw [handledAll, frames, ScreenMsg.nonceAfter, hkey]
      by_cases hframe : m.opcode = 0
      · have hsent : m.handled A key (UInt64.ofNat k)
            = (m.plaintext A key (UInt64.ofNat k)).map (msgVideoFrame, ·) := by
          rw [ScreenMsg.handled, if_neg (by rw [hframe]; decide), if_pos hframe]
        rw [if_pos hframe, ofNat_succ_uint64, List.filter_cons_of_pos (by simpa using hframe),
          List.filter_cons_of_pos (by simpa using hframe), List.zipIdx_cons, List.map_cons, List.map_cons,
          ih, hsent]
        rfl
      · rw [if_neg hframe, List.filter_cons_of_neg (by simpa using hframe),
          List.filter_cons_of_neg (by simpa using hframe), ih]
        rfl

/-- **What is sent as video are the plaintexts**, one for every frame whose tag is right. -/
theorem handledAll_video {key : Option (Block 32)} (hkey : ∀ i, (env i).screenKey = key) (i k : Nat)
    (msgs : List ScreenMsg) :
    (handledAll A env i (UInt64.ofNat k) msgs).filterMap ScreenLog.video
      = ((frames msgs).zipIdx k).filterMap fun (m, j) => m.plaintext A key (UInt64.ofNat j) := by
  induction msgs generalizing i k with
  | nil => rfl
  | cons m msgs ih =>
      rw [handledAll, frames, ScreenMsg.nonceAfter, hkey]
      by_cases hframe : m.opcode = 0
      · have hvideo : ScreenLog.video ⟨m.opcode, UInt64.ofNat k, m.handled A key (UInt64.ofNat k)⟩
            = m.plaintext A key (UInt64.ofNat k) := by
          rw [ScreenLog.video, ScreenMsg.handled, if_neg (by rw [hframe]; decide), if_pos hframe]
          cases m.plaintext A key (UInt64.ofNat k) with
          | none => rfl
          | some pt => rfl
        rw [if_pos hframe, ofNat_succ_uint64, List.filter_cons_of_pos (by simpa using hframe), List.zipIdx_cons,
          List.filterMap_cons, List.filterMap_cons, hvideo, ih]
        rfl
      · have hvideo : ScreenLog.video ⟨m.opcode, UInt64.ofNat k, m.handled A key (UInt64.ofNat k)⟩ = none := by
          rw [ScreenLog.video, ScreenMsg.handled, if_neg hframe]
          by_cases hconfig : m.opcode = 1
          · rw [if_pos hconfig]
            rfl
          · rw [if_neg hconfig]
        rw [if_neg hframe, List.filter_cons_of_neg (by simpa using hframe), List.filterMap_cons, hvideo, ih]
        rfl

/-! ## Bodies of less than 2 GiB -/

/-- The bound under which no length wraps. -/
def ScreenMsg.Small (m : ScreenMsg) : Prop := m.body.length < 2 ^ 31 - 4096

theorem ScreenMsg.Small.room {m : ScreenMsg} (h : m.Small) (alloc : Nat) :
    m.body.length ≤ m.allocAfter alloc := by
  unfold ScreenMsg.Small at h
  unfold ScreenMsg.allocAfter
  split
  · rw [Nat.mod_eq_of_lt (by omega)]
    omega
  · omega

theorem ScreenMsg.Small.inMemory {m : ScreenMsg} (h : m.Small) (keyed : Bool) (alloc : Nat) :
    m.InMemory keyed alloc := by
  have hroom := h.room alloc
  unfold ScreenMsg.Small at h
  exact ⟨hroom, fun _ => by omega, fun _ _ => by omega⟩

theorem allInMemory_of_small {msgs : List ScreenMsg} (h : ∀ m ∈ msgs, m.Small) (i alloc : Nat) :
    AllInMemory env i alloc msgs := by
  induction msgs generalizing i alloc with
  | nil => trivial
  | cons m msgs ih =>
      exact ⟨(h m (List.mem_cons_self ..)).inMemory _ _, ih (fun m' hm => h m' (List.mem_cons_of_mem _ hm)) _ _⟩

/-- **The video stream**: whatever comes between them and however the stream is cut, the frames are opened under the
    counters 0, 1, 2, ..., and the app is handed the plaintexts of those whose tags are right, in order. -/
theorem video_stream {key : Option (Block 32)} {msgs : List ScreenMsg} {last : ScreenMsg} {tail : Bytes}
    {sock : Sock}
    (hkey : ∀ i, (env i).screenKey = key) (hsmall : ∀ m ∈ msgs, m.Small)
    (hsock : sock.arriving = msgs.flatMap ScreenMsg.wire ++ tail)
    (htail : tail <+: last.wire) (hcut : tail.length < last.wire.length) (hlast : last.Small) :
    ∃ log, screenThread A env sock = some log ∧ log.map (·.opcode) = msgs.map (·.opcode) ∧
      (log.filter (·.opcode = 0)).map (·.nonce) = (List.range (frames msgs).length).map UInt64.ofNat ∧
      (log.filter (·.opcode = 0)).map (·.sent) = (frames msgs).zipIdx.map (fun (m, i) =>
        (m.plaintext A key (UInt64.ofNat i)).map (msgVideoFrame, ·)) ∧
      log.filterMap ScreenLog.video
        = (frames msgs).zipIdx.filterMap fun (m, i) => m.plaintext A key (UInt64.ofNat i) := by
  refine ⟨handledAll A env 0 (UInt64.ofNat 0) msgs,
    screenLoop_messages hsock (allInMemory_of_small hsmall _ _) ⟨last, htail, hcut, hlast.room _⟩,
    handledAll_opcode _ _ _, ?_, handledAll_sent hkey 0 0 msgs, handledAll_video hkey 0 0 msgs⟩
  rw [handledAll_nonces, List.range_eq_range']

end Stream

/-- A keep-alive, a body without a tag, and the second frame. -/
def shortStream : List ScreenMsg :=
  [plainMsg 2 [5] (by decide), plainMsg 0 [1] (by decide),
    sealedMsg (Block.zero 32) (UInt64.ofNat 1) [7] (by decide)]

theorem video_stream_short :
    ∃ log, screenThread AeadStream.toy (fun _ => ⟨some (Block.zero 32), fun _ => 0⟩)
        (Sock.push (shortStream.flatMap ScreenMsg.wire) []) = some log ∧
      (log.filter (·.opcode = 0)).map (·.nonce) = [0, 1] ∧ log.filterMap ScreenLog.video = [[7]] := by
  have hsmall : ∀ m ∈ shortStream, m.Small := by
    intro m hm
    rw [shortStream, List.mem_cons, List.mem_cons, List.mem_singleton] at hm
    rcases hm with rfl | rfl | rfl <;> (show _ < _; decide)
  have hsock : (Sock.push (shortStream.flatMap ScreenMsg.wire) []).arriving
      = shortStream.flatMap ScreenMsg.wire ++ [] := Sock.arriving_push _ _
  have hlast : (plainMsg 2 [] (by decide)).Small := by
    show _ < _
    decide
  obtain ⟨log, hlog, _, hnonces, _, hvideo⟩ :=
    video_stream (fun _ => rfl) hsmall hsock (List.nil_prefix) (by simp [ScreenMsg.wire, plainMsg, plainHeader])
      hlast
  refine ⟨log, hlog, hnonces, ?_⟩
  have hfirst :
      (plainMsg 0 [1] (by decide)).plaintext AeadStream.toy (some (Block.zero 32)) (UInt64.ofNat 0) = none := rfl
  have hsecond := sealedMsg_plaintext (Block.zero 32) (UInt64.ofNat 1) [7] (by decide)
  rw [hvideo]
  show [_, _].filterMap _ = _
  simp only [List.filterMap_cons, List.filterMap_nil, Nat.zero_add, hfirst, hsecond]

end Showcase
