import Showcase.Lib.History
import Showcase.Services.EncTransport

/-!
# `Services.AntiReplay` — what an adversary's stream can make `enc_recv_frame` accept

The peer seals its frames under the nonces 0, 1, 2, ... of one key. An ideal AEAD (`IdealAead`) opens nothing but
these, each under its own nonce and its own length header. Whatever bytes, timeouts and failures each call meets:

* `anti_replay` — the plaintexts returned are a prefix of the peer's messages in order, and a call that does not
  find the peer's next frame at the front of its stream leaves the context alone.
-/

namespace Showcase

open Lib

/-! ## The ideal cipher -/

/-- A frame the peer sealed. -/
structure PeerFrame where
  pt : Bytes
  ct : Bytes
  tag : Block 16
  /-- The length of the plaintext is the length on the wire. -/
  len : ct.length = pt.length

/-- The frame on the wire. -/
def PeerFrame.wire (f : PeerFrame) : Bytes := lenHeader f.pt.length ++ f.ct ++ f.tag.val

/-- Under `key`, only the peer's frames open: the frame number `i` under the nonce `i` and its own header. -/
def IdealAead (aead : AeadOpen) (key : Block 32) (peer : List PeerFrame) : Prop :=
  ∀ nonce aad ct tag pt, aead key nonce aad ct tag = some pt →
    ∃ (i : Nat) (f : PeerFrame), peer[i]? = some f ∧ nonce = counterNonce (UInt64.ofNat i) ∧
      aad = lenHeader f.pt.length ∧ ct = f.ct ∧ tag = f.tag ∧ pt = f.pt

/-! ## Runs of calls -/

/-- What one call is given: a socket, a buffer size, the outcomes of its other calls. -/
structure RecvInput where
  sock : Sock
  outBufSize : Nat
  env : RecvEnv

/-- One call as a step of the context. -/
def recvStep (aead : AeadOpen) (enc : EncryptedCtx) (i : RecvInput) (enc' : EncryptedCtx) : Prop :=
  enc' = (encRecvFrame aead enc i.sock i.outBufSize i.env).2.1

/-- What the call of a step returned. -/
def recvResult (aead : AeadOpen) (x : Step EncryptedCtx RecvInput) : RecvResult :=
  (encRecvFrame aead x.pre x.input.sock x.input.outBufSize x.input.env).1

/-- The plaintexts the calls of a run return. -/
def received (aead : AeadOpen) (h : List (Step EncryptedCtx RecvInput)) : List Bytes :=
  h.filterMap (fun x => (match recvResult aead x with | .plaintext b => some b | _ => none))

/-- The peer's next frame is at the front of the call's stream. -/
def NextFrame (peer : List PeerFrame) (x : Step EncryptedCtx RecvInput) : Prop :=
  ∃ f, peer[x.pre.readNonce.toNat]? = some f ∧ f.wire <+: x.input.sock.stream

/-- The call returns the peer's next message and counts it. -/
def AcceptsNext (aead : AeadOpen) (peer : List PeerFrame) (x : Step EncryptedCtx RecvInput) : Prop :=
  ∃ f, recvResult aead x = .plaintext f.pt ∧ peer[x.pre.readNonce.toNat]? = some f ∧
    f.wire <+: x.input.sock.stream ∧ x.post = { x.pre with readNonce := x.pre.readNonce + 1 }

/-- The call returns -1, or -2 if a `recv` timed out, and leaves the context alone. -/
def Rejects (aead : AeadOpen) (x : Step EncryptedCtx RecvInput) : Prop :=
  x.post = x.pre ∧ (recvResult aead x = .error ∨
    (recvResult aead x = .idle ∧ RecvEvent.again ∈ x.input.sock))

/-- **Anti-replay** over a run. -/
structure AntiReplay (aead : AeadOpen) (peer : List PeerFrame) (h : List (Step EncryptedCtx RecvInput)) :
    Prop where
  /-- What is returned is a prefix of what the peer sent. -/
  inOrder : received aead h <+: peer.map (·.pt)
  /-- A plaintext comes from the peer's next frame, and the counter moves on by one. -/
  accepted : ∀ x ∈ h, ∀ b, recvResult aead x = .plaintext b →
    NextFrame peer x ∧ x.post = { x.pre with readNonce := x.pre.readNonce + 1 }
  /-- Where another byte string is in its place (a frame replayed, reordered, dropped, truncated or altered), the
      call is rejected. -/
  rejected : ∀ x ∈ h, ¬ NextFrame peer x → Rejects aead x

/-! ## One call -/

variable {aead : AeadOpen} {key : Block 32} {peer : List PeerFrame}

/-- **One call against the ideal cipher**: it returns the peer's next message, or leaves the context alone. -/
theorem recvStep_ideal (hideal : IdealAead aead key peer) (hlen : peer.length < 2 ^ 64)
    {x : Step EncryptedCtx RecvInput} (hkey : x.pre.readKey = key) (hs : recvStep aead x.pre x.input x.post) :
    AcceptsNext aead peer x ∨ Rejects aead x := by
  obtain ⟨pre, ⟨sock, outBufSize, env⟩, post⟩ := x
  simp only [recvStep] at hs hkey
  simp only [AcceptsNext, Rejects, recvResult]
  rcases hcall : encRecvFrame aead pre sock outBufSize env with ⟨r, enc', sock'⟩
  rw [hcall] at hs
  subst hs
  rcases encRecvFrame_cases hcall with ⟨pt, ct, tag, hr, henc, hstream, _, hopen, _⟩ |
    ⟨hr, henc, hmem, _⟩ | ⟨hr, henc⟩
  · rw [hkey] at hopen
    obtain ⟨i, f, hf, hnonce, haad, rfl, rfl, rfl⟩ := hideal _ _ _ _ _ hopen
    -- the counter of the call is the number of the frame
    have hi : i < peer.length := (List.getElem?_eq_some_iff.mp hf).1
    have hcount : pre.readNonce.toNat = i := by
      rw [counterNonce_inj hnonce, UInt64.toNat_ofNat']
      exact Nat.mod_eq_of_lt (Nat.lt_trans hi hlen)
    refine .inl ⟨f, hr, by rw [hcount]; exact hf, ?_, henc⟩
    rw [hstream, PeerFrame.wire, f.len]
    exact List.prefix_append _ _
  · exact .inr ⟨henc, .inr ⟨hr, hmem⟩⟩
  · exact .inr ⟨henc, .inl hr⟩

/-! ## A whole run

A call accepts the peer's next message, or nothing. So the accepted messages are a prefix of what the peer has sent,
and the counter says how many they are. -/

/-- What a run has returned so far is counted by `readNonce`. -/
structure RecvInv (aead : AeadOpen) (key : Block 32) (peer : List PeerFrame)
    (h : List (Step EncryptedCtx RecvInput)) (enc : EncryptedCtx) : Prop where
  readKey : enc.readKey = key
  count : enc.readNonce.toNat ≤ peer.length
  inOrder : received aead h = (peer.map (·.pt)).take enc.readNonce.toNat

theorem received_snoc (aead : AeadOpen) (h : List (Step EncryptedCtx RecvInput))
    (x : Step EncryptedCtx RecvInput) :
    received aead (h ++ [x]) = received aead h ++
      (match recvResult aead x with | .plaintext b => some b | _ => none).toList := by
  rw [received, received, List.filterMap_append]
  cases hr : recvResult aead x with
  | plaintext b => simp [hr]
  | idle => simp [hr]
  | error => simp [hr]

/-- A call keeps the invariant. -/
theorem RecvInv.step (hideal : IdealAead aead key peer) (hlen : peer.length < 2 ^ 64)
    {h : List (Step EncryptedCtx RecvInput)} {x : Step EncryptedCtx RecvInput}
    (hinv : RecvInv aead key peer h x.pre) (hs : recvStep aead x.pre x.input x.post) :
    RecvInv aead key peer (h ++ [x]) x.post := by
  rcases recvStep_ideal hideal hlen hinv.readKey hs with ⟨f, hr, hf, _, hpost⟩ | ⟨hpost, hr⟩
  · have hi : x.pre.readNonce.toNat < peer.length := (List.getElem?_eq_some_iff.mp hf).1
    have hnext : (x.pre.readNonce + 1).toNat = x.pre.readNonce.toNat + 1 := by
      rw [UInt64.toNat_add]
      exact Nat.mod_eq_of_lt (Nat.lt_of_le_of_lt hi hlen)
    refine ⟨by rw [hpost]; exact hinv.readKey, by rw [hpost, hnext]; exact hi, ?_⟩
    have hpt : (peer.map (·.pt))[x.pre.readNonce.toNat]? = some f.pt := by
      rw [List.getElem?_map, hf]
      rfl
    rw [received_snoc, hr, hinv.inOrder, hpost, hnext, List.take_add_one, hpt]
  · refine ⟨hpost ▸ hinv.readKey, hpost ▸ hinv.count, ?_⟩
    have hnone : received aead (h ++ [x]) = received aead h := by
      rw [received_snoc]
      rcases hr with hr | ⟨hr, _⟩
      · simp [hr]
      · simp [hr]
    rw [hnone, hpost, hinv.inOrder]

/-- Every state of a run meets the invariant. -/
theorem recvInv_run (hideal : IdealAead aead key peer) (hlen : peer.length < 2 ^ 64)
    {enc₀ enc : EncryptedCtx} {h : List (Step EncryptedCtx RecvInput)} (hkey : enc₀.readKey = key)
    (h0 : enc₀.readNonce = 0) (hr : Run (recvStep aead) enc₀ h enc) : RecvInv aead key peer h enc := by
  induction hr with
  | nil => exact ⟨hkey, by simp [h0], by simp [h0, received]⟩
  | snoc _ hs ih => exact RecvInv.step hideal hlen ih hs

/-- **No stream makes the receiver accept anything but the peer's messages in order.** -/
theorem anti_replay (hideal : IdealAead aead key peer) (hlen : peer.length < 2 ^ 64)
    {enc₀ enc : EncryptedCtx} {h : List (Step EncryptedCtx RecvInput)} (hkey : enc₀.readKey = key)
    (h0 : enc₀.readNonce = 0) (hr : Run (recvStep aead) enc₀ h enc) : AntiReplay aead peer h := by
  have hcases : ∀ x ∈ h, AcceptsNext aead peer x ∨ Rejects aead x := by
    intro x hx
    obtain ⟨pre, post, hh⟩ := List.append_of_mem hx
    obtain ⟨hpre, hs⟩ := hr.split hh
    exact recvStep_ideal hideal hlen (recvInv_run hideal hlen hkey h0 hpre).readKey hs
  refine ⟨?_, ?_, ?_⟩
  · rw [(recvInv_run hideal hlen hkey h0 hr).inOrder]
    exact List.take_prefix _ _
  · intro x hx b hb
    rcases hcases x hx with ⟨f, _, hf, hwire, hpost⟩ | ⟨_, hr | ⟨hr, _⟩⟩
    · exact ⟨⟨f, hf, hwire⟩, hpost⟩
    · exact absurd (hb.symm.trans hr) (by simp)
    · exact absurd (hb.symm.trans hr) (by simp)
  · intro x hx hno
    rcases hcases x hx with ⟨f, _, hf, hwire, _⟩ | hrej
    · exact absurd ⟨f, hf, hwire⟩ hno
    · exact hrej

/-! ## A frame and its replay -/

/-- The peer's only frame: the byte 65 under the nonce 0 of the all-zero key. -/
def onlyFrame : PeerFrame where
  pt := [65]
  ct := [65]
  tag := (OpenSSL.toy.chachaSeal (Block.zero 32) (counterNonce 0) (lenHeader 1) [65]).2
  len := rfl

/-- The cipher that opens this frame and nothing else. -/
def onlyFrameAead : AeadOpen := fun key nonce aad ct tag =>
  if key = Block.zero 32 ∧ nonce = counterNonce 0 ∧ aad = lenHeader 1 ∧ ct = [65] ∧ tag = onlyFrame.tag then
    some [65]
  else none

theorem onlyFrameAead_ideal : IdealAead onlyFrameAead (Block.zero 32) [onlyFrame] := by
  intro nonce aad ct tag pt h
  unfold onlyFrameAead at h
  split at h
  · rename_i hmatch
    obtain ⟨_, hnonce, haad, hct, htag⟩ := hmatch
    exact ⟨0, onlyFrame, rfl, hnonce, haad, hct, htag, (Option.some.inj h).symm⟩
  · exact absurd h (by simp)

/-- The frame as it arrives. -/
def onlyFrameSock : Sock := [.data 1 [0], .data 65 onlyFrame.tag.val]

/-- Receiving it under the counter 0. -/
theorem recv_onlyFrame (enc : EncryptedCtx) (hkey : enc.readKey = Block.zero 32) :
    encRecvFrame onlyFrameAead enc onlyFrameSock maxFrame .ok =
      if enc.readNonce = 0 then (.plaintext [65], { enc with readNonce := enc.readNonce + 1 }, [])
      else (.error, enc, []) := by
  have hhdr : recvLoop 2 onlyFrameSock [] = (.ok [1, 0], [.data 65 onlyFrame.tag.val]) := by
    rw [onlyFrameSock, recvLoop_data (show 2 = ([] : Bytes).length + (1 + 1) from rfl)]
    exact recvLoop_done (Nat.le_refl 2)
  have hbody : recvLoop 17 [.data 65 onlyFrame.tag.val] [] = (.ok ([65] ++ onlyFrame.tag.val), []) := by
    rw [recvLoop_data (show 17 = ([] : Bytes).length + (16 + 1) from rfl),
      List.take_of_length_le (Nat.le_of_eq onlyFrame.tag.property),
      List.drop_eq_nil_of_le (Nat.le_of_eq onlyFrame.tag.property)]
    exact recvLoop_done (Nat.le_of_eq (by simp [onlyFrame.tag.property]))
  have hlen : headerLen [1, 0] = 1 := rfl
  have hguard : ¬ (1 = 0 ∨ maxFrame < 1) := by simp [maxFrame]
  have hnonce : counterNonce enc.readNonce = counterNonce 0 ↔ enc.readNonce = 0 :=
    ⟨counterNonce_inj, fun h => by rw [h]⟩
  simp only [encRecvFrame, hhdr, hlen, hguard, if_false, RecvEnv.ok, Bool.true_eq_false, hbody, or_self,
    splitTag_append, Option.bind_some, onlyFrameAead, hkey, hnonce]
  by_cases h0 : enc.readNonce = 0
  · simp [h0, lenHeader]
  · simp [h0]

/-- The context in front of the `n`-th frame. -/
def onlyFrameCtx (n : UInt64) : EncryptedCtx := ⟨Block.zero 32, Block.zero 32, n, 0, true⟩

/-- The call that is given the frame. -/
def onlyFrameInput : RecvInput := ⟨onlyFrameSock, maxFrame, .ok⟩

theorem recv_onlyFrame_zero :
    encRecvFrame onlyFrameAead (onlyFrameCtx 0) onlyFrameSock maxFrame .ok =
      (.plaintext [65], onlyFrameCtx 1, []) := by
  rw [recv_onlyFrame _ rfl, if_pos (show (onlyFrameCtx 0).readNonce = 0 from rfl)]
  rfl

theorem recv_onlyFrame_one :
    encRecvFrame onlyFrameAead (onlyFrameCtx 1) onlyFrameSock maxFrame .ok = (.error, onlyFrameCtx 1, []) := by
  rw [recv_onlyFrame _ rfl, if_neg (show ¬ (onlyFrameCtx 1).readNonce = 0 by decide)]

/-- The frame is accepted once, and its replay is rejected. -/
theorem anti_replay_once :
    ∃ (x y : Step EncryptedCtx RecvInput) (enc : EncryptedCtx),
      Run (recvStep onlyFrameAead) (onlyFrameCtx 0) [x, y] enc ∧
        x.input = onlyFrameInput ∧ y.input = onlyFrameInput ∧
        received onlyFrameAead [x, y] = [[65]] ∧ AntiReplay onlyFrameAead [onlyFrame] [x, y] := by
  have hx : recvStep onlyFrameAead (onlyFrameCtx 0) onlyFrameInput (onlyFrameCtx 1) := by
    simp only [recvStep, onlyFrameInput, recv_onlyFrame_zero]
  have hy : recvStep onlyFrameAead (onlyFrameCtx 1) onlyFrameInput (onlyFrameCtx 1) := by
    simp only [recvStep, onlyFrameInput, recv_onlyFrame_one]
  have hr := Run.snoc (Run.snoc Run.nil hx) hy
  refine ⟨_, _, _, hr, rfl, rfl, ?_, anti_replay onlyFrameAead_ideal (by simp) rfl rfl hr⟩
  simp only [received, List.filterMap_cons, List.filterMap_nil, recvResult, onlyFrameInput, recv_onlyFrame_zero,
    recv_onlyFrame_one]

end Showcase
