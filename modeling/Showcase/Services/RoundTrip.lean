import Showcase.Services.Segmentation

/-!
# `Services.RoundTrip` — from `enc_send_frame` to `enc_recv_frame`

The sender takes any message of at most 16384 bytes; the receiver refuses a length of zero.

* `framing_round_trip` — non-empty messages that `enc_send_frame` accepts arrive in order, however the stream is
  cut, and after each of them `readNonce` equals the sender's `writeNonce`.
* `empty_message_refused` — an empty message is accepted and sent, and never received.
-/

namespace Showcase

open Lib

variable {P : OpenSSL}

/-- A sequence of `enc_send_frame` calls that all return 0: the bytes that went out, and the sender's context
    after each message; `none` when a call returns -1. -/
def sendFrames (P : OpenSSL) : EncryptedCtx → List (Bytes × SendEnv) → Option (Bytes × List EncryptedCtx)
  | _, [] => some ([], [])
  | enc, (data, e) :: sends =>
      match encSendFrame P.chachaSeal enc data e with
      | (false, _, _) => none
      | (true, sent, enc') =>
          (sendFrames P enc' sends).map (fun (wire, ctxs) => (sent ++ wire, enc' :: ctxs))

/-- What `n` accepted messages leave in `writeNonce`, message by message. -/
def countersFrom : UInt64 → Nat → List UInt64
  | _, 0 => []
  | nonce, n + 1 => (nonce + 1) :: countersFrom (nonce + 1) n

/-- **Accepted messages** fit, go out as sealed frames under consecutive counters, and count. -/
theorem sendFrames_accepted {enc : EncryptedCtx} {sends : List (Bytes × SendEnv)} {wire : Bytes}
    {ctxs : List EncryptedCtx} (h : sendFrames P enc sends = some (wire, ctxs)) :
    (∀ x ∈ sends, x.1.length ≤ maxFrame) ∧
      wire = sealedFrames P.chachaSeal enc.writeKey enc.writeNonce (sends.map (·.1)) ∧
      ctxs.map (·.writeNonce) = countersFrom enc.writeNonce sends.length := by
  induction sends generalizing enc wire ctxs with
  | nil =>
      obtain ⟨rfl, rfl⟩ := Prod.mk.inj (Option.some.inj h)
      simp [sealedFrames, countersFrom]
  | cons x sends ih =>
      obtain ⟨data, e⟩ := x
      rcases hsend : encSendFrame P.chachaSeal enc data e with ⟨ok, sent, enc'⟩
      rw [sendFrames, hsend] at h
      cases ok with
      | false => exact absurd h (by simp)
      | true =>
          obtain ⟨hlen, rfl, rfl⟩ := encSendFrame_accepted hsend
          obtain ⟨⟨wire', ctxs'⟩, hrest, heq⟩ := Option.map_eq_some_iff.mp h
          obtain ⟨rfl, rfl⟩ := Prod.mk.inj heq
          obtain ⟨hlens, hwire, hctxs⟩ := ih hrest
          refine ⟨?_, ?_, ?_⟩
          · intro y hy
            rcases List.mem_cons.mp hy with rfl | hy
            · exact hlen
            · exact hlens y hy
          · rw [hwire]
            rfl
          · rw [List.map_cons, hctxs]
            rfl

/-- `readNonce` after each plaintext the calls return. -/
def readCounters (calls : List RecvCall) : List UInt64 :=
  calls.filterMap (fun c => c.result.plaintext?.map (fun _ => c.post.1.readNonce))

/-- Receiving a stream of sealed frames returns the messages and counts them. -/
theorem recvFrames_messages (enc : EncryptedCtx) (sock : Sock) (msgs : List Bytes)
    (hmsgs : ∀ m ∈ msgs, Receivable m) (hfail : RecvEvent.fail ∉ sock)
    (hstream : sock.stream = sealedFrames P.chachaSeal enc.readKey enc.readNonce msgs)
    (htime : NoBoundaryTimeout sock msgs) :
    plaintexts (recvFrames P.chachaOpen enc sock) = msgs ∧
      readCounters (recvFrames P.chachaOpen enc sock) = countersFrom enc.readNonce msgs.length := by
  refine sealedStream_induction P (fun enc sock msgs => NoBoundaryTimeout sock msgs →
    plaintexts (recvFrames P.chachaOpen enc sock) = msgs ∧
      readCounters (recvFrames P.chachaOpen enc sock) = countersFrom enc.readNonce msgs.length)
    ?_ ?_ ?_ ?_ enc sock msgs hmsgs hfail hstream htime
  · intro enc _
    have hcall : encRecvFrame P.chachaOpen enc [] maxFrame .ok = (.error, enc, []) := by
      simp only [encRecvFrame, recvLoop_closed (show ([] : Bytes).length < 2 by simp)]
    rw [recvFrames_error hcall]
    exact ⟨rfl, rfl⟩
  · intro enc s msgs ih htime
    have hcall : encRecvFrame P.chachaOpen enc (.again :: s) maxFrame .ok = (.idle, enc, s) := by
      simp only [encRecvFrame, recvLoop_timeout (show 0 < 2 by omega)]
    rw [recvFrames_idle hcall]
    exact ih (noBoundaryTimeout_again.mp htime)
  · intro enc sock m ms rest _ _ hbody _ htime
    exact absurd hbody (noBoundaryTimeout_cons.mp htime).1
  · intro enc sock m ms _ hcall ih htime
    obtain ⟨hpt, hcount⟩ := ih (noBoundaryTimeout_cons.mp htime).2
    rw [recvFrames_plaintext hcall]
    refine ⟨?_, ?_⟩
    · show m :: plaintexts _ = m :: ms
      rw [hpt]
    · show (enc.readNonce + 1) :: readCounters _ = countersFrom enc.readNonce (ms.length + 1)
      rw [hcount]
      rfl

/-- **The framing round trip** of a sender and a receiver: the receiver returns the messages in order, and after
    each message `readNonce` is the sender's `writeNonce`. -/
def RoundTrip (P : OpenSSL) (renc : EncryptedCtx) (sock : Sock) (msgs : List Bytes) (ctxs : List EncryptedCtx) :
    Prop :=
  plaintexts (recvFrames P.chachaOpen renc sock) = msgs ∧
    readCounters (recvFrames P.chachaOpen renc sock) = ctxs.map (·.writeNonce)

/-- **Non-empty messages round-trip**, as long as no timeout falls between a header and its body. -/
theorem framing_round_trip {senc renc : EncryptedCtx} {sends : List (Bytes × SendEnv)} {wire : Bytes}
    {ctxs : List EncryptedCtx} {sock : Sock} (hsend : sendFrames P senc sends = some (wire, ctxs))
    (hkey : renc.readKey = senc.writeKey) (hnonce : renc.readNonce = senc.writeNonce)
    (hne : ∀ x ∈ sends, x.1 ≠ []) (hfail : RecvEvent.fail ∉ sock) (hstream : sock.stream = wire)
    (htime : NoBoundaryTimeout sock (sends.map (·.1))) :
    RoundTrip P renc sock (sends.map (·.1)) ctxs := by
  obtain ⟨hlens, hwire, hctxs⟩ := sendFrames_accepted hsend
  have hmsgs : ∀ m ∈ sends.map (·.1), Receivable m := by
    intro m hm
    obtain ⟨x, hx, rfl⟩ := List.mem_map.mp hm
    exact ⟨hne x hx, hlens x hx⟩
  have hframes : sock.stream
      = sealedFrames P.chachaSeal renc.readKey renc.readNonce (sends.map (·.1)) := by
    rw [hstream, hwire, hkey, hnonce]
  obtain ⟨hpt, hcount⟩ := recvFrames_messages renc sock _ hmsgs hfail hframes htime
  exact ⟨hpt, by rw [hcount, hctxs, hnonce, List.length_map]⟩

/-! ## Runs -/

/-- Every call succeeds and `send` takes everything at once. -/
def SendEnv.ok : SendEnv := ⟨true, true, true, true, [maxFrame + 18]⟩

/-- A `send` that takes as much as there is sends everything. -/
theorem sendLoop_once {out : Bytes} {n : Nat} (h : out.length ≤ n) : sendLoop [n] out = (out, true) := by
  cases out with
  | nil => simp [sendLoop]
  | cons b out =>
      cases n with
      | zero => exact absurd h (by simp)
      | succ n =>
          have hle : out.length ≤ n := by simpa using h
          simp [sendLoop, List.drop_eq_nil_of_le hle, List.take_of_length_le hle]

theorem encSendFrame_ok (P : OpenSSL) (enc : EncryptedCtx) {data : Bytes} (h : data.length ≤ maxFrame) :
    encSendFrame P.chachaSeal enc data .ok
      = (true, sealedFrame P.chachaSeal enc.writeKey enc.writeNonce data,
          { enc with writeNonce := enc.writeNonce + 1 }) := by
  have hlen := sealedFrame_length P enc.writeKey enc.writeNonce data
  have hloop : sendLoop SendEnv.ok.sends (sealedFrame P.chachaSeal enc.writeKey enc.writeNonce data)
      = (sealedFrame P.chachaSeal enc.writeKey enc.writeNonce data, true) := by
    apply sendLoop_once
    omega
  rw [encSendFrame, if_neg (by omega), if_neg (by simp [SendEnv.ok]), if_neg (by simp [SendEnv.ok]), hloop]

/-- A message, in one piece. -/
theorem framing_round_trip_one :
    ∃ (wire : Bytes) (ctxs : List EncryptedCtx) (sock : Sock),
      sendFrames .toy zeroCtx [([65], .ok)] = some (wire, ctxs) ∧ sock.stream = wire ∧
        RoundTrip .toy zeroCtx sock [[65]] ctxs := by
  have hsend : sendFrames .toy zeroCtx [([65], .ok)] =
      some (sealedFrame OpenSSL.toy.chachaSeal zeroCtx.writeKey zeroCtx.writeNonce [65] ++ [],
        [{ zeroCtx with writeNonce := zeroCtx.writeNonce + 1 }]) := by
    simp only [sendFrames, encSendFrame_ok .toy zeroCtx receivable_one.2, Option.map_some]
  have htime : NoBoundaryTimeout (framePieces .toy 7) [[65]] := by
    intro p hp
    rw [framePieces_agains .toy (show 7 ≤ 19 by omega), List.mem_singleton] at hp
    rw [hp]
    simp [bodyOffsets]
  exact ⟨_, _, framePieces .toy 7, hsend, framePieces_stream .toy 7,
    framing_round_trip hsend rfl rfl (by simp) (fail_not_mem_pieces _ _) (framePieces_stream .toy 7) htime⟩

/-- **An empty message is refused**: its frame is a header of zeros, and the call ends in an error. -/
theorem recv_empty_frame (enc : EncryptedCtx) {sock : Sock} {key : Block 32} {nonce : UInt64} {rest : Bytes}
    (hstream : sock.stream = sealedFrame P.chachaSeal key nonce [] ++ rest) (hstart : 0 ∉ sock.agains) :
    ∃ sock', encRecvFrame P.chachaOpen enc sock maxFrame .ok = (.error, enc, sock') := by
  have hzero : headerLen (lenHeader ([] : Bytes).length) = 0 := by decide
  refine ⟨sock.skip 2, ?_⟩
  simp only [encRecvFrame, recvLoop_header hstart hstream, hzero, true_or, if_true]

/-- Not every message that `enc_send_frame` accepts is received. -/
theorem empty_message_refused :
    ¬ ∃ P : OpenSSL, ∀ (senc renc : EncryptedCtx) (sends : List (Bytes × SendEnv)) (wire : Bytes)
      (ctxs : List EncryptedCtx) (sock : Sock), sendFrames P senc sends = some (wire, ctxs) →
        renc.readKey = senc.writeKey → renc.readNonce = senc.writeNonce → RecvEvent.fail ∉ sock →
          sock.agains = [] → sock.stream = wire → RoundTrip P renc sock (sends.map (·.1)) ctxs := by
  rintro ⟨P, hall⟩
  have hsend : sendFrames P zeroCtx [([], .ok)] =
      some (sealedFrame P.chachaSeal zeroCtx.writeKey zeroCtx.writeNonce [] ++ [],
        [{ zeroCtx with writeNonce := zeroCtx.writeNonce + 1 }]) := by
    simp only [sendFrames, encSendFrame_ok P zeroCtx (show ([] : Bytes).length ≤ maxFrame from Nat.zero_le _),
      Option.map_some]
  let wire := sealedFrame P.chachaSeal zeroCtx.writeKey zeroCtx.writeNonce [] ++ []
  have hstream : (Sock.push wire []).stream = wire := by simp [Sock.stream]
  have hagains : (Sock.push wire []).agains = [] := by simp [Sock.agains]
  have hfail : RecvEvent.fail ∉ Sock.push wire [] := by
    cases wire with
    | nil => simp [Sock.push]
    | cons b bs => simp [Sock.push]
  obtain ⟨hpt, _⟩ := hall zeroCtx zeroCtx _ _ _ _ hsend rfl rfl hfail hagains hstream
  obtain ⟨sock', hcall⟩ := recv_empty_frame zeroCtx hstream (by simp [hagains])
  rw [recvFrames_error hcall] at hpt
  exact absurd hpt (by simp [plaintexts, RecvResult.plaintext?])

end Showcase
