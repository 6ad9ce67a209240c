import Showcase.Services.EncTransport

/-!
# `Services.Segmentation` — receiving frames from a stream that arrives in pieces

The callers of `enc_recv_frame` call it again after -2 and stop at -1 (`recvFrames`). Over a stream of sealed
frames, cut into `recv` results in any way and with timeouts anywhere between them:

* `recv_independent_iff` — the calls return the plaintexts in order, and those that return -2 leave the stream
  and the context alone, if and only if no timeout falls exactly between a frame's header and its body.
* `recv_loses_header` — at such a timeout the header is gone, although -2 reports an idle channel.
-/

namespace Showcase

open Lib

/-! ## The receiving loop -/

/-- One call of `enc_recv_frame`: what it started from, what it returned, what it left. -/
structure RecvCall where
  pre : EncryptedCtx × Sock
  result : RecvResult
  post : EncryptedCtx × Sock

/-- A call that does not end in -1 uses up something of the socket. -/
theorem encRecvFrame_work {aead : AeadOpen} {enc enc' : EncryptedCtx} {sock sock' : Sock} {outBufSize : Nat}
    {e : RecvEnv} {r : RecvResult} (h : encRecvFrame aead enc sock outBufSize e = (r, enc', sock'))
    (hr : r ≠ .error) : sock'.work < sock.work := by
  rcases encRecvFrame_cases h with ⟨_, _, _, _, _, _, _, _, hwork⟩ | ⟨_, _, _, hwork⟩ | ⟨herr, _⟩
  · exact hwork
  · exact hwork
  · exact absurd herr hr

/-- The calls of `handle_client` and `event_thread_func`, with every allocation granted: again after a plaintext
    and after -2, until -1. -/
def recvFrames (aead : AeadOpen) (enc : EncryptedCtx) (sock : Sock) : List RecvCall :=
  match _hr : encRecvFrame aead enc sock maxFrame .ok with
  | (.error, enc', sock') => [⟨(enc, sock), .error, (enc', sock')⟩]
  | (.idle, enc', sock') => ⟨(enc, sock), .idle, (enc', sock')⟩ :: recvFrames aead enc' sock'
  | (.plaintext b, enc', sock') =>
      ⟨(enc, sock), .plaintext b, (enc', sock')⟩ :: recvFrames aead enc' sock'
termination_by sock.work
decreasing_by
  · exact encRecvFrame_work _hr (by simp)
  · exact encRecvFrame_work _hr (by simp)

/-- What a call returned, if it was a plaintext. -/
def RecvResult.plaintext? : RecvResult → Option Bytes
  | .plaintext b => some b
  | _ => none

/-- The plaintexts the calls return. -/
def plaintexts (calls : List RecvCall) : List Bytes := calls.filterMap (fun c => c.result.plaintext?)

variable {aead : AeadOpen} {enc enc' : EncryptedCtx} {sock sock' : Sock} {b : Bytes}

theorem recvFrames_error (h : encRecvFrame aead enc sock maxFrame .ok = (.error, enc', sock')) :
    recvFrames aead enc sock = [⟨(enc, sock), .error, (enc', sock')⟩] := by
  rw [recvFrames]
  split
  · rename_i hr
    rw [h, Prod.mk.injEq, Prod.mk.injEq] at hr
    rw [hr.2.1, hr.2.2]
  · rename_i hr
    exact absurd (congrArg Prod.fst (h.symm.trans hr)) (by simp)
  · rename_i hr
    exact absurd (congrArg Prod.fst (h.symm.trans hr)) (by simp)

theorem recvFrames_idle (h : encRecvFrame aead enc sock maxFrame .ok = (.idle, enc', sock')) :
    recvFrames aead enc sock
      = ⟨(enc, sock), .idle, (enc', sock')⟩ :: recvFrames aead enc' sock' := by
  rw [recvFrames]
  split
  · rename_i hr
    exact absurd (congrArg Prod.fst (h.symm.trans hr)) (by simp)
  · rename_i hr
    rw [h, Prod.mk.injEq, Prod.mk.injEq] at hr
    rw [hr.2.1, hr.2.2]
  · rename_i hr
    exact absurd (congrArg Prod.fst (h.symm.trans hr)) (by simp)

theorem recvFrames_plaintext (h : encRecvFrame aead enc sock maxFrame .ok = (.plaintext b, enc', sock')) :
    recvFrames aead enc sock
      = ⟨(enc, sock), .plaintext b, (enc', sock')⟩ :: recvFrames aead enc' sock' := by
  rw [recvFrames]
  split
  · rename_i hr
    exact absurd (congrArg Prod.fst (h.symm.trans hr)) (by simp)
  · rename_i hr
    exact absurd (congrArg Prod.fst (h.symm.trans hr)) (by simp)
  · rename_i hr
    rw [h, Prod.mk.injEq, Prod.mk.injEq] at hr
    rw [RecvResult.plaintext.inj hr.1, hr.2.1, hr.2.2]

/-! ## Streams of sealed frames -/

/-- A message `enc_recv_frame` takes: not empty, and it fits into its caller's buffer. -/
def Receivable (m : Bytes) : Prop := m ≠ [] ∧ m.length ≤ maxFrame

/-- The frames of the messages under consecutive counters. -/
def sealedFrames (aead : AeadSeal) (key : Block 32) : UInt64 → List Bytes → Bytes
  | _, [] => []
  | nonce, m :: ms => sealedFrame aead key nonce m ++ sealedFrames aead key (nonce + 1) ms

/-- The places between a header and its body, as numbers of bytes from the start of the stream. -/
def bodyOffsets : List Bytes → List Nat
  | [] => []
  | m :: ms => 2 :: (bodyOffsets ms).map (· + (m.length + 18))

/-- No timeout falls exactly between a header and its body. -/
def NoBoundaryTimeout (sock : Sock) (msgs : List Bytes) : Prop :=
  ∀ p ∈ sock.agains, p ∉ bodyOffsets msgs

theorem sealedFrame_length (P : OpenSSL) (key : Block 32) (nonce : UInt64) (m : Bytes) :
    (sealedFrame P.chachaSeal key nonce m).length = m.length + 18 := by
  have htag := (P.chachaSeal key (counterNonce nonce) (lenHeader m.length) m).2.property
  simp only [sealedFrame, List.length_append, lenHeader_length, OpenSSL.seal_length, htag]
  omega

/-- No such place lies in front of the first header. -/
theorem two_le_of_mem_bodyOffsets {p : Nat} {msgs : List Bytes} (h : p ∈ bodyOffsets msgs) : 2 ≤ p := by
  cases msgs with
  | nil => exact absurd h (by simp [bodyOffsets])
  | cons m ms =>
      rw [bodyOffsets, List.mem_cons, List.mem_map] at h
      rcases h with rfl | ⟨q, _, rfl⟩
      · exact Nat.le_refl 2
      · omega

/-! ## One frame -/

/-- A timeout comes next exactly when one has no bytes in front of it. -/
theorem zero_mem_agains : 0 ∈ sock.agains ↔ sock.head? = some .again := by
  cases sock with
  | nil => simp [Sock.agains]
  | cons ev s =>
      cases ev with
      | data c cs => simp [Sock.agains]
      | again => simp [Sock.agains]
      | fail => simp [Sock.agains]

/-- The header loop over a stream that begins with a sealed frame. -/
theorem recvLoop_header {P : OpenSSL} {key : Block 32} {nonce : UInt64} {m rest : Bytes}
    (hstart : 0 ∉ sock.agains) (hstream : sock.stream = sealedFrame P.chachaSeal key nonce m ++ rest) :
    recvLoop 2 sock [] = (.ok (lenHeader m.length), sock.skip 2) := by
  have hlen := sealedFrame_length P key nonce m
  have hnil : ([] : Bytes).length ≤ 2 := Nat.zero_le 2
  have hloop := recvLoop_ok (s := sock) hnil (fun _ h => hstart (zero_mem_agains.mpr h))
    (by rw [hstream, List.length_append, hlen]; simp; omega)
  rw [hloop, hstream]
  rfl

/-- **One frame is received** when no timeout falls in front of it or between its header and its body. -/
theorem encRecvFrame_frame {P : OpenSSL} {m rest : Bytes} (hm : Receivable m)
    (hstream : sock.stream = sealedFrame P.chachaSeal enc.readKey enc.readNonce m ++ rest)
    (hstart : 0 ∉ sock.agains) (hbody : 2 ∉ sock.agains) :
    encRecvFrame P.chachaOpen enc sock maxFrame .ok
      = (.plaintext m, { enc with readNonce := enc.readNonce + 1 }, (sock.skip 2).skip (m.length + 16)) := by
  have hmax : m.length ≤ 16384 := hm.2
  have hhdr : headerLen (lenHeader m.length) = m.length := headerLen_lenHeader (by omega)
  have hpos : m.length ≠ 0 := fun h => hm.1 (List.length_eq_zero_iff.mp h)
  rcases hsealed : P.chachaSeal enc.readKey (counterNonce enc.readNonce) (lenHeader m.length) m with ⟨ct, tag⟩
  have hct : ct.length = m.length := by
    rw [← P.seal_length enc.readKey (counterNonce enc.readNonce) (lenHeader m.length) m, hsealed]
  have hbytes : (ct ++ tag.val).length = m.length + 16 := by
    rw [List.length_append, hct, tag.property]
  have hskip : (sock.skip 2).stream = ct ++ tag.val ++ rest := by
    rw [Sock.stream_skip, hstream, sealedFrame, hsealed]
    simp [lenHeader]
  have htake : (ct ++ tag.val ++ rest).take (m.length + 16) = ct ++ tag.val := by
    rw [← hbytes, List.take_left]
  have hloop : recvLoop (m.length + 16) (sock.skip 2) []
      = (.ok (ct ++ tag.val), (sock.skip 2).skip (m.length + 16)) := by
    rw [recvLoop_ok (by simp) (fun _ h => hbody (Sock.mem_agains_skip.mp (zero_mem_agains.mpr h)))
      (by rw [hskip, List.length_append, hbytes]; simp), hskip]
    simp only [List.nil_append, List.length_nil, Nat.sub_zero, htake]
  have hopen := P.open_seal enc.readKey (counterNonce enc.readNonce) (lenHeader m.length) m
  rw [hsealed] at hopen
  have hguard : ¬ (m.length = 0 ∨ maxFrame < m.length) := by
    simp only [maxFrame]
    omega
  simp only [encRecvFrame, recvLoop_header hstart hstream, hhdr, hguard, if_false, RecvEnv.ok, Bool.true_eq_false,
    hloop, or_self, splitTag_append, Option.bind_some, hopen]

/-- **The header is lost** when a timeout falls between it and its body: the call reports an idle channel, and
    two bytes of the stream are gone. -/
theorem recv_loses_header {P : OpenSSL} {m rest : Bytes} (hm : Receivable m)
    (hstream : sock.stream = sealedFrame P.chachaSeal enc.readKey enc.readNonce m ++ rest)
    (hstart : 0 ∉ sock.agains) (hbody : 2 ∈ sock.agains) :
    ∃ sock', encRecvFrame P.chachaOpen enc sock maxFrame .ok = (.idle, enc, sock') ∧
      sock'.stream = sock.stream.drop 2 := by
  have hmax : m.length ≤ 16384 := hm.2
  have hhdr : headerLen (lenHeader m.length) = m.length := headerLen_lenHeader (by omega)
  have hpos : m.length ≠ 0 := fun h => hm.1 (List.length_eq_zero_iff.mp h)
  have hnext : (sock.skip 2).head? = some .again :=
    zero_mem_agains.mp (Sock.mem_agains_skip.mpr hbody)
  obtain ⟨s, hs⟩ := List.head?_eq_some_iff.mp hnext
  have hguard : ¬ (m.length = 0 ∨ maxFrame < m.length) := by
    simp only [maxFrame]
    omega
  refine ⟨s, ?_, ?_⟩
  · simp only [encRecvFrame, recvLoop_header hstart hstream, hhdr, hguard, if_false, RecvEnv.ok,
      Bool.true_eq_false, hs, recvLoop_timeout (Nat.succ_pos _)]
  · rw [← Sock.stream_skip, hs]
    rfl

/-! ## The whole stream

The stream is a frame and a rest, or there is a timeout at its front. `sealedStream_induction` packages these cases,
so both directions are one induction. -/

/-- **Receiving is independent of segmentation and timeouts**: the calls return the messages in order, and a call
    that returns -2 changes no field of the context and uses up no byte of the stream. -/
def RecvIndependent (P : OpenSSL) (enc : EncryptedCtx) (sock : Sock) (msgs : List Bytes) : Prop :=
  plaintexts (recvFrames P.chachaOpen enc sock) = msgs ∧
    ∀ c ∈ recvFrames P.chachaOpen enc sock, c.result = .idle →
      c.post.1 = c.pre.1 ∧ c.post.2.stream = c.pre.2.stream

/-- At the end of the stream the loop stops with nothing received. -/
theorem recvIndependent_closed (P : OpenSSL) (enc : EncryptedCtx) : RecvIndependent P enc [] [] := by
  have hcall : encRecvFrame P.chachaOpen enc [] maxFrame .ok = (.error, enc, []) := by
    simp only [encRecvFrame, recvLoop_closed (show ([] : Bytes).length < 2 by simp)]
  refine ⟨?_, ?_⟩
  · rw [recvFrames_error hcall]
    rfl
  · intro c hc hidle
    rw [recvFrames_error hcall, List.mem_singleton] at hc
    subst hc
    exact absurd hidle (by simp)

/-- A timeout in front of a frame changes nothing. -/
theorem recvIndependent_again {P : OpenSSL} {s : Sock} {msgs : List Bytes} :
    RecvIndependent P enc (.again :: s) msgs ↔ RecvIndependent P enc s msgs := by
  have hcall : encRecvFrame P.chachaOpen enc (.again :: s) maxFrame .ok = (.idle, enc, s) := by
    simp only [encRecvFrame, recvLoop_timeout (show 0 < 2 by omega)]
  unfold RecvIndependent
  rw [recvFrames_idle hcall]
  constructor
  · rintro ⟨hpt, hidle⟩
    exact ⟨hpt, fun c hc => hidle c (List.mem_cons_of_mem _ hc)⟩
  · rintro ⟨hpt, hidle⟩
    refine ⟨hpt, ?_⟩
    intro c hc
    rcases List.mem_cons.mp hc with rfl | hc
    · exact fun _ => ⟨rfl, rfl⟩
    · exact hidle c hc

/-- A received frame leaves the same question about the rest. -/
theorem recvIndependent_cons {P : OpenSSL} {m : Bytes} {ms : List Bytes} {enc' : EncryptedCtx} {s : Sock}
    (hcall : encRecvFrame P.chachaOpen enc sock maxFrame .ok = (.plaintext m, enc', s)) :
    RecvIndependent P enc sock (m :: ms) ↔ RecvIndependent P enc' s ms := by
  unfold RecvIndependent
  rw [recvFrames_plaintext hcall]
  simp only [plaintexts, List.filterMap_cons, RecvResult.plaintext?, List.cons.injEq, true_and,
    List.mem_cons, forall_eq_or_imp, reduceCtorEq, false_implies]

/-- At a timeout between header and body the property fails. -/
theorem not_recvIndependent {P : OpenSSL} {m rest : Bytes} {msgs : List Bytes} (hm : Receivable m)
    (hstream : sock.stream = sealedFrame P.chachaSeal enc.readKey enc.readNonce m ++ rest)
    (hstart : 0 ∉ sock.agains) (hbody : 2 ∈ sock.agains) : ¬ RecvIndependent P enc sock msgs := by
  obtain ⟨s, hcall, hlost⟩ := recv_loses_header hm hstream hstart hbody
  rintro ⟨_, hidle⟩
  rw [recvFrames_idle hcall] at hidle
  obtain ⟨_, hkept⟩ := hidle _ (List.mem_cons_self ..) rfl
  have hlen := congrArg List.length (hlost.symm.trans hkept)
  have hframe := sealedFrame_length P enc.readKey enc.readNonce m
  rw [List.length_drop, hstream, List.length_append, hframe] at hlen
  omega

/-- The places behind the first frame are those of the rest of the stream. -/
theorem noBoundaryTimeout_cons {m : Bytes} {ms : List Bytes} :
    NoBoundaryTimeout sock (m :: ms) ↔
      2 ∉ sock.agains ∧ NoBoundaryTimeout ((sock.skip 2).skip (m.length + 16)) ms := by
  have hshift : ∀ q, q ∈ ((sock.skip 2).skip (m.length + 16)).agains ↔ q + (m.length + 18) ∈ sock.agains := by
    intro q
    rw [Sock.mem_agains_skip, Sock.mem_agains_skip]
    exact Iff.of_eq (by congr 1)
  unfold NoBoundaryTimeout
  constructor
  · intro h
    refine ⟨fun h2 => h 2 h2 (List.mem_cons_self ..), ?_⟩
    intro q hq hmem
    exact h _ ((hshift q).mp hq) (List.mem_cons_of_mem _ (List.mem_map.mpr ⟨q, hmem, rfl⟩))
  · rintro ⟨h2, h⟩ p hp hmem
    rcases List.mem_cons.mp hmem with rfl | hmem
    · exact h2 hp
    · obtain ⟨q, hq, rfl⟩ := List.mem_map.mp hmem
      exact h q ((hshift q).mpr hp) hq

theorem noBoundaryTimeout_again {s : Sock} {msgs : List Bytes} :
    NoBoundaryTimeout (.again :: s) msgs ↔ NoBoundaryTimeout s msgs := by
  constructor
  · intro h p hp
    exact h p (List.mem_cons_of_mem _ hp)
  · intro h p hp hmem
    rcases List.mem_cons.mp hp with rfl | hp
    · exact absurd (two_le_of_mem_bodyOffsets hmem) (by omega)
    · exact h p hp hmem

/-- **Induction over a stream of sealed frames** as the calls meet it: its end, a timeout in front of a frame, a
    timeout between a header and its body, a frame that is received. -/
theorem sealedStream_induction (P : OpenSSL) (C : EncryptedCtx → Sock → List Bytes → Prop)
    (hclosed : ∀ enc, C enc [] [])
    (hagain : ∀ enc s msgs, C enc s msgs → C enc (.again :: s) msgs)
    (hlost : ∀ enc sock m ms rest, Receivable m → 0 ∉ sock.agains → 2 ∈ sock.agains →
      sock.stream = sealedFrame P.chachaSeal enc.readKey enc.readNonce m ++ rest → C enc sock (m :: ms))
    (hframe : ∀ enc sock m ms, 2 ∉ sock.agains →
      encRecvFrame P.chachaOpen enc sock maxFrame .ok
        = (.plaintext m, { enc with readNonce := enc.readNonce + 1 }, (sock.skip 2).skip (m.length + 16)) →
      C { enc with readNonce := enc.readNonce + 1 } ((sock.skip 2).skip (m.length + 16)) ms →
      C enc sock (m :: ms))
    (enc : EncryptedCtx) (sock : Sock) (msgs : List Bytes) (hmsgs : ∀ m ∈ msgs, Receivable m)
    (hfail : RecvEvent.fail ∉ sock)
    (hstream : sock.stream = sealedFrames P.chachaSeal enc.readKey enc.readNonce msgs) : C enc sock msgs := by
  -- the induction is on what is left to receive: a call uses up a timeout or a frame
  induction hn : sock.work using Nat.strongRecOn generalizing enc sock msgs with
  | ind n ih =>
      subst hn
      cases sock with
      | nil =>
          cases msgs with
          | nil => exact hclosed enc
          | cons m ms =>
              have hlen := congrArg List.length hstream
              rw [sealedFrames, List.length_append, sealedFrame_length] at hlen
              simp only [Sock.stream, List.length_nil] at hlen
              omega
      | cons ev s =>
          cases ev with
          | fail => exact absurd (List.mem_cons_self ..) hfail
          | again =>
              have hs : RecvEvent.fail ∉ s := fun h => hfail (List.mem_cons_of_mem _ h)
              have hwork : Sock.work s < Sock.work (.again :: s) := by
                simp only [Sock.work]
                omega
              exact hagain enc s msgs (ih _ hwork enc s msgs hmsgs hs hstream rfl)
          | data c cs =>
              have hstart : 0 ∉ Sock.agains (.data c cs :: s) := by
                rw [zero_mem_agains]
                simp
              cases msgs with
              | nil => exact absurd hstream (by simp [Sock.stream, sealedFrames])
              | cons m ms =>
                  have hm : Receivable m := hmsgs m (List.mem_cons_self ..)
                  rw [sealedFrames] at hstream
                  by_cases hbody : 2 ∈ Sock.agains (.data c cs :: s)
                  · exact hlost enc _ m ms _ hm hstart hbody hstream
                  · have hcall := encRecvFrame_frame hm hstream hstart hbody
                    have hlen := sealedFrame_length P enc.readKey enc.readNonce m
                    refine hframe enc _ m ms hbody hcall (ih _ (encRecvFrame_work hcall (by simp)) _ _ ms ?_
                      (Sock.fail_not_mem_skip (Sock.fail_not_mem_skip hfail)) ?_ rfl)
                    · exact fun m' hm' => hmsgs m' (List.mem_cons_of_mem _ hm')
                    · rw [Sock.stream_skip, Sock.stream_skip, List.drop_drop, hstream, List.drop_left' (by omega)]

/-- **Exactly the timeouts between a header and its body matter.** -/
theorem recv_independent_iff (P : OpenSSL) (enc : EncryptedCtx) (sock : Sock) (msgs : List Bytes)
    (hmsgs : ∀ m ∈ msgs, Receivable m) (hfail : RecvEvent.fail ∉ sock)
    (hstream : sock.stream = sealedFrames P.chachaSeal enc.readKey enc.readNonce msgs) :
    RecvIndependent P enc sock msgs ↔ NoBoundaryTimeout sock msgs := by
  refine sealedStream_induction P (fun enc sock msgs => RecvIndependent P enc sock msgs ↔
    NoBoundaryTimeout sock msgs) ?_ ?_ ?_ ?_ enc sock msgs hmsgs hfail hstream
  · intro enc
    exact iff_of_true (recvIndependent_closed P enc) (by simp [NoBoundaryTimeout, Sock.agains])
  · intro enc s msgs ih
    rw [recvIndependent_again, noBoundaryTimeout_again]
    exact ih
  · intro enc sock m ms rest hm hstart hbody hstream
    refine iff_of_false (not_recvIndependent hm hstream hstart hbody) ?_
    exact fun h => (noBoundaryTimeout_cons.mp h).1 hbody
  · intro enc sock m ms hbody hcall ih
    rw [recvIndependent_cons hcall, noBoundaryTimeout_cons, ih]
    exact ⟨fun h => ⟨hbody, h⟩, fun h => h.2⟩

/-! ## One timeout -/

/-- Two pieces with a timeout between them. -/
def pieces (a b : Bytes) : Sock := Sock.push a (.again :: Sock.push b [])

theorem pieces_stream (a b : Bytes) : (pieces a b).stream = a ++ b := by
  simp [pieces, Sock.stream]

theorem pieces_agains (a b : Bytes) : (pieces a b).agains = [a.length] := by
  simp [pieces, Sock.agains]

theorem fail_not_mem_pieces (a b : Bytes) : RecvEvent.fail ∉ pieces a b := by
  have hpush : ∀ (c : Bytes) (s : Sock), RecvEvent.fail ∉ s → RecvEvent.fail ∉ Sock.push c s := by
    intro c s hs
    cases c with
    | nil => exact hs
    | cons d ds => simpa [Sock.push] using hs
  exact hpush a _ (by simpa using hpush b [] (by simp))

/-- The frame of the message `[65]` under a fresh context, in two pieces of which the first has `n` bytes. -/
def framePieces (P : OpenSSL) (n : Nat) : Sock :=
  let frame := sealedFrame P.chachaSeal (Block.zero 32) 0 [65]
  pieces (frame.take n) (frame.drop n)

/-- The context with all keys zero. -/
def zeroCtx : EncryptedCtx := ⟨Block.zero 32, Block.zero 32, 0, 0, true⟩

theorem framePieces_stream (P : OpenSSL) (n : Nat) :
    (framePieces P n).stream = sealedFrame P.chachaSeal zeroCtx.readKey zeroCtx.readNonce [65] ++ [] := by
  rw [framePieces, pieces_stream, List.take_append_drop, List.append_nil]
  rfl

theorem framePieces_agains (P : OpenSSL) {n : Nat} (hn : n ≤ 19) : (framePieces P n).agains = [n] := by
  have hlen := sealedFrame_length P (Block.zero 32) 0 [65]
  rw [framePieces, pieces_agains, List.length_take, hlen]
  simp only [List.length_cons, List.length_nil]
  congr 1
  omega

theorem receivable_one : Receivable [65] := ⟨by simp, by simp [maxFrame]⟩

/-- A timeout in the middle of a body is waited out. -/
theorem recv_independent_body :
    (framePieces .toy 7).agains = [7] ∧ RecvIndependent .toy zeroCtx (framePieces .toy 7) [[65]] := by
  have hagains := framePieces_agains .toy (show 7 ≤ 19 by omega)
  refine ⟨hagains, (recv_independent_iff .toy zeroCtx (framePieces .toy 7) [[65]] ?_ (fail_not_mem_pieces _ _)
    (framePieces_stream .toy 7)).mpr ?_⟩
  · intro m hm
    rw [List.mem_singleton.mp hm]
    exact receivable_one
  · intro p hp
    rw [hagains, List.mem_singleton] at hp
    rw [hp]
    simp [bodyOffsets]

/-- A timeout between header and body breaks the receiver. -/
theorem recv_not_independent :
    ¬ ∃ P : OpenSSL, ∀ (enc : EncryptedCtx) (sock : Sock) (msgs : List Bytes),
      (∀ m ∈ msgs, Receivable m) → RecvEvent.fail ∉ sock →
        sock.stream = sealedFrames P.chachaSeal enc.readKey enc.readNonce msgs →
          RecvIndependent P enc sock msgs := by
  rintro ⟨P, hall⟩
  have hagains := framePieces_agains P (show 2 ≤ 19 by omega)
  have hmsgs : ∀ m ∈ [[65]], Receivable m := by
    intro m hm
    rw [List.mem_singleton.mp hm]
    exact receivable_one
  refine not_recvIndependent receivable_one (framePieces_stream P 2) (by simp [hagains]) (by simp [hagains])
    (hall zeroCtx (framePieces P 2) [[65]] hmsgs (fail_not_mem_pieces _ _) ?_)
  exact framePieces_stream P 2

end Showcase
