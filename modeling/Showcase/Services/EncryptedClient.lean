import Showcase.Services.Client
import Showcase.Services.RoundTrip

/-!
# `Services.EncryptedClient` — `handle_client` in encrypted mode

The encrypted branch of `handle_client` parses what `enc_recv_frame` returns, and nothing else: there is no
buffer in which the frames of one request would gather, and what lies behind the first request of a frame is not
looked at. So it agrees with the plaintext branch only where each frame is one request.

* `routeEncrypted_response` — both branches pick the same handler, or one with the same response.
* `encrypted_handled_iff` — the exact condition on the frames.
* `encrypted_not_handled` — a request over two frames.
-/

namespace Showcase

open Lib

/-! ## Handlers -/

/-- The handlers of a request; `ok` is `send_ok`. -/
inductive Handler where
  | info
  | pairSetup
  | pairVerify
  | fpSetup
  | authSetup
  | postGeneric
  | options
  | rtspSetup
  | record
  | teardown
  | rtspGeneric
  | ok
deriving DecidableEq

/-- `strstr(path, name) != NULL`. -/
def pathHas (path name : Bytes) : Bool :=
  match strstr name (path ++ [0]) with
  | .found _ => true
  | _ => false

/-- The handlers of a POST. -/
def routePost (path : Bytes) : Handler :=
  if pathHas path (ascii "/pair-setup") then .pairSetup
  else if pathHas path (ascii "/pair-verify") then .pairVerify
  else if pathHas path (ascii "/fp-setup") then .fpSetup
  else if pathHas path (ascii "/auth-setup") then .authSetup
  else .postGeneric

/-- `route_request`. -/
def routeRequest (method path : Bytes) : Handler :=
  if strncaseeq method (ascii "GET") then
    if pathHas path (ascii "/info") then .info else .ok
  else if strncaseeq method (ascii "POST") then routePost path
  else if strncaseeq method (ascii "OPTIONS") then .options
  else if strncaseeq method (ascii "SETUP") then .rtspSetup
  else if strncaseeq method (ascii "RECORD") then .record
  else if strncaseeq method (ascii "TEARDOWN") then .teardown
  else .rtspGeneric

/-- The dispatch of the encrypted branch. -/
def routeEncrypted (method path : Bytes) : Handler :=
  if strncaseeq method (ascii "GET") ∧ pathHas path (ascii "/info") then .info
  else if strncaseeq method (ascii "POST") then routePost path
  else if strncaseeq method (ascii "SETUP") then .rtspSetup
  else if strncaseeq method (ascii "RECORD") then .record
  else if strncaseeq method (ascii "TEARDOWN") then .teardown
  else if strncaseeq method (ascii "OPTIONS") then .options
  else .rtspGeneric

/-- `send_ok` and `handle_rtsp_generic` send the same response, 200 without a body, and do nothing else but log. -/
def Handler.response : Handler → Handler
  | .rtspGeneric => .ok
  | h => h

/-- No method is two. -/
theorem strncaseeq_unique {s a b : Bytes} (hab : strncaseeq a b = false) (h : strncaseeq s a = true) :
    strncaseeq s b = false := by
  simp only [strncaseeq, beq_iff_eq, beq_eq_false_iff_ne] at h hab ⊢
  rw [h]
  exact hab

/-- **Both branches agree**, except that a GET without `/info` is answered by another handler with the same
    response. -/
theorem routeEncrypted_response (method path : Bytes) :
    (routeEncrypted method path).response = (routeRequest method path).response := by
  unfold routeEncrypted routeRequest
  by_cases hget : strncaseeq method (ascii "GET") = true
  · have hpost := strncaseeq_unique (show strncaseeq (ascii "GET") (ascii "POST") = false by decide) hget
    have hsetup := strncaseeq_unique (show strncaseeq (ascii "GET") (ascii "SETUP") = false by decide) hget
    have hrecord := strncaseeq_unique (show strncaseeq (ascii "GET") (ascii "RECORD") = false by decide) hget
    have hteardown := strncaseeq_unique (show strncaseeq (ascii "GET") (ascii "TEARDOWN") = false by decide) hget
    have hoptions := strncaseeq_unique (show strncaseeq (ascii "GET") (ascii "OPTIONS") = false by decide) hget
    cases hinfo : pathHas path (ascii "/info") with
    | true => simp only [hget, and_self, if_true]
    | false =>
        simp only [hget, hpost, hsetup, hrecord, hteardown, hoptions, Bool.false_eq_true, and_false, if_true,
          if_false, Handler.response]
  · by_cases hoptions : strncaseeq method (ascii "OPTIONS") = true
    · have hsetup := strncaseeq_unique (show strncaseeq (ascii "OPTIONS") (ascii "SETUP") = false by decide)
          hoptions
      have hrecord := strncaseeq_unique (show strncaseeq (ascii "OPTIONS") (ascii "RECORD") = false by decide)
          hoptions
      have hteardown :=
        strncaseeq_unique (show strncaseeq (ascii "OPTIONS") (ascii "TEARDOWN") = false by decide) hoptions
      simp only [hget, hoptions, hsetup, hrecord, hteardown, Bool.false_eq_true, false_and, if_false]
    · simp only [hget, hoptions, Bool.false_eq_true, false_and, if_false]

/-! ## The encrypted branch -/

/-- One round of the encrypted branch, after `enc_recv_frame` put `frame` into `ptBuf`; `off` is the place of the
    frame in the plaintext. `none` when the process dies. -/
def encRound (ptBuf : Bytes) (off : Nat) (frame : Bytes) : Option (List Call) :=
  match parseHttp (overlay ptBuf frame) frame.length with
  | none => none
  | some p =>
      if p.ret = false then some []
      else if p.req.contentLength = 0 ∨ p.req.contentLength ≤ p.req.bodyLen then
        some [callOf (overlay ptBuf frame) p.req off (off + frame.length)]
      else some []

/-- The calls on the frames; `ptBuf` gives what the buffer holds in front of the frame at each place. -/
def encClient (ptBuf : Nat → Bytes) (off : Nat) : List Bytes → Option (List Call)
  | [] => some []
  | frame :: frames =>
      (encRound (ptBuf off) off frame).bind fun xs =>
        (encClient ptBuf (off + frame.length) frames).map (xs ++ ·)

/-- `handle_client` on an encrypted connection. -/
def handleEncrypted (aead : AeadOpen) (enc : EncryptedCtx) (sock : Sock) (ptBuf : Nat → Bytes) :
    Option (List Call) :=
  encClient ptBuf 0 (plaintexts (recvFrames aead enc sock))

/-! ## The property -/

/-- The call for a request that arrives alone, in one piece, on a fresh plaintext connection. -/
def Alone (mem : Bytes) (q : ClientRequest) (y : Call) : Prop :=
  ∃ c, handleClient ⟨mem, 0, 0, []⟩ [q.wire] = some c ∧ c.calls = [y]

/-- The encrypted branch handles `x` as the plaintext branch handles `y`. -/
structure SameHandling (x y : Call) : Prop where
  method : x.method = y.method
  path : x.path = y.path
  bodyLen : x.bodyLen = y.bodyLen
  body : x.body = y.body
  handler : (routeEncrypted x.method x.path).response = (routeRequest y.method y.path).response

/-- One call for each request, in order, on the bytes of the request, handled as the request alone is. -/
def SameCalls (mem : Bytes) (start : Nat) : List ClientRequest → List Call → Prop
  | [], [] => True
  | q :: qs, x :: xs =>
      (∃ y, Alone mem q y ∧ SameHandling x y) ∧ x.origin = start ∧ SameCalls mem (start + q.wire.length) qs xs
  | _, _ => False

/-- The frames are handled as the requests, whatever is in the buffers of the two branches. -/
def EncHandled (off : Nat) (frames : List Bytes) (qs : List ClientRequest) : Prop :=
  ∀ (ptBuf : Nat → Bytes) (mem : Bytes), (∀ i, maxFrame ≤ (ptBuf i).length) → bufSize ≤ mem.length →
    ∃ xs, encClient ptBuf off frames = some xs ∧ SameCalls mem off qs xs

/-! ## A request alone -/

section Alone

variable {mem : Bytes} {q : ClientRequest} {x y : Call}

theorem wire_pos (q : ClientRequest) : 0 < q.wire.length := by
  have hmethod := List.length_pos_iff.mpr q.method_ok.1
  simp only [ClientRequest.wire, ClientRequest.head, ClientRequest.requestLine, List.length_append]
  omega

/-- A request with a header that fits into the buffer is handled, with what is copied of it. -/
theorem alone_copied (mem : Bytes) (hne : q.headers ≠ []) (hle : q.wire.length ≤ bufSize) :
    ∃ y, Alone mem q y ∧ y.content = q.copied := by
  obtain ⟨c, y, hround, _, hcalls, hcontent, _⟩ := clientRound_last (pending_init mem) (List.nil_append q.wire)
      hne hle
  refine ⟨y, ⟨c, ?_, hcalls⟩, hcontent⟩
  rw [handleClient_cons (pending_init mem) (by rw [List.nil_append]; exact hle), hround]
  rfl

/-- A request that does not fit is not handled. -/
theorem alone_fits (h : Alone mem q y) : q.wire.length ≤ bufSize := by
  by_contra hlong
  obtain ⟨c, hrun, hcalls⟩ := h
  rw [handleClient, if_pos (show bufSize - 0 < q.wire.length by omega)] at hrun
  obtain rfl := Option.some.inj hrun
  cases hcalls

theorem alone_content (h : Alone mem q y) (hne : q.headers ≠ []) : y.content = q.copied := by
  obtain ⟨y', ⟨c', hrun', hcalls'⟩, hcontent⟩ := alone_copied mem hne (alone_fits h)
  obtain ⟨c, hrun, hcalls⟩ := h
  obtain rfl := Option.some.inj (hrun.symm.trans hrun')
  obtain rfl := List.singleton_inj.mp (hcalls.symm.trans hcalls')
  exact hcontent

/-- Calls with the same content are handled alike. -/
theorem sameHandling_of_content (h : x.content = y.content) : SameHandling x y := by
  simp only [Call.content, Prod.mk.injEq] at h
  obtain ⟨hmethod, hpath, _, hbodyLen, hbody⟩ := h
  refine ⟨hmethod, hpath, hbodyLen, hbody, ?_⟩
  rw [hmethod, hpath]
  exact routeEncrypted_response y.method y.path

/-- **Without headers** the search for the empty line leaves a buffer that holds no NUL. -/
theorem not_alone_headless (hnone : q.headers = []) : ¬ Alone (List.replicate bufSize 1) q y := by
  intro halone
  have hfits := alone_fits halone
  obtain ⟨c, hrun, hcalls⟩ := halone
  rw [handleClient_cons (pending_init _) (by rw [List.nil_append]; exact hfits)] at hrun
  obtain ⟨c₁, hround, hrun₁⟩ := Option.bind_eq_some_iff.mp hrun
  obtain rfl := Option.some.inj hrun₁
  rw [clientRound_pending (pending_init _), List.nil_append] at hround
  by_cases hshort : q.wire.length < 10
  · rw [parseHttp, if_pos hshort] at hround
    simp only [if_true] at hround
    obtain rfl := Option.some.inj hround
    cases hcalls
  have hbody : q.body = [] := by
    by_contra hb
    obtain ⟨h, hh, _⟩ := q.body_ok hb
    rw [hnone] at hh
    cases hh
  have hline : RequestLine q.wire q.requestLine crlf := by
    refine ⟨?_, lineText_noNul q.requestLine_text, lineText_noCrlf q.requestLine_text⟩
    simp only [ClientRequest.wire, ClientRequest.head, hnone, hbody, List.flatMap_nil, List.append_nil]
  have hfault : strstr crlfcrlf (crlf ++ (List.replicate bufSize 1).drop q.wire.length) = .fault := by
    have hones : ∀ b ∈ (List.replicate bufSize (1 : UInt8)).drop q.wire.length, b = 1 :=
      fun b hb => List.eq_of_mem_replicate (List.mem_of_mem_drop hb)
    rw [strstr_fault_iff crlfcrlf_ne_nil]
    refine ⟨?_, ?_⟩
    · intro hmem
      rcases List.mem_append.mp hmem with hmem | hmem
      · exact zero_not_mem_crlf hmem
      · exact absurd (hones 0 hmem) (by decide)
    · -- the second CR LF of a match would lie in the ones
      intro hinf
      have hcount := hinf.sublist.count_le 13
      have hzero : ((List.replicate bufSize (1 : UInt8)).drop q.wire.length).count 13 = 0 :=
        List.count_eq_zero.mpr (fun hmem => absurd (hones 13 hmem) (by decide))
      have hmatch : crlfcrlf.count 13 = 2 := by decide
      have hend : crlf.count 13 = 1 := by decide
      rw [List.count_append, hzero, hmatch, hend] at hcount
      omega
  rw [overlay, parseHttp_line (by omega) hline, q.afterLine_requestLine, parseHeaders, hfault] at hround
  cases hround

end Alone

/-! ## One frame

The buffer begins with a frame and has the bytes of earlier frames behind it. A frame that is one request is parsed as
such whatever these are; the other direction lets them vary. -/

section Frame

variable {frame rest : Bytes} {off : Nat} {frames : List Bytes} {q : ClientRequest} {xs : List Call}

/-- **A frame that is one request** leads to its call, whatever the buffer held. -/
theorem encRound_wire (ptBuf : Bytes) (off : Nat) (hne : q.headers ≠ []) (hle : q.wire.length ≤ bufSize) :
    ∃ x, encRound ptBuf off q.wire = some [x] ∧ x.content = q.copied ∧ x.origin = off := by
  obtain ⟨r, hparse, hret, _, hbodyLen, hlength, hcontent⟩ :=
    parse_wire hne ptBuf [] (by rw [List.append_nil]; exact hle)
  simp only [List.append_nil, List.length_nil, Nat.add_zero] at hparse hbodyLen hcontent
  refine ⟨callOf (overlay ptBuf q.wire) r.req off (off + q.wire.length), ?_, hcontent _ _, rfl⟩
  rw [encRound, hparse]
  simp only [hret, Bool.true_eq_false, if_false]
  rw [if_pos (.inr (by rw [hlength, hbodyLen]))]

/-- A call is made on the frame it is made for. -/
theorem encRound_origin {ptBuf : Bytes} (h : encRound ptBuf off frame = some xs) : ∀ x ∈ xs, x.origin = off := by
  unfold encRound at h
  split at h
  · cases h
  split at h
  · obtain rfl := Option.some.inj h
    simp
  split at h
  · obtain rfl := Option.some.inj h
    intro x hx
    rw [List.mem_singleton.mp hx]
    rfl
  · obtain rfl := Option.some.inj h
    simp

/-- At most one call is made for a frame. -/
theorem encRound_length {ptBuf : Bytes} (h : encRound ptBuf off frame = some xs) : xs.length ≤ 1 := by
  unfold encRound at h
  split at h
  · cases h
  split at h
  · obtain rfl := Option.some.inj h
    exact Nat.zero_le _
  split at h
  · obtain rfl := Option.some.inj h
    exact Nat.le_refl _
  · obtain rfl := Option.some.inj h
    exact Nat.zero_le _

theorem encClient_origin {ptBuf : Nat → Bytes} (h : encClient ptBuf off frames = some xs) :
    ∀ x ∈ xs, off ≤ x.origin := by
  induction frames generalizing off xs with
  | nil =>
      obtain rfl := Option.some.inj h
      simp
  | cons frame frames ih =>
      obtain ⟨ys, hround, hrest⟩ := Option.bind_eq_some_iff.mp h
      obtain ⟨zs, hzs, rfl⟩ := Option.map_eq_some_iff.mp hrest
      intro x hx
      rcases List.mem_append.mp hx with hx | hx
      · exact (encRound_origin hround x hx).ge
      · exact (Nat.le_add_right _ _).trans (ih hzs x hx)

/-- **What a frame must be.** A frame that leads to the call of a request, whatever the buffers hold, is this
    request: a frame that ends inside the head can be continued by the buffer, and any other length shows in
    `bodyLen`. -/
theorem frame_exact (off : Nat) (hframe : frame.length ≤ maxFrame) (hstream : frame <+: q.wire ++ rest)
    (h : ∀ ptBuf mem : Bytes, maxFrame ≤ ptBuf.length → bufSize ≤ mem.length →
      ∃ x y, encRound ptBuf off frame = some [x] ∧ Alone mem q y ∧ SameHandling x y) :
    frame.length = q.wire.length ∧ q.headers ≠ [] := by
  have hsize : bufSize = 65536 := rfl
  have hmax : maxFrame = 16384 := rfl
  have hne : q.headers ≠ [] := by
    intro hnone
    obtain ⟨_, _, _, halone, _⟩ := h (List.replicate maxFrame 0) (List.replicate bufSize 1)
      (by rw [List.length_replicate]) (by rw [List.length_replicate])
    exact not_alone_headless hnone halone
  refine ⟨?_, hne⟩
  -- behind the frame the buffer goes on with the head
  let ptBuf := q.head ++ List.replicate maxFrame 0
  obtain ⟨x, y, hround, halone, hsame⟩ := h ptBuf (List.replicate bufSize 0)
    (by rw [List.length_append, List.length_replicate]; omega) (by rw [List.length_replicate])
  have hle := alone_fits halone
  have hcontent := alone_content halone hne
  simp only [Call.content, ClientRequest.copied, Prod.mk.injEq] at hcontent
  have hlenBody : x.bodyLen = q.body.length := hsame.bodyLen.trans hcontent.2.2.2.1
  have hwire : q.wire.length = q.head.length + q.body.length := List.length_append
  have hten : 10 ≤ frame.length := by
    by_contra hshort
    rw [encRound, parseHttp, if_pos (by omega)] at hround
    cases hround
  -- in front of the next request, or where the buffer goes on, the memory begins with the head
  obtain ⟨t, hmem⟩ : ∃ t, overlay ptBuf frame = q.head ++ t := by
    have hhead : q.head <+: q.wire ++ rest := by
      rw [ClientRequest.wire, List.append_assoc]
      exact List.prefix_append _ _
    by_cases hshort : frame.length ≤ q.head.length
    · obtain ⟨s, hs⟩ := List.prefix_of_prefix_length_le hstream hhead hshort
      refine ⟨List.replicate maxFrame 0, ?_⟩
      show frame ++ (q.head ++ List.replicate maxFrame 0).drop frame.length = _
      rw [← hs, List.append_assoc, List.drop_left]
    · obtain ⟨s, hs⟩ := List.prefix_of_prefix_length_le hhead hstream (by omega)
      exact ⟨s ++ ptBuf.drop frame.length, by rw [overlay, ← hs, List.append_assoc]⟩
  obtain ⟨r, hparse, hret, hparts, hlength⟩ := q.parse_head hne (by omega) t hten
  simp only [HTTPReq.frame, Prod.mk.injEq] at hparts
  obtain ⟨_, _, _, _, _, _, hbodyLen⟩ := hparts
  have hcall : x.bodyLen = r.req.bodyLen := by
    rw [encRound, hmem, hparse] at hround
    simp only [hret, Bool.true_eq_false, if_false] at hround
    split at hround
    · have heq := List.singleton_inj.mp (Option.some.inj hround)
      rw [← heq]
      rfl
    · cases hround
  rw [hcall, hbodyLen, sizeSub] at hlenBody
  split at hlenBody
  · omega
  · omega

end Frame

/-! ## All frames

Each frame makes at most one call, so calls and frames can be counted off against each other from the front. -/

section Frames

variable {off : Nat} {frames : List Bytes} {qs : List ClientRequest}

/-- Frames that are the requests are handled as the requests. -/
theorem handled_of_frames (hmax : ∀ q ∈ qs, q.wire.length ≤ maxFrame) (hne : ∀ q ∈ qs, q.headers ≠ []) :
    EncHandled off (qs.map ClientRequest.wire) qs := by
  intro ptBuf mem hbuf hmem
  have hsize : bufSize = 65536 := rfl
  have hframe : maxFrame = 16384 := rfl
  clear hbuf hmem
  induction qs generalizing off with
  | nil => exact ⟨[], rfl, trivial⟩
  | cons q qs ih =>
      have hle := hmax q (List.mem_cons_self ..)
      have hq := hne q (List.mem_cons_self ..)
      obtain ⟨x, hround, hcontent, horigin⟩ := encRound_wire (ptBuf off) off hq
          (show q.wire.length ≤ bufSize by omega)
      obtain ⟨y, halone, hy⟩ := alone_copied mem hq (show q.wire.length ≤ bufSize by omega)
      have hrest : ∃ xs, encClient ptBuf (off + q.wire.length) (qs.map ClientRequest.wire) = some xs ∧
          SameCalls mem (off + q.wire.length) qs xs :=
        ih (fun q hq => hmax q (List.mem_cons_of_mem _ hq)) (fun q hq => hne q (List.mem_cons_of_mem _ hq))
      obtain ⟨xs, hxs, hsame⟩ := hrest
      refine ⟨x :: xs, ?_, ⟨y, halone, sameHandling_of_content (hcontent.trans hy.symm)⟩, horigin, hsame⟩
      rw [List.map_cons, encClient, hround, Option.bind_some, hxs]
      rfl

/-- **The first call** belongs to the first frame. -/
theorem encHandled_first {frame : Bytes} {q : ClientRequest} (hpos : 0 < frame.length)
    (h : EncHandled off (frame :: frames) (q :: qs)) (ptBuf : Nat → Bytes) (mem : Bytes)
    (hbuf : ∀ i, maxFrame ≤ (ptBuf i).length) (hmem : bufSize ≤ mem.length) :
    ∃ x y xs, encRound (ptBuf off) off frame = some [x] ∧ Alone mem q y ∧ SameHandling x y ∧
      encClient ptBuf (off + frame.length) frames = some xs ∧ SameCalls mem (off + q.wire.length) qs xs := by
  obtain ⟨xs, hxs, hsame⟩ := h ptBuf mem hbuf hmem
  obtain ⟨ys, hround, hrest⟩ := Option.bind_eq_some_iff.mp hxs
  obtain ⟨zs, hzs, rfl⟩ := Option.map_eq_some_iff.mp hrest
  cases ys with
  | nil =>
      -- the later calls are made on later bytes
      rw [List.nil_append] at hsame
      cases zs with
      | nil => exact hsame.elim
      | cons z zs =>
          have hz := encClient_origin hzs z (List.mem_cons_self ..)
          have horigin := hsame.2.1
          omega
  | cons x ys =>
      have hlen := encRound_length hround
      obtain rfl : ys = [] := by
        rw [List.length_cons] at hlen
        exact List.length_eq_zero_iff.mp (by omega)
      obtain ⟨⟨y, halone, hxy⟩, _, hsame'⟩ := hsame
      exact ⟨x, y, zs, hround, halone, hxy, hzs, hsame'⟩

/-- Frames that are handled as the requests are the requests. -/
theorem frames_of_handled (hframes : ∀ frame ∈ frames, Receivable frame)
    (hstream : frames.flatten = qs.flatMap ClientRequest.wire) (h : EncHandled off frames qs) :
    frames = qs.map ClientRequest.wire ∧ ∀ q ∈ qs, q.headers ≠ [] := by
  induction qs generalizing off frames with
  | nil =>
      refine ⟨?_, by simp⟩
      cases frames with
      | nil => rfl
      | cons frame frames =>
          have hempty : frame = [] := (List.append_eq_nil_iff.mp hstream).1
          exact absurd hempty (hframes frame (List.mem_cons_self ..)).1
  | cons q qs ih =>
      cases frames with
      | nil =>
          have hpos := wire_pos q
          have hlen := congrArg List.length hstream
          simp only [List.flatten_nil, List.length_nil, List.flatMap_cons, List.length_append] at hlen
          omega
      | cons frame frames =>
          obtain ⟨hne, hle⟩ := hframes frame (List.mem_cons_self ..)
          have hpos : 0 < frame.length := List.length_pos_iff.mpr hne
          rw [List.flatten_cons, List.flatMap_cons] at hstream
          obtain ⟨hlen, hheaders⟩ := frame_exact off hle ⟨_, hstream⟩ (by
            intro ptBuf mem hbuf hmem
            obtain ⟨x, y, _, hround, halone, hxy, _⟩ :=
              encHandled_first hpos h (fun _ => ptBuf) mem (fun _ => hbuf) hmem
            exact ⟨x, y, hround, halone, hxy⟩)
          obtain ⟨rfl, hrest⟩ := List.append_inj hstream hlen
          obtain ⟨rfl, hall⟩ := ih (fun f hf => hframes f (List.mem_cons_of_mem _ hf)) hrest (by
            intro ptBuf mem hbuf hmem
            obtain ⟨_, _, xs, _, _, _, hxs, hsame⟩ := encHandled_first hpos h ptBuf mem hbuf hmem
            exact ⟨xs, hxs, hsame⟩)
          refine ⟨rfl, ?_⟩
          intro q' hq'
          rcases List.mem_cons.mp hq' with rfl | hq'
          · exact hheaders
          · exact hall q' hq'

end Frames

/-- On a connection that delivers the sealed frames without a timeout behind a header, the encrypted branch sees
    these frames. -/
theorem handleEncrypted_frames (P : OpenSSL) (enc : EncryptedCtx) (sock : Sock) (frames : List Bytes)
    (ptBuf : Nat → Bytes) (hframes : ∀ frame ∈ frames, Receivable frame) (hfail : RecvEvent.fail ∉ sock)
    (hsock : sock.stream = sealedFrames P.chachaSeal enc.readKey enc.readNonce frames)
    (htime : NoBoundaryTimeout sock frames) :
    handleEncrypted P.chachaOpen enc sock ptBuf = encClient ptBuf 0 frames := by
  rw [handleEncrypted, (recvFrames_messages enc sock frames hframes hfail hsock htime).1]

/-- **Encrypted requests.** However the requests are cut into frames, the encrypted branch handles them as the
    plaintext branch handles each alone exactly when each frame is one request, with a header. -/
theorem encrypted_handled_iff (frames : List Bytes) (qs : List ClientRequest)
    (hframes : ∀ frame ∈ frames, Receivable frame) (hstream : frames.flatten = qs.flatMap ClientRequest.wire) :
    EncHandled 0 frames qs ↔ frames = qs.map ClientRequest.wire ∧ ∀ q ∈ qs, q.headers ≠ [] := by
  constructor
  · intro h
    exact frames_of_handled hframes hstream h
  · rintro ⟨rfl, hne⟩
    exact handled_of_frames (fun q hq => (hframes _ (List.mem_map_of_mem hq)).2) hne

/-- Two requests, each in its frame. -/
theorem encrypted_handled_two :
    EncHandled 0 [infoRequest.wire, feedbackRequest.wire] [infoRequest, feedbackRequest] := by
  have hmax : maxFrame = 16384 := rfl
  refine (encrypted_handled_iff [infoRequest.wire, feedbackRequest.wire] [infoRequest, feedbackRequest] ?_ rfl).mpr
    ⟨rfl, by decide⟩
  intro frame hframe
  have hshort : ∀ f ∈ [infoRequest.wire, feedbackRequest.wire], f ≠ [] ∧ f.length ≤ 100 := by decide
  obtain ⟨hne, hle⟩ := hshort frame hframe
  exact ⟨hne, by omega⟩

/-- A request whose body is in the next frame is dropped. -/
theorem encrypted_not_handled :
    ¬ ∀ (frames : List Bytes) (qs : List ClientRequest), (∀ frame ∈ frames, Receivable frame) →
      frames.flatten = qs.flatMap ClientRequest.wire → EncHandled 0 frames qs := by
  intro hall
  have hmax : maxFrame = 16384 := rfl
  have hframes : ∀ frame ∈ [feedbackRequest.head, feedbackRequest.body], Receivable frame := by
    intro frame hframe
    have hshort : ∀ f ∈ [feedbackRequest.head, feedbackRequest.body], f ≠ [] ∧ f.length ≤ 100 := by decide
    obtain ⟨hne, hle⟩ := hshort frame hframe
    exact ⟨hne, by omega⟩
  have hstream : [feedbackRequest.head, feedbackRequest.body].flatten
      = [feedbackRequest].flatMap ClientRequest.wire := by decide
  have hlen := congrArg List.length (frames_of_handled hframes hstream (hall _ _ hframes hstream)).1
  cases hlen

end Showcase
