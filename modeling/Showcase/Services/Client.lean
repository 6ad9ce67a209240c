import Showcase.Services.Waiting

/-!
# `Services.Client` — `handle_client` in plaintext mode

The loop of `handle_client` on the results of `recv`: what arrives is put behind the bytes in `buf`, `parse_http`
decides whether there is a request, and a request that is routed is cut off the front of the buffer. `parse_http`
is asked about every prefix, and it does not insist on the empty line; so the loop is right about a request only
if it waits at every chunk that ends inside it (`Services.Waiting` says where it does), and if nothing of the next
request came with it.

Both directions go request by request. The buffer holds a part of one request, at a known place of the stream
(`Pending`), and a round either waits and lengthens the part, or makes a call, or gives the buffer up.

* `requests_handled_iff` — the exact condition on the requests and the chunks.
* `requests_not_handled` — two requests in one chunk.
-/

namespace Showcase

open Lib

/-- What `route_request` is called with. `origin` is the place of `buf[0]` in the stream, and `received` how much of
    the stream has arrived. -/
structure Call where
  origin : Nat
  received : Nat
  method : Bytes
  path : Bytes
  headers : Bytes
  bodyLen : Nat
  body : Bytes

/-- `len` bytes from a pointer on. -/
def pointerRange (m : Bytes) (start : Option Nat) (len : Nat) : Bytes :=
  match start with
  | none => []
  | some i => (m.drop i).take len

def callOf (m : Bytes) (r : HTTPReq) (origin received : Nat) : Call where
  origin := origin
  received := received
  method := r.method
  path := r.path
  headers := pointerRange m r.headerStart r.headerLen
  bodyLen := r.bodyLen
  body := pointerRange m r.body r.bodyLen

/-- The loop: the memory from `buf` on, `bufUsed`, and what has happened. -/
structure Client where
  mem : Bytes
  bufUsed : Nat
  received : Nat
  calls : List Call

/-- One round, after `recv` returned `chunk`; `none` when the process dies. -/
def clientRound (c : Client) (chunk : Bytes) : Option Client :=
  let mem := c.mem.take c.bufUsed ++ chunk ++ c.mem.drop (c.bufUsed + chunk.length)
  let bufUsed := c.bufUsed + chunk.length
  let received := c.received + chunk.length
  match parseHttp mem bufUsed with
  | none => none
  | some p =>
      if p.ret = false then
        -- "Buffer overflow, dropping"
        some ⟨mem, if bufSize - 1 ≤ bufUsed then 0 else bufUsed, received, c.calls⟩
      else if 0 < p.req.contentLength ∧ p.req.bodyLen < p.req.contentLength then
        some ⟨mem, bufUsed, received, c.calls⟩
      else
        let calls := c.calls ++ [callOf mem p.req (received - bufUsed) received]
        let headerSize := p.req.body.getD bufUsed
        let totalSize := (headerSize + p.req.contentLength) % 2 ^ 64
        if totalSize < bufUsed then
          some ⟨(mem.drop totalSize).take (bufUsed - totalSize) ++ mem.drop (bufUsed - totalSize),
            bufUsed - totalSize, received, calls⟩
        else some ⟨mem, 0, received, calls⟩

/-- The loop over the results of `recv`. `recv` returns no more than there is room for; without any room it returns
    0, and the connection is closed. -/
def handleClient (c : Client) : List Bytes → Option Client
  | [] => some c
  | chunk :: chunks =>
      if bufSize - c.bufUsed < chunk.length then some c
      else (clientRound c chunk).bind (fun c => handleClient c chunks)

/-! ## The property -/

/-- What the handler of a request should see. -/
def ClientRequest.content (q : ClientRequest) : Bytes × Bytes × Bytes × Nat × Bytes :=
  (q.method, q.path, headerText q.headers, q.body.length, q.body)

/-- What is left of it in the arrays of `HTTPReq`. -/
def ClientRequest.copied (q : ClientRequest) : Bytes × Bytes × Bytes × Nat × Bytes :=
  (q.method.take 15, q.path.take 511, headerText q.headers, q.body.length, q.body)

def Call.content (c : Call) : Bytes × Bytes × Bytes × Nat × Bytes :=
  (c.method, c.path, c.headers, c.bodyLen, c.body)

/-- One call for each request, in order: on the bytes of the request, with its parts, and not before all of it has
    arrived. -/
def Handled (start : Nat) : List ClientRequest → List Call → Prop
  | [], [] => True
  | q :: qs, x :: xs =>
      x.content = q.content ∧ x.origin = start ∧ start + q.wire.length ≤ x.received ∧
        Handled (start + q.wire.length) qs xs
  | _, _ => False

/-- A connection over which the requests arrive in these chunks; `mem` is what the memory holds before. -/
def RequestsHandled (mem : Bytes) (chunks : List Bytes) (qs : List ClientRequest) : Prop :=
  ∃ c, handleClient ⟨mem, 0, 0, []⟩ chunks = some c ∧ Handled 0 qs c.calls

/-! ## The condition -/

/-- **The condition.** Every request fits, it ends where a chunk ends, and at every chunk that ends inside it the
    bytes there and those behind them make the loop wait. -/
def CutWell : Bytes → List ClientRequest → List Bytes → Prop
  | _, [], chunks => chunks = []
  | mem, q :: qs, chunks =>
      ∃ parts last rest, chunks = parts ++ last :: rest ∧ parts.flatten ++ last = q.wire ∧ q.Fits ∧
        (∀ pre post, parts = pre ++ post → pre ≠ [] → q.Awaits mem pre.flatten) ∧
          CutWell (overlay mem q.wire) qs rest

theorem ClientRequest.Fits.copied {q : ClientRequest} (h : q.Fits) : q.copied = q.content := by
  rw [ClientRequest.copied, List.take_of_length_le h.method, List.take_of_length_le h.path]
  rfl

/-! ## One round

The buffer holds a part of the next request, and the memory behind it is what earlier rounds have left. A round is
decided by what `parse_http` says about this memory. -/

section Round

variable {mem p chunk : Bytes} {start : Nat} {c c' : Client} {chunks : List Bytes} {q : ClientRequest}

/-- `p` is in the buffer, and began at `start`. -/
structure Pending (c : Client) (mem p : Bytes) (start : Nat) : Prop where
  mem : c.mem = overlay mem p
  used : c.bufUsed = p.length
  received : c.received = start + p.length

theorem pending_init (mem : Bytes) : Pending ⟨mem, 0, 0, []⟩ mem [] 0 := ⟨rfl, rfl, rfl⟩

theorem overlay_append (mem p chunk : Bytes) :
    (overlay mem p).take p.length ++ chunk ++ (overlay mem p).drop (p.length + chunk.length)
      = overlay mem (p ++ chunk) := by
  have hdrop : (p ++ mem.drop p.length).drop (p.length + chunk.length) = mem.drop (p.length + chunk.length) := by
    rw [← List.drop_drop, List.drop_left, List.drop_drop]
  rw [overlay, List.take_left, hdrop, overlay, List.length_append]

/-- **What a round does** depends on what `parse_http` says about the longer prefix. -/
theorem clientRound_pending (h : Pending c mem p start) : clientRound c chunk =
    match parseHttp (overlay mem (p ++ chunk)) (p ++ chunk).length with
    | none => none
    | some r =>
        if r.ret = false then
          some ⟨overlay mem (p ++ chunk), if bufSize - 1 ≤ (p ++ chunk).length then 0 else (p ++ chunk).length,
            start + (p ++ chunk).length, c.calls⟩
        else if 0 < r.req.contentLength ∧ r.req.bodyLen < r.req.contentLength then
          some ⟨overlay mem (p ++ chunk), (p ++ chunk).length, start + (p ++ chunk).length, c.calls⟩
        else
          let calls := c.calls ++ [callOf (overlay mem (p ++ chunk)) r.req start (start + (p ++ chunk).length)]
          let totalSize := (r.req.body.getD (p ++ chunk).length + r.req.contentLength) % 2 ^ 64
          if totalSize < (p ++ chunk).length then
            some ⟨((overlay mem (p ++ chunk)).drop totalSize).take ((p ++ chunk).length - totalSize) ++
              (overlay mem (p ++ chunk)).drop ((p ++ chunk).length - totalSize),
              (p ++ chunk).length - totalSize, start + (p ++ chunk).length, calls⟩
          else some ⟨overlay mem (p ++ chunk), 0, start + (p ++ chunk).length, calls⟩ := by
  have horigin : start + p.length + chunk.length - (p.length + chunk.length) = start := by omega
  have hreceived : start + p.length + chunk.length = start + (p.length + chunk.length) := by omega
  unfold clientRound
  rw [h.mem, h.used, h.received, overlay_append]
  simp only [List.length_append, hreceived, Nat.add_sub_cancel]

/-- A prefix on which the loop waits stays in the buffer. -/
theorem clientRound_waits (h : Pending c mem p start) (hw : Waits mem (p ++ chunk)) :
    ∃ c', clientRound c chunk = some c' ∧ Pending c' mem (p ++ chunk) start ∧ c'.calls = c.calls := by
  obtain ⟨r, hparse, ⟨hret, hroom⟩ | ⟨hret, hbody⟩⟩ := hw
  · refine ⟨⟨overlay mem (p ++ chunk), (p ++ chunk).length, start + (p ++ chunk).length, c.calls⟩, ?_,
      ⟨rfl, rfl, rfl⟩, rfl⟩
    rw [clientRound_pending h, hparse]
    simp only [hret, if_true]
    rw [if_neg (by omega)]
  · refine ⟨⟨overlay mem (p ++ chunk), (p ++ chunk).length, start + (p ++ chunk).length, c.calls⟩, ?_,
      ⟨rfl, rfl, rfl⟩, rfl⟩
    rw [clientRound_pending h, hparse]
    simp only [hret, Bool.true_eq_false, if_false]
    rw [if_pos hbody]

/-- A request in the buffer, with `extra` behind it, as `parse_http` sees it. -/
theorem parse_wire (hne : q.headers ≠ []) (mem extra : Bytes) (hlen : (q.wire ++ extra).length ≤ bufSize) :
    ∃ r, parseHttp (overlay mem (q.wire ++ extra)) (q.wire ++ extra).length = some r ∧ r.ret = true ∧
      r.req.body = some q.head.length ∧ r.req.bodyLen = q.body.length + extra.length ∧
      r.req.contentLength = q.body.length ∧
      ∀ origin received, (callOf (overlay mem (q.wire ++ extra)) r.req origin received).content
        = (q.method.take 15, q.path.take 511, headerText q.headers, q.body.length + extra.length,
            q.body ++ extra) := by
  have hsize : bufSize = 65536 := rfl
  have hwire : (q.wire ++ extra).length = q.head.length + (q.body.length + extra.length) := by
    rw [List.length_append, ClientRequest.wire, List.length_append]
    omega
  have hmem : overlay mem (q.wire ++ extra)
      = q.head ++ (q.body ++ extra ++ mem.drop (q.wire ++ extra).length) := by
    simp only [overlay, ClientRequest.wire, List.append_assoc]
  have hten := q.ten_le_head hne
  obtain ⟨r, hparse, hret, hframe, hlength⟩ := q.parse_head hne (by omega)
    (q.body ++ extra ++ mem.drop (q.wire ++ extra).length) (show 10 ≤ (q.wire ++ extra).length by omega)
  rw [sizeSub_of_le (by omega)] at hframe
  simp only [HTTPReq.frame, Prod.mk.injEq] at hframe
  obtain ⟨hmethod, hpath, _, hstart, hheaderLen, hbody, hbodyLen⟩ := hframe
  have hbodyLen' : r.req.bodyLen = q.body.length + extra.length := by
    rw [hbodyLen, hwire]
    omega
  refine ⟨r, by rw [hmem]; exact hparse, hret, hbody, hbodyLen', hlength, ?_⟩
  intro origin received
  have hheaders :
      ((overlay mem (q.wire ++ extra)).drop (q.requestLine.length + 2)).take (headerText q.headers).length
      = headerText q.headers := by
    rw [hmem, q.head_eq hne]
    simp only [List.append_assoc]
    rw [← List.drop_drop, List.drop_left]
    show (headerText q.headers ++ _).take _ = _
    rw [List.take_left]
  have htail : ((overlay mem (q.wire ++ extra)).drop q.head.length).take (q.body.length + extra.length)
      = q.body ++ extra := by
    rw [hmem, List.drop_left, ← List.length_append, List.take_left]
  simp only [Call.content, callOf, hmethod, hpath, hstart, hheaderLen, hbody, hbodyLen', pointerRange, hheaders,
    htail]

/-- **The last chunk of a request** leads to its call, and empties the buffer. -/
theorem clientRound_last (h : Pending c mem p start) (hwire : p ++ chunk = q.wire) (hne : q.headers ≠ [])
    (hle : q.wire.length ≤ bufSize) :
    ∃ c' x, clientRound c chunk = some c' ∧ Pending c' (overlay mem q.wire) [] (start + q.wire.length) ∧
      c'.calls = c.calls ++ [x] ∧ x.content = q.copied ∧ x.origin = start ∧
        x.received = start + q.wire.length := by
  obtain ⟨r, hparse, hret, hbody, hbodyLen, hlength, hcontent⟩ :=
    parse_wire hne mem [] (by rw [List.append_nil]; exact hle)
  simp only [List.append_nil, List.length_nil, Nat.add_zero] at hparse hbodyLen hcontent
  have hsize : bufSize = 65536 := rfl
  have hlen : q.wire.length = q.head.length + q.body.length := List.length_append
  have htotal : (q.head.length + q.body.length) % 2 ^ 64 = q.wire.length := by
    rw [← hlen]
    exact Nat.mod_eq_of_lt (by omega)
  refine ⟨⟨overlay mem q.wire, 0, start + q.wire.length,
      c.calls ++ [callOf (overlay mem q.wire) r.req start (start + q.wire.length)]⟩, _, ?_, ⟨rfl, rfl, rfl⟩, rfl,
    ?_, rfl, rfl⟩
  · rw [clientRound_pending h, hwire, hparse]
    simp only [hret, hbody, hbodyLen, hlength, Bool.true_eq_false, Nat.lt_irrefl, and_false, if_false,
      Option.getD_some, htotal]
  · exact hcontent _ _

/-- A chunk that fits is put into the buffer. -/
theorem handleClient_cons (h : Pending c mem p start) (hfit : (p ++ chunk).length ≤ bufSize) :
    handleClient c (chunk :: chunks) = (clientRound c chunk).bind (fun c => handleClient c chunks) := by
  rw [List.length_append] at hfit
  rw [handleClient, h.used, if_neg (by omega)]

/-! ## Requests that are cut well are handled

The induction is on the requests, and for each of them on its chunks: the loop waits behind all but the last, and the
last one leads to the call. -/

/-- The chunks before the last one are parts of the request. -/
theorem part_of_pieces {parts pre post : List Bytes} {last : Bytes} (heq : parts = pre ++ post)
    (hwire : parts.flatten ++ last = q.wire) : pre.flatten <+: q.wire := by
  rw [← hwire, heq, List.flatten_append, List.append_assoc]
  exact List.prefix_append _ _

/-- The parts in front of the last chunk are not the whole request. -/
theorem part_ne {parts pre post : List Bytes} {last : Bytes} (heq : parts = pre ++ post)
    (hwire : parts.flatten ++ last = q.wire) (hlast : last ≠ []) : pre.flatten ≠ q.wire := by
  intro h
  have hlen := congrArg List.length hwire
  rw [← h, heq, List.flatten_append, List.length_append, List.length_append] at hlen
  exact hlast (List.eq_nil_of_length_eq_zero (by omega))

/-- Chunks after each of which the loop waits gather in the buffer. -/
theorem handleClient_waits {parts : List Bytes} (chunks : List Bytes) (h : Pending c mem p start)
    (hwaits : ∀ pre post, parts = pre ++ post → pre ≠ [] → Waits mem (p ++ pre.flatten))
    (hfit : (p ++ parts.flatten).length ≤ bufSize) :
    ∃ c', handleClient c (parts ++ chunks) = handleClient c' chunks ∧ Pending c' mem (p ++ parts.flatten) start ∧
      c'.calls = c.calls := by
  induction parts generalizing p c with
  | nil =>
      refine ⟨c, rfl, ?_, rfl⟩
      rw [List.flatten_nil, List.append_nil]
      exact h
  | cons chunk parts ih =>
      rw [List.flatten_cons, ← List.append_assoc] at hfit ⊢
      have hfirst : Waits mem (p ++ chunk) := by
        have := hwaits [chunk] parts rfl (by simp)
        rwa [List.flatten_singleton] at this
      obtain ⟨c₁, hround, h₁, hcalls₁⟩ := clientRound_waits h hfirst
      obtain ⟨c', hrun, h', hcalls'⟩ := ih h₁ (by
        intro pre post heq _
        have := hwaits (chunk :: pre) post (by rw [heq]; rfl) (by simp)
        rwa [List.flatten_cons, ← List.append_assoc] at this) hfit
      refine ⟨c', ?_, h', hcalls'.trans hcalls₁⟩
      have hle : (p ++ chunk).length ≤ bufSize := by
        rw [List.length_append] at hfit
        omega
      rw [List.cons_append, handleClient_cons h hle, hround, Option.bind_some, hrun]

theorem handled_of_cutWell {qs : List ClientRequest} (h : Pending c mem [] start) (hcut : CutWell mem qs chunks) :
    ∃ c' xs, handleClient c chunks = some c' ∧ c'.calls = c.calls ++ xs ∧ Handled start qs xs := by
  induction qs generalizing mem c start chunks with
  | nil =>
      obtain rfl : chunks = [] := hcut
      exact ⟨c, [], rfl, (List.append_nil _).symm, trivial⟩
  | cons q qs ih =>
      obtain ⟨parts, last, rest, rfl, hwire, hfits, hawaits, hrest⟩ := hcut
      have hwaits : ∀ pre post, parts = pre ++ post → pre ≠ [] → Waits mem pre.flatten :=
        fun pre post heq hpre => waits_of_awaits hfits (part_of_pieces heq hwire) (hawaits pre post heq hpre)
      have hle := hfits.wire
      have hlen : (parts.flatten ++ last).length = q.wire.length := congrArg List.length hwire
      rw [List.length_append] at hlen
      obtain ⟨c₁, hrun₁, h₁, hcalls₁⟩ := handleClient_waits (last :: rest) h hwaits
        (by rw [List.nil_append]; omega)
      rw [List.nil_append] at h₁
      obtain ⟨c₂, x, hround, h₂, hcalls₂, hcontent, horigin, hreceived⟩ :=
        clientRound_last h₁ hwire hfits.headers hfits.wire
      obtain ⟨c₃, xs, hrun₃, hcalls₃, hhandled⟩ := ih h₂ hrest
      refine ⟨c₃, x :: xs, ?_, ?_, hcontent.trans hfits.copied, horigin, hreceived.ge, hhandled⟩
      · have hlast : (parts.flatten ++ last).length ≤ bufSize := by
          rw [List.length_append]
          omega
        rw [hrun₁, handleClient_cons h₁ hlast, hround, Option.bind_some, hrun₃]
      · rw [hcalls₃, hcalls₂, hcalls₁, List.append_assoc]
        rfl

/-! ## Requests that are handled are cut well

Calls are made in the order of the stream, and each on bytes behind those of the one before. So the first call is that
of the first request; it has to be made on exactly its bytes, and the chunks up to it are those of a request cut well.
-/

/-- The buffer moves on in the stream, never back. -/
theorem clientRound_origin (hused : c.bufUsed ≤ c.received) (h : clientRound c chunk = some c') :
    c'.bufUsed ≤ c'.received ∧ c.received - c.bufUsed ≤ c'.received - c'.bufUsed ∧
      ∃ xs, c'.calls = c.calls ++ xs ∧ ∀ x ∈ xs, c.received - c.bufUsed ≤ x.origin := by
  unfold clientRound at h
  simp only at h
  split at h
  · cases h
  split at h
  · obtain rfl := Option.some.inj h
    refine ⟨?_, ?_, [], (List.append_nil _).symm, by simp⟩
    · show (if bufSize - 1 ≤ c.bufUsed + chunk.length then 0 else c.bufUsed + chunk.length) ≤ _
      split
      · exact Nat.zero_le _
      · exact Nat.add_le_add_right hused _
    · show _ ≤ _ - (if bufSize - 1 ≤ c.bufUsed + chunk.length then 0 else c.bufUsed + chunk.length)
      split
      · show _ ≤ c.received + chunk.length - 0
        omega
      · show _ ≤ c.received + chunk.length - (c.bufUsed + chunk.length)
        omega
  split at h
  · obtain rfl := Option.some.inj h
    exact ⟨by show _ + _ ≤ _ + _; omega, by show _ ≤ _ + _ - (_ + _); omega, [], (List.append_nil _).symm, by simp⟩
  split at h
  · obtain rfl := Option.some.inj h
    refine ⟨?_, ?_, _, rfl, ?_⟩
    · show _ - _ ≤ c.received + chunk.length
      omega
    · show _ ≤ c.received + chunk.length - (_ - _)
      omega
    · intro x hx
      rw [List.mem_singleton.mp hx]
      show _ ≤ c.received + chunk.length - _
      omega
  · obtain rfl := Option.some.inj h
    refine ⟨Nat.zero_le _, ?_, _, rfl, ?_⟩
    · show _ ≤ c.received + chunk.length - 0
      omega
    · intro x hx
      rw [List.mem_singleton.mp hx]
      show _ ≤ c.received + chunk.length - _
      omega

/-- Every later call is made on bytes from here on. -/
theorem handleClient_origin (hused : c.bufUsed ≤ c.received) (h : handleClient c chunks = some c') :
    ∃ xs, c'.calls = c.calls ++ xs ∧ ∀ x ∈ xs, c.received - c.bufUsed ≤ x.origin := by
  induction chunks generalizing c with
  | nil =>
      obtain rfl := Option.some.inj h
      exact ⟨[], (List.append_nil _).symm, by simp⟩
  | cons chunk chunks ih =>
      rw [handleClient] at h
      split at h
      · obtain rfl := Option.some.inj h
        exact ⟨[], (List.append_nil _).symm, by simp⟩
      obtain ⟨c₁, hround, hrun⟩ := Option.bind_eq_some_iff.mp h
      obtain ⟨hused₁, horigin₁, xs, hcalls, hxs⟩ := clientRound_origin hused hround
      obtain ⟨ys, hcalls', hys⟩ := ih hused₁ hrun
      refine ⟨xs ++ ys, by rw [hcalls', hcalls, List.append_assoc], ?_⟩
      intro x hx
      rcases List.mem_append.mp hx with hx | hx
      · exact hxs x hx
      · exact horigin₁.trans (hys x hx)

/-- Where the loop does not wait, it makes a call or gives up the buffer. -/
theorem clientRound_not_waits (h : Pending c mem p start) (hw : ¬ Waits mem (p ++ chunk))
    (hround : clientRound c chunk = some c') :
    (∃ r, parseHttp (overlay mem (p ++ chunk)) (p ++ chunk).length = some r ∧ r.ret = true ∧
      c'.calls = c.calls ++ [callOf (overlay mem (p ++ chunk)) r.req start (start + (p ++ chunk).length)]) ∨
      (c'.bufUsed = 0 ∧ c'.received = start + (p ++ chunk).length ∧ c'.calls = c.calls) := by
  rw [clientRound_pending h] at hround
  cases hparse : parseHttp (overlay mem (p ++ chunk)) (p ++ chunk).length with
  | none =>
      rw [hparse] at hround
      cases hround
  | some r =>
      rw [hparse] at hround
      simp only at hround
      cases hret : r.ret with
      | false =>
          have hfull : bufSize - 1 ≤ (p ++ chunk).length := by
            by_contra hroom
            exact hw ⟨r, hparse, .inl ⟨hret, by omega⟩⟩
          rw [hret, if_pos rfl, if_pos hfull] at hround
          obtain rfl := Option.some.inj hround
          exact .inr ⟨rfl, rfl, rfl⟩
      | true =>
          have hready : ¬ (0 < r.req.contentLength ∧ r.req.bodyLen < r.req.contentLength) :=
            fun hbody => hw ⟨r, hparse, .inr ⟨hret, hbody⟩⟩
          rw [hret, if_neg (by decide), if_neg hready] at hround
          refine .inl ⟨r, rfl, hret, ?_⟩
          split at hround
          · obtain rfl := Option.some.inj hround
            rfl
          · obtain rfl := Option.some.inj hround
            rfl

/-- The loop waits behind a piece, and behind every piece after it. -/
theorem waits_cons {parts : List Bytes} (hw : Waits mem (p ++ chunk))
    (hparts : ∀ pre post, parts = pre ++ post → pre ≠ [] → Waits mem (p ++ chunk ++ pre.flatten)) :
    ∀ pre post, chunk :: parts = pre ++ post → pre ≠ [] → Waits mem (p ++ pre.flatten) := by
  intro pre post heq hpre
  cases pre with
  | nil => exact absurd rfl hpre
  | cons y pre =>
      obtain ⟨rfl, rfl⟩ := List.cons.inj heq
      rw [List.flatten_cons, ← List.append_assoc]
      by_cases hnil : pre = []
      · rw [hnil, List.flatten_nil, List.append_nil]
        exact hw
      · exact hparts pre post rfl hnil

/-- **The first call.** Where a call is to be made on the bytes in the buffer, the loop waits until it makes it. -/
theorem handleClient_first {x : Call} {xs : List Call} (h : Pending c mem p start)
    (hrun : handleClient c chunks = some c') (hcalls : c'.calls = c.calls ++ x :: xs) (horigin : x.origin = start)
    (hne : ∀ chunk ∈ chunks, chunk ≠ []) :
    ∃ parts last rest c₁, chunks = parts ++ last :: rest ∧
      (∀ pre post, parts = pre ++ post → pre ≠ [] → Waits mem (p ++ pre.flatten)) ∧
      Pending c₁ mem (p ++ parts.flatten) start ∧ c₁.calls = c.calls ∧
      (p ++ parts.flatten ++ last).length ≤ bufSize ∧
      (∃ r, parseHttp (overlay mem (p ++ parts.flatten ++ last)) (p ++ parts.flatten ++ last).length = some r ∧
        r.ret = true ∧ x = callOf (overlay mem (p ++ parts.flatten ++ last)) r.req start
          (start + (p ++ parts.flatten ++ last).length)) ∧
      (clientRound c₁ last).bind (fun c => handleClient c rest) = some c' := by
  induction chunks generalizing p c with
  | nil =>
      obtain rfl := Option.some.inj hrun
      exact absurd hcalls (by simp)
  | cons chunk chunks ih =>
      by_cases hroom : bufSize - c.bufUsed < chunk.length
      · rw [handleClient, if_pos hroom] at hrun
        obtain rfl := Option.some.inj hrun
        exact absurd hcalls (by simp)
      have hpos : 0 < chunk.length := List.length_pos_iff.mpr (hne chunk (List.mem_cons_self ..))
      have hfit : (p ++ chunk).length ≤ bufSize := by
        rw [h.used] at hroom
        rw [List.length_append]
        omega
      rw [handleClient_cons h hfit] at hrun
      obtain ⟨c₁, hround, hrun₁⟩ := Option.bind_eq_some_iff.mp hrun
      -- either the loop waits here too, or this is the chunk
      by_cases hw : Waits mem (p ++ chunk)
      · obtain ⟨c₂, hround₂, h₂, hcalls₂⟩ := clientRound_waits h hw
        obtain rfl := Option.some.inj (hround.symm.trans hround₂)
        obtain ⟨parts, last, rest, c₃, rfl, hwaits, h₃, hcalls₃, hfit₃, hparse, hrun₃⟩ :=
          ih h₂ hrun₁ (hcalls₂.symm ▸ hcalls) (fun y hy => hne y (List.mem_cons_of_mem _ hy))
        refine ⟨chunk :: parts, last, rest, c₃, rfl, ?_, ?_, hcalls₃.trans hcalls₂, ?_, ?_, hrun₃⟩
        · exact waits_cons hw hwaits
        · rw [List.flatten_cons, ← List.append_assoc]
          exact h₃
        · rw [List.flatten_cons, ← List.append_assoc p]
          exact hfit₃
        · rw [List.flatten_cons, ← List.append_assoc p]
          exact hparse
      · refine ⟨[], chunk, chunks, c, rfl, ?_, ?_, rfl, ?_, ?_, ?_⟩
        · intro pre post heq hpre
          exact absurd (List.append_eq_nil_iff.mp heq.symm).1 hpre
        · rw [List.flatten_nil, List.append_nil]
          exact h
        · rw [List.flatten_nil, List.append_nil]
          exact hfit
        · rw [List.flatten_nil, List.append_nil]
          rcases clientRound_not_waits h hw hround with ⟨r, hparse, hret, hcalls₁⟩ | ⟨hused, hreceived, hcalls₁⟩
          · have hused := (clientRound_origin (by rw [h.used, h.received]; omega) hround).1
            obtain ⟨ys, hys, _⟩ := handleClient_origin hused hrun₁
            rw [hcalls₁, List.append_assoc, hcalls] at hys
            have heq := List.append_cancel_left hys
            exact ⟨r, hparse, hret, (List.cons.inj heq).1⟩
          · -- a call behind the buffer that was given up has another origin
            obtain ⟨ys, hys, hbound⟩ := handleClient_origin (by rw [hused]; exact Nat.zero_le _) hrun₁
            rw [hcalls₁, hcalls] at hys
            have hx : x ∈ ys := by
              rw [← List.append_cancel_left hys]
              exact List.mem_cons_self ..
            have hlt := hbound x hx
            rw [hused, hreceived, List.length_append] at hlt
            omega
        · exact hrun

/-- The bytes of requests do not begin with CR LF. -/
theorem not_crlf_wires (qs : List ClientRequest) : ¬ crlf <+: qs.flatMap ClientRequest.wire := by
  cases qs with
  | nil => decide
  | cons q qs =>
      have hpos : 0 < q.requestLine.length := by
        have := List.length_pos_iff.mpr q.method_ok.1
        rw [ClientRequest.requestLine, List.length_append]
        omega
      have hsplit : (q :: qs).flatMap ClientRequest.wire = q.requestLine ++ (crlf ++
          (q.headers.flatMap (fun h => headerLine h ++ crlf) ++
            (crlf ++ (q.body ++ qs.flatMap ClientRequest.wire)))) := by
        simp only [List.flatMap_cons, ClientRequest.wire, ClientRequest.head, List.append_assoc]
      rw [hsplit]
      exact lineText_drop (j := 0) q.requestLine_text hpos

/-- **Without headers the empty line is not recognised**: it is taken for a header, or the search finds another one
    behind it. -/
theorem headless_content {extra : Bytes} {r : Parse} {origin received : Nat} (hnone : q.headers = [])
    (hnext : ¬ crlf <+: extra)
    (hparse : parseHttp (overlay mem (q.wire ++ extra)) (q.wire ++ extra).length = some r) (hret : r.ret = true) :
    (callOf (overlay mem (q.wire ++ extra)) r.req origin received).content ≠ q.content := by
  have hbody : q.body = [] := by
    by_contra hb
    obtain ⟨h, hh, _⟩ := q.body_ok hb
    rw [hnone] at hh
    cases hh
  have hwire : q.wire = q.requestLine ++ crlf ++ crlf := by
    simp only [ClientRequest.wire, ClientRequest.head, hnone, hbody, List.flatMap_nil, List.append_nil]
  let x := extra ++ mem.drop (q.wire ++ extra).length
  have hmem : overlay mem (q.wire ++ extra) = q.wire ++ x := by
    simp only [overlay, x, List.append_assoc]
  have hlen : (q.wire ++ extra).length = q.requestLine.length + 2 + (2 + extra.length) := by
    rw [hwire]
    simp only [List.length_append, crlf, List.length_cons, List.length_nil]
    omega
  have hten : 10 ≤ (q.wire ++ extra).length := by
    by_contra hshort
    rw [parseHttp, if_pos (by omega)] at hparse
    obtain rfl := Option.some.inj hparse
    cases hret
  have hline : RequestLine q.wire q.requestLine crlf :=
    ⟨hwire, lineText_noNul q.requestLine_text, lineText_noCrlf q.requestLine_text⟩
  have hrange : (overlay mem (q.wire ++ extra)).drop (q.requestLine.length + 2) = crlf ++ x := by
    rw [hmem, hwire]
    simp only [List.append_assoc]
    rw [← List.drop_drop, List.drop_left]
    rfl
  rw [hmem, parseHttp_line hten hline, q.afterLine_requestLine] at hparse
  intro hcontent
  simp only [Call.content, callOf, ClientRequest.content, Prod.mk.injEq, hnone, hbody, headerText,
    List.length_nil] at hcontent
  obtain ⟨_, _, hheaders, hbodyLen, _⟩ := hcontent
  -- no byte of the memory is in the range of the headers
  have hzero : ∀ n, r.req.headerStart = some (q.requestLine.length + 2) → r.req.headerLen = n → n = 0 := by
    intro n hstart hn
    rw [hstart, hn] at hheaders
    have htake : (crlf ++ x).take n = [] := by
      rw [← hrange]
      exact hheaders
    rcases List.take_eq_nil_iff.mp htake with hn | hnil
    · exact hn
    · cases hnil
  unfold parseHeaders at hparse
  cases hscan : strstr crlfcrlf (crlf ++ x) with
  | fault =>
      rw [hscan] at hparse
      cases hparse
  | absent nul =>
      rw [hscan] at hparse
      obtain ⟨⟨r', k⟩, hloop, rfl⟩ := Option.map_eq_some_iff.mp hparse
      obtain ⟨_, hframe⟩ := headerLoop_some hloop
      simp only [HTTPReq.frame, Prod.mk.injEq] at hframe
      have hn := hzero _ hframe.2.2.2.1 hframe.2.2.2.2.1
      rw [sizeSub_of_le (by omega), hlen] at hn
      omega
  | found i =>
      rw [hscan] at hparse
      obtain ⟨⟨r', k⟩, hloop, rfl⟩ := Option.map_eq_some_iff.mp hparse
      obtain ⟨_, hframe⟩ := headerLoop_some hloop
      simp only [HTTPReq.frame, Prod.mk.injEq] at hframe
      obtain rfl := hzero _ hframe.2.2.2.1 hframe.2.2.2.2.1
      have hlen0 : sizeSub (q.wire ++ extra).length (q.requestLine.length + 2 + 0 + 4) = 0 :=
        hframe.2.2.2.2.2.2.symm.trans hbodyLen
      obtain ⟨a, c, hfound, ha, _⟩ := strstr_found hscan
      obtain rfl := List.length_eq_zero_iff.mp ha
      have hx : crlf <+: x := ⟨c, List.append_cancel_left (show crlf ++ (crlf ++ c) = crlf ++ x from hfound.symm)⟩
      by_cases hlong : 2 ≤ extra.length
      · exact hnext (List.prefix_of_prefix_length_le hx (List.prefix_append _ _) hlong)
      · rw [sizeSub, if_neg (by omega)] at hlen0
        omega

/-- **A call with the parts of a request** was made on exactly this request, and it fits. -/
theorem content_exact {extra : Bytes} {r : Parse} {origin received : Nat} (hnext : ¬ crlf <+: extra)
    (hle : (q.wire ++ extra).length ≤ bufSize)
    (hparse : parseHttp (overlay mem (q.wire ++ extra)) (q.wire ++ extra).length = some r) (hret : r.ret = true)
    (hcontent : (callOf (overlay mem (q.wire ++ extra)) r.req origin received).content = q.content) :
    extra = [] ∧ q.Fits := by
  by_cases hnone : q.headers = []
  · exact absurd hcontent (headless_content hnone hnext hparse hret)
  obtain ⟨r', hparse', _, _, _, _, hcontent'⟩ := parse_wire hnone mem extra hle
  obtain rfl := Option.some.inj (hparse.symm.trans hparse')
  rw [hcontent' origin received] at hcontent
  simp only [ClientRequest.content, Prod.mk.injEq] at hcontent
  obtain ⟨hmethod, hpath, _, hlen, _⟩ := hcontent
  have hextra : extra = [] := List.length_eq_zero_iff.mp (by omega)
  refine ⟨hextra, hnone, ?_, ?_, ?_⟩
  · have := congrArg List.length hmethod
    rw [List.length_take] at this
    omega
  · have := congrArg List.length hpath
    rw [List.length_take] at this
    omega
  · rw [hextra, List.append_nil] at hle
    exact hle

theorem cutWell_of_handled {qs : List ClientRequest} {xs : List Call} (h : Pending c mem [] start)
    (hne : ∀ chunk ∈ chunks, chunk ≠ []) (hstream : chunks.flatten = qs.flatMap ClientRequest.wire)
    (hrun : handleClient c chunks = some c') (hcalls : c'.calls = c.calls ++ xs) (hhandled : Handled start qs xs) :
    CutWell mem qs chunks := by
  induction qs generalizing mem c start chunks xs with
  | nil =>
      show chunks = []
      cases chunks with
      | nil => rfl
      | cons chunk chunks =>
          have hchunk : chunk = [] := (List.append_eq_nil_iff.mp hstream).1
          exact absurd hchunk (hne chunk (List.mem_cons_self ..))
  | cons q qs ih =>
      cases xs with
      | nil => exact hhandled.elim
      | cons x xs =>
          obtain ⟨hcontent, horigin, hreceived, hrest⟩ := hhandled
          obtain ⟨parts, last, rest, c₁, rfl, hwaits, h₁, hcalls₁, hfit, ⟨r, hparse, hret, hx⟩, hrun₁⟩ :=
            handleClient_first h hrun hcalls horigin hne
          simp only [List.nil_append] at hwaits h₁ hfit hparse hx
          -- the buffer holds the request, and perhaps more of the stream
          have hlong : q.wire.length ≤ (parts.flatten ++ last).length := by
            rw [hx] at hreceived
            exact Nat.le_of_add_le_add_left hreceived
          have hstream' : parts.flatten ++ last ++ rest.flatten = q.wire ++ qs.flatMap ClientRequest.wire := by
            rw [← List.flatMap_cons, ← hstream]
            simp only [List.flatten_append, List.flatten_cons, List.append_assoc]
          obtain ⟨extra, hextra⟩ : q.wire <+: parts.flatten ++ last :=
            List.prefix_of_prefix_length_le ⟨_, hstream'.symm⟩ (List.prefix_append _ _) hlong
          have hbehind : extra ++ rest.flatten = qs.flatMap ClientRequest.wire := by
            rw [← hextra, List.append_assoc] at hstream'
            exact List.append_cancel_left hstream'
          have hnext : ¬ crlf <+: extra := by
            intro hp
            apply not_crlf_wires qs
            rw [← hbehind]
            exact List.prefix_append_of_prefix hp
          rw [← hextra] at hfit hparse hx
          rw [hx] at hcontent
          obtain ⟨rfl, hfits⟩ := content_exact hnext hfit hparse hret hcontent
          rw [List.append_nil] at hextra
          obtain ⟨c₂, x₂, hround, h₂, hcalls₂, _⟩ := clientRound_last h₁ hextra.symm hfits.headers hfits.wire
          rw [hround, Option.bind_some] at hrun₁
          have hused : c₂.bufUsed ≤ c₂.received := by
            rw [h₂.used]
            exact Nat.zero_le _
          obtain ⟨ys, hys, _⟩ := handleClient_origin hused hrun₁
          have hxs : c'.calls = c₂.calls ++ xs := by
            rw [hcalls₂, hcalls₁, List.append_assoc, hcalls] at hys
            have htail := (List.cons.inj (List.append_cancel_left hys)).2
            rw [hcalls, hcalls₂, hcalls₁, List.append_assoc]
            have hhead := (List.cons.inj (List.append_cancel_left hys)).1
            rw [hhead]
            rfl
          have hrest' := ih h₂ (fun y hy => hne y (by simp [hy])) (by simpa using hbehind) hrun₁ hxs hrest
          have hlast : last ≠ [] := hne last (by simp)
          refine ⟨parts, last, rest, rfl, hextra.symm, hfits, ?_, hrest'⟩
          intro pre post heq hpre
          have hpart := part_of_pieces heq hextra.symm
          exact (waits_iff hfits hpart (part_ne heq hextra.symm hlast)).mp (hwaits pre post heq hpre)

end Round

/-- **Plaintext framing.** Whatever the memory held before, each request is handled once, in order, whole and by
    itself, exactly when the chunks cut the stream well. -/
theorem requests_handled_iff (mem : Bytes) {chunks : List Bytes} {qs : List ClientRequest}
    (hne : ∀ chunk ∈ chunks, chunk ≠ []) (hstream : chunks.flatten = qs.flatMap ClientRequest.wire) :
    RequestsHandled mem chunks qs ↔ CutWell mem qs chunks := by
  constructor
  · rintro ⟨c, hrun, hhandled⟩
    exact cutWell_of_handled (pending_init mem) hne hstream hrun (List.nil_append _).symm hhandled
  · intro hcut
    obtain ⟨c, xs, hrun, hcalls, hhandled⟩ := handled_of_cutWell (pending_init mem) hcut
    refine ⟨c, hrun, ?_⟩
    rw [hcalls]
    exact hhandled

section Examples

/-- `GET /info` with a CSeq. -/
def infoRequest : ClientRequest where
  method := ascii "GET"
  path := ascii "/info"
  protocol := ascii "RTSP/1.0"
  headers := [(ascii "CSeq", ascii " 1")]
  body := []
  method_ok := by decide
  path_ok := by decide
  protocol_ok := rtsp_ok
  headers_ok := by decide
  cseq_ok := by
    intro h hh _
    obtain rfl := List.mem_singleton.mp hh
    exact ⟨1, isNumber_blank (by decide) (by decide) (by decide)⟩
  length_ok := by
    intro h hh hname
    obtain rfl := List.mem_singleton.mp hh
    exact absurd hname (by decide)
  body_ok := fun h => absurd rfl h

/-- A POST with two bytes. -/
def feedbackRequest : ClientRequest where
  method := ascii "POST"
  path := ascii "/feedback"
  protocol := ascii "RTSP/1.0"
  headers := [(ascii "Content-Length", ascii " 2")]
  body := [65, 66]
  method_ok := post_ok
  path_ok := by decide
  protocol_ok := rtsp_ok
  headers_ok := by decide
  cseq_ok := by
    intro h hh hname
    obtain rfl := List.mem_singleton.mp hh
    exact absurd hname (by decide)
  length_ok := by
    intro h hh _
    obtain rfl := List.mem_singleton.mp hh
    exact isNumber_blank (by decide) (by decide) (by decide)
  body_ok := fun _ => ⟨_, List.mem_singleton_self _, by decide⟩

/-- A request that is cut in its first bytes, in the empty line behind its headers and in its body is handled. -/
theorem requests_handled_cut :
    RequestsHandled (List.replicate bufSize 0)
      [feedbackRequest.wire.take 4, feedbackRequest.head.dropLast.drop 4, [10, 65], [66]] [feedbackRequest] := by
  have hsize : bufSize = 65536 := rfl
  have hlen : feedbackRequest.wire.length ≤ 100 := by decide
  let line := headerLine (ascii "Content-Length", ascii " 2") ++ crlf
  -- the three parts that have arrived before the last chunk
  have hshort : [feedbackRequest.wire.take 4].flatten.length < 10 := by decide
  have hheaders : [feedbackRequest.wire.take 4, feedbackRequest.head.dropLast.drop 4].flatten =
      feedbackRequest.requestLine ++ crlf ++ (line ++ [13]) := by
    decide
  have hbody : [feedbackRequest.wire.take 4, feedbackRequest.head.dropLast.drop 4, [10, 65]].flatten =
      feedbackRequest.head ++ [65] := by
    decide
  have hawait : feedbackRequest.Awaits (List.replicate bufSize 0)
      (feedbackRequest.requestLine ++ crlf ++ (line ++ [13])) := by
    have h100 : (feedbackRequest.requestLine ++ crlf ++ (line ++ [13])).length ≤ 100 := by decide
    have hstale : (List.replicate bufSize (0 : UInt8)).drop
          (feedbackRequest.requestLine ++ crlf ++ (line ++ [13])).length = 0 :: List.replicate
        (bufSize - (feedbackRequest.requestLine ++ crlf ++ (line ++ [13])).length - 1) 0 := by
      rw [List.drop_replicate, ← List.replicate_succ, Nat.sub_add_cancel (by omega)]
    refine .headers rfl ?_
    rw [hstale]
    have hone : feedbackRequest.headers = [(ascii "Content-Length", ascii " 2")] ++ [] := rfl
    exact (headersAwait_nul [13] _ hone (by decide) (by decide) (by decide) (by decide)).mpr
      ⟨by decide, _, List.mem_singleton_self _, by decide⟩
  apply (requests_handled_iff _ (by decide) (by decide)).mpr
  refine ⟨[feedbackRequest.wire.take 4, feedbackRequest.head.dropLast.drop 4, [10, 65]], [66], [], rfl, by decide,
    ⟨by decide, by decide, by decide, by omega⟩, ?_, rfl⟩
  intro pre post heq hpre
  rcases pre with _ | ⟨a, _ | ⟨b, _ | ⟨c, pre⟩⟩⟩
  · exact absurd rfl hpre
  · obtain ⟨rfl, _⟩ := List.cons.inj heq
    exact .short hshort
  · obtain ⟨rfl, htail⟩ := List.cons.inj heq
    obtain ⟨rfl, _⟩ := List.cons.inj htail
    rw [hheaders]
    exact hawait
  · obtain ⟨rfl, htail⟩ := List.cons.inj heq
    obtain ⟨rfl, hrest⟩ := List.cons.inj htail
    obtain ⟨rfl, hnil⟩ := List.cons.inj hrest
    obtain ⟨rfl, _⟩ : pre = [] ∧ post = [] := List.append_eq_nil_iff.mp hnil.symm
    rw [hbody]
    exact .body rfl (show feedbackRequest.body = [65] ++ [66] from rfl) (by decide)

/-- Two requests in one chunk: the second is not looked at, and the first gets its bytes as a body. -/
theorem requests_not_handled :
    ¬ ∀ (mem : Bytes) (chunks : List Bytes) (qs : List ClientRequest), (∀ chunk ∈ chunks, chunk ≠ []) →
      chunks.flatten = qs.flatMap ClientRequest.wire → RequestsHandled mem chunks qs := by
  intro hall
  let w := infoRequest.wire
  have hne : ∀ chunk ∈ [w ++ w], chunk ≠ [] := by decide
  have hstream : [w ++ w].flatten = [infoRequest, infoRequest].flatMap ClientRequest.wire := by
    simp only [List.flatten_cons, List.flatten_nil, List.append_nil, List.flatMap_cons, List.flatMap_nil, w]
  let mem : Bytes := List.replicate bufSize 0
  obtain ⟨c, hrun, hhandled⟩ := hall mem [w ++ w] [infoRequest, infoRequest] hne hstream
  obtain ⟨parts, last, rest, hchunks, hwire, _⟩ :=
    cutWell_of_handled (pending_init mem) hne hstream hrun (List.nil_append _).symm hhandled
  -- the chunk is longer than the request that is to end with it
  have hlast : last = w ++ w := by
    have hmem : last ∈ [w ++ w] := by
      rw [hchunks]
      simp
    exact List.mem_singleton.mp hmem
  have hlen := congrArg List.length hwire
  have hpos : 0 < w.length := by decide
  rw [hlast, List.length_append, List.length_append] at hlen
  have hw : infoRequest.wire.length = w.length := rfl
  omega

end Examples

end Showcase
