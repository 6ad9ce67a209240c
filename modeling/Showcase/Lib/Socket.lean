import Showcase.Lib.Bytes

/-!
# `Lib.Socket` — a receiving stream socket

What a socket will deliver is a list of events: bytes that have arrived, a timeout (`EAGAIN`), a failure; behind
the last event the peer has closed the connection. `recv` takes at most as many bytes as it is asked for from
the first event, so that every way of cutting a byte stream into `recv` results is a list of events.

## Contents
- `Sock`, `recv` — the events and the call.
- `Sock.stream` — the bytes still to come; `Sock.agains` — where between them the timeouts fall.
- `Sock.skip` — the socket some bytes further on, with its effect on both.
- `recvLoop` — read a fixed number of bytes, the usual loop around `recv`, with its specification.
-/

namespace Lib

/-- What a `recv` can meet: bytes that have arrived (at least one), a timeout, a failure. -/
inductive RecvEvent where
  | data (b : UInt8) (bs : Bytes)
  | again
  | fail
deriving DecidableEq

/-- The events to come; behind them the connection is closed. -/
abbrev Sock := List RecvEvent

namespace Sock

/-- Bytes that are left over go back in front. -/
def push : Bytes → Sock → Sock
  | [], s => s
  | b :: bs, s => .data b bs :: s

/-- The bytes to come, up to the first failure. -/
def stream : Sock → Bytes
  | [] => []
  | .data b bs :: s => b :: bs ++ stream s
  | .again :: s => stream s
  | .fail :: _ => []

/-- For every timeout to come, the number of bytes in front of it. -/
def agains : Sock → List Nat
  | [] => []
  | .data _ bs :: s => (agains s).map (· + (bs.length + 1))
  | .again :: s => 0 :: agains s
  | .fail :: _ => []

/-- A bound on the number of `recv` calls that find something. -/
def work : Sock → Nat
  | [] => 0
  | .data _ bs :: s => bs.length + 1 + work s
  | .again :: s => 1 + work s
  | .fail :: s => 1 + work s

/-- The socket `n` bytes further on; timeouts behind the last of them are still to come. -/
def skip : Nat → Sock → Sock
  | 0, s => s
  | _ + 1, [] => []
  | n + 1, .data _ bs :: s => if bs.length ≤ n then skip (n - bs.length) s else push (bs.drop n) s
  | n + 1, .again :: s => skip (n + 1) s
  | _ + 1, .fail :: s => .fail :: s

@[simp] theorem stream_push (bs : Bytes) (s : Sock) : stream (push bs s) = bs ++ stream s := by
  cases bs with
  | nil => rfl
  | cons b bs => rfl

@[simp] theorem work_push (bs : Bytes) (s : Sock) : work (push bs s) = bs.length + work s := by
  cases bs with
  | nil => simp [push]
  | cons b bs => simp [push, work]

@[simp] theorem agains_push (bs : Bytes) (s : Sock) : agains (push bs s) = (agains s).map (· + bs.length) := by
  cases bs with
  | nil => simp [push]
  | cons b bs => simp [push, agains]

@[simp] theorem skip_zero (s : Sock) : skip 0 s = s := by
  cases s with
  | nil => rfl
  | cons e s => rfl

@[simp] theorem stream_skip (n : Nat) (s : Sock) : stream (skip n s) = (stream s).drop n := by
  induction s generalizing n with
  | nil =>
      cases n with
      | zero => rfl
      | succ n => rfl
  | cons e s ih =>
      cases n with
      | zero => rfl
      | succ n =>
          cases e with
          | data b bs =>
              simp only [skip, stream, List.cons_append, List.drop_succ_cons, List.drop_append]
              split
              · rename_i h
                rw [ih, List.drop_eq_nil_of_le h, List.nil_append]
              · rename_i h
                rw [stream_push, Nat.sub_eq_zero_of_le (by omega), List.drop_zero]
          | again => exact ih (n + 1)
          | fail => rfl

/-- A timeout behind the skipped bytes keeps its place. -/
theorem mem_agains_skip {p n : Nat} {s : Sock} : p ∈ agains (skip n s) ↔ p + n ∈ agains s := by
  induction s generalizing n with
  | nil =>
      cases n with
      | zero => simp
      | succ n => simp [skip, agains]
  | cons e s ih =>
      cases n with
      | zero => simp
      | succ n =>
          cases e with
          | data b bs =>
              have hshift : p + (n + 1) ∈ agains (.data b bs :: s) ↔
                  ∃ q ∈ agains s, q + (bs.length + 1) = p + (n + 1) := by
                simp [agains]
              rw [hshift, skip]
              split
              · rename_i h
                rw [ih]
                constructor
                · intro hp
                  exact ⟨_, hp, by omega⟩
                · rintro ⟨q, hq, heq⟩
                  rwa [show p + (n - bs.length) = q by omega]
              · rename_i h
                rw [agains_push, List.mem_map]
                have hlen : (bs.drop n).length = bs.length - n := List.length_drop
                constructor
                · rintro ⟨q, hq, heq⟩
                  have hp : q + (bs.length + 1) = p + (n + 1) := by omega
                  exact ⟨q, hq, hp⟩
                · rintro ⟨q, hq, heq⟩
                  have hp : q + (bs.drop n).length = p := by omega
                  exact ⟨q, hq, hp⟩
          | again =>
              rw [skip, ih]
              simp [agains]
          | fail => simp [skip, agains]

/-- No failure is still to come when none was. -/
theorem fail_not_mem_skip {n : Nat} {s : Sock} (h : RecvEvent.fail ∉ s) : RecvEvent.fail ∉ skip n s := by
  induction s generalizing n with
  | nil =>
      cases n with
      | zero => exact h
      | succ n => exact h
  | cons e s ih =>
      have hs : RecvEvent.fail ∉ s := fun hm => h (List.mem_cons_of_mem _ hm)
      cases n with
      | zero => exact h
      | succ n =>
          cases e with
          | data b bs =>
              simp only [skip]
              split
              · exact ih hs
              · cases hd : bs.drop n with
                | nil => exact hs
                | cons c cs => simpa [push] using hs
          | again => exact ih hs
          | fail => exact absurd (List.mem_cons_self ..) h

end Sock

/-! ## recv -/

/-- The result of one `recv`. -/
inductive Recv where
  | data (b : Bytes)
  /-- 0 bytes: the peer closed the connection, or none were asked for. -/
  | closed
  | again
  | fail

/-- `recv(sock, buf, n, 0)`: at most `n` bytes of the first event. -/
def recv : Sock → Nat → Recv × Sock
  | s, 0 => (.closed, s)
  | [], _ + 1 => (.closed, [])
  | .data b bs :: s, n + 1 => (.data (b :: bs.take n), Sock.push (bs.drop n) s)
  | .again :: s, _ + 1 => (.again, s)
  | .fail :: s, _ + 1 => (.fail, s)

/-- A `recv` that finds bytes or a timeout makes progress. -/
theorem recv_work {s s' : Sock} {n : Nat} {r : Recv} (h : recv s n = (r, s')) (hr : r ≠ .closed) :
    s'.work < s.work := by
  cases n with
  | zero =>
      simp only [recv, Prod.mk.injEq] at h
      exact absurd h.1.symm hr
  | succ n =>
      cases s with
      | nil =>
          simp only [recv, Prod.mk.injEq] at h
          exact absurd h.1.symm hr
      | cons e s =>
          cases e with
          | data b bs =>
              simp only [recv, Prod.mk.injEq] at h
              have hlen : (bs.drop n).length = bs.length - n := List.length_drop
              rw [← h.2, Sock.work_push, Sock.work]
              omega
          | again =>
              simp only [recv, Prod.mk.injEq] at h
              rw [← h.2, Sock.work]
              omega
          | fail =>
              simp only [recv, Prod.mk.injEq] at h
              rw [← h.2, Sock.work]
              omega

/-! ## Reading a fixed number of bytes

The loop recurs on `work`, which counts the events that are left, and is unfolded one round at a time. The induction
behind the results is on the events: an event of bytes is used up, or is larger than what is wanted and ends the loop.
-/

/-- How a loop that reads a fixed number of bytes ends. -/
inductive LoopResult where
  | ok (b : Bytes)
  | timeout
  | error
deriving DecidableEq

/-- Read until `want` bytes are there. The connection's end and a failure are errors; a timeout is reported when
    nothing was read before it, and waited out otherwise. -/
def recvLoop (want : Nat) (sock : Sock) (got : Bytes) : LoopResult × Sock :=
  if got.length < want then
    match _hr : recv sock (want - got.length) with
    | (.data b, s) => recvLoop want s (got ++ b)
    | (.closed, s) => (.error, s)
    | (.again, s) => if got.length = 0 then (.timeout, s) else recvLoop want s got
    | (.fail, s) => (.error, s)
  else (.ok got, sock)
termination_by sock.work
decreasing_by
  · exact recv_work _hr (by simp)
  · exact recv_work _hr (by simp)

variable {want : Nat} {s s' : Sock} {got b : Bytes}

/-- One round of the loop. -/
theorem recvLoop_round (h : got.length < want) : recvLoop want s got =
    match recv s (want - got.length) with
    | (.data b, s) => recvLoop want s (got ++ b)
    | (.closed, s) => (.error, s)
    | (.again, s) => if got.length = 0 then (.timeout, s) else recvLoop want s got
    | (.fail, s) => (.error, s) := by
  rw [recvLoop, if_pos h]
  split
  · rename_i hr
    rw [hr]
  · rename_i hr
    rw [hr]
  · rename_i hr
    rw [hr]
  · rename_i hr
    rw [hr]

theorem recvLoop_done (h : want ≤ got.length) : recvLoop want s got = (.ok got, s) := by
  rw [recvLoop, if_neg (by omega)]

theorem recvLoop_closed (h : got.length < want) : recvLoop want [] got = (.error, []) := by
  obtain ⟨n, hn⟩ : ∃ n, want - got.length = n + 1 := ⟨want - got.length - 1, by omega⟩
  rw [recvLoop_round h, hn]
  rfl

theorem recvLoop_fail (h : got.length < want) : recvLoop want (.fail :: s) got = (.error, s) := by
  obtain ⟨n, hn⟩ : ∃ n, want - got.length = n + 1 := ⟨want - got.length - 1, by omega⟩
  rw [recvLoop_round h, hn]
  rfl

theorem recvLoop_timeout (h : 0 < want) : recvLoop want (.again :: s) [] = (.timeout, s) := by
  obtain ⟨n, rfl⟩ : ∃ n, want = n + 1 := ⟨want - 1, by omega⟩
  rw [recvLoop_round h]
  rfl

theorem recvLoop_again (h : got.length < want) (hgot : got ≠ []) :
    recvLoop want (.again :: s) got = recvLoop want s got := by
  obtain ⟨n, hn⟩ : ∃ n, want - got.length = n + 1 := ⟨want - got.length - 1, by omega⟩
  rw [recvLoop_round h, hn]
  exact if_neg (fun h0 => hgot (List.length_eq_zero_iff.mp h0))

/-- One `recv` that finds bytes. -/
theorem recvLoop_data {c : UInt8} {cs : Bytes} {n : Nat} (hn : want = got.length + (n + 1)) :
    recvLoop want (.data c cs :: s) got
      = recvLoop want (Sock.push (cs.drop n) s) (got ++ c :: cs.take n) := by
  have hsub : want - got.length = n + 1 := by omega
  rw [recvLoop_round (by omega), hsub]
  rfl

/-- **The loop delivers the next bytes of the stream**, however they are cut and whatever timeouts fall between
    them, unless the very first event is a timeout. -/
theorem recvLoop_ok (hlen : got.length ≤ want) (hstart : got = [] → s.head? ≠ some .again)
    (henough : want ≤ got.length + s.stream.length) :
    recvLoop want s got
      = (.ok (got ++ s.stream.take (want - got.length)), s.skip (want - got.length)) := by
  induction s generalizing got with
  | nil =>
      have hw : want = got.length := by
        simp only [Sock.stream, List.length_nil] at henough
        omega
      rw [recvLoop_done (by omega), hw, Nat.sub_self]
      simp
  | cons e s ih =>
      rcases Nat.lt_or_ge got.length want with hlt | hge
      case inr =>
          rw [recvLoop_done hge, Nat.sub_eq_zero_of_le hge]
          simp
      obtain ⟨n, hn⟩ : ∃ n, want = got.length + (n + 1) := ⟨want - got.length - 1, by omega⟩
      have hsub : want - got.length = n + 1 := by omega
      cases e with
      | again =>
          have hgot : got ≠ [] := fun h => hstart h rfl
          rw [recvLoop_again hlt hgot, ih hlen (fun h => absurd h hgot) henough, hsub]
          rfl
      | fail =>
          simp only [Sock.stream, List.length_nil] at henough
          omega
      | data c cs =>
          rw [recvLoop_data hn, hsub]
          simp only [Sock.stream, List.length_append, List.length_cons] at henough
          simp only [Sock.skip, Sock.stream, List.cons_append, List.take_succ_cons, List.take_append]
          by_cases hcs : cs.length ≤ n
          · -- the event is used up
            rw [List.drop_eq_nil_of_le hcs, List.take_of_length_le hcs, if_pos hcs]
            have hlen' : (got ++ c :: cs).length = got.length + (cs.length + 1) := by simp
            have hrest : want - (got ++ c :: cs).length = n - cs.length := by omega
            rw [Sock.push, ih (by omega) (fun h => absurd h (by simp)) (by omega), hrest]
            simp
          · -- the event holds more than is asked for
            have hlen' : (got ++ c :: cs.take n).length = want := by
              simp only [List.length_append, List.length_cons, List.length_take]
              omega
            rw [recvLoop_done (by omega), if_neg hcs, Nat.sub_eq_zero_of_le (by omega), List.take_zero]
            simp

/-- What the loop returns is the front of the stream; a timeout it reports was the very next event. -/
theorem recvLoop_inv {r : LoopResult} (h : recvLoop want s got = (r, s')) (hlen : got.length ≤ want) :
    (∀ data, r = .ok data → data.length = want ∧ got ++ s.stream = data ++ s'.stream) ∧
      (r = .timeout → got = [] ∧ s = .again :: s') ∧ (RecvEvent.again ∈ s' → RecvEvent.again ∈ s) := by
  induction s generalizing got with
  | nil =>
      rcases Nat.lt_or_ge got.length want with hlt | hge
      · rw [recvLoop_closed hlt, Prod.mk.injEq] at h
        obtain ⟨rfl, rfl⟩ := h
        simp
      · rw [recvLoop_done hge, Prod.mk.injEq] at h
        obtain ⟨rfl, rfl⟩ := h
        simpa using Nat.le_antisymm hlen hge
  | cons e s ih =>
      rcases Nat.lt_or_ge got.length want with hlt | hge
      case inr =>
          rw [recvLoop_done hge, Prod.mk.injEq] at h
          obtain ⟨rfl, rfl⟩ := h
          simpa using Nat.le_antisymm hlen hge
      cases e with
      | again =>
          by_cases hgot : got = []
          · subst hgot
            rw [recvLoop_timeout (by simpa using hlt), Prod.mk.injEq] at h
            obtain ⟨rfl, rfl⟩ := h
            simp
          · rw [recvLoop_again hlt hgot] at h
            obtain ⟨hok, htime, hmem⟩ := ih h hlen
            exact ⟨hok, fun ht => absurd (htime ht).1 hgot, fun hm => List.mem_cons_of_mem _ (hmem hm)⟩
      | fail =>
          rw [recvLoop_fail hlt, Prod.mk.injEq] at h
          obtain ⟨rfl, rfl⟩ := h
          exact ⟨fun _ hd => absurd hd (by simp), fun ht => absurd ht (by simp),
            fun hm => List.mem_cons_of_mem _ hm⟩
      | data c cs =>
          obtain ⟨n, hn⟩ : ∃ n, want = got.length + (n + 1) := ⟨want - got.length - 1, by omega⟩
          rw [recvLoop_data hn] at h
          by_cases hcs : cs.length ≤ n
          · rw [List.drop_eq_nil_of_le hcs, List.take_of_length_le hcs, Sock.push] at h
            have hlen' : (got ++ c :: cs).length = got.length + (cs.length + 1) := by simp
            obtain ⟨hok, htime, hmem⟩ := ih h (by omega)
            refine ⟨?_, fun ht => absurd (htime ht).1 (by simp), fun hm => List.mem_cons_of_mem _ (hmem hm)⟩
            intro data hd
            obtain ⟨hdl, heq⟩ := hok data hd
            refine ⟨hdl, ?_⟩
            rw [← heq]
            simp [Sock.stream]
          · have hlen' : (got ++ c :: cs.take n).length = want := by
              simp only [List.length_append, List.length_cons, List.length_take]
              omega
            rw [recvLoop_done (by omega), Prod.mk.injEq] at h
            obtain ⟨rfl, rfl⟩ := h
            refine ⟨?_, fun ht => absurd ht (by simp), fun hm => ?_⟩
            case refine_2 =>
                cases hd : cs.drop n with
                | nil => exact List.mem_cons_of_mem _ (by simpa [hd, Sock.push] using hm)
                | cons d ds => exact List.mem_cons_of_mem _ (by simpa [hd, Sock.push] using hm)
            intro data hd
            obtain rfl := LoopResult.ok.inj hd
            refine ⟨hlen', ?_⟩
            have hcut : cs.take n ++ (cs.drop n ++ Sock.stream s) = cs ++ Sock.stream s := by
              rw [← List.append_assoc, List.take_append_drop]
            simp [Sock.stream, hcut]

/-- A loop that had to read and did not fail made progress. -/
theorem recvLoop_work {r : LoopResult} (h : recvLoop want s got = (r, s')) (hlt : got.length < want)
    (hr : r ≠ .error) : s'.work < s.work := by
  fun_induction recvLoop want s got with
  | case1 s got hgot b s₁ hrecv ih =>
      have hs₁ := recv_work hrecv (by simp)
      rcases Nat.lt_or_ge (got ++ b).length want with hlt' | hge
      · exact Nat.lt_trans (ih h hlt') hs₁
      · rw [recvLoop_done hge, Prod.mk.injEq] at h
        rw [← h.2]
        exact hs₁
  | case2 s got hgot s₁ hrecv =>
      rw [Prod.mk.injEq] at h
      exact absurd h.1.symm hr
  | case3 s got hgot s₁ hrecv hzero =>
      rw [Prod.mk.injEq] at h
      rw [← h.2]
      exact recv_work hrecv (by simp)
  | case4 s got hgot s₁ hrecv hzero ih => exact Nat.lt_trans (ih h hgot) (recv_work hrecv (by simp))
  | case5 s got hgot s₁ hrecv =>
      rw [Prod.mk.injEq] at h
      exact absurd h.1.symm hr
  | case6 s got hgot => exact absurd hlt hgot

end Lib
