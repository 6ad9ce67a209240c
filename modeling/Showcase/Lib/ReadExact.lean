import Showcase.Lib.Socket

/-!
# `Lib.ReadExact` — reading a fixed number of bytes, or giving up

The other loop around `recv`: whatever is not data ends it, a timeout as well as a failure. What it can ever see
of a socket are the bytes in front of the first such event.

* `readExact_ok` — it returns the next bytes, however they are cut.
* `readExact_short` — it fails when fewer than that arrive.
-/

namespace Lib

namespace Sock

/-- The bytes that arrive before a timeout, a failure or the end of the connection. -/
def arriving : Sock → Bytes
  | [] => []
  | .data b bs :: s => b :: bs ++ arriving s
  | .again :: _ => []
  | .fail :: _ => []

@[simp] theorem arriving_push (bs : Bytes) (s : Sock) : arriving (push bs s) = bs ++ arriving s := by
  cases bs with
  | nil => rfl
  | cons b bs => rfl

end Sock

/-- One `recv`: the next bytes, when there are any in front of the end. -/
theorem recv_arriving {s s' : Sock} {n : Nat} {r : Recv} (hn : 0 < n) (h : recv s n = (r, s')) :
    (∃ b, r = .data b ∧ b.length ≤ n ∧ s.arriving = b ++ s'.arriving) ∨
      ((∀ b, r ≠ .data b) ∧ s.arriving = []) := by
  obtain ⟨n, rfl⟩ : ∃ m, n = m + 1 := ⟨n - 1, by omega⟩
  cases s with
  | nil =>
      simp only [recv, Prod.mk.injEq] at h
      exact .inr ⟨fun b hb => by simp [← h.1] at hb, rfl⟩
  | cons e s =>
      cases e with
      | data c cs =>
          simp only [recv, Prod.mk.injEq] at h
          refine .inl ⟨c :: cs.take n, h.1.symm, ?_, ?_⟩
          · rw [List.length_cons, List.length_take]
            omega
          · rw [← h.2, Sock.arriving_push, Sock.arriving, List.cons_append, List.cons_append,
              ← List.append_assoc, List.take_append_drop]
      | again =>
          simp only [recv, Prod.mk.injEq] at h
          exact .inr ⟨fun b hb => by simp [← h.1] at hb, rfl⟩
      | fail =>
          simp only [recv, Prod.mk.injEq] at h
          exact .inr ⟨fun b hb => by simp [← h.1] at hb, rfl⟩

/-- The end of a connection leaves nothing behind. -/
theorem recv_closed_work {s s' : Sock} {n : Nat} (h : recv s n = (.closed, s')) : s'.work ≤ s.work := by
  cases n with
  | zero => exact Nat.le_of_eq (congrArg Sock.work (Prod.mk.inj h).2.symm)
  | succ n =>
      cases s with
      | nil => exact Nat.le_of_eq (congrArg Sock.work (Prod.mk.inj h).2.symm)
      | cons e s =>
          cases e with
          | data b bs => exact absurd (Prod.mk.inj h).1 (by simp)
          | again => exact absurd (Prod.mk.inj h).1 (by simp)
          | fail => exact absurd (Prod.mk.inj h).1 (by simp)

/-- Read until `want` bytes are there; without them there is no result. -/
def readExact (want : Nat) (sock : Sock) (got : Bytes) : Option Bytes × Sock :=
  if got.length < want then
    match _hr : recv sock (want - got.length) with
    | (.data b, s) => readExact want s (got ++ b)
    | (.closed, s) => (none, s)
    | (.again, s) => (none, s)
    | (.fail, s) => (none, s)
  else (some got, sock)
termination_by sock.work
decreasing_by exact recv_work _hr (by simp)

variable {want : Nat} {s s' : Sock} {got b : Bytes}

theorem readExact_done (h : want ≤ got.length) : readExact want s got = (some got, s) := by
  rw [readExact, if_neg (by omega)]

/-- The loop on the bytes that arrive: it returns the next ones when there are enough of them. -/
theorem readExact_arriving (want : Nat) (s : Sock) (got : Bytes) (hlen : got.length ≤ want) :
    (want ≤ (got ++ s.arriving).length ∧
        ∃ s', readExact want s got = (some ((got ++ s.arriving).take want), s') ∧
          s'.arriving = (got ++ s.arriving).drop want) ∨
      ((got ++ s.arriving).length < want ∧ (readExact want s got).1 = none) := by
  fun_induction readExact want s got with
  | case1 s got hlt b s₁ hr ih =>
      obtain ⟨b', heq, hb, hs⟩ | ⟨hno, _⟩ := recv_arriving (by omega) hr
      · cases heq
        have hlen' : (got ++ b).length ≤ want := by
          rw [List.length_append]
          omega
        rw [hs, ← List.append_assoc]
        exact ih hlen'
      · exact absurd rfl (hno b)
  | case2 s got hlt s₁ hr =>
      obtain ⟨b', heq, _⟩ | ⟨_, hs⟩ := recv_arriving (by omega) hr
      · cases heq
      · exact .inr ⟨by rwa [hs, List.append_nil], rfl⟩
  | case3 s got hlt s₁ hr =>
      obtain ⟨b', heq, _⟩ | ⟨_, hs⟩ := recv_arriving (by omega) hr
      · cases heq
      · exact .inr ⟨by rwa [hs, List.append_nil], rfl⟩
  | case4 s got hlt s₁ hr =>
      obtain ⟨b', heq, _⟩ | ⟨_, hs⟩ := recv_arriving (by omega) hr
      · cases heq
      · exact .inr ⟨by rwa [hs, List.append_nil], rfl⟩
  | case5 s got hge =>
      have hwant : want = got.length := by omega
      refine .inl ⟨by rw [List.length_append]; omega, s, ?_, ?_⟩
      · rw [hwant, List.take_left]
      · rw [hwant, List.drop_left]

/-- **The loop returns the next bytes**, however they are cut. -/
theorem readExact_ok {front rest : Bytes} (hs : s.arriving = front ++ rest) (hfront : front.length = want) :
    ∃ s', readExact want s [] = (some front, s') ∧ s'.arriving = rest := by
  obtain ⟨_, s', hread, hs'⟩ | ⟨hshort, _⟩ := readExact_arriving want s [] (Nat.zero_le want)
  · rw [List.nil_append, hs, ← hfront, List.take_left] at hread
    rw [List.nil_append, hs, ← hfront, List.drop_left] at hs'
    exact ⟨s', hfront ▸ hread, hs'⟩
  · rw [List.nil_append, hs, List.length_append] at hshort
    omega

/-- **`read_exact` fails** when fewer bytes arrive. -/
theorem readExact_short (hs : s.arriving.length < want) : (readExact want s []).1 = none := by
  obtain ⟨hle, _⟩ | ⟨_, hnone⟩ := readExact_arriving want s [] (Nat.zero_le want)
  · rw [List.nil_append] at hle
    omega
  · exact hnone

/-- A loop that gives up goes on where it stopped. -/
theorem readExact_work_le {r : Option Bytes} (h : readExact want s got = (r, s')) : s'.work ≤ s.work := by
  fun_induction readExact want s got with
  | case1 s got hgot b₁ s₁ hr ih => exact (ih h).trans (Nat.le_of_lt (recv_work hr (by simp)))
  | case2 s got hgot s₁ hr =>
      rw [← (Prod.mk.inj h).2]
      exact recv_closed_work hr
  | case3 s got hgot s₁ hr =>
      rw [← (Prod.mk.inj h).2]
      exact Nat.le_of_lt (recv_work hr (by simp))
  | case4 s got hgot s₁ hr =>
      rw [← (Prod.mk.inj h).2]
      exact Nat.le_of_lt (recv_work hr (by simp))
  | case5 s got hge =>
      rw [(Prod.mk.inj h).2]

/-- A loop that had something to read made progress. -/
theorem readExact_work (h : readExact want s got = (some b, s')) (hlt : got.length < want) : s'.work < s.work := by
  fun_induction readExact want s got with
  | case1 s got hgot b₁ s₁ hr ih =>
      have hs₁ := recv_work hr (by simp)
      rcases Nat.lt_or_ge (got ++ b₁).length want with hlt' | hge
      · exact Nat.lt_trans (ih h hlt') hs₁
      · rw [readExact, if_neg (by omega), Prod.mk.injEq] at h
        rw [← h.2]
        exact hs₁
  | case2 s got hgot s₁ hr => cases h
  | case3 s got hgot s₁ hr => cases h
  | case4 s got hgot s₁ hr => cases h
  | case5 s got hge => exact absurd hlt hge

end Lib
