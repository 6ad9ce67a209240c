import Mathlib.Data.Finset.Card
import Mathlib.Tactic.Common
import Showcase.Lib.Bytes
import Showcase.Lib.History

/-!
# `Services.Timing` — the timing socket

Two sides use the UDP socket for timing: the responder thread (`timing_thread_func`), which receives every packet,
and `RECORD`, which sends five requests from it and waits until three answers are counted
(`timing_negotiate_blocking`). The counter is a global: each negotiation sets it to 0, and for a packet of type 211
the thread reads it and writes it back with one more, in two steps. Which request a packet answers is no part of
it; the model notes it beside the packet (`answers`).

* `timingStep` — one step of a thread or of a negotiation; the steps of all of them come in any order.
* `Genuine` — that a step counts an answer to the negotiation under way, or resets the counter undisturbed.
* `negotiation_answered` — in a run of genuine steps a negotiation that returns true has three answers of its own.
-/

namespace Showcase

open Lib

/-! ## Packets -/

/-- `get_ntp_time`: seconds and fraction. -/
structure NtpTime where
  sec : UInt32
  frac : UInt32

/-- As it stands in a packet. -/
def NtpTime.bytes (t : NtpTime) : Bytes := toBE 4 t.sec.toNat ++ toBE 4 t.frac.toNat

/-- A timing request, with the time it is sent. -/
def timingRequest (now : NtpTime) : Bytes := [0x80, 0xD2, 0x00, 0x07] ++ List.replicate 20 0 ++ now.bytes

/-- `resp`: the request's transmit time goes back as the originate time. -/
def timingResponse (buf : Bytes) (received transmit : NtpTime) : Bytes :=
  [buf.getD 0 0, 211] ++ (buf.drop 2).take 6 ++ (buf.drop 24).take 8 ++ received.bytes ++ transmit.bytes

/-- What `recvfrom` returns: the bytes, and the request the phone answers with them, if it does (the call, and the
number of the request in it). -/
structure TimingPacket where
  bytes : Bytes
  answers : Option (Nat × Nat)

/-- `n >= 32 && buf[1] == 211`. -/
def TimingPacket.counts (p : TimingPacket) : Prop := 32 ≤ p.bytes.length ∧ p.bytes.getD 1 0 = 211

instance (p : TimingPacket) : Decidable p.counts := inferInstanceAs (Decidable (_ ∧ _))

/-! ## The negotiations and the responder -/

/-- Where a call of `timing_negotiate_blocking` is. -/
inductive NegotiationPhase where
  | idle
  /-- `i` of the five requests are through. -/
  | sending (i : Nat)
  | waiting (waitMs : Nat)
  /-- The loop is left, the counter not yet read for the result. -/
  | leaving
  | returned (ok : Bool)
deriving DecidableEq

/-- The counter has been reset by the call and will still be read by it. -/
def NegotiationPhase.InProgress : NegotiationPhase → Prop
  | .sending _ | .waiting _ | .leaving => True
  | .idle | .returned _ => False

/-- What the guards of the call see. -/
structure NegotiationEnv where
  iphoneTimingPort : UInt16
  iphoneIp : Bytes
  timingFd : Int
  /-- `build_peer_sockaddr` could read the address. -/
  destination : Bool

/-- The call goes on to the requests. -/
def NegotiationEnv.ready (e : NegotiationEnv) : Prop :=
  e.iphoneTimingPort ≠ 0 ∧ e.iphoneIp ≠ [] ∧ 0 ≤ e.timingFd ∧ e.destination = true

instance (e : NegotiationEnv) : Decidable e.ready := inferInstanceAs (Decidable (_ ∧ _))

/-- `g_timing_sync_count`, the threads and the calls. The requests sent and those an answer has come in for are kept
for the statements only. -/
structure TimingState where
  timingSyncCount : Nat
  /-- What a responder thread has read of the counter and not yet written back. -/
  reading : Nat → Option Nat
  phase : Nat → NegotiationPhase
  sent : List (Nat × Nat)
  answered : List (Nat × Nat)

def TimingState.initial : TimingState := ⟨0, fun _ => none, fun _ => .idle, [], []⟩

/-- The call goes on to `p`. -/
def TimingState.enter (s : TimingState) (c : Nat) (p : NegotiationPhase) : TimingState :=
  { s with phase := Function.update s.phase c p }

/-- A step of one of them. -/
inductive TimingEvent where
  /-- `timing_negotiate_blocking` is called. -/
  | call (c : Nat) (e : NegotiationEnv)
  /-- The next request; `ok` is whether `sendto` took it. -/
  | send (c : Nat) (now : NtpTime) (ok : Bool)
  /-- The test of the waiting loop. -/
  | poll (c : Nat)
  /-- `return (g_timing_sync_count >= 3)`. -/
  | ret (c : Nat)
  /-- A thread receives a packet and, when it counts, reads the counter. -/
  | recv (t : Nat) (p : TimingPacket) (received transmit : NtpTime)
  /-- The other half of `g_timing_sync_count++`. -/
  | store (t : Nat)

/-- One step, and the packets it sends; nothing when the call or thread is elsewhere. -/
def timingStep (s : TimingState) : TimingEvent → Option (TimingState × List Bytes)
  | .call c e =>
      if s.phase c = .idle then
        if e.ready then some ({ s with timingSyncCount := 0 }.enter c (.sending 0), [])
        else some (s.enter c (.returned false), [])
      else none
  | .send c now ok =>
      match s.phase c with
      | .sending i =>
          let s := s.enter c (if i + 1 < 5 then .sending (i + 1) else .waiting 0)
          if ok then some ({ s with sent := (c, i) :: s.sent }, [timingRequest now]) else some (s, [])
      | _ => none
  | .poll c =>
      match s.phase c with
      | .waiting waitMs =>
          if s.timingSyncCount < 3 ∧ waitMs < 2000 then some (s.enter c (.waiting (waitMs + 50)), [])
          else some (s.enter c .leaving, [])
      | _ => none
  | .ret c =>
      if s.phase c = .leaving then some (s.enter c (.returned (decide (3 ≤ s.timingSyncCount))), []) else none
  | .recv t p received transmit =>
      if s.reading t = none then
        let s := { s with answered := p.answers.toList.filter (· ∈ s.sent) ++ s.answered }
        if p.counts then some ({ s with reading := Function.update s.reading t (some s.timingSyncCount) }, [])
        else if 32 ≤ p.bytes.length ∧ p.bytes.getD 1 0 = 210 then
          some (s, [timingResponse p.bytes received transmit])
        else some (s, [])
      else none
  | .store t =>
      match s.reading t with
      | some v => some ({ s with timingSyncCount := v + 1, reading := Function.update s.reading t none }, [])
      | none => none

/-- Runs of the two sides from the start. -/
abbrev TimingRun : List (Step TimingState TimingEvent) → TimingState → Prop :=
  Run (fun s ev s' => ∃ outs, timingStep s ev = some (s', outs)) TimingState.initial

/-! ## The answers of a call

The counter is compared with the answers that have really come. With one negotiation at a time, and with a reset that
no thread writes over, it is never ahead of them. -/

/-- How many of the five requests of a call went out and were answered. -/
def answersOf (s : TimingState) (c : Nat) : Nat :=
  ((Finset.range 5).filter fun i => (c, i) ∈ s.sent ∧ (c, i) ∈ s.answered).card

/-- The step counts an answer of the phone to a request of the negotiation under way, one that was not answered
before; and a negotiation begins when no other is under way and no thread is within `g_timing_sync_count++`. -/
def Genuine (s : TimingState) : TimingEvent → Prop
  | .recv _ p _ _ => p.counts → ∀ c, (s.phase c).InProgress →
      ∃ i, p.answers = some (c, i) ∧ (c, i) ∈ s.sent ∧ (c, i) ∉ s.answered
  | .call _ e => e.ready → (∀ c, ¬ (s.phase c).InProgress) ∧ ∀ t, s.reading t = none
  | _ => True

/-- What the counter is worth. -/
structure TimingInv (s : TimingState) : Prop where
  /-- One negotiation at a time. -/
  single : ∀ c c', (s.phase c).InProgress → (s.phase c').InProgress → c = c'
  five : ∀ c i, s.phase c = .sending i ∨ (c, i) ∈ s.sent → i < 5
  count : ∀ c, (s.phase c).InProgress → s.timingSyncCount ≤ answersOf s c
  reading : ∀ c, (s.phase c).InProgress → ∀ t v, s.reading t = some v → v + 1 ≤ answersOf s c
  returned : ∀ c, s.phase c = .returned true → 3 ≤ answersOf s c

theorem timingInv_initial : TimingInv .initial where
  single _ _ h := h.elim
  five _ _ h := h.elim nofun fun h => (List.not_mem_nil h).elim
  count _ h := h.elim
  reading _ h := h.elim
  returned _ h := nomatch h

/-- Requests and answers are not taken back. -/
theorem answersOf_mono {s s' : TimingState} (hsent : s.sent ⊆ s'.sent) (hans : s.answered ⊆ s'.answered) (c : Nat) :
    answersOf s c ≤ answersOf s' c := by
  apply Finset.card_le_card
  intro i hi
  obtain ⟨hrange, hs, ha⟩ := Finset.mem_filter.mp hi
  exact Finset.mem_filter.mpr ⟨hrange, hsent hs, hans ha⟩

/-- Another answer to a request of the call. -/
theorem answersOf_answer {s s' : TimingState} {c i : Nat} (hi : i < 5) (hsent : (c, i) ∈ s.sent)
    (hnew : (c, i) ∉ s.answered) (hs : s'.sent = s.sent) (ha : s'.answered = (c, i) :: s.answered) :
    answersOf s c + 1 ≤ answersOf s' c := by
  unfold answersOf
  rw [hs, ha, ← Finset.card_insert_of_notMem (a := i) fun h => hnew (Finset.mem_filter.mp h).2.2]
  apply Finset.card_le_card
  intro j hj
  rcases Finset.mem_insert.mp hj with rfl | hj
  · exact Finset.mem_filter.mpr ⟨Finset.mem_range.mpr hi, hsent, List.mem_cons_self ..⟩
  · obtain ⟨hrange, hs, ha⟩ := Finset.mem_filter.mp hj
    exact Finset.mem_filter.mpr ⟨hrange, hs, List.mem_cons_of_mem _ ha⟩

theorem enter_phase_self (s : TimingState) (c : Nat) (p : NegotiationPhase) : (s.enter c p).phase c = p :=
  Function.update_self ..

theorem enter_phase_of_ne {s : TimingState} {c c' : Nat} {p : NegotiationPhase} (h : c' ≠ c) :
    (s.enter c p).phase c' = s.phase c' :=
  Function.update_of_ne h ..

section Keep

variable {s : TimingState} {c : Nat}

/-- A call that goes on from where it looks at the counter, or comes back. -/
theorem TimingInv.enter {p : NegotiationPhase} (h : TimingInv s) (hp : p.InProgress → (s.phase c).InProgress)
    (hfive : ∀ i, p = .sending i → i < 5) (hreturned : p = .returned true → 3 ≤ answersOf s c) :
    TimingInv (s.enter c p) := by
  have hprogress : ∀ c', ((s.enter c p).phase c').InProgress → (s.phase c').InProgress := by
    intro c' hc'
    rcases eq_or_ne c' c with rfl | hne
    · rw [enter_phase_self] at hc'
      exact hp hc'
    · rwa [enter_phase_of_ne hne] at hc'
  refine ⟨fun c₁ c₂ h₁ h₂ => h.single c₁ c₂ (hprogress c₁ h₁) (hprogress c₂ h₂), ?_,
    fun c' hc' => h.count c' (hprogress c' hc'), fun c' hc' => h.reading c' (hprogress c' hc'), ?_⟩
  · rintro c' i (hsending | hsent)
    · rcases eq_or_ne c' c with rfl | hne
      · rw [enter_phase_self] at hsending
        exact hfive i hsending
      · rw [enter_phase_of_ne hne] at hsending
        exact h.five c' i (.inl hsending)
    · exact h.five c' i (.inr hsent)
  · intro c' hc'
    rcases eq_or_ne c' c with rfl | hne
    · rw [enter_phase_self] at hc'
      exact hreturned hc'
    · rw [enter_phase_of_ne hne] at hc'
      exact h.returned c' hc'

/-- A request goes out. -/
theorem TimingInv.sends {i : Nat} (h : TimingInv s) (hi : i < 5) : TimingInv { s with sent := (c, i) :: s.sent } := by
  have hmono : ∀ c', answersOf s c' ≤ answersOf { s with sent := (c, i) :: s.sent } c' :=
    answersOf_mono (List.subset_cons_self ..) (List.Subset.refl _)
  refine ⟨h.single, ?_, fun c' hc' => (h.count c' hc').trans (hmono c'),
    fun c' hc' t v hv => (h.reading c' hc' t v hv).trans (hmono c'), fun c' hc' => (h.returned c' hc').trans (hmono c')⟩
  rintro c' j (hsending | hsent)
  · exact h.five c' j (.inl hsending)
  · rcases List.mem_cons.mp hsent with heq | hsent
    · obtain ⟨-, rfl⟩ := Prod.mk.inj heq
      exact hi
    · exact h.five c' j (.inr hsent)

/-- Answers come in. -/
theorem TimingInv.answers (h : TimingInv s) (l : List (Nat × Nat)) :
    TimingInv { s with answered := l ++ s.answered } := by
  have hmono : ∀ c', answersOf s c' ≤ answersOf { s with answered := l ++ s.answered } c' :=
    answersOf_mono (List.Subset.refl _) (List.subset_append_right ..)
  exact ⟨h.single, h.five, fun c' hc' => (h.count c' hc').trans (hmono c'),
    fun c' hc' t v hv => (h.reading c' hc' t v hv).trans (hmono c'), fun c' hc' => (h.returned c' hc').trans (hmono c')⟩

/-- The counter is reset: no other negotiation looks at it, and no thread is about to write it. -/
theorem TimingInv.reset (h : TimingInv s) (hidle : s.phase c = .idle) (halone : ∀ c, ¬ (s.phase c).InProgress)
    (hthreads : ∀ t, s.reading t = none) : TimingInv ({ s with timingSyncCount := 0 }.enter c (.sending 0)) := by
  have honly : ∀ c', ((s.enter c (.sending 0)).phase c').InProgress → c' = c := by
    intro c' hc'
    by_contra hne
    rw [enter_phase_of_ne hne] at hc'
    exact halone c' hc'
  refine ⟨fun c₁ c₂ h₁ h₂ => (honly c₁ h₁).trans (honly c₂ h₂).symm, ?_, fun _ _ => Nat.zero_le _, ?_, ?_⟩
  · rintro c' i (hsending | hsent)
    · rcases eq_or_ne c' c with rfl | hne
      · rw [enter_phase_self] at hsending
        obtain rfl := NegotiationPhase.sending.inj hsending
        decide
      · rw [enter_phase_of_ne hne] at hsending
        exact h.five c' i (.inl hsending)
    · exact h.five c' i (.inr hsent)
  · intro _ _ t v hv
    exact nomatch (hthreads t).symm.trans hv
  · intro c' hc'
    rcases eq_or_ne c' c with rfl | hne
    · rw [enter_phase_self] at hc'
      nomatch hc'
    · rw [enter_phase_of_ne hne] at hc'
      exact h.returned c' hc'

end Keep

section Step

variable {s s' : TimingState} {outs : List Bytes} {c t : Nat}

theorem timingInv_call {e : NegotiationEnv} (h : TimingInv s) (hgen : Genuine s (.call c e))
    (hstep : timingStep s (.call c e) = some (s', outs)) : TimingInv s' := by
  rw [timingStep] at hstep
  split at hstep
  case isFalse => nomatch hstep
  case isTrue hidle =>
    split at hstep
    case isTrue hready =>
      obtain ⟨rfl, -⟩ := Prod.mk.inj (Option.some.inj hstep)
      obtain ⟨halone, hthreads⟩ := hgen hready
      exact h.reset hidle halone hthreads
    case isFalse =>
      obtain ⟨rfl, -⟩ := Prod.mk.inj (Option.some.inj hstep)
      exact h.enter (fun hp => hp.elim) nofun nofun

theorem timingInv_send {now : NtpTime} {ok : Bool} (h : TimingInv s)
    (hstep : timingStep s (.send c now ok) = some (s', outs)) : TimingInv s' := by
  rw [timingStep] at hstep
  split at hstep
  case h_2 => nomatch hstep
  case h_1 i hphase =>
    have hi : i < 5 := h.five c i (.inl hphase)
    have hnext : TimingInv (s.enter c (if i + 1 < 5 then .sending (i + 1) else .waiting 0)) := by
      refine h.enter (fun _ => ?_) ?_ ?_
      · rw [hphase]
        trivial
      · intro j hj
        split at hj
        case isTrue hlt =>
          obtain rfl := NegotiationPhase.sending.inj hj
          exact hlt
        case isFalse => nomatch hj
      · intro hr
        split at hr <;> nomatch hr
    dsimp only at hstep
    split at hstep
    case isTrue =>
      obtain ⟨rfl, -⟩ := Prod.mk.inj (Option.some.inj hstep)
      exact hnext.sends hi
    case isFalse =>
      obtain ⟨rfl, -⟩ := Prod.mk.inj (Option.some.inj hstep)
      exact hnext

theorem timingInv_poll (h : TimingInv s) (hstep : timingStep s (.poll c) = some (s', outs)) : TimingInv s' := by
  rw [timingStep] at hstep
  split at hstep
  case h_2 => nomatch hstep
  case h_1 waitMs hphase =>
    have hin : (s.phase c).InProgress := by
      rw [hphase]
      trivial
    split at hstep
    all_goals
      obtain ⟨rfl, -⟩ := Prod.mk.inj (Option.some.inj hstep)
      exact h.enter (fun _ => hin) nofun nofun

/-- Where the counter shows three, three answers have come. -/
theorem timingInv_ret (h : TimingInv s) (hstep : timingStep s (.ret c) = some (s', outs)) : TimingInv s' := by
  rw [timingStep] at hstep
  split at hstep
  case isFalse => nomatch hstep
  case isTrue hphase =>
    obtain ⟨rfl, -⟩ := Prod.mk.inj (Option.some.inj hstep)
    have hin : (s.phase c).InProgress := by
      rw [hphase]
      trivial
    refine h.enter (fun _ => hin) nofun fun hr => ?_
    have hthree : 3 ≤ s.timingSyncCount := of_decide_eq_true (NegotiationPhase.returned.inj hr)
    exact hthree.trans (h.count c hin)

/-- A packet that counts is an answer more for the one negotiation under way. -/
theorem timingInv_recv {p : TimingPacket} {received transmit : NtpTime} (h : TimingInv s)
    (hgen : Genuine s (.recv t p received transmit))
    (hstep : timingStep s (.recv t p received transmit) = some (s', outs)) : TimingInv s' := by
  rw [timingStep] at hstep
  split at hstep
  case isFalse => nomatch hstep
  have hans := h.answers (p.answers.toList.filter (· ∈ s.sent))
  dsimp only at hstep
  split at hstep
  case isTrue hcounts =>
    obtain ⟨rfl, -⟩ := Prod.mk.inj (Option.some.inj hstep)
    refine ⟨hans.single, hans.five, hans.count, ?_, hans.returned⟩
    intro c hc t' v hv
    rcases eq_or_ne t' t with rfl | hne
    · obtain rfl : s.timingSyncCount = v := by simpa using hv
      obtain ⟨i, hp, hsent, hnew⟩ := hgen hcounts c hc
      refine le_trans (Nat.add_le_add_right (h.count c hc) 1)
        (answersOf_answer (h.five c i (.inr hsent)) hsent hnew rfl ?_)
      simp [hp, hsent]
    · exact hans.reading c hc t' v ((Function.update_of_ne hne _ _).symm.trans hv)
  case isFalse =>
    split at hstep
    all_goals
      obtain ⟨rfl, -⟩ := Prod.mk.inj (Option.some.inj hstep)
      exact hans

theorem timingInv_store (h : TimingInv s) (hstep : timingStep s (.store t) = some (s', outs)) : TimingInv s' := by
  rw [timingStep] at hstep
  split at hstep
  case h_2 => nomatch hstep
  case h_1 v hv =>
    obtain ⟨rfl, -⟩ := Prod.mk.inj (Option.some.inj hstep)
    refine ⟨h.single, h.five, fun c hc => h.reading c hc t v hv, ?_, h.returned⟩
    intro c hc t' v' hv'
    rcases eq_or_ne t' t with rfl | hne
    · exact nomatch (Function.update_self t' _ s.reading).symm.trans hv'
    · exact h.reading c hc t' v' ((Function.update_of_ne hne _ _).symm.trans hv')

theorem timingInv_step {ev : TimingEvent} (h : TimingInv s) (hgen : Genuine s ev)
    (hstep : timingStep s ev = some (s', outs)) : TimingInv s' := by
  cases ev with
  | call c e => exact timingInv_call h hgen hstep
  | send c now ok => exact timingInv_send h hstep
  | poll c => exact timingInv_poll h hstep
  | ret c => exact timingInv_ret h hstep
  | recv t p received transmit => exact timingInv_recv h hgen hstep
  | store t => exact timingInv_store h hstep

end Step

/-- **What a negotiation returns.** In a run of genuine steps, a call that returns true sent at least three requests
that were each answered, however late, doubled and foreign packets lie between. -/
theorem negotiation_answered {h : List (Step TimingState TimingEvent)} {s : TimingState} (hr : TimingRun h s)
    (hgen : ∀ x ∈ h, Genuine x.pre x.input) {c : Nat} (hc : s.phase c = .returned true) : 3 ≤ answersOf s c := by
  have hinv : TimingInv s := by
    refine Run.invariant_where (fun x => Genuine x.pre x.input) TimingInv timingInv_initial ?_ hr hgen
    rintro s ev s' h ⟨outs, hstep⟩ hgen
    exact timingInv_step h hgen hstep
  exact hinv.returned c hc

/-! ## Two negotiations -/

/-- The call and the thread that take the step. -/
def TimingEvent.callOf : TimingEvent → Option Nat
  | .call c _ | .send c _ _ | .poll c | .ret c => some c
  | .recv .. | .store _ => none

def TimingEvent.threadOf : TimingEvent → Option Nat
  | .recv t _ _ _ | .store t => some t
  | _ => none

section Others

variable {s s' : TimingState} {ev : TimingEvent} {outs : List Bytes} {c t : Nat}

/-- A step leaves the calls it is not about where they are. -/
theorem timingStep_phase (hstep : timingStep s ev = some (s', outs)) (hne : ev.callOf ≠ some c) :
    s'.phase c = s.phase c := by
  have hc : ∀ c', ev.callOf = some c' → c ≠ c' := fun c' h heq => hne (h.trans (congrArg some heq.symm))
  cases ev
  all_goals
    simp only [timingStep] at hstep
    repeat' split at hstep
    all_goals cases hstep
    all_goals
      first
        | rfl
        | exact enter_phase_of_ne (hc _ rfl)

/-- A step leaves the threads it is not about where they are. -/
theorem timingStep_reading (hstep : timingStep s ev = some (s', outs)) (hne : ev.threadOf ≠ some t) :
    s'.reading t = s.reading t := by
  have ht : ∀ t', ev.threadOf = some t' → t ≠ t' := fun t' h heq => hne (h.trans (congrArg some heq.symm))
  cases ev
  all_goals
    simp only [timingStep] at hstep
    repeat' split at hstep
    all_goals cases hstep
    all_goals
      first
        | rfl
        | exact Function.update_of_ne (ht _ rfl) _ _

end Others

/-- The other side can be reached. -/
def reachable : NegotiationEnv := ⟨49152, [49], 5, true⟩

/-- A call sends its five requests, three packets come in while it waits, and it returns. -/
def negotiation (answers : Nat → Option (Nat × Nat)) : List TimingEvent :=
  let now : NtpTime := ⟨0, 0⟩
  let packet (k : Nat) : List TimingEvent :=
    [.recv 0 ⟨timingResponse (timingRequest now) now now, answers k⟩ now now, .store 0]
  .call 0 reachable :: List.replicate 5 (.send 0 now true) ++ packet 0 ++ packet 1 ++ packet 2 ++ [.poll 0, .ret 0]

/-- The state behind it. -/
def timingNext (s : TimingState) (ev : TimingEvent) : Option TimingState :=
  (timingStep s ev).map Prod.fst

theorem timingRun_exec {evs : List TimingEvent} {r : List (Step TimingState TimingEvent) × TimingState}
    (h : exec timingNext .initial evs = some r) : TimingRun r.1 r.2 := by
  refine (Run.exec h).imp fun s ev s' hnext => ?_
  obtain ⟨⟨s₁, outs⟩, hstep, rfl⟩ := Option.map_eq_some_iff.mp hnext
  exact ⟨outs, hstep⟩

/-- Only call 0 and thread 0 take steps. -/
def soloEvent (ev : TimingEvent) : Bool := ev.callOf.all (· == 0) && ev.threadOf.all (· == 0)

/-- `Genuine` where no other call or thread has taken a step. -/
def soloGenuine (x : Step TimingState TimingEvent) : Bool :=
  match x.input with
  | .recv _ p _ _ => p.counts → (x.pre.phase 0 = .idle ∨
      ∃ i ∈ List.range 5, p.answers = some (0, i) ∧ (0, i) ∈ x.pre.sent ∧ (0, i) ∉ x.pre.answered)
  | .call _ _ => x.pre.phase 0 = .idle ∧ x.pre.reading 0 = none
  | _ => true

theorem soloEvent_others {ev : TimingEvent} (h : soloEvent ev = true) {k : Nat} (hk : k ≠ 0) :
    ev.callOf ≠ some k ∧ ev.threadOf ≠ some k := by
  obtain ⟨hcall, hthread⟩ := (Bool.and_eq_true _ _).mp h
  constructor
  · intro heq
    rw [heq, Option.all_some, beq_iff_eq] at hcall
    exact hk hcall
  · intro heq
    rw [heq, Option.all_some, beq_iff_eq] at hthread
    exact hk hthread

theorem genuine_of_solo {x : Step TimingState TimingEvent} (hphase : ∀ c, c ≠ 0 → x.pre.phase c = .idle)
    (hreading : ∀ t, t ≠ 0 → x.pre.reading t = none) (h : soloGenuine x = true) : Genuine x.pre x.input := by
  have hzero : ∀ c, (x.pre.phase c).InProgress → c = 0 := by
    intro c hc
    by_contra hne
    rw [hphase c hne] at hc
    exact hc
  unfold soloGenuine at h
  split at h
  · rename_i t p received transmit hx
    rw [hx]
    intro hcounts c hc
    obtain rfl := hzero c hc
    rcases of_decide_eq_true h hcounts with hidle | ⟨i, -, hi⟩
    · rw [hidle] at hc
      exact hc.elim
    · exact ⟨i, hi⟩
  · rename_i c e hx
    rw [hx]
    intro _
    obtain ⟨hidle, hnone⟩ := of_decide_eq_true h
    constructor
    · intro c hc
      obtain rfl := hzero c hc
      rw [hidle] at hc
      exact hc
    · intro t
      rcases eq_or_ne t 0 with rfl | hne
      · exact hnone
      · exact hreading t hne
  · rename_i hrecv hcall
    unfold Genuine
    split
    · rename_i hx
      exact (hrecv _ _ _ _ hx).elim
    · rename_i hx
      exact (hcall _ _ hx).elim
    · trivial

/-- The phone answers three requests. -/
theorem negotiation_answered_three :
    ∃ h s, TimingRun h s ∧ s.phase 0 = .returned true ∧ 3 ≤ answersOf s 0 := by
  have hexec : (exec timingNext .initial (negotiation fun k => some (0, k))).map (fun r => r.2.phase 0) =
      some (.returned true) := by decide
  obtain ⟨r, hr, hreturned⟩ := Option.map_eq_some_iff.mp hexec
  have hsolo : (exec timingNext .initial (negotiation fun k => some (0, k))).map
      (fun r => r.1.all fun x => soloEvent x.input && soloGenuine x) = some true := by decide
  rw [hr, Option.map_some, Option.some.injEq, List.all_eq_true] at hsolo
  have hall : ∀ x ∈ r.1, soloEvent x.input = true := fun x hx => ((Bool.and_eq_true _ _).mp (hsolo x hx)).1
  have hrun := timingRun_exec hr
  have hgen : ∀ x ∈ r.1, Genuine x.pre x.input := by
    intro x hx
    refine genuine_of_solo (fun k hk => ?_) (fun k hk => ?_) ((Bool.and_eq_true _ _).mp (hsolo x hx)).2
    · refine Run.invariant_where_pre (fun x => soloEvent x.input = true) (fun s => s.phase k = .idle) ?_ ?_ hrun hall hx
      · exact show TimingState.initial.phase k = .idle from rfl
      · rintro s ev s' h ⟨outs, hstep⟩ hsolo
        exact (timingStep_phase hstep (soloEvent_others hsolo hk).1).trans h
    · refine Run.invariant_where_pre (fun x => soloEvent x.input = true) (fun s => s.reading k = none) ?_ ?_ hrun hall
        hx
      · exact show TimingState.initial.reading k = none from rfl
      · rintro s ev s' h ⟨outs, hstep⟩ hsolo
        exact (timingStep_reading hstep (soloEvent_others hsolo hk).2).trans h
  exact ⟨r.1, r.2, hrun, hreturned, negotiation_answered hrun hgen hreturned⟩

/-- Three packets that answer nothing are counted the same. -/
theorem negotiation_unanswered :
    ¬ ∀ h s, TimingRun h s → ∀ c, s.phase c = .returned true → 3 ≤ answersOf s c := by
  intro hall
  have hexec : (exec timingNext .initial (negotiation fun _ => none)).map (fun r => (r.2.phase 0, answersOf r.2 0)) =
      some (.returned true, 0) := by decide
  obtain ⟨r, hr, hend⟩ := Option.map_eq_some_iff.mp hexec
  obtain ⟨hreturned, hnone⟩ := Prod.mk.inj hend
  have hthree := hall r.1 r.2 (timingRun_exec hr) 0 hreturned
  rw [hnone] at hthree
  exact absurd hthree (by decide)

end Showcase
