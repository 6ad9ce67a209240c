import Showcase.Lib.History
import Showcase.Services.Ports

/-!
# `Services.SetupSession` — the session of SETUP, RECORD and TEARDOWN

The session globals of `carplay_services.m`: three sockets, each with a port, a running flag and a responder thread,
and the flags `g_session_active` and `g_recording`. A SETUP without streams binds what is not bound yet, makes the
session active whatever came of it, and starts the threads. No request clears `g_session_active` again.

* `SessionOk` — in an active session every socket is bound and has a responder, and the ports told are its ports.
* `session_ok` — so it is when the binds of the activating SETUP succeed and no responder fails.
-/

namespace Showcase

open Lib

/-! ## The globals -/

/-- The three sockets of a session. -/
inductive Role where
  | timing
  | event
  | keepAlive
deriving DecidableEq

def Role.type : Role → SockType
  | .timing => .dgram
  | .event => .stream
  | .keepAlive => .dgram

/-- Where a responder thread is. -/
inductive Responder where
  /-- In its loop. -/
  | serving
  /-- Behind it, the running flag still set. -/
  | leaving
deriving DecidableEq

/-- The globals of a socket (`g_timing_fd`, `g_timing_port`, `g_timing_thread_running` and so on), and its thread. -/
structure Channel where
  fd : Int
  port : UInt16
  running : Bool
  responder : Option Responder

def Channel.init : Channel := ⟨-1, 0, false, none⟩

/-- `if (g_timing_thread_running || g_timing_fd < 0) return; ...`. -/
def Channel.start (c : Channel) : Channel :=
  if c.running ∨ c.fd < 0 then c else { c with running := true, responder := some .serving }

/-- What a SETUP response tells; `keepAlivePort` only when it is asked for. -/
structure SessionPorts where
  timingPort : UInt16
  eventPort : UInt16
  keepAlivePort : Option UInt16

def SessionPorts.port (p : SessionPorts) : Role → Option UInt16
  | .timing => some p.timingPort
  | .event => some p.eventPort
  | .keepAlive => p.keepAlivePort

structure SessionState where
  channel : Role → Channel
  /-- `g_session_active`. -/
  active : Bool
  /-- `g_recording`. -/
  recording : Bool
  table : Descriptors NetFile
  /-- The responses to the SETUPs so far. -/
  answers : List SessionPorts

/-- The process before the first request. -/
def SessionState.init (table : Descriptors NetFile) : SessionState := ⟨fun _ => .init, false, false, table, []⟩

/-! ## The requests -/

namespace SessionState

variable (s : SessionState)

def setChannel (r : Role) (c : Channel) : SessionState := { s with channel := Function.update s.channel r c }

/-- `if (g_timing_fd < 0) g_timing_fd = bind_udp_port(&g_timing_port);` and its siblings. -/
def bind (r : Role) (e : BindCalls) : Option SessionState :=
  let c := s.channel r
  if c.fd < 0 then
    (bindPort r.type c.port s.table e).map fun b =>
      { s.setChannel r { c with fd := b.fd, port := b.outPort } with table := b.table }
  else some s

/-- `start_timing_thread`, `start_event_thread` and `start_keepalive_thread`. -/
def start (r : Role) : SessionState := s.setChannel r (s.channel r).start

/-- All three threads. -/
def startAll : SessionState := ((s.start .timing).start .event).start .keepAlive

/-- The response to a SETUP without streams. -/
def sessionPorts (keepAliveLowPower : Bool) : SessionPorts :=
  ⟨(s.channel .timing).port, (s.channel .event).port,
    if keepAliveLowPower then some (s.channel .keepAlive).port else none⟩

/-- `if (!g_session_active) { ... }`. -/
def activate (calls : Role → BindCalls) : Option SessionState :=
  if s.active then some s
  else
    (s.bind .timing (calls .timing)).bind fun s =>
      (s.bind .event (calls .event)).bind fun s =>
        (s.bind .keepAlive (calls .keepAlive)).map fun s => { s with active := true }.startAll

/-- `handle_rtsp_setup` without streams. -/
def setup (keepAliveLowPower : Bool) (calls : Role → BindCalls) : Option SessionState :=
  (s.activate calls).map fun s => { s with answers := s.answers ++ [s.sessionPorts keepAliveLowPower] }

/-- `handle_record`: in an inactive session it is refused. -/
def record : SessionState := if s.active then { s with recording := true }.startAll else s

/-- `handle_teardown`. -/
def teardown : SessionState := { s with recording := false }

end SessionState

/-! ## Runs -/

inductive SetupInput where
  | setup (keepAliveLowPower : Bool) (calls : Role → BindCalls)
  /-- A SETUP with streams; the sockets it opens are `otherOpen` here. -/
  | setupStreams
  | record
  | teardown
  /-- `recvfrom` or `accept` fails, and not with `EAGAIN`. -/
  | fails (r : Role)
  /-- The thread clears its running flag and ends. -/
  | exits (r : Role)
  /-- Another part of the process opens or closes a descriptor. -/
  | otherOpen (fd : Nat)
  | otherClose (fd : Nat)

/-- The steps of requests, threads and the rest of the process, in any order. -/
def setupStep (s : SessionState) (i : SetupInput) : Option SessionState :=
  match i with
  | .setup keepAliveLowPower calls => s.setup keepAliveLowPower calls
  | .setupStreams => some s
  | .record => some s.record
  | .teardown => some s.teardown
  | .fails r =>
      let c := s.channel r
      if c.responder = some .serving then some (s.setChannel r { c with responder := some .leaving }) else none
  | .exits r =>
      let c := s.channel r
      if c.responder = some .leaving then some (s.setChannel r { c with running := false, responder := none })
      else none
  | .otherOpen fd => if (s.table fd).isSome then none else some { s with table := s.table.install fd .other }
  | .otherClose fd => if s.table fd = some .other then some { s with table := s.table.close fd } else none

abbrev SetupRun (table : Descriptors NetFile) :=
  Run (fun s i s' => setupStep s i = some s') (SessionState.init table)

/-! ## The session invariant -/

/-- The descriptor is a socket of its type, bound to a port. -/
def SessionState.Bound (s : SessionState) (r : Role) (port : UInt16) : Prop :=
  0 ≤ (s.channel r).fd ∧ BoundTo r.type s.table (s.channel r).fd.toNat port

/-- **An active session** has three bound sockets and a responder for each; what the responses have told are their
    ports. -/
structure SessionOk (s : SessionState) : Prop where
  bound : s.active → ∀ r, s.Bound r (s.channel r).port
  responding : s.active → ∀ r, (s.channel r).responder = some .serving
  advertised : ∀ a ∈ s.answers, ∀ r port, a.port r = some port → s.Bound r port

/-- A SETUP that finds a socket unbound tries to bind it. -/
def Retries (x : Step SessionState SetupInput) : Prop :=
  match x.input with
  | .setup _ calls => ∀ r, (x.pre.channel r).fd < 0 →
      ∃ t b, bindPort r.type (x.pre.channel r).port t (calls r) = some b ∧ (x.post.channel r).fd = b.fd
  | _ => True

/-- **The condition**: the binds of a SETUP in an inactive session succeed, and in an active one no responder fails. -/
def Undisrupted (x : Step SessionState SetupInput) : Prop :=
  match x.input with
  | .setup _ calls => x.pre.active = false → ∀ r, (x.pre.channel r).fd < 0 → (calls r).Succeed r.type
  | .fails _ => x.pre.active = false
  | _ => True

/-! ## Steps -/

section Steps

variable {s s' : SessionState} {r r' : Role} {c : Channel} {e : BindCalls} {port : UInt16}

@[simp] theorem setChannel_self : (s.setChannel r c).channel r = c := Function.update_self ..

theorem setChannel_other (h : r' ≠ r) : (s.setChannel r c).channel r' = s.channel r' := Function.update_of_ne h ..

/-- What a bind leaves: its own channel bound, and everything else as it was. -/
structure BindsChannel (s s' : SessionState) (r : Role) (e : BindCalls) : Prop where
  other : ∀ r', r' ≠ r → s'.channel r' = s.channel r'
  table : ∀ fd f, s.table fd = some f → s'.table fd = some f
  active : s'.active = s.active
  answers : s'.answers = s.answers
  kept : ¬ (s.channel r).fd < 0 → s' = s
  tried : (s.channel r).fd < 0 →
    ∃ b, bindPort r.type (s.channel r).port s.table e = some b ∧ (s'.channel r).fd = b.fd
  thread : (s'.channel r).running = (s.channel r).running ∧ (s'.channel r).responder = (s.channel r).responder
  bound : (s.channel r).fd < 0 → e.Succeed r.type → s'.Bound r (s'.channel r).port

theorem bind_spec (h : s.bind r e = some s') : BindsChannel s s' r e := by
  rw [SessionState.bind] at h
  by_cases hfd : (s.channel r).fd < 0
  · simp only [hfd, if_true] at h
    obtain ⟨b, hb, rfl⟩ := Option.map_eq_some_iff.mp h
    have hself := setChannel_self (s := s) (r := r) (c := { s.channel r with fd := b.fd, port := b.outPort })
    refine ⟨fun r' hne => setChannel_other hne, fun fd f hf => bindPort_frame hb hf, rfl, rfl,
      fun hno => absurd hfd hno, fun _ => ⟨b, hb, ?_⟩, ?_, fun _ he => ?_⟩
    · simp only [hself]
    · simp only [hself, and_self]
    · simp only [SessionState.Bound, hself]
      obtain ⟨hfd, _, hbound⟩ := bindPort_succeed hb he
      exact ⟨hfd, hbound⟩
  · simp only [hfd, if_false] at h
    obtain rfl := Option.some.inj h
    exact ⟨fun _ _ => rfl, fun _ _ hf => hf, rfl, rfl, fun _ => rfl, fun hneg => absurd hneg hfd, ⟨rfl, rfl⟩,
      fun hneg => absurd hneg hfd⟩

/-- The descriptor stays what it is while nobody closes a socket. -/
theorem SessionState.Bound.mono (h : s.Bound r port) (hfd : (s'.channel r).fd = (s.channel r).fd)
    (htable : ∀ fd sock, s.table fd = some (.socket sock) → s'.table fd = some (.socket sock)) : s'.Bound r port := by
  rw [SessionState.Bound, hfd]
  exact ⟨h.1, h.2.mono (htable _)⟩

/-- All three threads are started, each for itself. -/
theorem startAll_channel (s : SessionState) (r : Role) : s.startAll.channel r = (s.channel r).start := by
  cases r with
  | timing =>
      rw [SessionState.startAll, SessionState.start, setChannel_other (by decide), SessionState.start,
        setChannel_other (by decide), SessionState.start, setChannel_self]
  | event =>
      rw [SessionState.startAll, SessionState.start, setChannel_other (by decide), SessionState.start, setChannel_self,
        SessionState.start, setChannel_other (by decide)]
  | keepAlive =>
      rw [SessionState.startAll, SessionState.start, setChannel_self, SessionState.start,
        setChannel_other (by decide), SessionState.start, setChannel_other (by decide)]

theorem start_fd (c : Channel) : c.start.fd = c.fd ∧ c.start.port = c.port := by
  rw [Channel.start]
  split
  · exact ⟨rfl, rfl⟩
  · exact ⟨rfl, rfl⟩

theorem start_running (c : Channel) (h : c.running = true) : c.start = c := if_pos (.inl h)

/-- A thread that is not running is started on a descriptor. -/
theorem start_serving (c : Channel) (h : c.running = false) (hfd : 0 ≤ c.fd) :
    c.start.running = true ∧ c.start.responder = some .serving := by
  have hno : ¬ (c.running = true ∨ c.fd < 0) := by
    rw [h]
    simpa using hfd
  rw [Channel.start, if_neg hno]
  exact ⟨rfl, rfl⟩

/-- What an activation leaves. -/
structure ActivatesSession (s s' : SessionState) (calls : Role → BindCalls) : Prop where
  active : s'.active = true
  answers : s'.answers = s.answers
  tried : ∀ r, (s.channel r).fd < 0 →
    ∃ t b, bindPort r.type (s.channel r).port t (calls r) = some b ∧ (s'.channel r).fd = b.fd
  bound : ∀ r, (s.channel r).fd < 0 → (calls r).Succeed r.type → s'.Bound r (s'.channel r).port
  started : ∀ r, (s.channel r).running = false → 0 ≤ (s'.channel r).fd →
    (s'.channel r).running = true ∧ (s'.channel r).responder = some .serving

theorem activate_spec {calls : Role → BindCalls} (hinactive : s.active = false) (h : s.activate calls = some s') :
    ActivatesSession s s' calls := by
  rw [SessionState.activate, if_neg (by rw [hinactive]; decide)] at h
  obtain ⟨s₁, h₁, h⟩ := Option.bind_eq_some_iff.mp h
  obtain ⟨s₂, h₂, h⟩ := Option.bind_eq_some_iff.mp h
  obtain ⟨s₃, h₃, rfl⟩ := Option.map_eq_some_iff.mp h
  have ht := bind_spec h₁
  have he := bind_spec h₂
  have hk := bind_spec h₃
  -- what a bind leaves in its channel is still there behind the last one
  have hone : ∀ r, ∃ s₀ s₀', BindsChannel s₀ s₀' r (calls r) ∧ s₀.channel r = s.channel r ∧
      s₃.channel r = s₀'.channel r ∧ ∀ fd f, s₀'.table fd = some f → s₃.table fd = some f := by
    intro r
    cases r with
    | timing =>
        refine ⟨s, s₁, ht, rfl, ?_, fun fd f hf => hk.table fd f (he.table fd f hf)⟩
        rw [hk.other _ (by decide), he.other _ (by decide)]
    | event => exact ⟨s₁, s₂, he, ht.other _ (by decide), hk.other _ (by decide), hk.table⟩
    | keepAlive =>
        refine ⟨s₂, s₃, hk, ?_, rfl, fun _ _ hf => hf⟩
        rw [he.other _ (by decide), ht.other _ (by decide)]
  have hchannel : ∀ r, ({ s₃ with active := true } : SessionState).startAll.channel r = (s₃.channel r).start :=
    startAll_channel _
  refine ⟨rfl, ?_, ?_, ?_, ?_⟩
  · exact hk.answers.trans (he.answers.trans ht.answers)
  · intro r hfd
    obtain ⟨s₀, s₀', hb, hpre, hpost, _⟩ := hone r
    rw [← hpre] at hfd
    obtain ⟨b, hbind, hres⟩ := hb.tried hfd
    rw [hpre] at hbind
    exact ⟨s₀.table, b, hbind, by rw [hchannel, (start_fd _).1, hpost, hres]⟩
  · intro r hfd hsucceed
    obtain ⟨s₀, s₀', hb, hpre, hpost, htable⟩ := hone r
    rw [← hpre] at hfd
    rw [hchannel, (start_fd _).2, hpost]
    refine (hb.bound hfd hsucceed).mono ?_ (fun fd sock hsock => htable fd _ hsock)
    rw [hchannel, (start_fd _).1, hpost]
  · intro r hrunning hfd
    obtain ⟨s₀, s₀', hb, hpre, hpost, _⟩ := hone r
    rw [hchannel] at hfd ⊢
    rw [(start_fd _).1] at hfd
    refine start_serving _ ?_ hfd
    rw [hpost, hb.thread.1, hpre, hrunning]

end Steps

/-! ## The invariant

In an active session all three sockets are bound and have their threads. Nothing but an activation changes this, as no
responder fails and nobody closes a socket. -/

/-- What every step keeps. -/
structure SessionInv (s : SessionState) : Prop where
  ok : SessionOk s
  running : s.active → ∀ r, (s.channel r).running = true
  inactive : s.active = false → (∀ r, s.channel r = .init) ∧ s.answers = []

namespace SessionInv

variable {s s' : SessionState}

theorem initial (table : Descriptors NetFile) : SessionInv (.init table) where
  ok := ⟨fun h => Bool.noConfusion h, fun h => Bool.noConfusion h, fun _ h => absurd h List.not_mem_nil⟩
  running := fun h => Bool.noConfusion h
  inactive := fun _ => ⟨fun _ => rfl, rfl⟩

/-- A state with the same session, whose sockets are still open. -/
theorem keep (h : SessionInv s) (hchannel : s'.channel = s.channel) (hactive : s'.active = s.active)
    (hanswers : s'.answers = s.answers)
    (htable : ∀ fd sock, s.table fd = some (.socket sock) → s'.table fd = some (.socket sock)) : SessionInv s' := by
  have hbound : ∀ {r port}, s.Bound r port → s'.Bound r port :=
    fun hb => hb.mono (by rw [hchannel]) htable
  refine ⟨⟨?_, ?_, ?_⟩, ?_, ?_⟩
  · intro ha r
    rw [hchannel]
    exact hbound (h.ok.bound (hactive ▸ ha) r)
  · intro ha r
    rw [hchannel]
    exact h.ok.responding (hactive ▸ ha) r
  · rw [hanswers]
    exact fun a ha r port hp => hbound (h.ok.advertised a ha r port hp)
  · intro ha r
    rw [hchannel]
    exact h.running (hactive ▸ ha) r
  · intro ha
    rw [hchannel, hanswers]
    exact h.inactive (hactive ▸ ha)

/-- In an active session every thread is running, and starting them does nothing. -/
theorem startAll (h : SessionInv s) (hactive : s.active = true) : s.startAll.channel = s.channel := by
  funext r
  rw [startAll_channel, start_running _ (h.running hactive r)]

/-- **An activation whose binds succeed** leaves three bound sockets with a responder each. -/
theorem activate {calls : Role → BindCalls} (h : SessionInv s) (hstep : s.activate calls = some s')
    (hcond : s.active = false → ∀ r, (s.channel r).fd < 0 → (calls r).Succeed r.type) :
    SessionInv s' ∧ s'.active = true := by
  cases hactive : s.active with
  | true =>
      rw [SessionState.activate, if_pos hactive] at hstep
      obtain rfl := Option.some.inj hstep
      exact ⟨h, hactive⟩
  | false =>
      have ha := activate_spec hactive hstep
      obtain ⟨hinit, hanswers⟩ := h.inactive hactive
      have hneg : ∀ r, (s.channel r).fd < 0 := by
        intro r
        rw [hinit r]
        decide
      have hbound : ∀ r, s'.Bound r (s'.channel r).port :=
        fun r => ha.bound r (hneg r) (hcond hactive r (hneg r))
      have hthread : ∀ r, (s'.channel r).running = true ∧ (s'.channel r).responder = some .serving := by
        intro r
        exact ha.started r (by rw [hinit r]; rfl) (hbound r).1
      refine ⟨⟨⟨fun _ => hbound, fun _ r => (hthread r).2, ?_⟩, fun _ r => (hthread r).1, ?_⟩, ha.active⟩
      · rw [ha.answers, hanswers]
        exact fun a hmem => absurd hmem List.not_mem_nil
      · rw [ha.active]
        exact fun hno => Bool.noConfusion hno

/-- The ports of a response are those of the sockets. -/
theorem answer (h : SessionInv s) (hactive : s.active = true) (keepAliveLowPower : Bool) :
    SessionInv { s with answers := s.answers ++ [s.sessionPorts keepAliveLowPower] } := by
  refine ⟨⟨h.ok.bound, h.ok.responding, ?_⟩, h.running, ?_⟩
  · intro a ha r port hp
    rcases List.mem_append.mp ha with ha | ha
    · exact h.ok.advertised a ha r port hp
    · obtain rfl := List.mem_singleton.mp ha
      have hport : port = (s.channel r).port := by
        cases r with
        | timing => exact (Option.some.inj hp).symm
        | event => exact (Option.some.inj hp).symm
        | keepAlive =>
            cases keepAliveLowPower with
            | true => exact (Option.some.inj hp).symm
            | false => cases hp
      rw [hport]
      exact h.ok.bound hactive r
  · intro ha
    rw [show s.active = false from ha] at hactive
    cases hactive

/-- **One step.** -/
theorem step {i : SetupInput} (h : SessionInv s) (hstep : setupStep s i = some s')
    (hcond : Undisrupted ⟨s, i, s'⟩) : SessionInv s' := by
  cases i with
  | setup keepAliveLowPower calls =>
      obtain ⟨s₁, h₁, rfl⟩ := Option.map_eq_some_iff.mp hstep
      obtain ⟨hinv, hactive⟩ := h.activate h₁ hcond
      exact hinv.answer hactive keepAliveLowPower
  | setupStreams =>
      obtain rfl := Option.some.inj hstep
      exact h
  | record =>
      obtain rfl := Option.some.inj hstep
      rw [SessionState.record]
      split
      · rename_i hactive
        have hrec : SessionInv { s with recording := true } := h.keep rfl rfl rfl fun _ _ hf => hf
        exact hrec.keep (hrec.startAll hactive) rfl rfl fun _ _ hf => hf
      · exact h
  | teardown =>
      obtain rfl := Option.some.inj hstep
      exact h.keep rfl rfl rfl fun _ _ hf => hf
  | fails r =>
      rw [setupStep] at hstep
      split at hstep
      · -- an inactive session has no thread
        rename_i hserving
        rw [((h.inactive hcond).1 r)] at hserving
        cases hserving
      · cases hstep
  | exits r =>
      rw [setupStep] at hstep
      split at hstep
      · rename_i hleaving
        cases hactive : s.active with
        | true =>
            rw [h.ok.responding hactive r] at hleaving
            cases hleaving
        | false =>
            rw [((h.inactive hactive).1 r)] at hleaving
            cases hleaving
      · cases hstep
  | otherOpen fd =>
      rw [setupStep] at hstep
      split at hstep
      · cases hstep
      · rename_i hfree
        obtain rfl := Option.some.inj hstep
        exact h.keep rfl rfl rfl fun fd' sock hsock => opened_of (by simpa using hfree) hsock
  | otherClose fd =>
      rw [setupStep] at hstep
      split at hstep
      · rename_i hother
        obtain rfl := Option.some.inj hstep
        refine h.keep rfl rfl rfl fun fd' sock hsock => ?_
        -- it is not a socket that is closed
        have hne : fd' ≠ fd := by
          rintro rfl
          rw [hother] at hsock
          cases hsock
        show s.table.close fd fd' = _
        rw [Descriptors.close, Function.update_of_ne hne]
        exact hsock
      · cases hstep

/-- In an inactive session a SETUP binds what is not bound. -/
theorem retries {i : SetupInput} (h : SessionInv s) (hstep : setupStep s i = some s') : Retries ⟨s, i, s'⟩ := by
  cases i with
  | setup keepAliveLowPower calls =>
      obtain ⟨s₁, h₁, rfl⟩ := Option.map_eq_some_iff.mp hstep
      intro r hfd
      cases hactive : s.active with
      | true => exact absurd (h.ok.bound hactive r).1 (not_le.mpr hfd)
      | false => exact (activate_spec hactive h₁).tried r hfd
  | _ => exact trivial

end SessionInv

/-- **The session of SETUP.** In every run in which the binds of a SETUP in an inactive session succeed and no responder
    fails in an active one, an active session has three bound sockets with a responder each, every response has told
    their ports, and a SETUP binds what is not bound. -/
theorem session_ok (table : Descriptors NetFile) (h : List (Step SessionState SetupInput)) (s : SessionState)
    (hrun : SetupRun table h s) (hcond : ∀ x ∈ h, Undisrupted x) : SessionOk s ∧ ∀ x ∈ h, Retries x := by
  have hstep : ∀ s i s', SessionInv s → setupStep s i = some s' → Undisrupted ⟨s, i, s'⟩ → SessionInv s' :=
    fun s i s' hinv hs hc => hinv.step hs hc
  refine ⟨(hrun.invariant_where Undisrupted SessionInv (.initial table) hstep hcond).ok, ?_⟩
  intro x hx
  have hpre := hrun.invariant_where_pre Undisrupted SessionInv (.initial table) hstep hcond hx
  exact hpre.retries (hrun.step_of_mem hx)

/-! ### Runs -/

/-- Dual-stack sockets on the descriptors 3, 4 and 5. -/
def sessionCalls : Role → BindCalls
  | .timing => ⟨⟨some 3, true, some ⟨7001, port7001_ne⟩, true, true⟩, ⟨none, false, none, false, false⟩⟩
  | .event => ⟨⟨some 4, true, some ⟨7002, by decide⟩, true, true⟩, ⟨none, false, none, false, false⟩⟩
  | .keepAlive => ⟨⟨some 5, true, some ⟨7003, by decide⟩, true, true⟩, ⟨none, false, none, false, false⟩⟩

/-- A SETUP, RECORD and TEARDOWN. -/
theorem session_ok_teardown : ∃ s, s.active = true ∧ SessionOk s := by
  have hrun : ∀ s, setupStep (.init fun _ => none) (.setup true sessionCalls) = some s →
      SetupRun (fun _ => none) [⟨.init fun _ => none, .setup true sessionCalls, s⟩, ⟨s, .record, s.record⟩,
        ⟨s.record, .teardown, s.record.teardown⟩] s.record.teardown :=
    fun s hs => ((Run.nil.snoc hs).snoc rfl).snoc rfl
  refine ⟨_, ?_, (session_ok (fun _ => none) _ _ (hrun _ rfl) ?_).1⟩
  · rfl
  · intro x hx
    rcases List.mem_cons.mp hx with rfl | hx
    · intro _ r _
      refine .inl ?_
      cases r with
      | timing => exact ⟨rfl, rfl, rfl, fun _ => rfl, rfl⟩
      | event => exact ⟨rfl, rfl, rfl, fun _ => rfl, rfl⟩
      | keepAlive => exact ⟨rfl, rfl, rfl, fun _ => rfl, rfl⟩
    · rcases List.mem_pair.mp hx with rfl | rfl
      · exact trivial
      · exact trivial

/-- No socket can be had. -/
def noCalls : Role → BindCalls := fun _ => ⟨⟨none, false, none, false, false⟩, ⟨none, false, none, false, false⟩⟩

/-- The session becomes active all the same. -/
theorem not_session_ok : ¬ ∀ table h s, SetupRun table h s → SessionOk s ∧ ∀ x ∈ h, Retries x := by
  intro hall
  have hrun : ∀ s, setupStep (.init fun _ => none) (.setup false noCalls) = some s →
      SetupRun (fun _ => none) [⟨.init fun _ => none, .setup false noCalls, s⟩] s :=
    fun s hs => Run.nil.snoc hs
  obtain ⟨hok, _⟩ := hall _ _ _ (hrun _ rfl)
  exact absurd (hok.bound rfl .timing).1 (by decide)

end Showcase
