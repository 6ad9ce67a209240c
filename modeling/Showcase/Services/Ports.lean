import Mathlib.Data.UInt
import Showcase.Lib.Descriptors

/-!
# `Services.Ports` — `bind_udp_port` and `bind_tcp_port`

Both try a dual-stack socket first and fall back to `bind_udp_port_ipv4` and `bind_tcp_port_ipv4`. The fallback ends
with `return false`, which is 0 and not the descriptor, and does not look at what `listen` and `getsockname` return.

* `bindPort_cases` — the three ways a call can end.
* `bindPort_bound_iff` — exactly when the number returned is a descriptor that is bound as the caller expects.
-/

namespace Showcase

open Lib

/-! ## Sockets -/

/-- `AF_INET6`, `AF_INET`. -/
inductive Family where
  | inet6
  | inet
deriving DecidableEq

/-- `SOCK_DGRAM`, `SOCK_STREAM`. -/
inductive SockType where
  | dgram
  | stream
deriving DecidableEq

/-- A port the kernel has chosen. -/
abbrev Port := { p : UInt16 // p ≠ 0 }

theorem port7001_ne : (7001 : UInt16) ≠ 0 := by decide

structure NetSocket where
  family : Family
  type : SockType
  /-- The port it is bound to. -/
  port : Option Port
  listening : Bool
deriving DecidableEq

/-- What a descriptor of the process stands for. -/
inductive NetFile where
  | socket (s : NetSocket)
  /-- Anything that is not a socket of these functions. -/
  | other
deriving DecidableEq

/-- What the system calls on one socket return. The result of `SO_REUSEADDR` is ignored and left out. -/
structure SocketCalls where
  /-- The new descriptor. -/
  socket : Option Nat
  v6only : Bool
  /-- The port the kernel chooses. -/
  bind : Option Port
  listen : Bool
  getsockname : Bool

/-- The calls of the dual-stack attempt and of the fallback. -/
structure BindCalls where
  inet6 : SocketCalls
  inet : SocketCalls

/-- What a call leaves: the number it returns, `*outPort` and the descriptors. -/
structure BindResult where
  fd : Int
  outPort : UInt16
  table : Descriptors NetFile

/-! ## The source functions -/

/-- `bind_udp_port_ipv4` and `bind_tcp_port_ipv4`; `none` when the kernel does not hand out this number. -/
def bindPortIpv4 (type : SockType) (outPort : UInt16) (t : Descriptors NetFile) (c : SocketCalls) : Option BindResult :=
  match c.socket with
  | none => some ⟨-1, outPort, t⟩
  | some fd =>
      if (t fd).isSome then none
      else
        match c.bind with
        | none => some ⟨-1, outPort, (t.install fd (.socket ⟨.inet, type, none, false⟩)).close fd⟩
        | some port =>
            let listening := type = .stream && c.listen
            let port' := if c.getsockname then port.val else 0
            -- `return false;`
            some ⟨0, port', t.install fd (.socket ⟨.inet, type, some port, listening⟩)⟩

/-- The body of `bind_udp_port` and `bind_tcp_port`. -/
def bindPort (type : SockType) (outPort : UInt16) (t : Descriptors NetFile) (e : BindCalls) : Option BindResult :=
  match e.inet6.socket with
  | none => bindPortIpv4 type outPort t e.inet
  | some fd =>
      if (t fd).isSome then none
      else
        let opened := t.install fd (.socket ⟨.inet6, type, none, false⟩)
        if ! e.inet6.v6only then bindPortIpv4 type outPort (opened.close fd) e.inet
        else
          match e.inet6.bind with
          | none => bindPortIpv4 type outPort (opened.close fd) e.inet
          | some port =>
              if type = .stream ∧ ! e.inet6.listen then bindPortIpv4 type outPort (opened.close fd) e.inet
              else if ! e.inet6.getsockname then bindPortIpv4 type outPort (opened.close fd) e.inet
              else some ⟨fd, port.val, t.install fd (.socket ⟨.inet6, type, some port, type = .stream⟩)⟩

/-- `bind_udp_port`. -/
def bindUdpPort (outPort : UInt16) (t : Descriptors NetFile) (e : BindCalls) : Option BindResult :=
  bindPort .dgram outPort t e

/-- `bind_tcp_port`. -/
def bindTcpPort (outPort : UInt16) (t : Descriptors NetFile) (e : BindCalls) : Option BindResult :=
  bindPort .stream outPort t e

/-! ## What a call can do -/

/-- All calls of the dual-stack attempt succeed. -/
def SocketCalls.Complete (c : SocketCalls) (type : SockType) : Prop :=
  c.socket.isSome ∧ c.v6only ∧ c.bind.isSome ∧ (type = .stream → c.listen) ∧ c.getsockname

instance (c : SocketCalls) (type : SockType) : Decidable (c.Complete type) :=
  inferInstanceAs (Decidable (_ ∧ _ ∧ _ ∧ (_ → _) ∧ _))

section Cases

variable {type : SockType} {outPort : UInt16} {t : Descriptors NetFile} {e : BindCalls} {c : SocketCalls} {r : BindResult}

/-- The fallback fails and leaves nothing open, or leaves its socket open and returns 0. -/
theorem bindPortIpv4_cases (h : bindPortIpv4 type outPort t c = some r) :
    ((c.socket = none ∨ c.bind = none) ∧ r = ⟨-1, outPort, t⟩) ∨
    ∃ fd port, c.socket = some fd ∧ c.bind = some port ∧ t fd = none ∧
      r = ⟨0, if c.getsockname then port.val else 0,
        t.install fd (.socket ⟨.inet, type, some port, type = .stream && c.listen⟩)⟩ := by
  rw [bindPortIpv4] at h
  cases hsocket : c.socket with
  | none =>
      rw [hsocket] at h
      exact .inl ⟨.inl rfl, (Option.some.inj h).symm⟩
  | some fd =>
      rw [hsocket] at h
      by_cases hopen : (t fd).isSome
      · simp only [hopen, if_true] at h
        cases h
      have hfree : t fd = none := by simpa using hopen
      simp only [hfree, Option.isSome_none] at h
      cases hbind : c.bind with
      | none =>
          rw [hbind] at h
          have hr : r = ⟨-1, outPort, (t.install fd (.socket ⟨.inet, type, none, false⟩)).close fd⟩ :=
            (Option.some.inj h).symm
          rw [close_install hfree] at hr
          exact .inl ⟨.inr rfl, hr⟩
      | some port =>
          rw [hbind] at h
          exact .inr ⟨fd, port, rfl, rfl, hfree, (Option.some.inj h).symm⟩

/-- **How a call ends.** The dual-stack attempt succeeds; or it leaves nothing behind and the fallback decides. -/
theorem bindPort_cases (h : bindPort type outPort t e = some r) :
    (e.inet6.Complete type ∧ ∃ fd port, e.inet6.socket = some fd ∧ e.inet6.bind = some port ∧ t fd = none ∧
      r = ⟨fd, port.val, t.install fd (.socket ⟨.inet6, type, some port, type = .stream⟩)⟩) ∨
    (¬ e.inet6.Complete type ∧ bindPortIpv4 type outPort t e.inet = some r) := by
  rw [bindPort] at h
  cases hsocket : e.inet6.socket with
  | none =>
      rw [hsocket] at h
      refine .inr ⟨?_, h⟩
      rintro ⟨hsome, _⟩
      rw [hsocket] at hsome
      cases hsome
  | some fd =>
      rw [hsocket] at h
      by_cases hopen : (t fd).isSome
      · simp only [hopen, if_true] at h
        cases h
      have hfree : t fd = none := by simpa using hopen
      simp only [hfree, Option.isSome_none, Bool.false_eq_true, if_false, close_install hfree] at h
      by_cases hv6 : e.inet6.v6only
      case neg =>
          simp only [hv6, Bool.not_false, if_true] at h
          exact .inr ⟨fun hc => hv6 hc.2.1, h⟩
      simp only [hv6, Bool.not_true, Bool.false_eq_true, if_false] at h
      cases hbind : e.inet6.bind with
      | none =>
          rw [hbind] at h
          refine .inr ⟨?_, h⟩
          rintro ⟨_, _, hsome, _⟩
          rw [hbind] at hsome
          cases hsome
      | some port =>
          simp only [hbind] at h
          by_cases hlisten : type = .stream ∧ ! e.inet6.listen
          · rw [if_pos hlisten] at h
            refine .inr ⟨?_, h⟩
            rintro ⟨_, _, _, hstream, _⟩
            rw [hstream hlisten.1] at hlisten
            cases hlisten.2
          rw [if_neg hlisten] at h
          have hstream : type = .stream → e.inet6.listen := by
            intro htype
            by_contra hno
            exact hlisten ⟨htype, by rw [Bool.not_eq_true] at hno; rw [hno]; rfl⟩
          by_cases hname : e.inet6.getsockname
          case neg =>
              simp only [hname, Bool.not_false, if_true] at h
              exact .inr ⟨fun hc => hname hc.2.2.2.2, h⟩
          simp only [hname, Bool.not_true, Bool.false_eq_true, if_false] at h
          refine .inl ⟨⟨?_, hv6, ?_, hstream, hname⟩, fd, port, rfl, rfl, hfree, (Option.some.inj h).symm⟩
          · rw [hsocket]; rfl
          · rw [hbind]; rfl

/-- **Nothing else is touched**: what was open stays what it was. -/
theorem bindPort_frame (h : bindPort type outPort t e = some r) {fd : Nat} {f : NetFile} (hfd : t fd = some f) :
    r.table fd = some f := by
  rcases bindPort_cases h with ⟨_, fd', port, _, _, hfree, rfl⟩ | ⟨_, h4⟩
  · exact opened_of hfree hfd
  · rcases bindPortIpv4_cases h4 with ⟨_, rfl⟩ | ⟨fd', port, _, _, hfree, rfl⟩
    · exact hfd
    · exact opened_of hfree hfd

end Cases

/-! ## What the callers rely on

The ways a call can end are taken one by one: the number that is returned is the socket, or it is 0, or the call has
failed. Of these the second is right only if 0 happens to be such a socket. -/

/-- `fd` is open, of the type, and bound to `port`; for TCP it is listening. -/
def BoundTo (type : SockType) (t : Descriptors NetFile) (fd : Nat) (port : UInt16) : Prop :=
  ∃ s, t fd = some (.socket s) ∧ s.type = type ∧ s.port.map (·.val) = some port ∧ (type = .stream → s.listening)

/-- A descriptor that stays what it is stays bound. -/
theorem BoundTo.mono {type : SockType} {t t' : Descriptors NetFile} {fd : Nat} {port : UInt16}
    (h : BoundTo type t fd port) (hkeep : ∀ s, t fd = some (.socket s) → t' fd = some (.socket s)) :
    BoundTo type t' fd port := by
  obtain ⟨s, hs, hrest⟩ := h
  exact ⟨s, hkeep s hs, hrest⟩

/-- **A bound port.** A number that is not negative is a descriptor bound to the port in `*outPort`; a negative one
    leaves nothing open; at most one descriptor is left open. -/
structure PortBound (type : SockType) (t : Descriptors NetFile) (r : BindResult) : Prop where
  bound : 0 ≤ r.fd → BoundTo type r.table r.fd.toNat r.outPort
  failed : r.fd < 0 → ∀ fd, ¬ Descriptors.Opened t r.table fd
  one : ∀ fd fd', Descriptors.Opened t r.table fd → Descriptors.Opened t r.table fd' → fd = fd'

/-- The calls of the fallback after which 0, which it returns, is bound as the caller expects: it is the number of
    its own socket, or of one that was there before with the same port. -/
def ZeroBound (type : SockType) (t : Descriptors NetFile) (c : SocketCalls) : Prop :=
  c.getsockname ∧
    ((c.socket = some 0 ∧ (type = .stream → c.listen)) ∨
      ∃ port, c.bind = some port ∧ BoundTo type t 0 port.val)

/-- The dual-stack attempt succeeds, the fallback fails, or 0 happens to be right. -/
def BindsRight (type : SockType) (t : Descriptors NetFile) (e : BindCalls) : Prop :=
  e.inet6.Complete type ∨ e.inet.socket = none ∨ e.inet.bind = none ∨ ZeroBound type t e.inet

section Bound

variable {type : SockType} {outPort : UInt16} {t : Descriptors NetFile} {e : BindCalls} {r : BindResult}

/-- A failed call. -/
theorem portBound_failed : PortBound type t ⟨-1, outPort, t⟩ where
  bound := by
    intro h
    cases h
  failed := fun _ _ => not_opened_self
  one := fun _ _ h => absurd h not_opened_self

/-- One socket that is open, and the number of it. -/
theorem portBound_install {fd : Nat} {s : NetSocket} {port : Port} (hfree : t fd = none) (htype : s.type = type)
    (hport : s.port = some port) (hlisten : type = .stream → s.listening) :
    PortBound type t ⟨fd, port.val, t.install fd (.socket s)⟩ where
  bound := by
    intro _
    refine ⟨s, Function.update_self .., htype, ?_, hlisten⟩
    rw [hport]
    rfl
  failed := fun h => absurd h (by simp)
  one := by
    intro fd' fd'' h h'
    exact ((opened_install hfree).mp h).trans ((opened_install hfree).mp h').symm

/-- **The fallback** is right exactly when it fails or 0 happens to be bound. -/
theorem bindPortIpv4_bound_iff (h : bindPortIpv4 type outPort t e.inet = some r) :
    PortBound type t r ↔ e.inet.socket = none ∨ e.inet.bind = none ∨ ZeroBound type t e.inet := by
  rcases bindPortIpv4_cases h with ⟨hfail, rfl⟩ | ⟨fd, port, hsocket, hbind, hfree, rfl⟩
  · exact iff_of_true portBound_failed (hfail.elim .inl (.inr ∘ .inl))
  rw [hsocket, hbind]
  simp only [reduceCtorEq, false_or]
  constructor
  · intro hb
    obtain ⟨s, hs, htype, hport, hlisten⟩ := hb.bound (le_refl _)
    -- a port is not 0, so `getsockname` has told it
    by_cases hname : e.inet.getsockname
    case neg =>
        rw [if_neg hname] at hport
        obtain ⟨p, _, hp⟩ := Option.map_eq_some_iff.mp hport
        exact absurd hp p.property
    rw [if_pos hname] at hport
    refine ⟨hname, ?_⟩
    rcases of_opened hs with ⟨hzero, hs⟩ | ⟨_, hs⟩
    · obtain rfl := NetFile.socket.inj hs
      have hfd : fd = 0 := hzero.symm
      refine .inl ⟨by rw [hsocket, hfd], ?_⟩
      intro hstream
      have := hlisten hstream
      simpa [hstream] using this
    · exact .inr ⟨port, hbind, s, hs, htype, hport, hlisten⟩
  · rintro ⟨hname, ⟨hzero, hlisten⟩ | ⟨port', hport', hbound⟩⟩
    · obtain rfl : fd = 0 := Option.some.inj (hsocket.symm.trans hzero)
      rw [if_pos hname]
      refine portBound_install hfree rfl rfl ?_
      intro hstream
      simpa [hstream] using hlisten hstream
    · obtain rfl : port = port' := Option.some.inj (hbind.symm.trans hport')
      obtain ⟨s, hs, htype, hport, hl⟩ := hbound
      rw [if_pos hname]
      refine ⟨fun _ => ⟨s, opened_of hfree hs, htype, hport, hl⟩, fun h => absurd h (by simp), ?_⟩
      intro fd' fd'' h' h''
      exact ((opened_install hfree).mp h').trans ((opened_install hfree).mp h'').symm

/-- **Exactly when a port is bound.** -/
theorem bindPort_bound (h : bindPort type outPort t e = some r) : PortBound type t r ↔ BindsRight type t e := by
  rcases bindPort_cases h with ⟨hc, fd, port, _, _, hfree, rfl⟩ | ⟨hc, h4⟩
  · refine iff_of_true (portBound_install hfree rfl rfl ?_) (.inl hc)
    intro hstream
    simpa using hstream
  · rw [bindPortIpv4_bound_iff h4, BindsRight]
    exact (or_iff_right hc).symm

/-- The dual-stack attempt succeeds, or the fallback does and its socket is descriptor 0. -/
def BindCalls.Succeed (e : BindCalls) (type : SockType) : Prop :=
  e.inet6.Complete type ∨
    (e.inet.socket = some 0 ∧ e.inet.bind.isSome ∧ e.inet.getsockname ∧ (type = .stream → e.inet.listen))

instance (e : BindCalls) (type : SockType) : Decidable (e.Succeed type) :=
  inferInstanceAs (Decidable (_ ∨ (_ ∧ _ ∧ _ ∧ (_ → _))))

/-- Such a call returns a descriptor that was free, and is bound now. -/
theorem bindPort_succeed (h : bindPort type outPort t e = some r) (he : e.Succeed type) :
    0 ≤ r.fd ∧ t r.fd.toNat = none ∧ BoundTo type r.table r.fd.toNat r.outPort := by
  have hright : BindsRight type t e := by
    rcases he with hc | ⟨hzero, _, hname, hlisten⟩
    · exact .inl hc
    · exact .inr (.inr (.inr ⟨hname, .inl ⟨hzero, hlisten⟩⟩))
  have hfd : 0 ≤ r.fd ∧ t r.fd.toNat = none := by
    rcases bindPort_cases h with ⟨_, fd, port, _, _, hfree, rfl⟩ | ⟨hno, h4⟩
    · exact ⟨Int.natCast_nonneg fd, hfree⟩
    · obtain ⟨hzero, hbind, _⟩ := he.resolve_left hno
      rcases bindPortIpv4_cases h4 with ⟨hnone | hnone, _⟩ | ⟨fd, port, hsocket, _, hfree, rfl⟩
      · rw [hnone] at hzero
        cases hzero
      · rw [hnone] at hbind
        cases hbind
      · obtain rfl : fd = 0 := Option.some.inj (hsocket.symm.trans hzero)
        exact ⟨le_refl _, hfree⟩
  exact ⟨hfd.1, hfd.2, ((bindPort_bound h).mpr hright).bound hfd.1⟩

end Bound

/-- **`bind_udp_port` and `bind_tcp_port`**: whatever the system calls return, the number returned is what the callers
    rely on exactly when the dual-stack attempt succeeds, the fallback fails, or 0 happens to be such a descriptor. -/
theorem bindPort_bound_iff (outPort : UInt16) (t : Descriptors NetFile) (e : BindCalls) (r : BindResult) :
    (bindUdpPort outPort t e = some r → (PortBound .dgram t r ↔ BindsRight .dgram t e)) ∧
    (bindTcpPort outPort t e = some r → (PortBound .stream t r ↔ BindsRight .stream t e)) :=
  ⟨bindPort_bound, bindPort_bound⟩

/-- A dual-stack socket on descriptor 3, bound to port 7000. -/
def dualCalls : BindCalls :=
  ⟨⟨some 3, true, some ⟨7000, by decide⟩, true, true⟩, ⟨none, false, none, false, false⟩⟩

theorem bindPort_bound_dual :
    (PortBound .dgram (fun _ => none) ⟨3, 7000, Descriptors.install (fun _ => none) 3
        (.socket ⟨.inet6, .dgram, some ⟨7000, by decide⟩, false⟩)⟩ ↔ BindsRight .dgram (fun _ => none) dualCalls) ∧
    (PortBound .stream (fun _ => none) ⟨3, 7000, Descriptors.install (fun _ => none) 3
        (.socket ⟨.inet6, .stream, some ⟨7000, by decide⟩, true⟩)⟩ ↔ BindsRight .stream (fun _ => none) dualCalls) :=
  ⟨(bindPort_bound_iff 0 (fun _ => none) dualCalls _).1 rfl, (bindPort_bound_iff 0 (fun _ => none) dualCalls _).2 rfl⟩

/-! ### The fallback -/

/-- The standard input is open, nothing else. -/
def stdinOpen : Descriptors NetFile := Descriptors.install (fun _ => none) 0 .other

/-- There is no IPv6; everything succeeds with IPv4, on descriptor 3 and port 7000. -/
def fallbackCalls : BindCalls :=
  ⟨⟨none, false, none, false, false⟩, ⟨some 3, true, some ⟨7000, by decide⟩, true, true⟩⟩

/-- The standard input is taken for the socket. -/
theorem bindUdpPort_fallback :
    ∃ r, bindUdpPort 0 stdinOpen fallbackCalls = some r ∧ r.fd = 0 ∧ r.table 0 = some .other ∧
      ¬ PortBound .dgram stdinOpen r := by
  refine ⟨_, rfl, rfl, rfl, ?_⟩
  intro hb
  obtain ⟨s, hs, _⟩ := hb.bound (le_refl _)
  cases (Option.some.inj hs : NetFile.other = .socket s)

end Showcase
