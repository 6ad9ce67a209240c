import Showcase.Lib.Descriptors
import Showcase.Lib.History
import Showcase.Screen.Ipc

/-!
# `Screen.AppSock` — the callers of `app_send_msg`

The screen thread, the request handlers and the accept loop of `carplay_services.m` all send to the app through one
global descriptor, `g_app_sock`, without a lock. A thread stops at every system call and reads the global again
there (`AppPc`); the kernel hands out the numbers of closed descriptors again, also to other parts of the process.

* `AppSafe` — every connection carries whole messages, and nobody uses a descriptor that has been replaced.
* `appSafe_undisturbed` — so it is in a run in which a thread goes on only while no other is in the middle of a message.
-/

namespace Showcase

open Lib

/-! ## Descriptors -/

inductive FileKind where
  /-- A socket that is not connected. -/
  | socket
  /-- A connection to the app. -/
  | app
  /-- Anything else the process has open. -/
  | other
deriving DecidableEq

/-- An open file: what it is, and the bytes written to it. -/
structure OpenFile where
  kind : FileKind
  bytes : Bytes
deriving DecidableEq

/-- A write to a file or its closing, by a caller that had first used its descriptor when `since` files had been
    opened. -/
structure Access where
  file : Nat
  since : Nat

/-! ## Threads -/

/-- Where a thread is. -/
inductive AppPc where
  | idle
  /-- `if (g_app_sock >= 0)`. -/
  | ensure (m : AppMsg)
  /-- `g_app_sock = socket(...)`. -/
  | socket (m : AppMsg)
  /-- `connect(g_app_sock, ...)`. -/
  | connect (m : AppMsg) (since : Nat)
  /-- `write(g_app_sock, hdr + sent, 5 - sent)`. -/
  | header (m : AppMsg) (sent since : Nat)
  /-- `write(g_app_sock, data + sent, len - sent)`. -/
  | payload (m : AppMsg) (sent since : Nat)
  /-- `close(g_app_sock)`. -/
  | close (since : Nat)
  /-- `g_app_sock = -1`. -/
  | unset

/-- The thread is in the middle of a message, of a connection attempt or of closing. -/
def AppPc.busy : AppPc → Bool
  | .idle => false
  | .ensure _ => false
  | .socket _ => false
  | .connect _ _ => true
  | .header _ sent _ => sent ≠ 0
  | .payload _ _ _ => true
  | .close _ => true
  | .unset => true

/-- The message of a call. -/
def AppPc.msg : AppPc → Option AppMsg
  | .ensure m => some m
  | .socket m => some m
  | .connect m _ => some m
  | .header m _ _ => some m
  | .payload m _ _ => some m
  | _ => none

structure AppState where
  /-- `g_app_sock`, `none` for -1. -/
  gAppSock : Option Nat
  /-- The file of every open descriptor. -/
  table : Nat → Option Nat
  /-- All files that were ever opened. -/
  files : List OpenFile
  thread : Nat → AppPc
  /-- The messages `app_send_msg` was called with. -/
  handed : List AppMsg
  accesses : List Access

def AppState.init : AppState := ⟨none, fun _ => none, [], fun _ => .idle, [], []⟩

namespace AppState

/-- The file behind `g_app_sock`. -/
def current (s : AppState) : Option Nat := s.gAppSock.bind s.table

def goto (s : AppState) (t : Nat) (pc : AppPc) : AppState := { s with thread := Function.update s.thread t pc }

/-- `write(g_app_sock, out, ...)`: the bytes that were taken, at least one; `n = 0` stands for a failure. -/
def write (s : AppState) (since : Nat) (out : Bytes) (n : Nat) : AppState × Option Nat :=
  match s.current with
  | none => (s, none)
  | some f =>
      let s := { s with accesses := s.accesses ++ [⟨f, since⟩] }
      match s.files[f]? with
      | none => (s, none)
      | some file =>
          if n = 0 ∨ file.kind = .socket then (s, none)
          else
            ({ s with files := s.files.set f { file with bytes := file.bytes ++ out.take n } },
              some (out.take n).length)

/-- `close(g_app_sock)`. -/
def close (s : AppState) (since : Nat) : AppState :=
  match s.gAppSock with
  | none => s
  | some fd =>
      match s.table fd with
      | none => s
      | some f =>
          { s with table := Function.update s.table fd none, accesses := s.accesses ++ [⟨f, since⟩] }

end AppState

/-- The outcome of a system call: the new descriptor, whether `connect` succeeds, how much `write` takes. -/
structure SysResult where
  fd : Option Nat
  ok : Bool
  n : Nat

/-- `hdr`. -/
def appHeader (m : AppMsg) : Bytes := toLE 4 m.2.length ++ [m.1]

/-- The next step of the thread `t`. -/
def appThreadStep (s : AppState) (t : Nat) (r : SysResult) : Option AppState :=
  match s.thread t with
  | .idle => none
  | .ensure m => some (s.goto t (if s.gAppSock.isSome then .header m 0 0 else .socket m))
  | .socket m =>
      match r.fd with
      | none => some ({ s with gAppSock := none }.goto t (.connect m s.files.length))
      | some fd =>
          if (s.table fd).isSome then none
          else
            let opened : AppState := { s with
              gAppSock := some fd
              table := Function.update s.table fd (some s.files.length)
              files := s.files ++ [⟨.socket, []⟩] }
            some (opened.goto t (.connect m (s.files.length + 1)))
  | .connect m since =>
      match s.gAppSock with
      | none => some (s.goto t .idle)
      | some _ =>
          match s.current with
          | none => some (s.goto t (.close since))
          | some f =>
              if r.ok ∧ s.files[f]?.map (·.kind) = some .socket then
                some ({ s with files := s.files.set f ⟨.app, []⟩ }.goto t (.header m 0 0))
              else some (s.goto t (.close since))
  | .header m sent since =>
      let since := if sent = 0 then s.files.length else since
      match s.write since ((appHeader m).drop sent) r.n with
      | (s, none) => some (s.goto t (.close since))
      | (s, some n) =>
          some (s.goto t (if sent + n < 5 then .header m (sent + n) since
            else if m.2.length = 0 then .idle else .payload m 0 since))
  | .payload m sent since =>
      match s.write since (m.2.drop sent) r.n with
      | (s, none) => some (s.goto t (.close since))
      | (s, some n) =>
          some (s.goto t (if sent + n < m.2.length then .payload m (sent + n) since else .idle))
  | .close since => some ((s.close since).goto t .unset)
  | .unset => some ({ s with gAppSock := none }.goto t .idle)

inductive AppInput where
  /-- The thread `t` calls `app_send_msg`. -/
  | call (t : Nat) (m : AppMsg)
  /-- A thread is at the end of `screen_thread_func`. -/
  | exit (t : Nat)
  | step (t : Nat) (r : SysResult)
  /-- Another part of the process opens or closes a descriptor. -/
  | otherOpen (fd : Nat)
  | otherClose (fd : Nat)

/-- The steps of all threads, in any interleaving. -/
def appStep (s : AppState) (i : AppInput) (s' : AppState) : Prop :=
  match i with
  | .call t m => s.thread t = .idle ∧ s' = { s with handed := s.handed ++ [m] }.goto t (.ensure m)
  | .exit t =>
      s.thread t = .idle ∧ s' = s.goto t (if s.gAppSock.isSome then .close s.files.length else .idle)
  | .step t r => appThreadStep s t r = some s'
  | .otherOpen fd =>
      s.table fd = none ∧
        s' = { s with
          table := Function.update s.table fd (some s.files.length)
          files := s.files ++ [⟨.other, []⟩] }
  | .otherClose fd =>
      ∃ f file, s.table fd = some f ∧ s.files[f]? = some file ∧ file.kind = .other ∧
        s' = { s with table := Function.update s.table fd none }

abbrev AppRun := Run appStep AppState.init

/-! ## Whole messages -/

/-- Messages that were handed over, and `rest` behind them. -/
def Messages (handed : List AppMsg) (b rest : Bytes) : Prop :=
  ∃ msgs : List AppMsg, (∀ m ∈ msgs, m ∈ handed) ∧ b = msgs.flatMap AppMsg.wire ++ rest

def Whole (handed : List AppMsg) (b : Bytes) : Prop := Messages handed b []

/-- The last message is cut. -/
def Cut (handed : List AppMsg) (b : Bytes) : Prop := ∃ m ∈ handed, ∃ k, Messages handed b (m.wire.take k)

/-- No descriptor is left. -/
def Closed (s : AppState) (f : Nat) : Prop := ∀ fd, s.table fd ≠ some f

/-- **Atomic messages.** A connection carries whole messages; only on one that is closed, or that a caller is in the
    middle of using, the last may be cut. No caller writes to or closes a file that was opened since it first used
    its descriptor. -/
structure AppSafe (s : AppState) : Prop where
  whole : ∀ f file, s.files[f]? = some file → file.kind = .app →
    Whole s.handed file.bytes ∨
      (Cut s.handed file.bytes ∧ (Closed s f ∨ (s.current = some f ∧ ∃ t, (s.thread t).busy)))
  stale : ∀ a ∈ s.accesses, a.file < a.since

/-- The thread that takes a step is the only one in the middle of something, or looks at the global only. -/
def Undisturbed (x : Step AppState AppInput) : Prop :=
  match x.input with
  | .step t _ => (∃ m, x.pre.thread t = .ensure m) ∨ ∀ t', t' ≠ t → (x.pre.thread t').busy = false
  | .exit t => ∀ t', t' ≠ t → (x.pre.thread t').busy = false
  | _ => True

/-! ## The invariant

At most one thread is in the middle of something, and its place (`Station`) says how much of its message is in the
file behind `g_app_sock`. All other files hold whole messages, or are closed and end with one that was cut. -/

namespace Messages

variable {handed handed' : List AppMsg} {b rest : Bytes}

theorem nil (handed : List AppMsg) : Messages handed [] [] :=
  ⟨[], fun _ hm => absurd hm List.not_mem_nil, rfl⟩

theorem mono (h : Messages handed b rest) (hsub : handed ⊆ handed') : Messages handed' b rest := by
  obtain ⟨msgs, hmem, hb⟩ := h
  exact ⟨msgs, fun m hm => hsub (hmem m hm), hb⟩

/-- More of the message that was begun. -/
theorem append {more : Bytes} (h : Messages handed b rest) : Messages handed (b ++ more) (rest ++ more) := by
  obtain ⟨msgs, hmem, rfl⟩ := h
  exact ⟨msgs, hmem, List.append_assoc _ _ _⟩

/-- The message that was begun is whole. -/
theorem finish {m : AppMsg} (h : Messages handed b m.wire) (hm : m ∈ handed) : Whole handed b := by
  obtain ⟨msgs, hmem, rfl⟩ := h
  refine ⟨msgs ++ [m], ?_, by simp⟩
  intro m' hm'
  rcases List.mem_append.mp hm' with h | h
  · exact hmem m' h
  · rwa [List.mem_singleton.mp h]

end Messages

/-- The header and the payload. -/
theorem AppMsg.wire_eq (m : AppMsg) : m.wire = appHeader m ++ m.2 := by
  rw [AppMsg.wire, appMessage, appHeader, List.append_assoc, List.singleton_append]

theorem appHeader_length (m : AppMsg) : (appHeader m).length = 5 := by
  rw [appHeader, List.length_append, toLE_length, List.length_singleton]

/-- What a `write` adds to what has been written. -/
theorem take_append_piece {w pre mid post : Bytes} (hw : w = pre ++ mid ++ post) (n : Nat) :
    w.take pre.length ++ mid.take n = w.take (pre.length + (mid.take n).length) := by
  have hsplit : w = (pre ++ mid.take n) ++ (mid.drop n ++ post) := by
    rw [hw, List.append_assoc, List.append_assoc, ← List.append_assoc (mid.take n), List.take_append_drop]
  have hpre : w.take pre.length = pre := by rw [hw, List.append_assoc, List.take_left]
  rw [hpre, ← List.length_append]
  conv_rhs => rw [hsplit, List.take_left]

theorem wire_take_header {m : AppMsg} {sent : Nat} (h : sent ≤ 5) (n : Nat) :
    m.wire.take sent ++ ((appHeader m).drop sent).take n
      = m.wire.take (sent + (((appHeader m).drop sent).take n).length) := by
  have hlen : ((appHeader m).take sent).length = sent := by
    rw [List.length_take, appHeader_length]
    omega
  have hwire : m.wire = (appHeader m).take sent ++ (appHeader m).drop sent ++ m.2 := by
    rw [List.take_append_drop, AppMsg.wire_eq]
  have hpiece := take_append_piece hwire n
  rwa [hlen] at hpiece

theorem wire_take_payload {m : AppMsg} {sent : Nat} (h : sent ≤ m.2.length) (n : Nat) :
    m.wire.take (5 + sent) ++ (m.2.drop sent).take n
      = m.wire.take (5 + (sent + ((m.2.drop sent).take n).length)) := by
  have hlen : (appHeader m ++ m.2.take sent).length = 5 + sent := by
    rw [List.length_append, appHeader_length, List.length_take]
    omega
  have hwire : m.wire = (appHeader m ++ m.2.take sent) ++ m.2.drop sent ++ [] := by
    rw [List.append_assoc (appHeader m), List.take_append_drop, AppMsg.wire_eq, List.append_nil]
  have hpiece := take_append_piece hwire n
  rwa [hlen, Nat.add_assoc] at hpiece

/-- The file behind `g_app_sock`, when it is of a kind and known to a caller. -/
def OnFile (s : AppState) (since : Nat) (p : OpenFile → Prop) (fd : Nat) : Prop :=
  ∃ f file, s.table fd = some f ∧ f < since ∧ s.files[f]? = some file ∧ p file

/-- What holds when no caller is in the middle of something. -/
def Quiet (s : AppState) : Prop :=
  ∀ fd, s.gAppSock = some fd → OnFile s s.files.length (fun file => file.kind = .app ∧ Whole s.handed file.bytes) fd

/-- A caller has written `k` bytes of its message. -/
def Writing (s : AppState) (since : Nat) (m : AppMsg) (k : Nat) : Prop :=
  ∃ fd, s.gAppSock = some fd ∧
    OnFile s since (fun file => file.kind = .app ∧ Messages s.handed file.bytes (m.wire.take k)) fd

/-- What holds when this is where the only caller is that may be in the middle of something. -/
def Station (s : AppState) : AppPc → Prop
  | .connect _ since => ∀ fd, s.gAppSock = some fd →
      OnFile s since (fun file => file.kind = .socket ∧ file.bytes = []) fd
  | .header m sent since => if sent = 0 then Quiet s else sent ≤ 5 ∧ Writing s since m sent
  | .payload m sent since => sent ≤ m.2.length ∧ Writing s since m (5 + sent)
  | .close since => ∀ fd, s.gAppSock = some fd →
      OnFile s since (fun file => file.kind ≠ .other ∧
        (file.kind = .app → Whole s.handed file.bytes ∨ Cut s.handed file.bytes)) fd
  | .unset => ∀ f file, s.current = some f → s.files[f]? = some file → file.kind ≠ .app
  | _ => Quiet s

theorem station_idle {s : AppState} {pc : AppPc} (h : pc.busy = false) : Station s pc ↔ Quiet s := by
  cases pc with
  | idle => exact Iff.rfl
  | ensure m => exact Iff.rfl
  | socket m => exact Iff.rfl
  | connect m since => cases h
  | header m sent since =>
      have hsent : sent = 0 := by simpa [AppPc.busy] using h
      rw [Station, if_pos hsent]
  | payload m sent since => cases h
  | close since => cases h
  | unset => cases h

/-- The files and descriptors. -/
structure Files (s : AppState) : Prop where
  fresh : ∀ fd f, s.table fd = some f → f < s.files.length
  inj : ∀ fd fd' f, s.table fd = some f → s.table fd' = some f → fd = fd'
  stale : ∀ a ∈ s.accesses, a.file < a.since
  rest : ∀ f file, s.files[f]? = some file → file.kind = .app → s.current ≠ some f →
    Whole s.handed file.bytes ∨ (Cut s.handed file.bytes ∧ Closed s f)

structure AppInv (s : AppState) : Prop where
  files : Files s
  handed : ∀ t m, (s.thread t).msg = some m → m ∈ s.handed
  one : ∀ t t', (s.thread t).busy → (s.thread t').busy → t = t'
  station : ∀ t, (∀ t', t' ≠ t → (s.thread t').busy = false) → Station s (s.thread t)

/-- **The invariant gives atomic messages.** -/
theorem AppInv.safe {s : AppState} (h : AppInv s) : AppSafe s := by
  refine ⟨?_, h.files.stale⟩
  intro f file hfile happ
  by_cases hcur : s.current = some f
  case neg =>
      rcases h.files.rest f file hfile happ hcur with hwhole | ⟨hcut, hclosed⟩
      · exact .inl hwhole
      · exact .inr ⟨hcut, .inl hclosed⟩
  obtain ⟨fd, hfd, htable⟩ := Option.bind_eq_some_iff.mp hcur
  -- what the file holds is what the place of the busy caller says
  have hfrom : ∀ {since : Nat} {p : OpenFile → Prop}, OnFile s since p fd → p file := by
    rintro since p ⟨f', file', htable', _, hfile', hp⟩
    have hf : f' = f := Option.some.inj (htable'.symm.trans htable)
    rw [hf, hfile] at hfile'
    exact Option.some.inj hfile' ▸ hp
  by_cases hbusy : ∃ t, (s.thread t).busy
  case neg =>
      have hquiet : Quiet s := by
        have hno : ∀ t, (s.thread t).busy = false := fun t => by
          cases hb : (s.thread t).busy with
          | false => rfl
          | true => exact absurd ⟨t, hb⟩ hbusy
        exact (station_idle (hno 0)).mp (h.station 0 (fun t' _ => hno t'))
      exact .inl (hfrom (hquiet fd hfd)).2
  obtain ⟨t, ht⟩ := hbusy
  have hstation : Station s (s.thread t) := by
    apply h.station t
    intro t' hne
    cases hb : (s.thread t').busy with
    | false => rfl
    | true => exact absurd (h.one t' t hb ht) hne
  have hcutting : ∀ {since m k}, (s.thread t).msg = some m → Writing s since m k →
      Whole s.handed file.bytes ∨
        (Cut s.handed file.bytes ∧ (Closed s f ∨ (s.current = some f ∧ ∃ t, (s.thread t).busy))) := by
    rintro since m k hmsg ⟨fd', hfd', hon⟩
    obtain rfl : fd' = fd := Option.some.inj (hfd'.symm.trans hfd)
    exact .inr ⟨⟨m, h.handed t m hmsg, k, (hfrom hon).2⟩, .inr ⟨hcur, t, ht⟩⟩
  cases hpc : s.thread t with
  | idle => rw [hpc] at ht; cases ht
  | ensure m => rw [hpc] at ht; cases ht
  | socket m => rw [hpc] at ht; cases ht
  | connect m since =>
      rw [hpc] at hstation
      have hsocket := (hfrom (hstation fd hfd)).1
      rw [happ] at hsocket
      cases hsocket
  | header m sent since =>
      rw [hpc] at hstation ht
      have hsent : sent ≠ 0 := by simpa [AppPc.busy] using ht
      rw [Station, if_neg hsent] at hstation
      exact hcutting (by rw [hpc]; rfl) hstation.2
  | payload m sent since =>
      rw [hpc] at hstation
      exact hcutting (by rw [hpc]; rfl) hstation.2
  | close since =>
      rw [hpc] at hstation
      rcases (hfrom (hstation fd hfd)).2 happ with hwhole | hcut
      · exact .inl hwhole
      · exact .inr ⟨hcut, .inr ⟨hcur, t, ht⟩⟩
  | unset =>
      rw [hpc] at hstation
      exact absurd happ (hstation f file hcur hfile)

theorem appInv_init : AppInv .init where
  files := {
    fresh := fun _ _ h => nomatch h
    inj := fun _ _ _ h => nomatch h
    stale := fun _ h => absurd h List.not_mem_nil
    rest := fun _ _ h => nomatch h }
  handed := fun _ _ h => nomatch h
  one := fun _ _ h => nomatch h
  station := fun _ _ _ h => nomatch h

/-! ## Steps of one thread

Each system call of `app_send_msg` leads from one place to another. The thread is alone, so only its own place and its
file change. -/

section Step

variable {s s' : AppState} {t : Nat} {pc : AppPc}

/-- **The step of a thread that is alone** keeps the invariant when it leads to a place whose condition holds. -/
theorem AppInv.goto (h : AppInv s) (hothers : ∀ t', t' ≠ t → (s.thread t').busy = false) (hfiles : Files s')
    (hthread : s'.thread = s.thread) (hhanded : s'.handed = s.handed)
    (hmsg : ∀ m, pc.msg = some m → m ∈ s.handed) (hstation : Station s' pc) : AppInv (s'.goto t pc) := by
  have hself : (s'.goto t pc).thread t = pc := Function.update_self ..
  have hother : ∀ {t'}, t' ≠ t → (s'.goto t pc).thread t' = s.thread t' := by
    intro t' hne
    rw [AppState.goto, hthread]
    exact Function.update_of_ne hne ..
  have hfree : ∀ {t'}, ((s'.goto t pc).thread t').busy → t' = t := by
    intro t' hb
    by_contra hne
    rw [hother hne, hothers t' hne] at hb
    cases hb
  refine ⟨⟨hfiles.fresh, hfiles.inj, hfiles.stale, hfiles.rest⟩, ?_, ?_, ?_⟩
  · intro t' m hm
    show m ∈ s'.handed
    rw [hhanded]
    by_cases hne : t' = t
    · rw [hne, hself] at hm
      exact hmsg m hm
    · rw [hother hne] at hm
      exact h.handed t' m hm
  · intro t' t'' hb hb'
    rw [hfree hb, hfree hb']
  · intro t' hall
    show Station s' ((s'.goto t pc).thread t')
    by_cases hne : t' = t
    · rw [hne, hself]
      exact hstation
    · have hpc : pc.busy = false := hself ▸ hall t (fun h => hne h.symm)
      rw [hother hne, station_idle (hothers t' hne)]
      exact (station_idle hpc).mp hstation

/-- `g_app_sock = -1`, when no cut message is left behind it. -/
theorem Files.unset (h : Files s) (hcur : ∀ f file, s.current = some f → s.files[f]? = some file →
    file.kind = .app → Whole s.handed file.bytes) : Files { s with gAppSock := none } := by
  refine ⟨h.fresh, h.inj, h.stale, ?_⟩
  intro f file hfile happ _
  by_cases hf : s.current = some f
  · exact .inl (hcur f file hf hfile happ)
  · exact h.rest f file hfile happ hf

/-- A new descriptor, when no cut message is left behind the old one. -/
theorem Files.socket (h : Files s) (hquiet : Quiet s) (fd : Nat) :
    Files { s with
      gAppSock := some fd
      table := Function.update s.table fd (some s.files.length)
      files := s.files ++ [⟨.socket, []⟩] } := by
  refine ⟨?_, ?_, h.stale, ?_⟩
  · intro fd' f hf
    rw [List.length_append]
    exact opened_fresh h.fresh hf
  · exact fun fd' fd'' f hf hf' => opened_inj h.fresh h.inj hf hf'
  · intro f file hfile happ _
    rw [List.getElem?_append] at hfile
    split at hfile
    case isFalse =>
        have hsocket : file = ⟨.socket, []⟩ := by
          rw [List.getElem?_singleton] at hfile
          split at hfile
          · exact (Option.some.inj hfile).symm
          · cases hfile
        rw [hsocket] at happ
        cases happ
    rename_i hlt
    by_cases hcur : s.current = some f
    · obtain ⟨fd', hfd', htable⟩ := Option.bind_eq_some_iff.mp hcur
      obtain ⟨f', file', htable', _, hfile', _, hwhole⟩ := hquiet fd' hfd'
      obtain rfl : f' = f := Option.some.inj (htable'.symm.trans htable)
      rw [hfile] at hfile'
      exact .inl (Option.some.inj hfile' ▸ hwhole)
    · rcases h.rest f file hfile happ hcur with hwhole | ⟨hcut, hclosed⟩
      · exact .inl hwhole
      · refine .inr ⟨hcut, fun fd' hf => ?_⟩
        rcases of_opened hf with ⟨_, rfl⟩ | ⟨_, hf'⟩
        · exact Nat.lt_irrefl _ hlt
        · exact hclosed fd' hf'

/-- Something is written to the file behind `g_app_sock`. -/
theorem Files.setCurrent (h : Files s) {f : Nat} (hcur : s.current = some f) (file : OpenFile) :
    Files { s with files := s.files.set f file } := by
  refine ⟨?_, h.inj, h.stale, ?_⟩
  · intro fd f' hf
    rw [List.length_set]
    exact h.fresh fd f' hf
  · intro f' file' hfile happ hne
    have hff : f ≠ f' := fun heq => hne (heq ▸ hcur)
    rw [List.getElem?_set_ne hff] at hfile
    exact h.rest f' file' hfile happ hne

/-- A caller uses a file it knows. -/
theorem Files.access (h : Files s) {f since : Nat} (hf : f < since) :
    Files { s with accesses := s.accesses ++ [⟨f, since⟩] } := by
  refine ⟨h.fresh, h.inj, ?_, h.rest⟩
  intro a ha
  rcases List.mem_append.mp ha with ha | ha
  · exact h.stale a ha
  · rw [List.mem_singleton.mp ha]
    exact hf

/-- `close(g_app_sock)`. -/
theorem Files.close (h : Files s) {since : Nat} (hstation : Station s (.close since)) : Files (s.close since) := by
  unfold AppState.close
  cases hfd : s.gAppSock with
  | none => exact h
  | some fd =>
      obtain ⟨f, file, htable, hsince, hfile, _, hbytes⟩ := hstation fd hfd
      simp only [htable]
      refine ⟨fun fd' f' hf => h.fresh fd' f' (of_closed hf),
        fun fd' fd'' f' hf hf' => h.inj fd' fd'' f' (of_closed hf) (of_closed hf'), ?_, ?_⟩
      · intro a ha
        rcases List.mem_append.mp ha with ha | ha
        · exact h.stale a ha
        · rw [List.mem_singleton.mp ha]
          exact hsince
      · intro f' file' hfile' happ _
        by_cases hff : f' = f
        · subst hff
          rw [hfile] at hfile'
          obtain rfl := Option.some.inj hfile'
          refine (hbytes happ).imp_right fun hcut => ⟨hcut, fun fd' hf => ?_⟩
          have hsame : fd' = fd := h.inj fd' fd f' (of_closed hf) htable
          have hgone : Function.update s.table fd none fd = some f' := hsame ▸ hf
          rw [Function.update_self] at hgone
          cases hgone
        · have hcur : s.current ≠ some f' := by
            intro hc
            rw [AppState.current, hfd, Option.bind_some, htable] at hc
            exact hff (Option.some.inj hc).symm
          refine (h.rest f' file' hfile' happ hcur).imp_right fun ⟨hcut, hclosed⟩ => ⟨hcut, fun fd' hf => ?_⟩
          exact hclosed fd' (of_closed hf)

/-- **One `write`** of a caller that has written `k` bytes of its message: it fails, or more of the message is on the
    same connection. -/
theorem write_known (h : Files s) {since k : Nat} {m : AppMsg} (hwriting : Writing s since m k) (out : Bytes)
    (n : Nat) :
    ∃ s₁ r, s.write since out n = (s₁, r) ∧ Files s₁ ∧ s₁.thread = s.thread ∧ s₁.handed = s.handed ∧
      ∃ fd, s₁.gAppSock = some fd ∧
        ((r = none ∧ OnFile s₁ since (fun file => file.kind = .app ∧
            Messages s.handed file.bytes (m.wire.take k)) fd) ∨
          (r = some (out.take n).length ∧ n ≠ 0 ∧ OnFile s₁ since (fun file => file.kind = .app ∧
            Messages s.handed file.bytes (m.wire.take k ++ out.take n)) fd)) := by
  obtain ⟨fd, hfd, f, file, htable, hsince, hfile, happ, hmsgs⟩ := hwriting
  have hcur : s.current = some f := by rw [AppState.current, hfd, Option.bind_some, htable]
  have hlt : f < s.files.length := (List.getElem?_eq_some_iff.mp hfile).1
  rw [AppState.write, hcur]
  simp only [hfile]
  by_cases hfail : n = 0 ∨ file.kind = .socket
  · rw [if_pos hfail]
    exact ⟨_, _, rfl, h.access hsince, rfl, rfl, fd, hfd, .inl ⟨rfl, f, file, htable, hsince, hfile, happ, hmsgs⟩⟩
  · rw [if_neg hfail]
    have hn : n ≠ 0 := fun h0 => hfail (.inl h0)
    have hset : (s.files.set f { file with bytes := file.bytes ++ out.take n })[f]?
        = some { file with bytes := file.bytes ++ out.take n } := List.getElem?_set_self hlt
    exact ⟨_, _, rfl, (h.access hsince).setCurrent hcur _, rfl, rfl, fd, hfd,
      .inr ⟨rfl, hn, f, _, htable, hsince, hset, happ, hmsgs.append⟩⟩

/-- A caller that has not written yet finds the connection with whole messages. -/
theorem Quiet.writing (h : Quiet s) {fd : Nat} (hfd : s.gAppSock = some fd) (m : AppMsg) :
    Writing s s.files.length m 0 := ⟨fd, hfd, h fd hfd⟩

theorem write_none (hfd : s.gAppSock = none) (since : Nat) (out : Bytes) (n : Nat) :
    s.write since out n = (s, none) := by
  rw [AppState.write, AppState.current, hfd]
  rfl

/-- The place behind a failed `write`. -/
theorem station_close {since k fd : Nat} {m : AppMsg} (hm : m ∈ s.handed) (hfd : s.gAppSock = some fd)
    (hon : OnFile s since (fun file => file.kind = .app ∧ Messages s.handed file.bytes (m.wire.take k)) fd) :
    Station s (.close since) := by
  intro fd' hfd'
  obtain rfl : fd = fd' := Option.some.inj (hfd.symm.trans hfd')
  obtain ⟨f, file, htable, hsince, hfile, happ, hmsgs⟩ := hon
  exact ⟨f, file, htable, hsince, hfile, by rw [happ]; decide, fun _ => .inr ⟨m, hm, k, hmsgs⟩⟩

/-- The place behind the last `write`. -/
theorem quiet_of_whole {since fd : Nat} {m : AppMsg} (h : Files s) (hm : m ∈ s.handed) (hfd : s.gAppSock = some fd)
    (hon : OnFile s since (fun file => file.kind = .app ∧ Messages s.handed file.bytes m.wire) fd) : Quiet s := by
  intro fd' hfd'
  obtain rfl : fd = fd' := Option.some.inj (hfd.symm.trans hfd')
  obtain ⟨f, file, htable, _, hfile, happ, hmsgs⟩ := hon
  exact ⟨f, file, htable, h.fresh fd f htable, hfile, happ, hmsgs.finish hm⟩

/-- `write(g_app_sock, hdr + sent, 5 - sent)`. -/
theorem AppInv.stepHeader (h : AppInv s) {m : AppMsg} {sent since : Nat} {r : SysResult}
    (hpc : s.thread t = .header m sent since) (hothers : ∀ t', t' ≠ t → (s.thread t').busy = false)
    (hstep : appThreadStep s t r = some s') : AppInv s' := by
  have hm : m ∈ s.handed := h.handed t m (by rw [hpc]; rfl)
  have hstation := h.station t hothers
  let used := if sent = 0 then s.files.length else since
  have hknown : s.gAppSock = none ∨ (sent ≤ 5 ∧ Writing s used m sent) := by
    rw [hpc, Station] at hstation
    by_cases hsent : sent = 0
    · rw [if_pos hsent] at hstation
      cases hfd : s.gAppSock with
      | none => exact .inl rfl
      | some fd =>
          refine .inr ⟨by omega, ?_⟩
          rw [show used = s.files.length from if_pos hsent, hsent]
          exact hstation.writing hfd m
    · rw [if_neg hsent] at hstation
      rw [show used = since from if_neg hsent]
      exact .inr hstation
  rw [appThreadStep, hpc] at hstep
  simp only at hstep
  rcases hknown with hfd | ⟨hsent, hwriting⟩
  · rw [write_none hfd] at hstep
    obtain rfl := Option.some.inj hstep
    refine h.goto hothers h.files rfl rfl (fun _ hm => by cases hm) ?_
    intro fd hfd'
    rw [hfd] at hfd'
    cases hfd'
  obtain ⟨s₁, res, hwrite, hfiles, hthread, hhanded, fd, hfd, hres⟩ :=
    write_known h.files hwriting ((appHeader m).drop sent) r.n
  have hwrite' : s.write (if sent = 0 then s.files.length else since) ((appHeader m).drop sent) r.n = (s₁, res) :=
    hwrite
  rw [hwrite'] at hstep
  rw [← hhanded] at hres hm
  rcases hres with ⟨rfl, hon⟩ | ⟨rfl, hn, hon⟩
  · obtain rfl := Option.some.inj hstep
    exact h.goto hothers hfiles hthread hhanded (fun _ hm => by cases hm) (station_close hm hfd hon)
  have hout : (((appHeader m).drop sent).take r.n).length = min r.n (5 - sent) := by
    rw [List.length_take, List.length_drop, appHeader_length]
  rw [wire_take_header hsent] at hon
  obtain rfl := Option.some.inj hstep
  refine h.goto hothers hfiles hthread hhanded ?_ ?_
  · intro m' hm'
    rw [hhanded] at hm
    split at hm'
    · exact Option.some.inj hm' ▸ hm
    split at hm'
    · cases hm'
    · exact Option.some.inj hm' ▸ hm
  split
  · rw [Station, if_neg (by omega)]
    exact ⟨by omega, fd, hfd, hon⟩
  have hfive : sent + (((appHeader m).drop sent).take r.n).length = 5 := by omega
  rw [hfive] at hon
  split
  · rename_i hempty
    have hwire : m.wire.take 5 = m.wire := List.take_of_length_le (by
      rw [AppMsg.wire_eq, List.length_append, appHeader_length, hempty])
    rw [hwire] at hon
    exact quiet_of_whole hfiles hm hfd hon
  · exact ⟨Nat.zero_le _, fd, hfd, hon⟩

/-- `write(g_app_sock, data + sent, len - sent)`. -/
theorem AppInv.stepPayload (h : AppInv s) {m : AppMsg} {sent since : Nat} {r : SysResult}
    (hpc : s.thread t = .payload m sent since) (hothers : ∀ t', t' ≠ t → (s.thread t').busy = false)
    (hstep : appThreadStep s t r = some s') : AppInv s' := by
  have hm : m ∈ s.handed := h.handed t m (by rw [hpc]; rfl)
  have hstation := h.station t hothers
  rw [hpc] at hstation
  obtain ⟨hsent, hwriting⟩ := hstation
  rw [appThreadStep, hpc] at hstep
  simp only at hstep
  obtain ⟨s₁, res, hwrite, hfiles, hthread, hhanded, fd, hfd, hres⟩ :=
    write_known h.files hwriting (m.2.drop sent) r.n
  rw [hwrite] at hstep
  rw [← hhanded] at hres hm
  rcases hres with ⟨rfl, hon⟩ | ⟨rfl, hn, hon⟩
  · obtain rfl := Option.some.inj hstep
    exact h.goto hothers hfiles hthread hhanded (fun _ hm => by cases hm) (station_close hm hfd hon)
  have hout : ((m.2.drop sent).take r.n).length = min r.n (m.2.length - sent) := by
    rw [List.length_take, List.length_drop]
  rw [wire_take_payload hsent] at hon
  obtain rfl := Option.some.inj hstep
  refine h.goto hothers hfiles hthread hhanded ?_ ?_
  · intro m' hm'
    rw [hhanded] at hm
    split at hm'
    · exact Option.some.inj hm' ▸ hm
    · cases hm'
  split
  · exact ⟨by omega, fd, hfd, hon⟩
  · have hwire : m.wire.take (5 + (sent + ((m.2.drop sent).take r.n).length)) = m.wire :=
      List.take_of_length_le (by
        rw [AppMsg.wire_eq, List.length_append, appHeader_length]
        omega)
    rw [hwire] at hon
    exact quiet_of_whole hfiles hm hfd hon

/-- `g_app_sock = socket(...)`. -/
theorem AppInv.stepSocket (h : AppInv s) {m : AppMsg} {r : SysResult} (hpc : s.thread t = .socket m)
    (hothers : ∀ t', t' ≠ t → (s.thread t').busy = false) (hstep : appThreadStep s t r = some s') : AppInv s' := by
  have hm : ∀ m', some m = some m' → m' ∈ s.handed := by
    intro m' heq
    exact h.handed t m' (by rw [hpc]; exact heq)
  have hquiet : Quiet s := by
    have hstation := h.station t hothers
    rw [hpc] at hstation
    exact hstation
  rw [appThreadStep, hpc] at hstep
  simp only at hstep
  cases hfd : r.fd with
  | none =>
      rw [hfd] at hstep
      obtain rfl := Option.some.inj hstep
      have hfiles : Files { s with gAppSock := none } := by
        apply h.files.unset
        intro f file hcur hfile happ
        obtain ⟨fd, hfd, htable⟩ := Option.bind_eq_some_iff.mp hcur
        obtain ⟨f', file', htable', _, hfile', _, hwhole⟩ := hquiet fd hfd
        obtain rfl : f' = f := Option.some.inj (htable'.symm.trans htable)
        rw [hfile] at hfile'
        exact Option.some.inj hfile' ▸ hwhole
      exact h.goto hothers hfiles rfl rfl hm (fun _ hno => nomatch hno)
  | some fd =>
      rw [hfd] at hstep
      simp only at hstep
      split at hstep
      · cases hstep
      obtain rfl := Option.some.inj hstep
      refine h.goto hothers (h.files.socket hquiet fd) rfl rfl hm ?_
      intro fd' hfd'
      obtain rfl : fd = fd' := Option.some.inj hfd'
      exact ⟨s.files.length, ⟨.socket, []⟩, Function.update_self .., Nat.lt_succ_self _,
        List.getElem?_concat_length, rfl, rfl⟩

/-- `connect(g_app_sock, ...)`. -/
theorem AppInv.stepConnect (h : AppInv s) {m : AppMsg} {since : Nat} {r : SysResult}
    (hpc : s.thread t = .connect m since) (hothers : ∀ t', t' ≠ t → (s.thread t').busy = false)
    (hstep : appThreadStep s t r = some s') : AppInv s' := by
  have hm : ∀ m', some m = some m' → m' ∈ s.handed := by
    intro m' heq
    exact h.handed t m' (by rw [hpc]; exact heq)
  have hstation := h.station t hothers
  rw [hpc] at hstation
  rw [appThreadStep, hpc] at hstep
  simp only at hstep
  cases hfd : s.gAppSock with
  | none =>
      rw [hfd] at hstep
      obtain rfl := Option.some.inj hstep
      refine h.goto hothers h.files rfl rfl (fun _ hno => nomatch hno) ?_
      intro fd hfd'
      rw [hfd] at hfd'
      cases hfd'
  | some fd =>
      obtain ⟨f, file, htable, hsince, hfile, hsocket, hempty⟩ := hstation fd hfd
      have hcur : s.current = some f := by rw [AppState.current, hfd, Option.bind_some, htable]
      rw [hfd, hcur] at hstep
      simp only at hstep
      split at hstep
      · -- the connection is there, and nothing is on it
        rw [← hfd] at hstep
        obtain rfl := Option.some.inj hstep
        refine h.goto hothers (h.files.setCurrent hcur _) rfl rfl hm ?_
        rw [Station, if_pos rfl]
        intro fd' hfd'
        obtain rfl : fd = fd' := Option.some.inj (hfd.symm.trans hfd')
        have hlt := h.files.fresh fd f htable
        refine ⟨f, ⟨.app, []⟩, htable, ?_, List.getElem?_set_self hlt, rfl, Messages.nil _⟩
        rw [List.length_set]
        exact hlt
      · obtain rfl := Option.some.inj hstep
        refine h.goto hothers h.files rfl rfl (fun _ hno => nomatch hno) ?_
        intro fd' hfd'
        obtain rfl : fd = fd' := Option.some.inj (hfd.symm.trans hfd')
        refine ⟨f, file, htable, hsince, hfile, by rw [hsocket]; decide, fun happ => ?_⟩
        rw [hsocket] at happ
        cases happ

/-- `close(g_app_sock)`. -/
theorem AppInv.stepClose (h : AppInv s) {since : Nat} {r : SysResult} (hpc : s.thread t = .close since)
    (hothers : ∀ t', t' ≠ t → (s.thread t').busy = false) (hstep : appThreadStep s t r = some s') : AppInv s' := by
  have hstation := h.station t hothers
  rw [hpc] at hstation
  rw [appThreadStep, hpc] at hstep
  obtain rfl := Option.some.inj hstep
  have hframe : (s.close since).thread = s.thread ∧ (s.close since).handed = s.handed := by
    unfold AppState.close
    split
    · exact ⟨rfl, rfl⟩
    split
    · exact ⟨rfl, rfl⟩
    · exact ⟨rfl, rfl⟩
  refine h.goto hothers (h.files.close hstation) hframe.1 hframe.2 (fun _ hno => nomatch hno) ?_
  -- `g_app_sock` is a number without a file
  intro f file hcur
  exfalso
  unfold AppState.close at hcur
  cases hfd : s.gAppSock with
  | none =>
      rw [hfd] at hcur
      simp only [AppState.current, hfd, Option.bind_none] at hcur
      cases hcur
  | some fd =>
      obtain ⟨f', _, htable, _⟩ := hstation fd hfd
      rw [hfd] at hcur
      simp only [htable, AppState.current, Option.bind_some, Function.update_self] at hcur
      cases hcur

/-- `g_app_sock = -1`. -/
theorem AppInv.stepUnset (h : AppInv s) {r : SysResult} (hpc : s.thread t = .unset)
    (hothers : ∀ t', t' ≠ t → (s.thread t').busy = false) (hstep : appThreadStep s t r = some s') : AppInv s' := by
  have hstation := h.station t hothers
  rw [hpc] at hstation
  rw [appThreadStep, hpc] at hstep
  obtain rfl := Option.some.inj hstep
  have hfiles : Files { s with gAppSock := none } :=
    h.files.unset fun f file hcur hfile happ => absurd happ (hstation f file hcur hfile)
  exact h.goto hothers hfiles rfl rfl (fun _ hno => nomatch hno) (fun _ hno => nomatch hno)

/-! ## Steps that may fall anywhere

What other parts of the process do, and what a thread does outside of a message, may come in the middle of another
thread's message. It changes no file that a place speaks of. -/

theorem Cut.mono {handed handed' : List AppMsg} {b : Bytes} (h : Cut handed b) (hsub : handed ⊆ handed') :
    Cut handed' b := by
  obtain ⟨m, hm, k, hmsgs⟩ := h
  exact ⟨m, hsub hm, k, hmsgs.mono hsub⟩

theorem OnFile.weaken {since since' fd fd' : Nat} {p p' : OpenFile → Prop} (h : OnFile s since p fd)
    (htable : ∀ (f : Nat) file, s.table fd = some f → s.files[f]? = some file → p file → s'.table fd' = some f)
    (hfiles : ∀ (f : Nat) file, s.files[f]? = some file → s'.files[f]? = some file)
    (hsince : since ≤ since') (hp : ∀ file, p file → p' file) : OnFile s' since' p' fd' := by
  obtain ⟨f, file, hf, hlt, hfile, hpf⟩ := h
  exact ⟨f, file, htable f file hf hfile hpf, Nat.lt_of_lt_of_le hlt hsince, hfiles f file hfile, hp file hpf⟩

/-- What the rest of the process may do: `g_app_sock` stays, and so does every descriptor of a socket or a connection
    to the app; what is new behind a descriptor is neither. -/
structure Elsewhere (s s' : AppState) : Prop where
  gAppSock : s'.gAppSock = s.gAppSock
  handed : s.handed ⊆ s'.handed
  length : s.files.length ≤ s'.files.length
  files : ∀ (f : Nat) file, s.files[f]? = some file → s'.files[f]? = some file
  table : ∀ fd (f : Nat) file, s.table fd = some f → s.files[f]? = some file → file.kind ≠ .other →
    s'.table fd = some f
  new : ∀ fd (f : Nat) file, s'.table fd = some f → s'.files[f]? = some file → file.kind ≠ .other →
    s.table fd = some f ∧
    s.files[f]? = some file

/-- **The place of a caller keeps its meaning.** -/
theorem Station.elsewhere (h : Station s pc) (he : Elsewhere s s') : Station s' pc := by
  have hquiet : Quiet s → Quiet s' := by
    intro hq fd hfd
    rw [he.gAppSock] at hfd
    exact (hq fd hfd).weaken (fun f file hf hfile hp => he.table fd f file hf hfile (by rw [hp.1]; decide)) he.files
      he.length (fun file hp => ⟨hp.1, hp.2.mono he.handed⟩)
  have hwriting : ∀ {since m k}, Writing s since m k → Writing s' since m k := by
    rintro since m k ⟨fd, hfd, hon⟩
    exact ⟨fd, he.gAppSock.trans hfd, hon.weaken (fun f file hf hfile hp =>
      he.table fd f file hf hfile (by rw [hp.1]; decide)) he.files (Nat.le_refl _)
      (fun file hp => ⟨hp.1, hp.2.mono he.handed⟩)⟩
  cases pc with
  | idle => exact hquiet h
  | ensure m => exact hquiet h
  | socket m => exact hquiet h
  | connect m since =>
      intro fd hfd
      rw [he.gAppSock] at hfd
      exact (h fd hfd).weaken (fun f file hf hfile hp => he.table fd f file hf hfile (by rw [hp.1]; decide))
        he.files
        (Nat.le_refl _) (fun _ hp => hp)
  | header m sent since =>
      rw [Station] at h ⊢
      split at h
      · rename_i hsent
        rw [if_pos hsent]
        exact hquiet h
      · rename_i hsent
        rw [if_neg hsent]
        exact ⟨h.1, hwriting h.2⟩
  | payload m sent since => exact ⟨h.1, hwriting h.2⟩
  | close since =>
      intro fd hfd
      rw [he.gAppSock] at hfd
      exact (h fd hfd).weaken (fun f file hf hfile hp => he.table fd f file hf hfile hp.1) he.files (Nat.le_refl _)
        (fun file hp => ⟨hp.1, fun happ => (hp.2 happ).imp (·.mono he.handed) (·.mono he.handed)⟩)
  | unset =>
      intro f file hcur hfile happ
      obtain ⟨fd, hfd, htable⟩ := Option.bind_eq_some_iff.mp hcur
      rw [he.gAppSock] at hfd
      obtain ⟨hold, hfile'⟩ := he.new fd f file htable hfile (by rw [happ]; decide)
      exact h f file (by rw [AppState.current, hfd, Option.bind_some, hold]) hfile' happ

/-- Files that no caller uses come and go. -/
theorem Files.elsewhere (h : Files s) (he : Elsewhere s s') (haccesses : s'.accesses = s.accesses)
    (hfresh : ∀ fd f, s'.table fd = some f → f < s'.files.length)
    (hinj : ∀ fd fd' f, s'.table fd = some f → s'.table fd' = some f → fd = fd')
    (hnew : ∀ (f : Nat) file, s'.files[f]? = some file → file.kind = .app → s.files[f]? = some file) :
    Files s' := by
  refine ⟨hfresh, hinj, by rw [haccesses]; exact h.stale, ?_⟩
  intro f file hfile happ hcur
  have hold := hnew f file hfile happ
  have hother : file.kind ≠ .other := by
    rw [happ]
    decide
  have hcur' : s.current ≠ some f := by
    intro hc
    obtain ⟨fd, hfd, htable⟩ := Option.bind_eq_some_iff.mp hc
    apply hcur
    rw [AppState.current, he.gAppSock, hfd, Option.bind_some]
    exact he.table fd f file htable hold hother
  rcases h.rest f file hold happ hcur' with hwhole | ⟨hcut, hclosed⟩
  · exact .inl (hwhole.mono he.handed)
  · exact .inr ⟨hcut.mono he.handed, fun fd hf => hclosed fd (he.new fd f file hf hfile hother).1⟩

/-- The rest of the process takes a step. -/
theorem AppInv.elsewhere (h : AppInv s) (he : Elsewhere s s') (hfiles : Files s') (hthread : s'.thread = s.thread) :
    AppInv s' := by
  refine ⟨hfiles, ?_, ?_, ?_⟩
  · intro t m hm
    rw [hthread] at hm
    exact he.handed (h.handed t m hm)
  · rw [hthread]
    exact h.one
  · rw [hthread]
    exact fun t hall => (h.station t hall).elsewhere he

/-- A thread that is not in the middle of something goes to another such place. -/
theorem AppInv.relabel (h : AppInv s) (hold : (s.thread t).busy = false) (hnew : pc.busy = false)
    (hmsg : ∀ m, pc.msg = some m → m ∈ s.handed) : AppInv (s.goto t pc) := by
  have hself : (s.goto t pc).thread t = pc := Function.update_self ..
  have hother : ∀ {t'}, t' ≠ t → (s.goto t pc).thread t' = s.thread t' := fun hne => Function.update_of_ne hne ..
  have hbusy : ∀ t', ((s.goto t pc).thread t').busy = (s.thread t').busy := by
    intro t'
    by_cases hne : t' = t
    · rw [hne, hself, hnew, hold]
    · rw [hother hne]
  refine ⟨⟨h.files.fresh, h.files.inj, h.files.stale, h.files.rest⟩, ?_, ?_, ?_⟩
  · intro t' m hm
    by_cases hne : t' = t
    · rw [hne, hself] at hm
      exact hmsg m hm
    · rw [hother hne] at hm
      exact h.handed t' m hm
  · intro t' t'' hb hb'
    rw [hbusy] at hb hb'
    exact h.one t' t'' hb hb'
  · intro t' hall
    have hstation := h.station t' (fun t'' hne => by rw [← hbusy]; exact hall t'' hne)
    show Station s ((s.goto t pc).thread t')
    by_cases hne : t' = t
    · rw [hne] at hstation
      rw [hne, hself]
      exact (station_idle hnew).mpr ((station_idle hold).mp hstation)
    · rw [hother hne]
      exact hstation

/-- A message is handed over. -/
theorem AppInv.call (h : AppInv s) (m : AppMsg) (hidle : s.thread t = .idle) :
    AppInv ({ s with handed := s.handed ++ [m] }.goto t (.ensure m)) := by
  have he : Elsewhere s { s with handed := s.handed ++ [m] } :=
    ⟨rfl, List.subset_append_left _ _, Nat.le_refl _, fun _ _ hf => hf, fun _ _ _ hf _ _ => hf,
      fun _ _ _ hf hfile _ => ⟨hf, hfile⟩⟩
  have hfiles := h.files.elsewhere he rfl h.files.fresh h.files.inj (fun _ _ hf _ => hf)
  refine (h.elsewhere he hfiles rfl).relabel (by show (s.thread t).busy = false; rw [hidle]; rfl) rfl ?_
  intro m' hm
  rw [← Option.some.inj hm]
  exact List.mem_append_right _ (List.mem_singleton_self m)

/-- The end of `screen_thread_func`. -/
theorem AppInv.exit (h : AppInv s) (hidle : s.thread t = .idle)
    (hothers : ∀ t', t' ≠ t → (s.thread t').busy = false) :
    AppInv (s.goto t (if s.gAppSock.isSome then .close s.files.length else .idle)) := by
  have hquiet : Quiet s := by
    have hstation := h.station t hothers
    rw [hidle] at hstation
    exact hstation
  split
  · refine h.goto hothers h.files rfl rfl (fun _ hno => nomatch hno) ?_
    intro fd hfd
    exact (hquiet fd hfd).weaken (fun _ _ hf _ _ => hf) (fun _ _ hf => hf) (Nat.le_refl _)
      (fun file hp => ⟨by rw [hp.1]; decide, fun _ => .inl hp.2⟩)
  · exact h.relabel (by rw [hidle]; rfl) rfl (fun _ hno => nomatch hno)

/-- The rest of the process opens a descriptor. -/
theorem AppInv.otherOpen (h : AppInv s) {fd : Nat} (hfree : s.table fd = none) :
    AppInv { s with
      table := Function.update s.table fd (some s.files.length)
      files := s.files ++ [⟨.other, []⟩] } := by
  have hlast : ∀ {f : Nat} {file}, (s.files ++ [⟨.other, []⟩])[f]? = some file → file.kind ≠ .other →
      s.files[f]? = some file := by
    intro f file hfile hother
    rw [List.getElem?_append] at hfile
    split at hfile
    · exact hfile
    · rw [List.getElem?_singleton] at hfile
      split at hfile
      · exact absurd (congrArg OpenFile.kind (Option.some.inj hfile)).symm hother
      · cases hfile
  have he : Elsewhere s { s with
      table := Function.update s.table fd (some s.files.length)
      files := s.files ++ [⟨.other, []⟩] } := by
    refine ⟨rfl, List.Subset.refl _, by simp, ?_, fun _ _ _ hf _ _ => opened_of hfree hf, ?_⟩
    · intro f file hfile
      rw [List.getElem?_append_left (List.getElem?_eq_some_iff.mp hfile).1]
      exact hfile
    · intro fd' f file hf hfile hother
      have hfile' := hlast hfile hother
      rcases of_opened hf with ⟨_, rfl⟩ | ⟨_, hf'⟩
      · exact absurd (List.getElem?_eq_some_iff.mp hfile').1 (Nat.lt_irrefl _)
      · exact ⟨hf', hfile'⟩
  refine h.elsewhere he (h.files.elsewhere he rfl ?_ ?_ ?_) rfl
  · intro fd' f hf
    rw [List.length_append]
    exact opened_fresh h.files.fresh hf
  · exact fun fd' fd'' f hf hf' => opened_inj h.files.fresh h.files.inj hf hf'
  · exact fun f file hfile happ => hlast hfile (by rw [happ]; decide)

/-- A thread closes a file of another kind. -/
theorem AppInv.otherClose (h : AppInv s) {fd f : Nat} {file : OpenFile} (htable : s.table fd = some f)
    (hfile : s.files[f]? = some file) (hother : file.kind = .other) :
    AppInv { s with table := Function.update s.table fd none } := by
  have he : Elsewhere s { s with table := Function.update s.table fd none } := by
    refine ⟨rfl, List.Subset.refl _, Nat.le_refl _, fun _ _ hf => hf, ?_, fun _ _ _ hf hfile _ => ⟨of_closed hf, hfile⟩⟩
    intro fd' f' file' hf hfile' hkind
    show Function.update s.table fd none fd' = some f'
    rw [Function.update_of_ne]
    · exact hf
    · rintro rfl
      obtain rfl : f' = f := Option.some.inj (hf.symm.trans htable)
      rw [hfile] at hfile'
      exact hkind (Option.some.inj hfile' ▸ hother)
  exact h.elsewhere he (h.files.elsewhere he rfl (fun fd' f' hf => h.files.fresh fd' f' (of_closed hf))
    (fun fd' fd'' f' hf hf' => h.files.inj fd' fd'' f' (of_closed hf) (of_closed hf')) (fun _ _ hf _ => hf)) rfl

/-- **Every step keeps the invariant**, when the thread that takes it is alone. -/
theorem AppInv.step (h : AppInv s) {i : AppInput} (hstep : appStep s i s') (halone : Undisturbed ⟨s, i, s'⟩) :
    AppInv s' := by
  cases i with
  | call t m =>
      obtain ⟨hidle, rfl⟩ := hstep
      exact h.call m hidle
  | exit t =>
      obtain ⟨hidle, rfl⟩ := hstep
      exact h.exit hidle halone
  | otherOpen fd =>
      obtain ⟨hfree, rfl⟩ := hstep
      exact h.otherOpen hfree
  | otherClose fd =>
      obtain ⟨f, file, htable, hfile, hother, rfl⟩ := hstep
      exact h.otherClose htable hfile hother
  | step t r =>
      have hstep' : appThreadStep s t r = some s' := hstep
      by_cases hensure : ∃ m, s.thread t = .ensure m
      · obtain ⟨m, hpc⟩ := hensure
        have hm : m ∈ s.handed := h.handed t m (by rw [hpc]; rfl)
        rw [appThreadStep, hpc] at hstep'
        obtain rfl := Option.some.inj hstep'
        refine h.relabel (by rw [hpc]; rfl) (by split <;> rfl) ?_
        intro m' hm'
        split at hm'
        · exact Option.some.inj hm' ▸ hm
        · exact Option.some.inj hm' ▸ hm
      have hothers : ∀ t', t' ≠ t → (s.thread t').busy = false := halone.resolve_left hensure
      cases hpc : s.thread t with
      | idle =>
          rw [appThreadStep, hpc] at hstep'
          cases hstep'
      | ensure m => exact absurd ⟨m, hpc⟩ hensure
      | socket m => exact h.stepSocket hpc hothers hstep'
      | connect m since => exact h.stepConnect hpc hothers hstep'
      | header m sent since => exact h.stepHeader hpc hothers hstep'
      | payload m sent since => exact h.stepPayload hpc hothers hstep'
      | close since => exact h.stepClose hpc hothers hstep'
      | unset => exact h.stepUnset hpc hothers hstep'

end Step

/-! ## Runs -/

/-- **Callers that do not overlap send whole messages**: in a run in which no thread goes on while another is in the
    middle of a message, of connecting or of closing, every state is safe. -/
theorem appSafe_undisturbed {h : List (Step AppState AppInput)} {s : AppState} (hr : AppRun h s)
    (halone : ∀ x ∈ h, Undisturbed x) : AppSafe s := by
  have hinv : AppInv s := Run.invariant_where Undisturbed AppInv appInv_init
    (fun _ _ _ hinv hstep hx => hinv.step hstep hx) hr halone
  exact hinv.safe

/-! ## One caller and two -/

theorem AppRun.snocCall {h : List (Step AppState AppInput)} {s : AppState} (hr : AppRun h s) (t : Nat) (m : AppMsg)
    (hidle : s.thread t = .idle) :
    AppRun (h ++ [⟨s, .call t m, { s with handed := s.handed ++ [m] }.goto t (.ensure m)⟩])
      ({ s with handed := s.handed ++ [m] }.goto t (.ensure m)) :=
  Run.snoc hr ⟨hidle, rfl⟩

theorem AppRun.snocStep {h : List (Step AppState AppInput)} {s s' : AppState} (hr : AppRun h s) (t : Nat)
    (r : SysResult) (hstep : appThreadStep s t r = some s') : AppRun (h ++ [⟨s, .step t r, s'⟩]) s' :=
  Run.snoc hr hstep

theorem write_thread {s s' : AppState} {since n : Nat} {out : Bytes} {r : Option Nat}
    (h : s.write since out n = (s', r)) : s'.thread = s.thread := by
  unfold AppState.write at h
  split at h
  · rw [← (Prod.mk.inj h).1]
  simp only at h
  split at h
  · rw [← (Prod.mk.inj h).1]
  split at h
  · rw [← (Prod.mk.inj h).1]
  · rw [← (Prod.mk.inj h).1]

/-- A thread moves nobody but itself. -/
theorem appThreadStep_other {s s' : AppState} {t t' : Nat} {r : SysResult} (h : appThreadStep s t r = some s')
    (hne : t' ≠ t) : s'.thread t' = s.thread t' := by
  have hgoto : ∀ {s₁ : AppState} {pc : AppPc}, some (s₁.goto t pc) = some s' → s₁.thread = s.thread →
      s'.thread t' = s.thread t' := by
    rintro s₁ pc heq hthread
    rw [← Option.some.inj heq, AppState.goto, hthread]
    exact Function.update_of_ne hne ..
  cases hpc : s.thread t with
  | idle => rw [appThreadStep, hpc] at h; cases h
  | ensure m => rw [appThreadStep, hpc] at h; exact hgoto h rfl
  | socket m =>
      rw [appThreadStep, hpc] at h
      simp only at h
      split at h
      · exact hgoto h rfl
      split at h
      · cases h
      · exact hgoto h rfl
  | connect m since =>
      rw [appThreadStep, hpc] at h
      simp only at h
      split at h
      · exact hgoto h rfl
      split at h
      · exact hgoto h rfl
      split at h
      · exact hgoto h rfl
      · exact hgoto h rfl
  | header m sent since =>
      rw [appThreadStep, hpc] at h
      simp only at h
      split at h
      · rename_i hwrite
        exact hgoto h (write_thread hwrite)
      · rename_i hwrite
        exact hgoto h (write_thread hwrite)
  | payload m sent since =>
      rw [appThreadStep, hpc] at h
      simp only at h
      split at h
      · rename_i hwrite
        exact hgoto h (write_thread hwrite)
      · rename_i hwrite
        exact hgoto h (write_thread hwrite)
  | close since =>
      rw [appThreadStep, hpc] at h
      refine hgoto h ?_
      unfold AppState.close
      split
      · rfl
      split
      · rfl
      · rfl
  | unset => rw [appThreadStep, hpc] at h; exact hgoto h rfl

/-- The thread of a step. -/
def AppInput.thread : AppInput → Option Nat
  | .call t _ => some t
  | .exit t => some t
  | .step t _ => some t
  | _ => none

/-- **The runs of a single thread are alone.** -/
theorem undisturbed_single {h : List (Step AppState AppInput)} {s : AppState} (t : Nat) (hr : AppRun h s)
    (hone : ∀ x ∈ h, x.input.thread = some t) :
    (∀ t', t' ≠ t → s.thread t' = .idle) ∧ ∀ x ∈ h, Undisturbed x := by
  refine Run.induction (fun x => x.input.thread = some t)
    (fun h s => (∀ t', t' ≠ t → s.thread t' = .idle) ∧ ∀ x ∈ h, Undisturbed x)
    ⟨fun _ _ => rfl, fun _ hx => absurd hx List.not_mem_nil⟩ ?_ hr hone
  rintro h s i s' _ ⟨hidle, halone⟩ hstep hthread
  have hothers : ∀ t', t' ≠ t → (s.thread t').busy = false := by
    intro t' hne
    rw [hidle t' hne]
    rfl
  have hlast : (∀ t', t' ≠ t → s'.thread t' = .idle) ∧ Undisturbed ⟨s, i, s'⟩ := by
    cases i with
    | call u m =>
        obtain rfl : u = t := Option.some.inj hthread
        obtain ⟨_, rfl⟩ := hstep
        exact ⟨fun t' hne => (Function.update_of_ne hne ..).trans (hidle t' hne), trivial⟩
    | exit u =>
        obtain rfl : u = t := Option.some.inj hthread
        obtain ⟨_, rfl⟩ := hstep
        exact ⟨fun t' hne => (Function.update_of_ne hne ..).trans (hidle t' hne), hothers⟩
    | step u r =>
        obtain rfl : u = t := Option.some.inj hthread
        exact ⟨fun t' hne => (appThreadStep_other hstep hne).trans (hidle t' hne), .inr hothers⟩
    | otherOpen fd => cases hthread
    | otherClose fd => cases hthread
  refine ⟨hlast.1, fun x hx => ?_⟩
  rcases List.mem_append.mp hx with hx | hx
  · exact halone x hx
  · rw [List.mem_singleton.mp hx]
    exact hlast.2

/-- Everything a system call can be asked for. -/
def sysOk : SysResult := ⟨some 3, true, 5⟩

/-- One status message. -/
theorem appSafe_status : ∃ h s, AppRun h s ∧ AppSafe s ∧ s.files = [⟨.app, appMessage 4 [1]⟩] := by
  have hcall : AppRun _ _ := AppRun.snocCall Run.nil 0 (4, [1]) rfl
  have hensure := hcall.snocStep 0 sysOk rfl
  have hsocket := hensure.snocStep 0 sysOk rfl
  have hconnect := hsocket.snocStep 0 sysOk rfl
  have hheader := hconnect.snocStep 0 sysOk rfl
  have hpayload := hheader.snocStep 0 sysOk rfl
  refine ⟨_, _, hpayload, appSafe_undisturbed hpayload (undisturbed_single 0 hpayload ?_).2, rfl⟩
  simp [AppInput.thread]

/-- Two status messages: both callers have found the connection, and write their headers one after the other. -/
theorem appSafe_two : ¬ ∀ h s, AppRun h s → AppSafe s := by
  intro hall
  have hfirst : AppRun _ _ := AppRun.snocCall Run.nil 0 (4, [2]) rfl
  have hensure := hfirst.snocStep 0 sysOk rfl
  have hsocket := hensure.snocStep 0 sysOk rfl
  have hconnect := hsocket.snocStep 0 sysOk rfl
  have hsecond := hconnect.snocCall 1 (4, [3]) rfl
  have hensure₂ := hsecond.snocStep 1 sysOk rfl
  have hheader := hensure₂.snocStep 0 sysOk rfl
  have hheader₂ := hheader.snocStep 1 sysOk rfl
  have hsafe := hall _ _ hheader₂
  have hwire : ∀ m ∈ ([(4, [2]), (4, [3])] : List AppMsg),
      m.wire.take 6 ≠ [1, 0, 0, 0, 4, 1] ∧ m.wire.length = 6 := by
    decide
  -- the sixth byte is the length of the second header
  have hno : ∀ rest : Bytes, rest.length ≤ 6 →
      ¬ Messages [(4, [2]), (4, [3])] [1, 0, 0, 0, 4, 1, 0, 0, 0, 4] rest := by
    rintro rest hrest ⟨msgs, hmem, hb⟩
    cases msgs with
    | nil =>
        have hlen := congrArg List.length hb
        simp only [List.flatMap_nil, List.nil_append, List.length_cons, List.length_nil] at hlen
        omega
    | cons m msgs =>
        obtain ⟨hm, hlen⟩ := hwire m (hmem m (List.mem_cons_self ..))
        have htake := congrArg (List.take 6) hb
        rw [List.flatMap_cons, List.append_assoc, List.take_append_of_le_length (by omega)] at htake
        exact hm htake.symm
  rcases hsafe.whole 0 _ rfl rfl with hwhole | ⟨⟨m, hm, k, hcut⟩, _⟩
  · exact hno [] (Nat.zero_le _) hwhole
  · have hlen : (m.wire.take k).length ≤ 6 := by
      rw [List.length_take, (hwire m hm).2]
      omega
    exact hno _ hlen hcut

end Showcase
