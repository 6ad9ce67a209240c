import Showcase.Screen.AppSock

/-!
# `Screen.TouchReader` — the readers of the connections to the app

A caller of `app_ensure_connected` that has connected calls `start_touch_reader(g_app_sock)`, which starts a reader
unless `g_touch_reader_running` is set. The flag is one for all connections; a reader clears it when it has left its
loop, whatever has become of `g_app_sock` and of its descriptor by then.

* `ReaderOk` — the connection behind `g_app_sock` has a reader, no reader is on a number that stands for something else,
  and no connection has two.
* `readerOk_iff` — exactly which steps keep it so.
-/

namespace Showcase

open Lib

/-! ## The model -/

/-- Where a caller is that has just connected. -/
inductive StartPc where
  /-- `start_touch_reader(g_app_sock)`. -/
  | arg
  /-- `if (g_touch_reader_running) return;`. -/
  | test (fd : Option Nat)
  /-- `g_touch_reader_running = true; dispatch_async(...)`. -/
  | set (fd : Option Nat)

structure TouchReader where
  fd : Option Nat
  /-- The file of its descriptor when it was started. -/
  conn : Option Nat
  /-- Behind its loop, the flag still set. -/
  leaving : Bool

structure ReaderState where
  app : AppState
  touchReaderRunning : Bool
  starting : Nat → Option StartPc
  readers : Nat → Option TouchReader
  /-- The readers so far. -/
  count : Nat
  /-- The connections that the app has ended. -/
  ended : Nat → Bool

def ReaderState.init : ReaderState := ⟨.init, false, fun _ => none, fun _ => none, 0, fun _ => false⟩

/-- The caller `t` has connected. -/
def connects (a a' : AppState) (t : Nat) : Bool :=
  match a.thread t, a'.thread t with
  | .connect _ _, .header _ _ _ => true
  | _, _ => false

namespace ReaderState

variable (s : ReaderState)

/-- What the callers do behind a step. -/
def startingAfter (i : AppInput) (a' : AppState) : Nat → Option StartPc :=
  match i with
  | .step t _ => if connects s.app a' t then Function.update s.starting t (some .arg) else s.starting
  | _ => s.starting

/-- `start_touch_reader`. -/
def startTouchReader (t : Nat) : StartPc → ReaderState
  | .arg => { s with starting := Function.update s.starting t (some (.test s.app.gAppSock)) }
  | .test fd =>
      let next := if s.touchReaderRunning then none else some (.set fd)
      { s with starting := Function.update s.starting t next }
  | .set fd =>
      { s with
        touchReaderRunning := true
        starting := Function.update s.starting t none
        readers := Function.update s.readers s.count (some ⟨fd, fd.bind s.app.table, false⟩)
        count := s.count + 1 }

end ReaderState

inductive ReaderInput where
  | app (i : AppInput)
  /-- The caller `t` goes on in `start_touch_reader`. -/
  | start (t : Nat)
  /-- `tcp_read_exact` fails, and the reader leaves its loop. -/
  | recvFails (i : Nat)
  /-- `g_touch_reader_running = false`. -/
  | clear (i : Nat)
  /-- The app ends a connection. -/
  | hangUp (f : Nat)

/-- The steps of the callers, of the readers and of the app, in any order. -/
def readerStep (s : ReaderState) (i : ReaderInput) (s' : ReaderState) : Prop :=
  match i with
  | .app i =>
      (∀ t ∈ i.thread, s.starting t = none) ∧
        ∃ a', appStep s.app i a' ∧ s' = { s with app := a', starting := s.startingAfter i a' }
  | .start t => ∃ pc, s.starting t = some pc ∧ s' = s.startTouchReader t pc
  | .recvFails i =>
      ∃ r, s.readers i = some r ∧ r.leaving = false ∧
        s' = { s with readers := Function.update s.readers i (some { r with leaving := true }) }
  | .clear i =>
      ∃ r, s.readers i = some r ∧ r.leaving = true ∧
        s' = { s with touchReaderRunning := false, readers := Function.update s.readers i none }
  | .hangUp f => s' = { s with ended := Function.update s.ended f true }

abbrev ReaderRun := Run readerStep ReaderState.init

/-! ## One reader for each connection -/

def AppState.kind (a : AppState) (f : Nat) : Option FileKind := a.files[f]?.map OpenFile.kind

namespace ReaderState

variable (s : ReaderState)

/-- `g_app_sock` is the descriptor `fd` of the connection `f`, which goes on. -/
def Live (fd f : Nat) : Prop :=
  s.app.gAppSock = some fd ∧ s.app.table fd = some f ∧ s.app.kind f = some .app ∧ s.ended f = false

/-- The reader `i` is in its loop. -/
def Reading (i : Nat) (r : TouchReader) : Prop := s.readers i = some r ∧ r.leaving = false

/-- A reader of the connection `f` is in its loop. -/
def Reads (fd f : Nat) : Prop := ∃ i r, s.Reading i r ∧ r.fd = some fd ∧ r.conn = some f

end ReaderState

/-- **Touch readers.** The connection behind `g_app_sock` has a reader, unless a caller is on the way to start one; the
    number of a reader stands for the connection it was started on, or for nothing; and no connection has two. -/
structure ReaderOk (s : ReaderState) : Prop where
  served : ∀ fd f, s.Live fd f → s.Reads fd f ∨ ∃ t, (s.starting t).isSome
  own : ∀ i r fd f, s.Reading i r → r.fd = some fd → s.app.table fd = some f →
    r.conn = some f ∧ s.app.kind f ≠ some .other
  one : ∀ i j r r' f, s.Reading i r → s.Reading j r' → r.conn = some f → r'.conn = some f → i = j

/-- **The condition**:
    * the kernel hands out no number that a reader is still on;
    * a caller that has connected finds the flag set only where a reader is on the connection already or another caller
      will start one;
    * a reader is started on the descriptor behind `g_app_sock`, where that has none, and never on a file of another part
      of the process or a connection that has one;
    * a reader leaves its loop only where its connection is not the one behind `g_app_sock`, or has ended. -/
def Attended (x : Step ReaderState ReaderInput) : Prop :=
  match x.input with
  | .app (.otherOpen fd) => ∀ i r, x.pre.Reading i r → r.fd ≠ some fd
  | .app (.step t r) =>
      match x.pre.app.thread t, r.fd with
      | .socket _, some fd => ∀ i r, x.pre.Reading i r → r.fd ≠ some fd
      | _, _ => True
  | .start t =>
      match x.pre.starting t with
      | some (.test _) => x.pre.touchReaderRunning = true → ∀ fd f, x.pre.Live fd f →
          x.pre.Reads fd f ∨ ∃ t', t' ≠ t ∧ (x.pre.starting t').isSome
      | some (.set n) =>
          (∀ f, n.bind x.pre.app.table = some f →
            x.pre.app.kind f ≠ some .other ∧ ∀ i r, x.pre.Reading i r → r.conn ≠ some f) ∧
          ∀ fd f, x.pre.Live fd f → n = some fd ∨ x.pre.Reads fd f ∨ ∃ t', t' ≠ t ∧ (x.pre.starting t').isSome
      | _ => True
  | .recvFails i => ∀ r fd f, x.pre.readers i = some r → x.pre.Live fd f → r.fd = some fd → r.conn = some f →
      ∃ t, (x.pre.starting t).isSome
  | _ => True

/-! ## What a step of the callers can do

Of the callers in `Screen.AppSock` the readers are touched by two kinds of steps only: a number is handed out, and a
socket is connected. All others are calm. -/

section App

variable {a a' : AppState} {t f : Nat} {r : SysResult}

/-- A new number stands for a new file. -/
structure Opens (a a' : AppState) (fd : Nat) (kind : FileKind) : Prop where
  free : a.table fd = none
  table : a'.table = Descriptors.install a.table fd a.files.length
  files : a'.files = a.files ++ [⟨kind, []⟩]

/-- The file behind `g_app_sock` becomes a connection. -/
structure Connected (a a' : AppState) : Prop where
  sock : a'.gAppSock = a.gAppSock
  table : a'.table = a.table
  kind : ∀ f, a'.kind f = a.kind f ∨ (a.kind f = some .socket ∧ a'.kind f = some .app)

/-- Nothing is opened and nothing becomes a connection. -/
structure Calm (a a' : AppState) : Prop where
  sock : ∀ fd, a'.gAppSock = some fd → a.gAppSock = some fd
  table : ∀ fd f, a'.table fd = some f → a.table fd = some f
  kind : ∀ f, a'.kind f = a.kind f

theorem kind_of_set {file file' : OpenFile} (hfile : a.files[f]? = some file) (h : a'.files = a.files.set f file')
    (g : Nat) : a'.kind g = if g = f then some file'.kind else a.kind g := by
  rw [AppState.kind, h]
  by_cases hg : g = f
  · obtain ⟨hlt, _⟩ := List.getElem?_eq_some_iff.mp hfile
    rw [if_pos hg, hg, List.getElem?_set_self hlt, Option.map_some]
  · rw [if_neg hg, List.getElem?_set_ne (Ne.symm hg)]
    rfl

theorem Calm.refl (a : AppState) : Calm a a := ⟨fun _ hfd => hfd, fun _ _ hf => hf, fun _ => rfl⟩

theorem goto_thread (a : AppState) (t : Nat) (pc : AppPc) : (a.goto t pc).thread t = pc := Function.update_self ..

/-- Where a caller is does not matter. -/
theorem Calm.goto (h : Calm a a') (t : Nat) (pc : AppPc) : Calm a (a'.goto t pc) := ⟨h.sock, h.table, h.kind⟩

theorem Calm.unset (a : AppState) : Calm a { a with gAppSock := none } :=
  ⟨(fun _ hno => nomatch hno), fun _ _ hf => hf, fun _ => rfl⟩

/-- A `write` changes the bytes of a file only. -/
theorem Calm.write {since n : Nat} {out : Bytes} {res : Option Nat} (h : a.write since out n = (a', res)) : Calm a a' := by
  rw [AppState.write] at h
  split at h
  · rw [← (Prod.mk.inj h).1]
    exact Calm.refl a
  simp only at h
  split at h
  · rw [← (Prod.mk.inj h).1]
    exact ⟨fun _ hfd => hfd, fun _ _ hf => hf, fun _ => rfl⟩
  rename_i file hfile
  split at h
  · rw [← (Prod.mk.inj h).1]
    exact ⟨fun _ hfd => hfd, fun _ _ hf => hf, fun _ => rfl⟩
  · rw [← (Prod.mk.inj h).1]
    refine ⟨fun _ hfd => hfd, fun _ _ hf => hf, fun g => ?_⟩
    rw [kind_of_set hfile rfl g]
    split
    · rename_i hg
      rw [AppState.kind, hg, hfile, Option.map_some]
    · rfl

theorem Calm.close (a : AppState) (since : Nat) : Calm a (a.close since) := by
  rw [AppState.close]
  split
  · exact Calm.refl a
  split
  · exact Calm.refl a
  · exact ⟨fun _ hfd => hfd, fun _ _ hf => of_closed hf, fun _ => rfl⟩

/-- A step at `connect`: the socket is connected to the app, or the step is calm. -/
theorem appThreadStep_connect {m : AppMsg} {since : Nat} (hpc : a.thread t = .connect m since)
    (h : appThreadStep a t r = some a') :
    (connects a a' t = true ∧ Connected a a') ∨ (connects a a' t = false ∧ Calm a a') := by
  rw [appThreadStep, hpc] at h
  simp only at h
  have hback : ∀ {pc}, (∀ m sent since, pc ≠ .header m sent since) → a' = a.goto t pc →
      connects a a' t = false ∧ Calm a a' := by
    rintro pc hne rfl
    refine ⟨?_, (Calm.refl a).goto t _⟩
    rw [connects, hpc, goto_thread]
    cases pc with
    | header m sent since => exact absurd rfl (hne m sent since)
    | _ => rfl
  split at h
  · exact .inr (hback (by simp) (Option.some.inj h).symm)
  split at h
  · exact .inr (hback (by simp) (Option.some.inj h).symm)
  rename_i f _
  split at h
  · rename_i hok
    obtain ⟨file, hfile, hkind⟩ := Option.map_eq_some_iff.mp hok.2
    refine .inl ?_
    rw [← Option.some.inj h]
    refine ⟨?_, rfl, rfl, fun g => ?_⟩
    · rw [connects, hpc, goto_thread]
    · rw [kind_of_set hfile rfl g]
      split
      · rename_i hg
        exact .inr ⟨hg ▸ hok.2, rfl⟩
      · exact .inl rfl
  · exact .inr (hback (by simp) (Option.some.inj h).symm)

/-- **What a step of a caller can do**: it opens a socket, it connects, or it is calm. -/
theorem appThreadStep_cases (h : appThreadStep a t r = some a') :
    (∃ m fd, a.thread t = .socket m ∧ r.fd = some fd ∧ connects a a' t = false ∧ a'.gAppSock = some fd ∧
      Opens a a' fd .socket) ∨
    (connects a a' t = true ∧ Connected a a') ∨
    (connects a a' t = false ∧ (∀ m, a.thread t = .socket m → r.fd = none) ∧ Calm a a') := by
  have hno : ∀ {pc}, a.thread t = pc → (∀ m since, pc ≠ .connect m since) → connects a a' t = false := by
    intro pc hpc hne
    rw [connects, hpc]
    cases pc with
    | connect m since => exact absurd rfl (hne m since)
    | _ => rfl
  cases hpc : a.thread t with
  | idle => rw [appThreadStep, hpc] at h; cases h
  | ensure m =>
      rw [appThreadStep, hpc] at h
      refine .inr (.inr ⟨hno hpc (by simp), by simp, ?_⟩)
      rw [← Option.some.inj h]
      exact (Calm.refl a).goto t _
  | socket m =>
      have hconn := hno hpc (by simp)
      rw [appThreadStep, hpc] at h
      simp only at h
      split at h
      · rename_i hfd
        refine .inr (.inr ⟨hconn, fun _ _ => hfd, ?_⟩)
        rw [← Option.some.inj h]
        exact (Calm.unset a).goto t _
      · rename_i fd hfd
        obtain ⟨hopen, hs⟩ := Option.ite_none_left_eq_some.mp h
        refine .inl ⟨m, fd, rfl, hfd, hconn, ?_⟩
        rw [← Option.some.inj hs]
        exact ⟨rfl, by simpa using hopen, rfl, rfl⟩
  | connect m since =>
      rcases appThreadStep_connect hpc h with hdone | ⟨hconn, hcalm⟩
      · exact .inr (.inl hdone)
      · exact .inr (.inr ⟨hconn, by simp, hcalm⟩)
  | header m sent since =>
      have hconn := hno hpc (by simp)
      rw [appThreadStep, hpc] at h
      simp only at h
      refine .inr (.inr ⟨hconn, by simp, ?_⟩)
      split at h
      · rename_i hwrite
        rw [← Option.some.inj h]
        exact (Calm.write hwrite).goto t _
      · rename_i hwrite
        rw [← Option.some.inj h]
        exact (Calm.write hwrite).goto t _
  | payload m sent since =>
      have hconn := hno hpc (by simp)
      rw [appThreadStep, hpc] at h
      simp only at h
      refine .inr (.inr ⟨hconn, by simp, ?_⟩)
      split at h
      · rename_i hwrite
        rw [← Option.some.inj h]
        exact (Calm.write hwrite).goto t _
      · rename_i hwrite
        rw [← Option.some.inj h]
        exact (Calm.write hwrite).goto t _
  | close since =>
      rw [appThreadStep, hpc] at h
      refine .inr (.inr ⟨hno hpc (by simp), by simp, ?_⟩)
      rw [← Option.some.inj h]
      exact (Calm.close a since).goto t _
  | unset =>
      rw [appThreadStep, hpc] at h
      refine .inr (.inr ⟨hno hpc (by simp), by simp, ?_⟩)
      rw [← Option.some.inj h]
      exact (Calm.unset a).goto t _

theorem Opens.kind {fd : Nat} {kind : FileKind} (h : Opens a a' fd kind) :
    a.kind a.files.length = none ∧ a'.kind a.files.length = some kind ∧
      ∀ f, f ≠ a.files.length → a'.kind f = a.kind f := by
  refine ⟨?_, ?_, fun f hf => ?_⟩
  · rw [AppState.kind, List.getElem?_eq_none (le_refl _), Option.map_none]
  · rw [AppState.kind, h.files, List.getElem?_append_right (le_refl _), Nat.sub_self]
    rfl
  · rw [AppState.kind, AppState.kind, h.files]
    by_cases hlt : f < a.files.length
    · rw [List.getElem?_append_left hlt]
    · have hlt' : a.files.length < f := by omega
      rw [List.getElem?_eq_none (by rw [List.length_append, List.length_singleton]; omega),
        List.getElem?_eq_none (by omega)]

end App

/-! ## What holds anyway -/

/-- Descriptors and readers stand for files there are. -/
structure ReaderFiles (s : ReaderState) : Prop where
  table : ∀ fd f, s.app.table fd = some f → (s.app.kind f).isSome
  conn : ∀ i r f, s.readers i = some r → r.conn = some f → (s.app.kind f).isSome
  fresh : ∀ i, s.count ≤ i → s.readers i = none

theorem readerFiles_init : ReaderFiles .init where
  table := fun _ _ hf => nomatch hf
  conn := fun _ _ _ hr => nomatch hr
  fresh := fun _ _ => rfl

section Steps

variable {s s' : ReaderState} {a' : AppState} {t i : Nat} {starting' : Nat → Option StartPc}

namespace ReaderFiles

/-- No file goes. -/
theorem app (h : ReaderFiles s) (htable : ∀ fd f, a'.table fd = some f → (a'.kind f).isSome)
    (hkind : ∀ f, (s.app.kind f).isSome → (a'.kind f).isSome) :
    ReaderFiles { s with app := a', starting := starting' } where
  table := htable
  conn := fun i r f hr hconn => hkind f (h.conn i r f hr hconn)
  fresh := h.fresh

theorem calm (h : ReaderFiles s) (hcalm : Calm s.app a') : ReaderFiles { s with app := a', starting := starting' } := by
  refine h.app ?_ ?_
  · intro fd f hf
    rw [hcalm.kind]
    exact h.table fd f (hcalm.table fd f hf)
  · intro f hsome
    rwa [hcalm.kind]

theorem opens (h : ReaderFiles s) {fd : Nat} {kind : FileKind} (hopen : Opens s.app a' fd kind) :
    ReaderFiles { s with app := a', starting := starting' } := by
  obtain ⟨hnone, hnew, hold⟩ := hopen.kind
  have hkind : ∀ f, (s.app.kind f).isSome → (a'.kind f).isSome := by
    intro f hsome
    rw [hold f]
    · exact hsome
    · rintro rfl
      rw [hnone] at hsome
      cases hsome
  refine h.app ?_ hkind
  intro fd' f hf
  rw [hopen.table] at hf
  rcases of_opened hf with ⟨_, rfl⟩ | ⟨_, hf⟩
  · rw [hnew]
    rfl
  · exact hkind f (h.table fd' f hf)

theorem connected (h : ReaderFiles s) (hconn : Connected s.app a') :
    ReaderFiles { s with app := a', starting := starting' } := by
  have hkind : ∀ f, (s.app.kind f).isSome → (a'.kind f).isSome := by
    intro f hsome
    rcases hconn.kind f with hsame | ⟨_, happ⟩
    · rwa [hsame]
    · rw [happ]
      rfl
  refine h.app ?_ hkind
  intro fd f hf
  rw [hconn.table] at hf
  exact hkind f (h.table fd f hf)

end ReaderFiles

/-! ## The steps of the callers -/

namespace ReaderOk

/-- A calm step. -/
theorem calm (h : ReaderOk s) (hcalm : Calm s.app a') : ReaderOk { s with app := a' } where
  served := by
    rintro fd f ⟨hsock, htable, hkind, hended⟩
    exact h.served fd f ⟨hcalm.sock fd hsock, hcalm.table fd f htable, hcalm.kind f ▸ hkind, hended⟩
  own := by
    intro i r fd f hr hfd htable
    obtain ⟨hconn, hother⟩ := h.own i r fd f hr hfd (hcalm.table fd f htable)
    refine ⟨hconn, ?_⟩
    rw [hcalm.kind]
    exact hother
  one := h.one

/-- A caller that has connected is on the way to start a reader. -/
theorem connected (h : ReaderOk s) (hconn : Connected s.app a') :
    ReaderOk { s with app := a', starting := Function.update s.starting t (some .arg) } where
  served := by
    intro fd f _
    refine .inr ⟨t, ?_⟩
    show (Function.update s.starting t (some .arg) t).isSome
    rw [Function.update_self]
    rfl
  own := by
    intro i r fd f hr hfd htable
    obtain ⟨hown, hother⟩ := h.own i r fd f hr hfd (hconn.table ▸ htable)
    refine ⟨hown, ?_⟩
    rcases hconn.kind f with hsame | ⟨_, happ⟩
    · rwa [hsame]
    · rw [happ]
      simp
  one := h.one

/-- A number is handed out: nobody may be reading on it. -/
theorem opens_iff (h : ReaderOk s) (hf : ReaderFiles s) {fd : Nat} {kind : FileKind} (hopen : Opens s.app a' fd kind)
    (hkind : kind ≠ .app) (hsock : ∀ n, a'.gAppSock = some n → n = fd ∨ s.app.gAppSock = some n) :
    ReaderOk { s with app := a' } ↔ ∀ i r, s.Reading i r → r.fd ≠ some fd := by
  obtain ⟨hnone, hnew, hold⟩ := hopen.kind
  have hthere : a'.table fd = some s.app.files.length := by rw [hopen.table, Descriptors.install, Function.update_self]
  constructor
  · intro h' i r hr hfd
    have hconn := (h'.own i r fd _ hr hfd hthere).1
    have hsome := hf.conn i r _ hr.1 hconn
    rw [hnone] at hsome
    cases hsome
  · intro hfree
    have hback : ∀ {n f}, a'.table n = some f → n ≠ fd → s.app.table n = some f ∧ a'.kind f = s.app.kind f := by
      intro n f htable hne
      rw [hopen.table] at htable
      rcases of_opened htable with ⟨heq, _⟩ | ⟨_, htable⟩
      · exact absurd heq hne
      · refine ⟨htable, hold f ?_⟩
        rintro rfl
        have hsome := hf.table n _ htable
        rw [hnone] at hsome
        cases hsome
    refine ⟨?_, ?_, h.one⟩
    · rintro n f ⟨hn, htable, happ, hended⟩
      have hne : n ≠ fd := by
        rintro rfl
        rw [hthere] at htable
        obtain rfl := Option.some.inj htable
        exact hkind (Option.some.inj (hnew.symm.trans happ))
      obtain ⟨htable, hsame⟩ := hback htable hne
      rcases hsock n hn with hno | hn
      · exact absurd hno hne
      · exact h.served n f ⟨hn, htable, hsame ▸ happ, hended⟩
    · intro i r n f hr hn htable
      have hne : n ≠ fd := by
        rintro rfl
        exact hfree i r hr hn
      obtain ⟨htable, hsame⟩ := hback htable hne
      obtain ⟨hconn, hother⟩ := h.own i r n f hr hn htable
      exact ⟨hconn, hsame ▸ hother⟩

end ReaderOk

/-- A step of the callers or of another part of the process. -/
theorem appStep_cases {a a' : AppState} {i : AppInput} (h : appStep a i a') :
    (∃ t r, i = .step t r ∧ appThreadStep a t r = some a') ∨
    (∃ fd, i = .otherOpen fd ∧ a'.gAppSock = a.gAppSock ∧ Opens a a' fd .other) ∨
    ((∀ t r, i ≠ .step t r) ∧ (∀ fd, i ≠ .otherOpen fd) ∧ Calm a a') := by
  cases i with
  | call t m =>
      obtain ⟨_, rfl⟩ := h
      exact .inr (.inr ⟨by simp, by simp, fun _ hfd => hfd, fun _ _ hf => hf, fun _ => rfl⟩)
  | exit t =>
      obtain ⟨_, rfl⟩ := h
      exact .inr (.inr ⟨by simp, by simp, (Calm.refl a).goto t _⟩)
  | step t r => exact .inl ⟨t, r, rfl, h⟩
  | otherOpen fd =>
      obtain ⟨hfree, rfl⟩ := h
      exact .inr (.inl ⟨fd, rfl, rfl, hfree, rfl, rfl⟩)
  | otherClose fd =>
      obtain ⟨f, file, _, _, _, rfl⟩ := h
      exact .inr (.inr ⟨by simp, by simp, fun _ hfd => hfd, fun _ _ hf => of_closed hf, fun _ => rfl⟩)

/-- **A step of the callers** leaves the readers in order exactly when it meets the condition. -/
theorem ReaderOk.app_iff (h : ReaderOk s) (hf : ReaderFiles s) {i : AppInput} (hstep : appStep s.app i a') (s₁ : ReaderState) :
    ReaderOk { s with app := a', starting := s.startingAfter i a' } ↔ Attended ⟨s, .app i, s₁⟩ := by
  rcases appStep_cases hstep with ⟨t, r, rfl, hthread⟩ | ⟨fd, rfl, hsock, hopen⟩ | ⟨hno, hno', hcalm⟩
  · rw [ReaderState.startingAfter]
    rcases appThreadStep_cases hthread with ⟨m, fd, hpc, hfd, hconn, hsock, hopen⟩ | ⟨hconn, hc⟩ | ⟨hconn, hfail, hcalm⟩
    · simp only [hconn, Attended, hpc, hfd]
      refine h.opens_iff hf hopen (by simp) ?_
      intro n hn
      rw [hsock] at hn
      exact .inl (Option.some.inj hn).symm
    · rw [if_pos hconn]
      refine iff_of_true (h.connected hc) ?_
      simp only [Attended]
      split
      · rename_i hpc _
        rw [connects, hpc] at hconn
        cases hconn
      · exact trivial
    · simp only [hconn]
      refine iff_of_true (h.calm hcalm) ?_
      simp only [Attended]
      split
      · rename_i hpc hfd
        rw [hfail _ hpc] at hfd
        cases hfd
      · exact trivial
  · exact h.opens_iff hf hopen (by simp) fun n hn => .inr (hsock ▸ hn)
  · cases i with
    | step t r => exact absurd rfl (hno t r)
    | otherOpen fd => exact absurd rfl (hno' fd)
    | _ => exact iff_of_true (h.calm hcalm) trivial

/-! ## The steps of `start_touch_reader` and of the readers

Each step is looked at from a state in order: either it keeps the readers so or it is exactly what the condition rules
out. Both directions of the theorem are then one induction over the run. -/

/-- The caller goes on in `start_touch_reader`. -/
theorem isSome_update {next : Option StartPc} :
    (∃ t', (Function.update s.starting t next t').isSome) ↔ next.isSome ∨ ∃ t', t' ≠ t ∧ (s.starting t').isSome := by
  constructor
  · rintro ⟨t', ht'⟩
    by_cases ht : t' = t
    · rw [ht, Function.update_self] at ht'
      exact .inl ht'
    · rw [Function.update_of_ne ht] at ht'
      exact .inr ⟨t', ht, ht'⟩
  · rintro (hnext | ⟨t', hne, ht'⟩)
    · exact ⟨t, by rw [Function.update_self]; exact hnext⟩
    · exact ⟨t', by rw [Function.update_of_ne hne]; exact ht'⟩

/-- Only where the caller is changes. -/
theorem ReaderOk.starting_iff (h : ReaderOk s) (next : Option StartPc) :
    ReaderOk { s with starting := Function.update s.starting t next } ↔
      (next = none → ∀ fd f, s.Live fd f → s.Reads fd f ∨ ∃ t', t' ≠ t ∧ (s.starting t').isSome) := by
  constructor
  · rintro h' rfl fd f hlive
    refine (h'.served fd f hlive).imp id fun hsome => ?_
    rcases isSome_update.mp hsome with hno | hother
    · cases hno
    · exact hother
  · intro hcond
    refine ⟨fun fd f hlive => ?_, h.own, h.one⟩
    cases next with
    | none => exact (hcond rfl fd f hlive).imp id fun hother => isSome_update.mpr (.inr hother)
    | some pc => exact .inr (isSome_update.mpr (.inl rfl))

/-- A reader is started. -/
theorem ReaderOk.set_iff (h : ReaderOk s) (hf : ReaderFiles s) (n : Option Nat) :
    ReaderOk (s.startTouchReader t (.set n)) ↔
      (∀ f, n.bind s.app.table = some f → s.app.kind f ≠ some .other ∧ ∀ i r, s.Reading i r → r.conn ≠ some f) ∧
      ∀ fd f, s.Live fd f → n = some fd ∨ s.Reads fd f ∨ ∃ t', t' ≠ t ∧ (s.starting t').isSome := by
  have hnew : (s.startTouchReader t (.set n)).Reading s.count ⟨n, n.bind s.app.table, false⟩ :=
    ⟨Function.update_self .., rfl⟩
  have hold : ∀ {i r}, s.Reading i r → i ≠ s.count ∧ (s.startTouchReader t (.set n)).Reading i r := by
    rintro i r ⟨hr, hleaving⟩
    have hne : i ≠ s.count := by
      rintro rfl
      rw [hf.fresh _ (le_refl _)] at hr
      cases hr
    exact ⟨hne, (Function.update_of_ne hne ..).trans hr, hleaving⟩
  have hback : ∀ {i r}, (s.startTouchReader t (.set n)).Reading i r →
      (i = s.count ∧ r = ⟨n, n.bind s.app.table, false⟩) ∨ s.Reading i r := by
    rintro i r ⟨hr, hleaving⟩
    rcases of_opened hr with ⟨hi, hr⟩ | ⟨_, hr⟩
    · exact .inl ⟨hi, hr⟩
    · exact .inr ⟨hr, hleaving⟩
  constructor
  · intro h'
    refine ⟨fun f hconn => ?_, fun fd f hlive => ?_⟩
    · obtain ⟨fd, hn, htable⟩ := Option.bind_eq_some_iff.mp hconn
      refine ⟨(h'.own s.count _ fd f hnew hn htable).2, fun i r hr hrconn => ?_⟩
      obtain ⟨hne, hr'⟩ := hold hr
      exact hne (h'.one i s.count r _ f hr' hnew hrconn hconn)
    · rcases h'.served fd f hlive with ⟨i, r, hr, hfd, hconn⟩ | hsome
      · rcases hback hr with ⟨_, rfl⟩ | hr
        · exact .inl hfd
        · exact .inr (.inl ⟨i, r, hr, hfd, hconn⟩)
      · rcases isSome_update.mp hsome with hno | hother
        · cases hno
        · exact .inr (.inr hother)
  · rintro ⟨hfirst, hserved⟩
    refine ⟨?_, ?_, ?_⟩
    · intro fd f hlive
      rcases hserved fd f hlive with hn | ⟨i, r, hr, hfd, hconn⟩ | hother
      · refine .inl ⟨s.count, _, hnew, hn, ?_⟩
        rw [hn, Option.bind_some]
        exact hlive.2.1
      · exact .inl ⟨i, r, (hold hr).2, hfd, hconn⟩
      · exact .inr (isSome_update.mpr (.inr hother))
    · intro i r fd f hr hfd htable
      rcases hback hr with ⟨_, rfl⟩ | hr
      · have hconn : n.bind s.app.table = some f := by
          rw [show n = some fd from hfd, Option.bind_some]
          exact htable
        exact ⟨hconn, (hfirst f hconn).1⟩
      · exact h.own i r fd f hr hfd htable
    · intro i j r r' f hr hr' hconn hconn'
      rcases hback hr with ⟨rfl, rfl⟩ | hr
      · rcases hback hr' with ⟨rfl, _⟩ | hr'
        · rfl
        · exact absurd hconn' ((hfirst f hconn).2 j r' hr')
      · rcases hback hr' with ⟨rfl, rfl⟩ | hr'
        · exact absurd hconn ((hfirst f hconn').2 i r hr)
        · exact h.one i j r r' f hr hr' hconn hconn'

/-- A reader leaves its loop. -/
theorem ReaderOk.recvFails_iff (h : ReaderOk s) {r : TouchReader} (hr : s.readers i = some r) (hin : r.leaving = false) :
    ReaderOk { s with readers := Function.update s.readers i (some { r with leaving := true }) } ↔
      ∀ fd f, s.Live fd f → r.fd = some fd → r.conn = some f → ∃ t, (s.starting t).isSome := by
  have hback : ∀ {j r'}, ReaderState.Reading
      { s with readers := Function.update s.readers i (some { r with leaving := true }) } j r' →
      j ≠ i ∧ s.Reading j r' := by
    rintro j r' ⟨hr', hin'⟩
    rcases of_opened hr' with ⟨_, rfl⟩ | ⟨hne, hr'⟩
    · cases hin'
    · exact ⟨hne, hr', hin'⟩
  constructor
  · intro h' fd f hlive hfd hconn
    rcases h'.served fd f hlive with ⟨j, r', hr', _, hconn'⟩ | hsome
    · obtain ⟨hne, hr'⟩ := hback hr'
      exact absurd (h.one j i r' r f hr' ⟨hr, hin⟩ hconn' hconn) hne
    · exact hsome
  · intro hcond
    refine ⟨?_, ?_, ?_⟩
    · intro fd f hlive
      rcases h.served fd f hlive with ⟨j, r', hr', hfd', hconn'⟩ | hsome
      · by_cases hne : j = i
        · obtain rfl : r = r' := Option.some.inj (hr.symm.trans (hne ▸ hr'.1))
          exact .inr (hcond fd f hlive hfd' hconn')
        · exact .inl ⟨j, r', ⟨(Function.update_of_ne hne ..).trans hr'.1, hr'.2⟩, hfd', hconn'⟩
      · exact .inr hsome
    · exact fun j r' fd f hr' hfd htable => h.own j r' fd f (hback hr').2 hfd htable
    · exact fun j j' r₁ r₂ f h₁ h₂ hc₁ hc₂ => h.one j j' r₁ r₂ f (hback h₁).2 (hback h₂).2 hc₁ hc₂

/-- A reader that has left its loop ends. -/
theorem ReaderOk.clear (h : ReaderOk s) {r : TouchReader} (hr : s.readers i = some r) (hout : r.leaving = true) :
    ReaderOk { s with touchReaderRunning := false, readers := Function.update s.readers i none } := by
  have hback : ∀ {j r'}, ReaderState.Reading
      { s with touchReaderRunning := false, readers := Function.update s.readers i none } j r' → s.Reading j r' :=
    fun hr' => ⟨of_closed hr'.1, hr'.2⟩
  refine ⟨?_, ?_, ?_⟩
  · intro fd f hlive
    rcases h.served fd f hlive with ⟨j, r', hr', hfd', hconn'⟩ | hsome
    · refine .inl ⟨j, r', ⟨(Function.update_of_ne ?_ ..).trans hr'.1, hr'.2⟩, hfd', hconn'⟩
      rintro rfl
      obtain rfl : r = r' := Option.some.inj (hr.symm.trans hr'.1)
      rw [hr'.2] at hout
      cases hout
    · exact .inr hsome
  · exact fun j r' fd f hr' hfd htable => h.own j r' fd f (hback hr') hfd htable
  · exact fun j j' r₁ r₂ f h₁ h₂ hc₁ hc₂ => h.one j j' r₁ r₂ f (hback h₁) (hback h₂) hc₁ hc₂

/-- **Exactly when a step leaves the readers in order.** -/
theorem ReaderOk.step_iff (h : ReaderOk s) (hf : ReaderFiles s) {i : ReaderInput} (hstep : readerStep s i s') :
    ReaderOk s' ↔ Attended ⟨s, i, s'⟩ := by
  cases i with
  | app i =>
      obtain ⟨_, a', happ, rfl⟩ := hstep
      exact h.app_iff hf happ _
  | start t =>
      obtain ⟨pc, hpc, rfl⟩ := hstep
      simp only [Attended, hpc]
      cases pc with
      | arg => exact iff_of_true ((h.starting_iff _).mpr fun hno => nomatch hno) trivial
      | test fd =>
          refine (h.starting_iff _).trans ?_
          cases s.touchReaderRunning with
          | false => exact iff_of_true (fun hno => nomatch hno) (fun hno => nomatch hno)
          | true => exact ⟨fun hcond _ => hcond rfl, fun hcond _ => hcond rfl⟩
      | set fd => exact h.set_iff hf fd
  | recvFails i =>
      obtain ⟨r, hr, hin, rfl⟩ := hstep
      rw [h.recvFails_iff hr hin]
      constructor
      · intro hcond r' fd f hr' hlive
        obtain rfl : r = r' := Option.some.inj (hr.symm.trans hr')
        exact hcond fd f hlive
      · exact fun hcond fd f hlive => hcond r fd f hr hlive
  | clear i =>
      obtain ⟨r, hr, hout, rfl⟩ := hstep
      exact iff_of_true (h.clear hr hout) trivial
  | hangUp g =>
      obtain rfl := hstep
      refine iff_of_true ⟨?_, h.own, h.one⟩ trivial
      rintro fd f ⟨hsock, htable, happ, hended⟩
      refine h.served fd f ⟨hsock, htable, happ, ?_⟩
      by_cases hg : f = g
      · rw [hg] at hended
        cases (Function.update_self ..).symm.trans hended
      · exact (Function.update_of_ne hg ..).symm.trans hended

/-- Descriptors and readers go on standing for files there are. -/
theorem ReaderFiles.step (h : ReaderFiles s) {i : ReaderInput} (hstep : readerStep s i s') : ReaderFiles s' := by
  cases i with
  | app i =>
      obtain ⟨_, a', happ, rfl⟩ := hstep
      rcases appStep_cases happ with ⟨t, r, rfl, hthread⟩ | ⟨fd, rfl, _, hopen⟩ | ⟨_, _, hcalm⟩
      · rcases appThreadStep_cases hthread with ⟨m, fd, _, _, _, _, hopen⟩ | ⟨_, hconn⟩ | ⟨_, _, hcalm⟩
        · exact h.opens hopen
        · exact h.connected hconn
        · exact h.calm hcalm
      · exact h.opens hopen
      · exact h.calm hcalm
  | start t =>
      obtain ⟨pc, _, rfl⟩ := hstep
      cases pc with
      | arg => exact ⟨h.table, h.conn, h.fresh⟩
      | test fd => exact ⟨h.table, h.conn, h.fresh⟩
      | set n =>
          refine ⟨h.table, ?_, ?_⟩
          · intro i r f hr hconn
            rcases of_opened hr with ⟨_, rfl⟩ | ⟨_, hr⟩
            · obtain ⟨fd, _, htable⟩ := Option.bind_eq_some_iff.mp hconn
              exact h.table fd f htable
            · exact h.conn i r f hr hconn
          · intro i hi
            exact (Function.update_of_ne (Nat.ne_of_gt hi) ..).trans (h.fresh i (Nat.le_of_succ_le hi))
  | recvFails i =>
      obtain ⟨r, hr, _, rfl⟩ := hstep
      refine ⟨h.table, ?_, ?_⟩
      · intro j r' f hr' hconn
        rcases of_opened hr' with ⟨_, rfl⟩ | ⟨_, hr'⟩
        · exact h.conn i r f hr hconn
        · exact h.conn j r' f hr' hconn
      · intro j hj
        refine (Function.update_of_ne ?_ ..).trans (h.fresh j hj)
        rintro rfl
        rw [h.fresh _ hj] at hr
        cases hr
  | clear i =>
      obtain ⟨r, hr, _, rfl⟩ := hstep
      refine ⟨h.table, fun j r' f hr' => h.conn j r' f (of_closed hr'), ?_⟩
      intro j hj
      refine (Function.update_of_ne ?_ ..).trans (h.fresh j hj)
      rintro rfl
      rw [h.fresh _ hj] at hr
      cases hr
  | hangUp f =>
      obtain rfl := hstep
      exact ⟨h.table, h.conn, h.fresh⟩

end Steps

theorem readerOk_init : ReaderOk .init where
  served := by
    rintro fd f ⟨hsock, _⟩
    cases hsock
  own := by
    rintro i r fd f ⟨hr, _⟩
    cases hr
  one := by
    rintro i j r r' f ⟨hr, _⟩
    cases hr

/-- What the callers do is a run of theirs. -/
theorem ReaderRun.app {h : List (Step ReaderState ReaderInput)} {s : ReaderState} (hr : ReaderRun h s) :
    ∃ h', AppRun h' s.app := by
  refine hr.project ReaderState.app ?_
  intro s i s' hstep
  cases i with
  | app i =>
      obtain ⟨_, a', happ, rfl⟩ := hstep
      exact .inl ⟨_, happ⟩
  | start t =>
      obtain ⟨pc, _, rfl⟩ := hstep
      cases pc with
      | _ => exact .inr rfl
  | recvFails i =>
      obtain ⟨r, _, _, rfl⟩ := hstep
      exact .inr rfl
  | clear i =>
      obtain ⟨r, _, _, rfl⟩ := hstep
      exact .inr rfl
  | hangUp f =>
      obtain rfl := hstep
      exact .inr rfl

/-- **The touch readers**, over any interleaving: they are in order behind every step of a run exactly when every step
    meets the condition. -/
theorem readerOk_iff (h : List (Step ReaderState ReaderInput)) (s : ReaderState) (hrun : ReaderRun h s) :
    (∀ x ∈ h, ReaderOk x.post) ↔ ∀ x ∈ h, Attended x := by
  have hfiles : ∀ x ∈ h, ReaderFiles x.post := by
    intro x hx
    have hpre := hrun.invariant_pre ReaderFiles readerFiles_init (fun _ _ _ hf hstep => hf.step hstep) hx
    exact hpre.step (hrun.step_of_mem hx)
  have hboth := hrun.along_iff (fun _ s => ReaderFiles s ∧ ReaderOk s) (fun _ x => Attended x)
    ⟨readerFiles_init, readerOk_init⟩
    fun _ s i s' hinv hstep => (and_iff_right (hinv.1.step hstep)).trans (hinv.2.step_iff hinv.1 hstep)
  rw [along_mem, along_mem] at hboth
  rw [← hboth]
  exact ⟨fun hok x hx => ⟨hfiles x hx, hok x hx⟩, fun hall x hx => (hall x hx).2⟩

/-! ### Runs -/

section Runs

variable {h : List (Step ReaderState ReaderInput)} {s : ReaderState}

theorem ReaderRun.snocCall (hr : ReaderRun h s) (t : Nat) (m : AppMsg) (hfree : s.starting t = none)
    (hidle : s.app.thread t = .idle) : ReaderRun (h ++ [⟨s, .app (.call t m),
      { s with app := { s.app with handed := s.app.handed ++ [m] }.goto t (.ensure m) }⟩])
      { s with app := { s.app with handed := s.app.handed ++ [m] }.goto t (.ensure m) } := by
  refine Run.snoc hr ⟨?_, _, ⟨hidle, rfl⟩, rfl⟩
  rintro _ ⟨⟩
  exact hfree

theorem ReaderRun.snocStep (hr : ReaderRun h s) (t : Nat) (r : SysResult) {a' : AppState}
    (hstep : appThreadStep s.app t r = some a') (hfree : s.starting t = none) :
    ReaderRun (h ++ [⟨s, .app (.step t r), { s with app := a', starting := s.startingAfter (.step t r) a' }⟩])
      { s with app := a', starting := s.startingAfter (.step t r) a' } := by
  refine Run.snoc hr ⟨?_, a', hstep, rfl⟩
  rintro _ ⟨⟩
  exact hfree

theorem ReaderRun.snocStart (hr : ReaderRun h s) (t : Nat) {pc : StartPc} (hpc : s.starting t = some pc) :
    ReaderRun (h ++ [⟨s, .start t, s.startTouchReader t pc⟩]) (s.startTouchReader t pc) :=
  Run.snoc hr ⟨pc, hpc, rfl⟩

end Runs

/-- The first message: the caller connects and starts a reader. -/
theorem readerOk_first : ∃ h s, ReaderRun h s ∧ s.app.gAppSock = some 3 ∧ (s.readers 0).isSome ∧
    ∀ x ∈ h, ReaderOk x.post := by
  have hcall : ReaderRun _ _ := ReaderRun.snocCall Run.nil 0 (4, [1]) rfl rfl
  have hensure := hcall.snocStep 0 sysOk rfl rfl
  have hsocket := hensure.snocStep 0 sysOk rfl rfl
  have hconnect := hsocket.snocStep 0 sysOk rfl rfl
  have harg := hconnect.snocStart 0 rfl
  have htest := harg.snocStart 0 rfl
  have hset := htest.snocStart 0 rfl
  refine ⟨_, _, hset, rfl, rfl, (readerOk_iff _ _ hset).mpr ?_⟩
  simp only [List.forall_mem_append, List.forall_mem_singleton]
  refine ⟨⟨⟨⟨⟨⟨⟨by simp, trivial⟩, trivial⟩, ?_⟩, trivial⟩, trivial⟩, ?_⟩, ?_⟩
  · exact fun _ _ hr => nomatch hr.1
  · exact fun hno => nomatch hno
  · refine ⟨fun f hf => ⟨?_, fun _ _ hr => nomatch hr.1⟩, fun fd f hlive => .inl hlive.1⟩
    obtain rfl := Option.some.inj hf
    decide

/-- The first `write` fails; the next message connects again before the reader has cleared the flag. -/
theorem not_readerOk : ¬ ∀ h s, ReaderRun h s → ∀ x ∈ h, ReaderOk x.post := by
  intro hall
  have hcall : ReaderRun _ _ := ReaderRun.snocCall Run.nil 0 (4, [1]) rfl rfl
  have hensure := hcall.snocStep 0 sysOk rfl rfl
  have hsocket := hensure.snocStep 0 sysOk rfl rfl
  have hconnect := hsocket.snocStep 0 sysOk rfl rfl
  have harg := hconnect.snocStart 0 rfl
  have htest := harg.snocStart 0 rfl
  have hset := htest.snocStart 0 rfl
  have hwrite := hset.snocStep 0 ⟨none, true, 0⟩ rfl rfl
  have hclose := hwrite.snocStep 0 sysOk rfl rfl
  have hunset := hclose.snocStep 0 sysOk rfl rfl
  have hcall₂ := hunset.snocCall 0 (4, [2]) rfl rfl
  have hensure₂ := hcall₂.snocStep 0 sysOk rfl rfl
  have hsocket₂ := hensure₂.snocStep 0 ⟨some 4, true, 5⟩ rfl rfl
  have hconnect₂ := hsocket₂.snocStep 0 sysOk rfl rfl
  have harg₂ := hconnect₂.snocStart 0 rfl
  have htest₂ := harg₂.snocStart 0 rfl
  have hok := hall _ _ htest₂ _ (List.mem_append_right _ (List.mem_singleton_self _))
  rcases hok.served 4 1 ⟨rfl, rfl, rfl, rfl⟩ with ⟨i, r, ⟨hr, _⟩, hfd, _⟩ | ⟨t, ht⟩
  · rcases of_opened hr with ⟨_, rfl⟩ | ⟨_, hno⟩
    · cases hfd
    · cases hno
  · cases t with
    | zero => cases ht
    | succ t => cases ht

end Showcase
