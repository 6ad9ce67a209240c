import Showcase.App.World

/-!
# `App.Secrecy` — the password and the logs

Two runs are put side by side that differ in the stored password only: what is tapped, what the system calls return,
what the phone sends and what lies in memory behind a packet is the same.

What `carplay_bt` prints is the same in both. What the app logs is not, once `bgPrepareBT` has come to `spawn_daemon`
and `carplay_bt` can be executed: the line with the command ends with the password.

## Contents
- `World.Alike`, `Call.Alike` — what may be different; `step_alike`, `helperText_alike`.
- `logText_shows` — the step in which the password is written, `logText_alike` all others.
- `Indistinct`, `indistinct` — what two runs have in common.
- `secret_iff` — the logs of two runs are the same exactly when the command is never logged with another password.
-/

namespace Showcase.App

open Lib

/-! ## Two runs

A step is compared with the same step under another password. It leads to the same place and writes the same, unless
it shows the command line of `carplay_bt`; and there the lines differ wherever the copied passwords do. -/

/-- The same up to the passwords, which have the same length. -/
structure World.Alike (v w : World) : Prop where
  app : v.app = w.app
  apSSID : v.apSSID = w.apSSID
  apPassword : v.apPassword.length = w.apPassword.length
  logfile : v.logfile = w.logfile
  launchctl : v.launchctl = w.launchctl
  helpers : List.Forall₂ Bt.Process.Alike v.helpers w.helpers

/-- The same call, or one that stores another password of the same length. -/
inductive Call.Alike : Call → Call → Prop where
  | same (c : Call) : Alike c c
  | setAPSSID (ssid : Bytes) {p q : Bytes} : p.length = q.length → Alike (.setAPSSID ssid p) (.setAPSSID ssid q)

structure Input.Alike (i j : Input) : Prop where
  clock : i.clock = j.clock
  call : i.call.Alike j.call

/-- `passBuf`. -/
def World.passBuf (w : World) : Bytes := w.apPassword.take 127

/-- The call writes the command line of `carplay_bt`: `spawn_daemon` finds that it can be executed, and the log file
    is open. -/
def World.shows (w : World) : Call → Bool
  | .bg (.spawn _ _ r) =>
      match w.app.running with
      | some (.prepare _ .spawnBt) => w.logfile && r.executable
      | _ => false
  | _ => false

/-- `parse_args` on the arguments of `bgPrepareBT`. -/
theorem parseArgs_btArgs (car ssid password : Bytes) :
    Bt.parseArgs .initial (btArgs car ssid password) =
      ⟨(car.take 63).take 31, (ssid.take 127).take 63, (password.take 127).take 63⟩ := by
  have hssid : ¬ (ascii "--ssid" = ascii "--name" ∨ ascii "--ssid" = ascii "-n") := by decide
  have hpass : ¬ (ascii "--pass" = ascii "--name" ∨ ascii "--pass" = ascii "-n") := by decide
  have hpass' : ¬ (ascii "--pass" = ascii "--ssid" ∨ ascii "--pass" = ascii "-s") := by decide
  simp only [btArgs, Bt.parseArgs, Bt.Options.set, if_neg hssid, if_neg hpass, if_neg hpass', true_or, if_true]

theorem spawned_alike (rootless : Bool) (car ssid : Bytes) {p q : Bytes} (hlen : p.length = q.length) :
    (Bt.Process.spawned rootless (btArgs car ssid p)).Alike (Bt.Process.spawned rootless (btArgs car ssid q)) := by
  refine ⟨(q.take 127).take 63, ?_, ?_⟩
  · simp only [Bt.Process.spawned, parseArgs_btArgs, List.length_take, hlen]
  · simp only [Bt.Process.spawned, parseArgs_btArgs]
    rfl

section Step

variable {d : Device} {v v' w w' : World}

theorem World.Alike.appStep (h : v.Alike w) {e : Event} (hv : v.appStep d e = some v')
    (hw : w.appStep d e = some w') : v'.Alike w' := by
  obtain ⟨s, hs, rfl⟩ := Option.map_eq_some_iff.mp hv
  obtain ⟨t, ht, rfl⟩ := Option.map_eq_some_iff.mp hw
  rw [h.app, ht] at hs
  obtain rfl := Option.some.inj hs
  exact ⟨rfl, h.apSSID, h.apPassword, h.logfile, h.launchctl, h.helpers⟩

theorem World.Alike.answered (h : v.Alike w) (block : Running) (c : BgCall) :
    (v.answered d block c).Alike (w.answered d block c) := by
  unfold World.answered
  split
  · exact ⟨h.app, h.apSSID, h.apPassword, h.logfile, rfl, h.helpers⟩
  · refine ⟨h.app, h.apSSID, h.apPassword, h.logfile, h.launchctl, forall₂_snoc.mpr ⟨h.helpers, ?_⟩⟩
    rw [h.apSSID]
    exact spawned_alike _ _ _ h.apPassword
  · exact h

/-- **A step leaves the difference as it is.** -/
theorem step_alike (h : v.Alike w) {c c' : Call} (hc : c.Alike c') (hv : v.step d c = some v')
    (hw : w.step d c' = some w') : v'.Alike w' := by
  cases hc with
  | setAPSSID ssid hlen =>
      obtain rfl := Option.some.inj hv
      obtain rfl := Option.some.inj hw
      exact ⟨h.app, rfl, hlen, h.logfile, h.launchctl, h.helpers⟩
  | same c =>
  cases c with
  | ui e =>
      obtain ⟨-, hv⟩ := Option.ite_none_right_eq_some.mp hv
      obtain ⟨-, hw⟩ := Option.ite_none_right_eq_some.mp hw
      exact h.appStep hv hw
  | main apUp car => exact h.appStep hv hw
  | takeJob => exact h.appStep hv hw
  | bg c =>
      simp only [World.step, World.bgStep] at hv hw
      rw [h.app] at hv
      cases hrun : w.app.running with
      | none =>
          rw [hrun] at hw
          cases hw
      | some block =>
          rw [hrun] at hv hw
          obtain ⟨r, hr, hv⟩ := Option.bind_eq_some_iff.mp hv
          obtain ⟨r', hr', hw⟩ := Option.bind_eq_some_iff.mp hw
          rw [hr] at hr'
          obtain rfl := Option.some.inj hr'
          exact (h.answered block c).appStep hv hw
  | ipc i e detail => exact h.appStep hv hw
  | note n =>
      obtain rfl := Option.some.inj hv
      obtain rfl := Option.some.inj hw
      exact h
  | setAPSSID ssid password =>
      obtain rfl := Option.some.inj hv
      obtain rfl := Option.some.inj hw
      exact ⟨h.app, rfl, rfl, h.logfile, h.launchctl, h.helpers⟩
  | clearLogsAndDumps opened =>
      obtain rfl := Option.some.inj hv
      obtain rfl := Option.some.inj hw
      exact ⟨h.app, h.apSSID, h.apPassword, rfl, h.launchctl, h.helpers⟩
  | helper k e =>
      obtain ⟨p, hp, hv⟩ := Option.bind_eq_some_iff.mp hv
      obtain ⟨q, hq, hw⟩ := Option.bind_eq_some_iff.mp hw
      obtain ⟨p', hp', rfl⟩ := Option.map_eq_some_iff.mp hv
      obtain ⟨q', hq', rfl⟩ := Option.map_eq_some_iff.mp hw
      rcases forall₂_getElem? h.helpers k with ⟨hnone, -⟩ | ⟨p₀, q₀, hp₀, hq₀, halike⟩
      · rw [hnone] at hp
        cases hp
      rw [hp₀] at hp
      rw [hq₀] at hq
      obtain rfl := Option.some.inj hp
      obtain rfl := Option.some.inj hq
      exact ⟨h.app, h.apSSID, h.apPassword, h.logfile, h.launchctl,
        forall₂_set h.helpers k (halike.step hp' hq')⟩

/-- **`carplay_bt` prints the same.** -/
theorem helperText_alike (h : v.Alike w) {c c' : Call} (hc : c.Alike c') (k : Nat) :
    v.helperText k c = w.helperText k c' := by
  cases hc with
  | setAPSSID ssid hlen => rfl
  | same c =>
  cases c with
  | helper j e =>
      simp only [World.helperText]
      rcases forall₂_getElem? h.helpers k with ⟨hp, hq⟩ | ⟨p, q, hp, hq, halike⟩
      · rw [hp, hq]
      · rw [hp, hq, Option.elim_some, Option.elim_some, halike.stdout e]
  | _ => rfl

end Step

section Text

variable {d : Device} {v w : World}

/-- The lines of a preparation do not hold the password where `carplay_bt` is not started. -/
theorem prepareLines_password (state : ShowcaseState) (ssid p q path : Bytes) {pc : PreparePc} {c : BgCall}
    (hno : ∀ car on r, pc = .spawnBt → c = .spawn car on r → r.executable = false) :
    prepareLines d state ssid p path pc c = prepareLines d state ssid q path pc c := by
  cases pc with
  | spawnBt =>
      cases c with
      | spawn car on r =>
          have hr := hno car on r rfl rfl
          cases r with
          | notExecutable error => rfl
          | spawnFailed error => cases hr
          | started pid alive => cases hr
      | _ => rfl
  | findLaunchctl =>
      cases c with
      | launchctl path =>
          cases path with
          | none => rfl
          | some path => rfl
      | _ => rfl
  | _ =>
      cases c with
      | _ => rfl

theorem bgLines_alike (h : v.Alike w) {c : BgCall} (hlog : w.logfile = true) (hno : v.shows (.bg c) = false) :
    v.bgLines d v.app.running c = w.bgLines d w.app.running c := by
  rw [h.app]
  cases hrun : w.app.running with
  | none => simp only [World.bgLines]
  | some block =>
  cases block with
  | prepare n pc =>
      simp only [World.bgLines, h.app, h.apSSID, h.launchctl]
      apply prepareLines_password
      rintro car on r rfl rfl
      simpa [World.shows, h.app, hrun, h.logfile, hlog] using hno
  | stop pc => simp only [World.bgLines, h.app, h.launchctl]
  | exportDiagnostics =>
      cases c with
      | diagnostics notes => simp only [World.bgLines]
      | _ => simp only [World.bgLines]

theorem logging_alike (h : v.Alike w) {c c' : Call} (hc : c.Alike c') : v.logging c = w.logging c' := by
  cases hc with
  | setAPSSID ssid hlen => exact h.logfile
  | same c =>
  cases c with
  | clearLogsAndDumps opened => rfl
  | _ => exact h.logfile

/-- **A step that does not show the command** writes the same in both. -/
theorem logText_alike (h : v.Alike w) {i j : Input} (hi : i.Alike j) (hno : v.shows i.call = false) :
    v.logText d i = w.logText d j := by
  unfold World.logText
  rw [logging_alike h hi.call, hi.clock]
  split
  · next hlog =>
      congr 1
      obtain ⟨clock, c⟩ := i
      obtain ⟨clock', c'⟩ := j
      have hc : c.Alike c' := hi.call
      cases hc with
      | setAPSSID ssid hlen => rfl
      | same c =>
      cases c with
      | bg c => exact bgLines_alike h hlog hno
      | ui e => simp only [World.lines, h.app]
      | main apUp car => simp only [World.lines, h.app, h.apSSID]
      | ipc k e detail => simp only [World.lines, h.app]
      | _ => rfl
  · rfl

/-- The line of the command, up to the password at its end. -/
def commandFront (d : Device) (car ssid : Bytes) : Bytes :=
  utf8 "spawn_daemon: " ++ d.cmdline d.btPath [ascii "--name", car.take 63, ascii "--ssid", ssid.take 127,
    ascii "--pass"] ++ utf8 " "

/-- **Where the command is written, the password is**: in between there are the same texts for every password. -/
theorem logText_shows {i : Input} (hs : w.shows i.call = true) :
    ∃ car on r, i.call = .bg (.spawn car on r) ∧
      w.logText d i = utf8 "[" ++ i.clock 0 ++ utf8 "] " ++ commandFront d car w.apSSID ++ d.shown w.passBuf ++
        (utf8 "\n" ++ ipLogs i.clock 1 (r.lines btLog ++ orFail (0 < r.pid) "carplay_bt failed to start")) := by
  obtain ⟨clock, c⟩ := i
  cases c with
  | bg c =>
      cases c with
      | spawn car on r =>
          simp only [World.shows] at hs
          split at hs
          · next n hrun =>
              obtain ⟨hlog, hexec⟩ := Bool.and_eq_true_iff.mp hs
              refine ⟨car, on, r, rfl, ?_⟩
              have hspawn : d.spawnDaemon d.btPath (btArgs car w.apSSID w.apPassword) btLog r =
                  (commandFront d car w.apSSID ++ d.shown w.passBuf) :: r.lines btLog := by
                have hcmd : utf8 "spawn_daemon: " ++ d.cmdline d.btPath (btArgs car w.apSSID w.apPassword) =
                    commandFront d car w.apSSID ++ d.shown w.passBuf := by
                  simp only [commandFront, Device.cmdline, btArgs, World.passBuf, List.flatMap_cons, List.flatMap_nil,
                    List.append_assoc, List.append_nil]
                cases r with
                | notExecutable error => cases hexec
                | spawnFailed error => simp only [Device.spawnDaemon, hcmd]
                | started pid alive => simp only [Device.spawnDaemon, hcmd]
              simp only [World.logText, World.logging, hlog, if_true, World.lines, hrun, World.bgLines, prepareLines,
                hspawn, List.cons_append, ipLogs, ipLog, List.append_assoc]
          · cases hs
      | _ => cases hs
  | _ => cases hs

/-- Different passwords of one length are shown apart. -/
theorem apart_shown {p q : Bytes} (hlen : p.length = q.length) (hne : p ≠ q) : Apart (d.shown p) (d.shown q) :=
  apart_flatMap (fun _ _ hxy => apart_utf8 fun h => hxy (d.systemEncoding.injective h)) hlen hne

/-- **A step that shows the command** writes the same exactly when `passBuf` is the same, and then it stays different
    whatever comes behind it. -/
theorem logText_shown (h : v.Alike w) {i j : Input} (hi : i.Alike j) (hs : v.shows i.call = true) :
    if v.passBuf = w.passBuf then v.logText d i = w.logText d j else Apart (v.logText d i) (w.logText d j) := by
  obtain ⟨clock, c⟩ := i
  obtain ⟨clock', c'⟩ := j
  obtain ⟨rfl, hc⟩ : clock = clock' ∧ c.Alike c' := ⟨hi.clock, hi.call⟩
  obtain ⟨car, on, r, hcall, hv⟩ := logText_shows (d := d) hs
  obtain rfl : c = .bg (.spawn car on r) := hcall
  cases hc
  have hs' : w.shows (.bg (.spawn car on r)) = true := by
    rw [← hs]
    simp only [World.shows, h.app, h.logfile]
  obtain ⟨car', on', r', hcall', hw⟩ := logText_shows (d := d) (i := ⟨clock, _⟩) hs'
  cases hcall'
  rw [hv, hw, h.apSSID]
  split
  · next heq => rw [heq]
  · next hne =>
      have hlen : v.passBuf.length = w.passBuf.length := by
        simp only [World.passBuf, List.length_take, h.apPassword]
      exact ((apart_shown hlen hne).behind _).append _ _

end Text

/-! ## Whole runs

The induction is on both runs in lockstep. The logs are the same up to the first step that shows the command with
another password, and different from there on, whatever is written behind it. -/

/-- Where the first run shows the command line, both have the same `passBuf`. -/
def SamePassBuf (x y : Step World Input) : Prop := x.pre.shows x.input.call = true → x.pre.passBuf = y.pre.passBuf

/-- What two runs have in common. -/
structure Indistinct (d : Device) (h k : List (Step World Input)) (v w : World) : Prop where
  alike : v.Alike w
  output : ∀ n, helperOutput n h = helperOutput n k
  log : (List.Forall₂ SamePassBuf h k ∧ appLog d h = appLog d k) ∨
    (¬ List.Forall₂ SamePassBuf h k ∧ Apart (appLog d h) (appLog d k))

theorem Indistinct.snoc {d : Device} {h k : List (Step World Input)} {v w v' w' : World} {i j : Input}
    (hd : Indistinct d h k v w) (hi : i.Alike j) (hv : v.step d i.call = some v') (hw : w.step d j.call = some w') :
    Indistinct d (h ++ [⟨v, i, v'⟩]) (k ++ [⟨w, j, w'⟩]) v' w' := by
  have hlog : ∀ l x, appLog d (l ++ [x]) = appLog d l ++ x.pre.logText d x.input := by
    intro l x
    simp [appLog]
  refine ⟨step_alike hd.alike hi.call hv hw, ?_, ?_⟩
  · intro n
    have hout : ∀ l x, helperOutput n (l ++ [x]) = helperOutput n l ++ x.pre.helperText n x.input.call := by
      intro l x
      simp [helperOutput]
    rw [hout, hout, hd.output n, helperText_alike hd.alike hi.call]
  · rw [hlog, hlog, forall₂_snoc]
    rcases hd.log with ⟨hsame, heq⟩ | ⟨hsame, hapart⟩
    · rw [heq]
      by_cases hs : v.shows i.call = true
      · have hshown := logText_shown (d := d) hd.alike hi hs
        by_cases hpass : v.passBuf = w.passBuf
        · rw [if_pos hpass] at hshown
          exact .inl ⟨⟨hsame, fun _ => hpass⟩, by rw [hshown]⟩
        · rw [if_neg hpass] at hshown
          exact .inr ⟨fun hall => hpass (hall.2 hs), hshown.behind _⟩
      · have hs' : v.shows i.call = false := Bool.eq_false_iff.mpr hs
        exact .inl ⟨⟨hsame, fun hs' => absurd hs' hs⟩, by rw [logText_alike hd.alike hi hs']⟩
    · exact .inr ⟨fun hall => hsame hall.1, hapart.append _ _⟩

/-- Two runs that differ in the stored password have all of it in common. -/
theorem indistinct {d : Device} {opened : Bool} {ssid p q : Bytes} {h k : List (Step World Input)} {v w : World}
    (hlen : p.length = q.length) (hr : WorldRun d (.launched opened ssid p) h v)
    (hq : WorldRun d (.launched opened ssid q) k w)
    (halike : List.Forall₂ (fun x y => x.input.Alike y.input) h k) : Indistinct d h k v w := by
  refine hr.lockstep (fun x y => x.input.Alike y.input) (Indistinct d) ?_ ?_ hq halike
  · exact ⟨⟨rfl, rfl, hlen, rfl, rfl, .nil⟩, fun _ => rfl, .inl ⟨.nil, rfl⟩⟩
  · intro h k s t i j s' t' hinv hi hR hQ
    exact hinv.snoc hi hR hQ

/-- **What the logs tell about the password.** Two runs of the app and of `carplay_bt` differ only in the stored
    password, and the passwords have the same length. The app logs the same and `carplay_bt` prints the same exactly
    when, each time the command line of `carplay_bt` is logged, the first 127 bytes of the passwords are the same. -/
theorem secret_iff (d : Device) {opened : Bool} {ssid p q : Bytes} {h k : List (Step World Input)} {v w : World}
    (hlen : p.length = q.length) (hr : WorldRun d (.launched opened ssid p) h v)
    (hq : WorldRun d (.launched opened ssid q) k w)
    (halike : List.Forall₂ (fun x y => x.input.Alike y.input) h k) :
    (appLog d h = appLog d k ∧ ∀ n, helperOutput n h = helperOutput n k) ↔ List.Forall₂ SamePassBuf h k := by
  have hd := indistinct hlen hr hq halike
  constructor
  · rintro ⟨heq, -⟩
    rcases hd.log with ⟨hsame, -⟩ | ⟨-, hapart⟩
    · exact hsame
    · exact absurd heq hapart.ne
  · intro hsame
    rcases hd.log with ⟨-, heq⟩ | ⟨hnot, -⟩
    · exact ⟨heq, hd.output⟩
    · exact absurd hsame hnot

/-! ## Sample runs -/

section Sample

/-- Runs with the same inputs are alike. -/
theorem alike_of_inputs {h k : List (Step World Input)} (heq : h.map Step.input = k.map Step.input) :
    List.Forall₂ (fun x y => x.input.Alike y.input) h k := by
  induction h generalizing k with
  | nil =>
      obtain rfl := List.map_eq_nil_iff.mp heq.symm
      exact .nil
  | cons x h ih =>
      cases k with
      | nil => cases heq
      | cons y k =>
          obtain ⟨hxy, htail⟩ := List.cons.inj heq
          refine .cons ⟨congrArg Input.clock hxy, ?_⟩ (ih htail)
          rw [hxy]
          exact .same _

/-- Where the command line is never logged, nothing is asked of the passwords. -/
theorem samePassBuf_of_hidden {h k : List (Step World Input)}
    (halike : List.Forall₂ (fun x y => x.input.Alike y.input) h k)
    (hno : ∀ x ∈ h, x.pre.shows x.input.call = false) : List.Forall₂ SamePassBuf h k := by
  induction halike with
  | nil => exact .nil
  | @cons x y h k _ _ ih =>
      refine .cons ?_ (ih fun z hz => hno z (List.mem_cons_of_mem _ hz))
      intro hs
      rw [hno x List.mem_cons_self] at hs
      cases hs

/-- A device whose encoding takes each byte for the character of its number. -/
def sampleDevice : Device where
  rootless := false
  bundlePath := ascii "/Applications/Showcase.app"
  uid := 0
  euid := 0
  systemEncoding :=
    { toFun := fun b => Char.ofNat b.toNat
      inj' := by
        intro a b hab
        have hvalid : ∀ c : UInt8, (Char.ofNat c.toNat).toNat = c.toNat := by
          intro c
          have hc : c.toNat.isValidChar := .inl (Nat.lt_of_lt_of_le c.toNat_lt (by decide))
          rw [Char.ofNat, dif_pos hc]
          rfl
        apply UInt8.toNat_inj.mp
        rw [← hvalid a, ← hvalid b]
        exact congrArg Char.toNat hab }

/-- Start is tapped, the access point is up, and `bgPrepareBT` comes to `spawn_daemon`. -/
def startCalls : List Call :=
  [.ui (.primaryTapped true true), .main true (ascii "Miata"), .main true (ascii "Miata"), .main true (ascii "Miata"),
    .main true (ascii "Miata"), .takeJob, .bg (.begins (ascii "Miata") [.hciLoggingDisabled]),
    .bg (.launchctl (some (ascii "/bin/launchctl"))), .bg (.run (.exited 0)), .bg (.run (.exited 0)),
    .bg (.run (.exited 0)), .bg (.socket true)]

def startInputs (calls : List Call) : List Input := calls.map fun c => ⟨fun _ => ascii "12:00:00", c⟩

def samplePassword : Bytes := ascii "hotspot-pass"

def otherPassword : Bytes := ascii "another-pass"

/-- The run with these inputs. -/
def sampleExec (password : Bytes) (calls : List Call) : Option (List (Step World Input) × World) :=
  exec (fun w i => w.step sampleDevice i.call) (.launched true (ascii "Showcase-AP") password) (startInputs calls)

/-- With a `carplay_bt` that cannot be executed the logs are the same. -/
theorem secret_iff_notExecutable :
    ∃ h k v w, WorldRun sampleDevice (.launched true (ascii "Showcase-AP") samplePassword) h v ∧
      WorldRun sampleDevice (.launched true (ascii "Showcase-AP") otherPassword) k w ∧
      appLog sampleDevice h = appLog sampleDevice k ∧ ∀ n, helperOutput n h = helperOutput n k := by
  have hexec : ∀ pw ∈ [samplePassword, otherPassword],
      ((sampleExec pw
        (startCalls ++ [.bg (.spawn (ascii "Miata") false (.notExecutable (ascii "Permission denied")))])).map fun r =>
          decide (∀ x ∈ r.1, x.pre.shows x.input.call = false)) = some true := by
    decide +kernel
  obtain ⟨r, hr, hhidden⟩ := Option.map_eq_some_iff.mp (hexec samplePassword (by simp))
  obtain ⟨r', hr', -⟩ := Option.map_eq_some_iff.mp (hexec otherPassword (by simp))
  have halike := alike_of_inputs ((exec_inputs hr).trans (exec_inputs hr').symm)
  exact ⟨r.1, r'.1, r.2, r'.2, Run.exec hr, Run.exec hr',
    (secret_iff sampleDevice (by decide) (Run.exec hr) (Run.exec hr') halike).mpr
      (samePassBuf_of_hidden halike (of_decide_eq_true hhidden))⟩

/-- **The password is logged**: once `carplay_bt` is started, two passwords can be told apart. -/
theorem not_secret :
    ¬ ∀ (d : Device) (opened : Bool) (ssid p q : Bytes) (h k : List (Step World Input)) (v w : World),
      p.length = q.length → WorldRun d (.launched opened ssid p) h v → WorldRun d (.launched opened ssid q) k w →
      List.Forall₂ (fun x y => x.input.Alike y.input) h k →
      appLog d h = appLog d k ∧ ∀ n, helperOutput n h = helperOutput n k := by
  intro hall
  let started : Input := ⟨fun _ => ascii "12:00:00", .bg (.spawn (ascii "Miata") false (.started 301 true))⟩
  have hexec : ∀ pw ∈ [samplePassword, otherPassword], ((sampleExec pw startCalls).map fun r =>
      decide ((r.2.step sampleDevice started.call).isSome ∧ r.2.shows started.call = true ∧ r.2.passBuf = pw)) =
        some true := by
    decide +kernel
  obtain ⟨r, hr, hlast⟩ := Option.map_eq_some_iff.mp (hexec samplePassword (by simp))
  obtain ⟨r', hr', hlast'⟩ := Option.map_eq_some_iff.mp (hexec otherPassword (by simp))
  obtain ⟨hsome, hshows, hpass⟩ := of_decide_eq_true hlast
  obtain ⟨hsome', -, hpass'⟩ := of_decide_eq_true hlast'
  obtain ⟨v, hv⟩ := Option.isSome_iff_exists.mp hsome
  obtain ⟨w, hw⟩ := Option.isSome_iff_exists.mp hsome'
  have hlen : samplePassword.length = otherPassword.length := by decide
  have hrun : WorldRun sampleDevice (.launched true (ascii "Showcase-AP") samplePassword)
      (r.1 ++ [⟨r.2, started, v⟩]) v := (Run.exec hr).snoc hv
  have hrun' : WorldRun sampleDevice (.launched true (ascii "Showcase-AP") otherPassword)
      (r'.1 ++ [⟨r'.2, started, w⟩]) w := (Run.exec hr').snoc hw
  have halike : List.Forall₂ (fun x y => x.input.Alike y.input) (r.1 ++ [⟨r.2, started, v⟩])
      (r'.1 ++ [⟨r'.2, started, w⟩]) :=
    forall₂_snoc.mpr ⟨alike_of_inputs ((exec_inputs hr).trans (exec_inputs hr').symm), rfl, .same _⟩
  have hequal := (hall _ _ _ _ _ _ _ _ _ hlen hrun hrun' halike).1
  rcases (indistinct hlen hrun hrun' halike).log with ⟨hsame, -⟩ | ⟨-, hapart⟩
  · -- the passwords would be the same
    have hpassBuf : r.2.passBuf = r'.2.passBuf := (forall₂_snoc.mp hsame).2 hshows
    rw [hpass, hpass'] at hpassBuf
    exact absurd hpassBuf (by decide)
  · exact hapart.ne hequal

end Sample

end Showcase.App
