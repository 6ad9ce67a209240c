import Showcase.Screen.Stream

/-!
# `Screen.Ipc` — the app at the other end

The messages of `app_send_msg` (`carplay_services.m`) and the loop that receives them, `ipcHandleConnection` of
`Showcase.m`. A message is its length, its type and its payload; the receiver leaves its loop on a length of 0 or
of more than 4 MiB, and the sender has no such bound.

* `ipcLoop_all` — messages within the bounds are received as they were sent.
* `ipc_agrees_iff` — for which messages of the phone this is so.
-/

namespace Showcase

open Lib

/-- What `app_send_msg` writes: `hdr` and the payload. -/
def appMessage (type : UInt8) (data : Bytes) : Bytes := toLE 4 data.length ++ type :: data

/-! ## The receiver -/

/-- `4*1024*1024`. -/
def ipcMax : Nat := 4194304

/-- `MSG_STATUS`. -/
def msgStatus : UInt8 := 0x04

/-- What the loop does besides receiving. -/
inductive IpcAction where
  /-- `g_carplay_w` and `g_carplay_h`. -/
  | size (w h : Bytes)
  /-- The parameter sets of a new format, and `flush`. -/
  | format (sps pps : Bytes)
  /-- `transitionTo:StateActive`. -/
  | active
  | enqueue (sample : Bytes)
  | subtitle (text : String)
deriving DecidableEq

/-- The outcomes of the CoreMedia calls of one message. -/
structure IpcEnv where
  format : Bool
  block : Bool
  sample : Bool

/-- `fmtDesc` (whether it is set) and `gotFirstFrame`. -/
structure IpcState where
  fmtDesc : Bool
  gotFirstFrame : Bool

/-- A length-prefixed parameter set at `off`, when there are `n > 0` of them: the set, and where `off` is then. -/
def parameterSet (avcc : Bytes) (n off : Nat) : Option Bytes × Nat :=
  if 0 < n ∧ off + 2 ≤ avcc.length then
    let len := (avcc.getD off 0).toNat * 256 + (avcc.getD (off + 1) 0).toNat
    if off + 2 + len ≤ avcc.length then (some ((avcc.drop (off + 2)).take len), off + 2 + len) else (none, off + 2)
  else (none, off)

/-- The parameter sets of an AVCC record: `ps[0]` and `ps[1]`. -/
def avccSets (avcc : Bytes) : Option Bytes × Option Bytes :=
  if 7 ≤ avcc.length then
    let (sps, off) := parameterSet avcc ((avcc.getD 5 0).toNat % 32) 6
    let pps := if off < avcc.length then (parameterSet avcc (avcc.getD off 0).toNat (off + 1)).1 else none
    (sps, pps)
  else (none, none)

/-- The texts of the status codes. -/
def statusText (code : UInt8) : Option String :=
  if code = 0x01 then some "iPhone connected\nPairing…"
  else if code = 0x02 then some "Pairing…\nVerifying…"
  else if code = 0x03 then some "Authenticated ✓\nPreparing stream…"
  else if code = 0x04 then some "Stream ready ✓\nReceiving video…"
  else none

/-- `type == MSG_VIDEO_CONFIG`. -/
def ipcConfig (e : IpcEnv) (st : IpcState) (payload : Bytes) : List IpcAction × IpcState :=
  if payload.length < 9 then ([], st)
  else
    let size := .size (payload.take 4) ((payload.drop 4).take 4)
    match avccSets (payload.drop 8) with
    | (some sps, some pps) => ([size, .format sps pps], ⟨e.format, false⟩)
    | _ => ([size], st)

/-- `type == MSG_VIDEO_FRAME`. -/
def ipcFrame (e : IpcEnv) (st : IpcState) (payload : Bytes) : List IpcAction × IpcState :=
  if st.fmtDesc = false then ([], st)
  else
    let first := if st.gotFirstFrame then [] else [.active]
    (first ++ if e.block ∧ e.sample then [.enqueue payload] else [], { st with gotFirstFrame := true })

/-- What a message of each type does. -/
def ipcDispatch (e : IpcEnv) (st : IpcState) (type : UInt8) (payload : Bytes) : List IpcAction × IpcState :=
  if type = msgVideoConfig then ipcConfig e st payload
  else if type = msgVideoFrame then ipcFrame e st payload
  else if type = msgStatus then (((statusText (payload.getD 0 0)).map IpcAction.subtitle).toList, st)
  else ([], st)

/-- Where the loop is left. -/
inductive IpcExit where
  /-- No further header. -/
  | header
  /-- `len == 0 || len > 4*1024*1024`. -/
  | length
  /-- The connection ends within a payload. -/
  | payload
deriving DecidableEq

/-- A message that was received, and what it did. -/
structure IpcLog where
  type : UInt8
  payload : Bytes
  actions : List IpcAction

/-- How a round ends. -/
inductive IpcRound where
  | exit (why : IpcExit)
  | message (log : IpcLog) (st : IpcState) (sock : Sock)

/-- One round of `while (1)`. -/
def ipcRound (e : IpcEnv) (st : IpcState) (sock : Sock) : IpcRound :=
  match readExact 5 sock [] with
  | (none, _) => .exit .header
  | (some hdr, sock) =>
      let len := ofLE (hdr.take 4)
      let type := hdr.getD 4 0
      if len = 0 ∨ ipcMax < len then .exit .length
      else
        match readExact len sock [] with
        | (none, _) => .exit .payload
        | (some payload, sock) =>
            let (actions, st) := ipcDispatch e st type payload
            .message ⟨type, payload, actions⟩ st sock

theorem ipcRound_work {e : IpcEnv} {st st' : IpcState} {sock sock' : Sock} {log : IpcLog}
    (h : ipcRound e st sock = .message log st' sock') : sock'.work < sock.work := by
  unfold ipcRound at h
  rcases hhdr : readExact 5 sock [] with ⟨hdr, s₁⟩
  rw [hhdr] at h
  cases hdr with
  | none => cases h
  | some hdr =>
      have hs₁ : s₁.work < sock.work := readExact_work hhdr (by simp)
      simp only at h
      split at h
      · cases h
      rename_i hlen
      rcases hpayload : readExact (ofLE (hdr.take 4)) s₁ [] with ⟨payload, s₂⟩
      rw [hpayload] at h
      cases payload with
      | none => cases h
      | some payload =>
          have hpos : ([] : Bytes).length < ofLE (hdr.take 4) := by
            rw [List.length_nil]
            omega
          have hs₂ : s₂.work < s₁.work := readExact_work hpayload hpos
          simp only [IpcRound.message.injEq] at h
          rw [← h.2.2]
          omega

/-- The loop from message `i` on: what was received, and where the loop was left. -/
def ipcLoop (env : Nat → IpcEnv) (i : Nat) (st : IpcState) (sock : Sock) : List IpcLog × IpcExit :=
  match _h : ipcRound (env i) st sock with
  | .exit why => ([], why)
  | .message log st' sock' =>
      let (logs, why) := ipcLoop env (i + 1) st' sock'
      (log :: logs, why)
termination_by sock.work
decreasing_by exact ipcRound_work _h

/-- `ipcHandleConnection`. -/
def ipcHandleConnection (env : Nat → IpcEnv) (sock : Sock) : List IpcLog × IpcExit :=
  ipcLoop env 0 ⟨false, false⟩ sock

/-! ## What arrives

A message within the bounds is read in one round of the loop, in whatever pieces it comes, and the loop goes on behind
it. One that is outside ends the loop. The induction is on the messages. -/

/-- A message, as it is handed to `app_send_msg`. -/
abbrev AppMsg := UInt8 × Bytes

def AppMsg.wire (m : AppMsg) : Bytes := appMessage m.1 m.2

/-- The guard of the receiver lets it through. -/
def AppMsg.Fits (m : AppMsg) : Prop := 0 < m.2.length ∧ m.2.length ≤ ipcMax

def IpcLog.msg (log : IpcLog) : AppMsg := (log.type, log.payload)

section Receive

variable {env : Nat → IpcEnv} {e : IpcEnv} {st : IpcState} {sock : Sock}

/-- The header of the next message. -/
theorem readExact_header {m : AppMsg} {rest : Bytes} (hlen : m.2.length < 2 ^ 32)
    (hsock : sock.arriving = m.wire ++ rest) :
    ∃ hdr s₁, readExact 5 sock [] = (some hdr, s₁) ∧ s₁.arriving = m.2 ++ rest ∧
      ofLE (hdr.take 4) = m.2.length ∧ hdr.getD 4 0 = m.1 := by
  have hfour : (toLE 4 m.2.length).length = 4 := toLE_length 4 _
  have hsplit : m.wire ++ rest = (toLE 4 m.2.length ++ [m.1]) ++ (m.2 ++ rest) := by
    simp [AppMsg.wire, appMessage]
  have hfive : (toLE 4 m.2.length ++ [m.1]).length = 5 := by
    rw [List.length_append, hfour, List.length_singleton]
  rw [hsplit] at hsock
  obtain ⟨s₁, hread, hs₁⟩ := readExact_ok hsock hfive
  refine ⟨_, s₁, hread, hs₁, ?_, ?_⟩
  · rw [List.take_left' hfour, ofLE_toLE]
    exact Nat.mod_eq_of_lt hlen
  · rw [List.getD_eq_getElem?_getD, List.getElem?_append_right (Nat.le_of_eq hfour), hfour]
    rfl

theorem ipcRound_header (e : IpcEnv) (st : IpcState) {m : AppMsg} {rest : Bytes} (hlen : m.2.length < 2 ^ 32)
    (hsock : sock.arriving = m.wire ++ rest) :
    ∃ s₁, s₁.arriving = m.2 ++ rest ∧ ipcRound e st sock =
      if m.2.length = 0 ∨ ipcMax < m.2.length then .exit .length
      else
        match readExact m.2.length s₁ [] with
        | (none, _) => .exit .payload
        | (some payload, s₂) =>
            .message ⟨m.1, payload, (ipcDispatch e st m.1 payload).1⟩ (ipcDispatch e st m.1 payload).2 s₂ := by
  obtain ⟨hdr, s₁, hread, hs₁, hval, htype⟩ := readExact_header hlen hsock
  refine ⟨s₁, hs₁, ?_⟩
  rw [ipcRound, hread]
  simp only [hval, htype]

/-- **A message within the bounds is received as it was sent.** -/
theorem ipcRound_message (e : IpcEnv) (st : IpcState) {m : AppMsg} {rest : Bytes} (hfits : m.Fits)
    (hsock : sock.arriving = m.wire ++ rest) :
    ∃ log st' sock', ipcRound e st sock = .message log st' sock' ∧ log.msg = m ∧ sock'.arriving = rest := by
  obtain ⟨hpos, hmax⟩ := hfits
  unfold ipcMax at hmax
  obtain ⟨s₁, hs₁, hround⟩ := ipcRound_header e st (by omega) hsock
  obtain ⟨s₂, hread, hs₂⟩ := readExact_ok hs₁ rfl
  rw [if_neg (by unfold ipcMax; omega), hread] at hround
  exact ⟨_, _, s₂, hround, rfl, hs₂⟩

/-- The loop on messages within the bounds. -/
theorem ipcLoop_all {msgs : List AppMsg} (hfits : ∀ m ∈ msgs, m.Fits) (i : Nat) (st : IpcState)
    (hsock : sock.arriving = msgs.flatMap AppMsg.wire) :
    (ipcLoop env i st sock).1.map IpcLog.msg = msgs ∧ (ipcLoop env i st sock).2 = .header := by
  induction msgs generalizing i st sock with
  | nil =>
      have hnone : (readExact 5 sock []).1 = none := readExact_short (by rw [hsock]; decide)
      have hround : ipcRound (env i) st sock = .exit .header := by
        rcases hread : readExact 5 sock [] with ⟨hdr, s₁⟩
        rw [hread] at hnone
        subst hnone
        rw [ipcRound, hread]
      rw [ipcLoop]
      split
      · rename_i why h
        rw [hround, IpcRound.exit.injEq] at h
        exact ⟨rfl, h.symm⟩
      · rename_i h
        rw [hround] at h
        cases h
  | cons m msgs ih =>
      rw [List.flatMap_cons] at hsock
      obtain ⟨log, st', sock', hround, hmsg, hsock'⟩ :=
        ipcRound_message (env i) st (hfits m (List.mem_cons_self ..)) hsock
      obtain ⟨hmsgs, hexit⟩ := ih (fun m' hm => hfits m' (List.mem_cons_of_mem _ hm)) (i + 1) st' hsock'
      rw [ipcLoop]
      split
      · rename_i h
        rw [hround] at h
        cases h
      · rename_i log₂ st₂ sock₂ h
        rw [hround, IpcRound.message.injEq] at h
        obtain ⟨rfl, rfl, rfl⟩ := h
        exact ⟨by rw [List.map_cons, hmsg, hmsgs], hexit⟩

/-- **A message outside the bounds ends the loop.** -/
theorem ipcLoop_length {msgs : List AppMsg} (hlen : ∀ m ∈ msgs, m.2.length < 2 ^ 32)
    (hbad : ∃ m ∈ msgs, ¬ m.Fits) (i : Nat) (st : IpcState) (hsock : sock.arriving = msgs.flatMap AppMsg.wire) :
    (ipcLoop env i st sock).2 = .length := by
  induction msgs generalizing i st sock with
  | nil =>
      obtain ⟨m, hm, _⟩ := hbad
      exact absurd hm List.not_mem_nil
  | cons m msgs ih =>
      rw [List.flatMap_cons] at hsock
      by_cases hfits : m.Fits
      · obtain ⟨log, st', sock', hround, _, hsock'⟩ := ipcRound_message (env i) st hfits hsock
        have hbad' : ∃ m ∈ msgs, ¬ m.Fits := by
          obtain ⟨b, hb, hno⟩ := hbad
          rcases List.mem_cons.mp hb with rfl | hb'
          · exact absurd hfits hno
          · exact ⟨b, hb', hno⟩
        have hexit := ih (fun m' hm => hlen m' (List.mem_cons_of_mem _ hm)) hbad' (i + 1) st' hsock'
        rw [ipcLoop]
        split
        · rename_i h
          rw [hround] at h
          cases h
        · rename_i log₂ st₂ sock₂ h
          rw [hround, IpcRound.message.injEq] at h
          obtain ⟨rfl, rfl, rfl⟩ := h
          exact hexit
      · obtain ⟨s₁, _, hround⟩ := ipcRound_header (env i) st (hlen m (List.mem_cons_self ..)) hsock
        have hguard : m.2.length = 0 ∨ ipcMax < m.2.length := by
          unfold AppMsg.Fits at hfits
          omega
        rw [if_pos hguard] at hround
        rw [ipcLoop]
        split
        · rename_i why h
          rw [hround, IpcRound.exit.injEq] at h
          exact h.symm
        · rename_i h
          rw [hround] at h
          cases h

end Receive

/-! ## The phone's messages -/

section Agree

variable {A : AeadStream} {env : Nat → ScreenEnv}

/-- The calls of `app_send_msg`. -/
def sends (log : List ScreenLog) : List AppMsg := log.filterMap (·.sent)

/-- **The two ends agree** on a stream of the phone: every message the screen thread writes is received with its
    type and payload, and the receiver stays in its loop to the end of what was written. -/
def IpcAgrees (A : AeadStream) (env : Nat → ScreenEnv) (msgs : List ScreenMsg) : Prop :=
  ∀ phone : Sock, phone.arriving = msgs.flatMap ScreenMsg.wire →
    ∃ log, screenThread A env phone = some log ∧
      ∀ (ipcEnv : Nat → IpcEnv) (app : Sock), app.arriving = (sends log).flatMap AppMsg.wire →
        (ipcHandleConnection ipcEnv app).1.map IpcLog.msg = sends log ∧
          (ipcHandleConnection ipcEnv app).2 = .header

/-- A message of the phone that the app takes: the limits of the receiver in terms of the body. -/
def ScreenMsg.Deliverable (m : ScreenMsg) (A : AeadStream) (screenKey : Option (Block 32)) (nonce : UInt64) :
    Prop :=
  (m.opcode = 1 → 8 + m.body.length ≤ ipcMax) ∧
    (m.opcode = 0 → (m.plaintext A screenKey nonce).isSome → 16 < m.body.length ∧ m.body.length ≤ ipcMax + 16)

/-- The app takes all messages from the `i`-th on. -/
def AllDeliverable (A : AeadStream) (env : Nat → ScreenEnv) : Nat → UInt64 → List ScreenMsg → Prop
  | _, _, [] => True
  | i, nonce, m :: msgs =>
      m.Deliverable A (env i).screenKey nonce ∧ AllDeliverable A env (i + 1) (m.nonceAfter nonce) msgs

/-- The plaintext of a frame is 16 bytes shorter than its body. -/
theorem ScreenMsg.plaintext_length {m : ScreenMsg} {key : Option (Block 32)} {nonce : UInt64} {pt : Bytes}
    (h : m.plaintext A key nonce = some pt) : pt.length + 16 = m.body.length := by
  obtain ⟨key, _, h⟩ := Option.bind_eq_some_iff.mp h
  obtain ⟨⟨ct, tag⟩, hsplit, hopen⟩ := Option.bind_eq_some_iff.mp h
  unfold splitTag at hsplit
  split at hsplit
  case isFalse => cases hsplit
  rename_i h16
  rw [Option.some.injEq, Prod.mk.injEq] at hsplit
  unfold AeadStream.open at hopen
  simp only at hopen
  split at hopen
  case isFalse => cases hopen
  rw [← Option.some.inj hopen, A.update_length, ← hsplit.1, List.length_take]
  omega

/-- What is handed to `app_send_msg` is within the bounds exactly when the message is deliverable. -/
theorem handled_fits_iff {m : ScreenMsg} {key : Option (Block 32)} {nonce : UInt64} :
    (∀ s : AppMsg, m.handled A key nonce = some s → s.Fits) ↔ m.Deliverable A key nonce := by
  unfold ScreenMsg.handled ScreenMsg.Deliverable
  by_cases hconfig : m.opcode = 1
  · have hlen : ((m.header.val.drop 16).take 4 ++ (m.header.val.drop 20).take 4 ++ m.body).length
        = 8 + m.body.length := by
      simp only [List.length_append, List.length_take, List.length_drop, m.header.property]
      omega
    rw [if_pos hconfig]
    constructor
    · intro h
      have hfits := (h _ rfl).2
      rw [hlen] at hfits
      exact ⟨fun _ => hfits, fun h0 => absurd (hconfig.symm.trans h0) (by decide)⟩
    · rintro ⟨h, _⟩ s hs
      obtain rfl := Option.some.inj hs
      have hmax := h hconfig
      unfold AppMsg.Fits
      rw [hlen]
      exact ⟨by omega, hmax⟩
  rw [if_neg hconfig]
  by_cases hframe : m.opcode = 0
  · rw [if_pos hframe]
    constructor
    · intro h
      refine ⟨fun h1 => absurd h1 hconfig, fun _ hsome => ?_⟩
      obtain ⟨pt, hpt⟩ := Option.isSome_iff_exists.mp hsome
      have hlen := ScreenMsg.plaintext_length hpt
      have hfits : AppMsg.Fits (msgVideoFrame, pt) := h (msgVideoFrame, pt) (by rw [hpt]; rfl)
      have hpos : 0 < pt.length := hfits.1
      have hmax : pt.length ≤ ipcMax := hfits.2
      exact ⟨by omega, by omega⟩
    · rintro ⟨_, h⟩ s hs
      obtain ⟨pt, hpt, rfl⟩ := Option.map_eq_some_iff.mp hs
      have hlen := ScreenMsg.plaintext_length hpt
      obtain ⟨hlow, hhigh⟩ := h hframe (by rw [hpt]; rfl)
      show 0 < pt.length ∧ pt.length ≤ ipcMax
      exact ⟨by omega, by omega⟩
  · rw [if_neg hframe]
    exact ⟨fun _ => ⟨fun h => absurd h hconfig, fun h => absurd h hframe⟩, fun _ s hs => by cases hs⟩

/-- All that is handed over is within the bounds exactly when all messages are deliverable. -/
theorem sends_fit_iff (i : Nat) (nonce : UInt64) (msgs : List ScreenMsg) :
    (∀ s ∈ sends (handledAll A env i nonce msgs), s.Fits) ↔ AllDeliverable A env i nonce msgs := by
  induction msgs generalizing i nonce with
  | nil => exact ⟨fun _ => trivial, fun _ s hs => absurd hs List.not_mem_nil⟩
  | cons m msgs ih =>
      rw [AllDeliverable, ← handled_fits_iff, ← ih, handledAll, sends]
      simp only [List.mem_filterMap, List.mem_cons]
      constructor
      · intro h
        exact ⟨fun s hs => h s ⟨_, .inl rfl, hs⟩, fun s hs => by
          obtain ⟨log, hlog, hsent⟩ := List.mem_filterMap.mp hs
          exact h s ⟨log, .inr hlog, hsent⟩⟩
      · rintro ⟨hfirst, hrest⟩ s ⟨log, hlog, hsent⟩
        rcases hlog with rfl | hlog
        · exact hfirst s hsent
        · exact hrest s (List.mem_filterMap.mpr ⟨log, hlog, hsent⟩)

/-- A message within memory makes a message with a 32-bit length. -/
theorem handled_length {m : ScreenMsg} {key : Option (Block 32)} {nonce : UInt64} {alloc : Nat} {s : AppMsg}
    (hmem : m.InMemory key.isSome alloc) (h : m.handled A key nonce = some s) : s.2.length < 2 ^ 32 := by
  obtain ⟨_, hwrap, hint⟩ := hmem
  unfold ScreenMsg.handled at h
  by_cases hconfig : m.opcode = 1
  · rw [if_pos hconfig] at h
    have hlt := hwrap hconfig
    rw [← Option.some.inj h]
    simp only [List.length_append, List.length_take, List.length_drop, m.header.property]
    omega
  rw [if_neg hconfig] at h
  by_cases hframe : m.opcode = 0
  · rw [if_pos hframe] at h
    obtain ⟨pt, hpt, rfl⟩ := Option.map_eq_some_iff.mp h
    have hlen := ScreenMsg.plaintext_length hpt
    have hkey : key.isSome := by
      obtain ⟨k, hk, _⟩ := Option.bind_eq_some_iff.mp hpt
      rw [hk]
      rfl
    have hlt := hint hframe hkey
    show pt.length < 2 ^ 32
    omega
  · rw [if_neg hframe] at h
    cases h

theorem sends_length {i alloc : Nat} {nonce : UInt64} {msgs : List ScreenMsg}
    (hmem : AllInMemory env i alloc msgs) :
    ∀ s ∈ sends (handledAll A env i nonce msgs), s.2.length < 2 ^ 32 := by
  induction msgs generalizing i alloc nonce with
  | nil => exact fun s hs => absurd hs List.not_mem_nil
  | cons m msgs ih =>
      intro s hs
      obtain ⟨log, hlog, hsent⟩ := List.mem_filterMap.mp hs
      rcases List.mem_cons.mp hlog with rfl | hlog
      · exact handled_length hmem.1 hsent
      · exact ih hmem.2 s (List.mem_filterMap.mpr ⟨log, hlog, hsent⟩)

/-- Between two messages the stream may end. -/
theorem ends_nil (alloc : Nat) : Ends alloc [] := by
  have hpos : ([] : Bytes).length < 2 ^ 32 := by decide
  have hroom : (plainMsg 2 [] hpos).body.length ≤ (plainMsg 2 [] hpos).allocAfter alloc := by
    rw [show (plainMsg 2 [] hpos).body = [] from rfl, List.length_nil]
    exact Nat.zero_le _
  refine ⟨plainMsg 2 [] hpos, List.nil_prefix, ?_, hroom⟩
  have h128 := (plainMsg 2 [] hpos).header.property
  rw [ScreenMsg.wire, List.length_append, h128, List.length_nil]
  omega

/-- Where the two ends agree, every message was within the bounds. -/
theorem deliverable_of_agrees {msgs : List ScreenMsg} (h : IpcAgrees A env msgs) :
    AllInMemory env 0 0 msgs ∧ AllDeliverable A env 0 0 msgs := by
  have hphone : (Sock.push (msgs.flatMap ScreenMsg.wire) []).arriving = msgs.flatMap ScreenMsg.wire ++ [] :=
    Sock.arriving_push _ _
  obtain ⟨log, hlog, happ⟩ := h _ (hphone.trans (List.append_nil _))
  have hmem : AllInMemory env 0 0 msgs := by
    by_contra hno
    have hnone : screenThread A env (Sock.push (msgs.flatMap ScreenMsg.wire) []) = none :=
      screenLoop_undefined hphone hno
    rw [hnone] at hlog
    cases hlog
  have hrun : screenThread A env (Sock.push (msgs.flatMap ScreenMsg.wire) [])
      = some (handledAll A env 0 0 msgs) := screenLoop_messages hphone hmem (ends_nil _)
  obtain rfl : handledAll A env 0 0 msgs = log := Option.some.inj (hrun.symm.trans hlog)
  refine ⟨hmem, (sends_fit_iff 0 0 msgs).mp ?_⟩
  by_contra hno
  have hbad : ∃ s ∈ sends (handledAll A env 0 0 msgs), ¬ s.Fits := by
    simpa only [not_forall, exists_prop] using hno
  -- the receiver leaves its loop at the first message outside the bounds
  let ipcEnv : Nat → IpcEnv := fun _ => ⟨true, true, true⟩
  have harrive := Sock.arriving_push ((sends (handledAll A env 0 0 msgs)).flatMap AppMsg.wire) []
  rw [Sock.arriving, List.append_nil] at harrive
  have hlength : (ipcHandleConnection ipcEnv _).2 = .length := ipcLoop_length (sends_length hmem) hbad 0 _ harrive
  have hexit := (happ ipcEnv _ harrive).2
  rw [hlength] at hexit
  cases hexit

/-- **When the two ends agree**: no body overruns the buffers, every configuration has at most 4 MiB - 8 bytes, and
    every frame whose tag is right has more than 16 and at most 4 MiB + 16. -/
theorem ipc_agrees_iff (A : AeadStream) (env : Nat → ScreenEnv) (msgs : List ScreenMsg) :
    IpcAgrees A env msgs ↔ AllInMemory env 0 0 msgs ∧ AllDeliverable A env 0 0 msgs := by
  refine ⟨deliverable_of_agrees, ?_⟩
  rintro ⟨hmem, hdeliver⟩ phone hsock
  refine ⟨handledAll A env 0 0 msgs,
    screenLoop_messages (hsock.trans (List.append_nil _).symm) hmem (ends_nil _), ?_⟩
  intro ipcEnv app harrive
  exact ipcLoop_all ((sends_fit_iff 0 0 msgs).mpr hdeliver) 0 ⟨false, false⟩ harrive

end Agree

/-- A frame without any content. -/
theorem ipc_disagrees :
    ¬ ∀ (A : AeadStream) (env : Nat → ScreenEnv) (msgs : List ScreenMsg), IpcAgrees A env msgs := by
  intro hall
  let frame := sealedMsg (Block.zero 32) 0 [] (by decide)
  let env : Nat → ScreenEnv := fun _ => ⟨some (Block.zero 32), fun _ => 0⟩
  obtain ⟨_, ⟨_, hdeliver⟩, _⟩ := deliverable_of_agrees (hall AeadStream.toy env [frame])
  have hopens : (frame.plaintext AeadStream.toy (env 0).screenKey 0).isSome := by
    rw [sealedMsg_plaintext]
    rfl
  have hlong : 16 < frame.body.length := (hdeliver rfl hopens).1
  have hsize : frame.body.length = ([] : Bytes).length + 16 := sealedMsg_length _ _ _ _
  rw [List.length_nil] at hsize
  omega

end Showcase
