import Showcase.Screen.Touch

/-!
# `Screen.TouchFraming` — the touch reader on any messages

`touch_reader_func` of `carplay_services.m` on a stream of messages of any type and length. It reads the payload of
what it does not know and throws it away, but only when the payload has less than 65536 bytes; a longer one is left in
the stream, where its bytes are taken for headers.

* `touchRound_any` — what a round makes of a message.
* `touchFramed_iff` — exactly for which messages the reader stays on their boundaries.
-/

namespace Showcase

open Lib

/-! ## Touches -/

/-- What `send_touch` is called with. -/
structure Touch where
  phase : UInt8
  x : UInt16
  y : UInt16
deriving DecidableEq

/-- The report for a touch: the touch bit is 0 when the finger is lifted, and the coordinates are the ones sent. -/
def Touch.report (t : Touch) : Bytes := (if t.phase = touchUp then 0 else 1) :: (toLE 2 t.x.toNat ++ toLE 2 t.y.toNat)

/-- A message that a length of 32 bits can announce. -/
abbrev IpcMsg := { m : AppMsg // m.2.length < 2 ^ 32 }

/-- The touch a message stands for: `MSG_TOUCH` with five bytes. -/
def IpcMsg.touch (m : IpcMsg) : Option Touch :=
  if m.val.1 = msgTouch ∧ m.val.2.length = 5 then
    some ⟨m.val.2.getD 0 0, UInt16.ofNat (ofLE ((m.val.2.drop 1).take 2)), UInt16.ofNat (ofLE ((m.val.2.drop 3).take 2))⟩
  else none

/-! ## What the reader does -/

/-- The rounds of `touch_reader_func`: how much of the stream is left when a header is read, and the report. -/
def touchRounds (sock : Sock) : List (Nat × Option Bytes) :=
  match _h : touchRound sock with
  | none => []
  | some (report, sock') => (sock.arriving.length, report) :: touchRounds sock'
termination_by sock.work
decreasing_by exact touchRound_work _h

/-- How much is left in front of every message. -/
def boundaries : List IpcMsg → List Nat
  | [] => []
  | m :: msgs => ((m :: msgs).flatMap (·.val.wire)).length :: boundaries msgs

/-- **Framing.** Every header is read where a message begins, and the reports are those of the touches, in order. -/
structure TouchFramed (sock : Sock) (msgs : List IpcMsg) : Prop where
  aligned : (touchRounds sock).map Prod.fst = boundaries msgs
  reports : touchReader sock = (msgs.filterMap IpcMsg.touch).map Touch.report

/-! ## One message -/

section Message

variable {m : IpcMsg} {t : Touch} {sock : Sock} {rest : Bytes}

/-- Five bytes are the payload of one touch, and its report is the one the reader makes. -/
theorem payload_touch {payload : Bytes} (hlen : payload.length = 5) :
    let t : Touch := ⟨payload.getD 0 0, UInt16.ofNat (ofLE ((payload.drop 1).take 2)),
      UInt16.ofNat (ofLE ((payload.drop 3).take 2))⟩
    payload = touchPayload t.phase t.x t.y ∧ hidReport payload = t.report := by
  have hword : ∀ b c : UInt8, toLE 2 (UInt16.ofNat (ofLE [b, c])).toNat = [b, c] := by
    intro b c
    have hlt : ofLE [b, c] < 256 ^ 2 := ofLE_lt [b, c]
    rw [UInt16.toNat_ofNat', Nat.mod_eq_of_lt (by omega)]
    exact toLE_ofLE [b, c]
  match payload, hlen with
  | [p, a, b, c, d], _ =>
      have hx := hword a b
      have hy := hword c d
      refine ⟨?_, ?_⟩
      · show [p, a, b, c, d] = p :: (toLE 2 (UInt16.ofNat (ofLE [a, b])).toNat ++ toLE 2 (UInt16.ofNat (ofLE [c, d])).toNat)
        rw [hx, hy]
        rfl
      · show _ = (if p = touchUp then 0 else 1) ::
          (toLE 2 (UInt16.ofNat (ofLE [a, b])).toNat ++ toLE 2 (UInt16.ofNat (ofLE [c, d])).toNat)
        rw [hx, hy]
        rfl

/-- The touch is read back from its payload. -/
theorem touch_payload (phase : UInt8) (x y : UInt16) :
    UInt16.ofNat (ofLE (((touchPayload phase x y).drop 1).take 2)) = x ∧
      UInt16.ofNat (ofLE (((touchPayload phase x y).drop 3).take 2)) = y := by
  have htwo : (toLE 2 x.toNat).length = 2 := toLE_length 2 _
  have hword : ∀ z : UInt16, UInt16.ofNat (ofLE (toLE 2 z.toNat)) = z := by
    intro z
    have hlt : z.toNat < 2 ^ 16 := z.toNat_lt
    rw [ofLE_toLE, Nat.mod_eq_of_lt (by omega), UInt16.ofNat_toNat]
  constructor
  · show UInt16.ofNat (ofLE ((toLE 2 x.toNat ++ toLE 2 y.toNat).take 2)) = x
    rw [List.take_left' htwo, hword]
  · show UInt16.ofNat (ofLE (((toLE 2 x.toNat ++ toLE 2 y.toNat).drop 2).take 2)) = y
    rw [List.drop_left' htwo, List.take_of_length_le (Nat.le_of_eq (toLE_length 2 _)), hword]

/-- **The touches are those of `send_touch`.** -/
theorem touch_eq_some : m.touch = some t ↔ m.val.wire = sendTouch t.phase t.x t.y := by
  constructor
  · intro h
    rw [IpcMsg.touch] at h
    split at h
    · rename_i htouch
      obtain ⟨hpayload, _⟩ := payload_touch htouch.2
      rw [Option.some.inj h] at hpayload
      rw [AppMsg.wire, sendTouch, htouch.1, ← hpayload]
    · cases h
  · intro h
    rw [AppMsg.wire, sendTouch, appMessage, appMessage] at h
    obtain ⟨_, htail⟩ := List.append_inj h (by rw [toLE_length, toLE_length])
    obtain ⟨htype, hpayload⟩ := List.cons.inj htail
    have hlen : m.val.2.length = 5 := by rw [hpayload, touchPayload_length]
    obtain ⟨hx, hy⟩ := touch_payload t.phase t.x t.y
    rw [IpcMsg.touch, if_pos ⟨htype, hlen⟩, hpayload, hx, hy]
    rfl

/-- **One round**: the report of the message, and the next header is read behind it when its payload is short enough. -/
theorem touchRound_any (hsock : sock.arriving = m.val.wire ++ rest) :
    ∃ sock', touchRound sock = some (m.touch.map Touch.report, sock') ∧
      sock'.arriving = if m.val.2.length < 65536 then rest else m.val.2 ++ rest := by
  obtain ⟨hdr, s₁, hread, hs₁, hval, htype⟩ := readExact_header m.property hsock
  rw [touchRound, hread]
  simp only [hval, htype, IpcMsg.touch]
  by_cases htouch : m.val.1 = msgTouch ∧ m.val.2.length = 5
  · obtain ⟨s₂, hpayload, hs₂⟩ := readExact_ok hs₁ htouch.2
    rw [if_pos htouch, if_pos htouch, hpayload, Option.map_some, if_pos (by omega), ← (payload_touch htouch.2).2]
    exact ⟨s₂, rfl, hs₂⟩
  rw [if_neg htouch, if_neg htouch, Option.map_none]
  by_cases hskip : 0 < m.val.2.length ∧ m.val.2.length < 65536
  · obtain ⟨s₂, hpayload, hs₂⟩ := readExact_ok hs₁ rfl
    rw [if_pos hskip, if_pos hskip.2, hpayload]
    exact ⟨s₂, rfl, hs₂⟩
  rw [if_neg hskip]
  refine ⟨s₁, rfl, ?_⟩
  by_cases hshort : m.val.2.length < 65536
  · -- there is nothing to skip
    have hempty : m.val.2 = [] := List.eq_nil_of_length_eq_zero (by omega)
    rw [if_pos hshort, hs₁, hempty, List.nil_append]
  · rw [if_neg hshort, hs₁]

/-- With ten bytes to come there is a round. -/
theorem touchRound_of_ten (h : 10 ≤ sock.arriving.length) : touchRound sock ≠ none := by
  have hsplit : sock.arriving = sock.arriving.take 5 ++ sock.arriving.drop 5 := (List.take_append_drop 5 _).symm
  obtain ⟨s₁, hread, hs₁⟩ := readExact_ok hsplit (show (sock.arriving.take 5).length = 5 by rw [List.length_take]; omega)
  rw [touchRound, hread]
  simp only
  split
  · have hsplit₁ : s₁.arriving = s₁.arriving.take 5 ++ s₁.arriving.drop 5 := (List.take_append_drop 5 _).symm
    have hlen : (s₁.arriving.take 5).length = 5 := by
      rw [hs₁, List.length_take, List.length_drop]
      omega
    obtain ⟨s₂, hpayload, _⟩ := readExact_ok hsplit₁ hlen
    rw [hpayload]
    simp
  · split
    · simp
    · simp

theorem touchRound_empty (h : sock.arriving = []) : touchRound sock = none := by
  have hshort : (readExact 5 sock []).1 = none := readExact_short (by rw [h]; decide)
  rcases hread : readExact 5 sock [] with ⟨hdr, s₁⟩
  rw [hread] at hshort
  subst hshort
  rw [touchRound, hread]

end Message

/-! ## The whole stream

The induction is on the messages. A short one is skipped and the next header is read behind it; a long one is not, and
then the bytes that are read as the next header are its own. -/

section Stream

variable {sock sock' : Sock} {report : Option Bytes} {msgs : List IpcMsg}

theorem touchRounds_none (h : touchRound sock = none) : touchRounds sock = [] := by
  rw [touchRounds]
  split
  · rfl
  · rename_i hsome
    rw [h] at hsome
    cases hsome

theorem touchRounds_some (h : touchRound sock = some (report, sock')) :
    touchRounds sock = (sock.arriving.length, report) :: touchRounds sock' := by
  rw [touchRounds]
  split
  · rename_i hnone
    rw [h] at hnone
    cases hnone
  · rename_i report₂ sock₂ hsome
    rw [h] at hsome
    obtain ⟨rfl, rfl⟩ := Prod.mk.inj (Option.some.inj hsome)
    rfl

/-- The reports are those of the rounds. -/
theorem touchReader_rounds (sock : Sock) : touchReader sock = (touchRounds sock).filterMap Prod.snd := by
  fun_induction touchReader sock with
  | case1 sock hround => rw [touchRounds_none hround, List.filterMap_nil]
  | case2 sock report sock' hround ih =>
      rw [touchRounds_some hround, ih]
      cases report with
      | none => rfl
      | some r => rfl

/-- Messages that are skipped keep the reader aligned. -/
theorem touchRounds_short (hshort : ∀ m ∈ msgs, m.val.2.length < 65536)
    (hsock : sock.arriving = msgs.flatMap (·.val.wire)) :
    (touchRounds sock).map Prod.fst = boundaries msgs ∧
      (touchRounds sock).filterMap Prod.snd = (msgs.filterMap IpcMsg.touch).map Touch.report := by
  induction msgs generalizing sock with
  | nil =>
      rw [touchRounds_none (touchRound_empty hsock)]
      exact ⟨rfl, rfl⟩
  | cons m msgs ih =>
      have hsock₁ : sock.arriving = m.val.wire ++ msgs.flatMap (·.val.wire) := by rw [hsock, List.flatMap_cons]
      obtain ⟨sock', hround, hrest⟩ := touchRound_any hsock₁
      rw [if_pos (hshort m (List.mem_cons_self ..))] at hrest
      obtain ⟨haligned, hreports⟩ := ih (fun x hx => hshort x (List.mem_cons_of_mem _ hx)) hrest
      rw [touchRounds_some hround]
      refine ⟨?_, ?_⟩
      · rw [List.map_cons, haligned, boundaries, hsock]
      · cases htouch : m.touch with
        | none =>
            rw [List.filterMap_cons_none htouch]
            exact hreports
        | some t =>
            rw [List.filterMap_cons_some htouch, List.map_cons, ← hreports]
            rfl

/-- A payload that is left in the stream is read as a header. -/
theorem short_of_aligned (hsock : sock.arriving = msgs.flatMap (·.val.wire))
    (haligned : (touchRounds sock).map Prod.fst = boundaries msgs) : ∀ m ∈ msgs, m.val.2.length < 65536 := by
  induction msgs generalizing sock with
  | nil => exact fun m hm => absurd hm List.not_mem_nil
  | cons m msgs ih =>
      have hsock₁ : sock.arriving = m.val.wire ++ msgs.flatMap (·.val.wire) := by rw [hsock, List.flatMap_cons]
      obtain ⟨sock', hround, hrest⟩ := touchRound_any hsock₁
      rw [touchRounds_some hround, List.map_cons, boundaries, List.cons.injEq] at haligned
      have hshort : m.val.2.length < 65536 := by
        by_contra hlong
        rw [if_neg hlong] at hrest
        have hlen : sock'.arriving.length = m.val.2.length + (msgs.flatMap (·.val.wire)).length := by
          rw [hrest, List.length_append]
        obtain ⟨⟨r, s⟩, hnext⟩ := Option.ne_none_iff_exists'.mp (touchRound_of_ten (show 10 ≤ sock'.arriving.length by omega))
        have hhead := haligned.2
        rw [touchRounds_some hnext, List.map_cons] at hhead
        cases msgs with
        | nil => cases hhead
        | cons m' msgs =>
            rw [boundaries, List.cons.injEq] at hhead
            omega
      rw [if_pos hshort] at hrest
      intro x hx
      rcases List.mem_cons.mp hx with rfl | hx
      · exact hshort
      · exact ih hrest haligned.2 x hx

/-- **The touch reader.** On every stream of messages, however it is cut, the reader stays on their boundaries and makes
    one report for each touch exactly when no payload has 65536 bytes or more. -/
theorem touchFramed_iff (msgs : List IpcMsg) (sock : Sock) (hsock : sock.arriving = msgs.flatMap (·.val.wire)) :
    TouchFramed sock msgs ↔ ∀ m ∈ msgs, m.val.2.length < 65536 := by
  constructor
  · intro h
    exact short_of_aligned hsock h.aligned
  · intro h
    obtain ⟨haligned, hreports⟩ := touchRounds_short h hsock
    exact ⟨haligned, (touchReader_rounds sock).trans hreports⟩

/-- A status message, a message without payload and a touch. -/
def shortMsgs : List IpcMsg :=
  [⟨(msgStatus, [4]), by decide⟩, ⟨(0x55, []), by decide⟩, ⟨(msgTouch, touchPayload touchUp 258 3), by decide⟩]

theorem touchFramed_short :
    TouchFramed (Sock.push (shortMsgs.flatMap (·.val.wire)) []) shortMsgs :=
  (touchFramed_iff shortMsgs _ (by rw [Sock.arriving_push, Sock.arriving, List.append_nil])).mpr (by decide)

/-- A message of 65536 bytes. -/
def longMsg : IpcMsg := ⟨(0x55, List.replicate 65536 0), by rw [List.length_replicate]; decide⟩

theorem longMsg_misread : ¬ TouchFramed (Sock.push longMsg.val.wire []) [longMsg] := by
  intro h
  have hsock : (Sock.push longMsg.val.wire []).arriving = [longMsg].flatMap (·.val.wire) := by
    rw [Sock.arriving_push, Sock.arriving, List.append_nil, List.flatMap_singleton]
  have hshort := short_of_aligned hsock h.aligned longMsg (List.mem_singleton_self _)
  rw [longMsg, List.length_replicate] at hshort
  exact absurd hshort (by decide)

end Stream

end Showcase
