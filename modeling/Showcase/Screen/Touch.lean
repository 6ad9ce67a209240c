import Mathlib.Algebra.Order.Field.Rat
import Mathlib.Tactic.Linarith
import Mathlib.Tactic.FieldSimp
import Showcase.Screen.Ipc

/-!
# `Screen.Touch` — from a finger to a HID report

`mapTouch`, `handleTouches` and `send_touch` of `Showcase.m`, and `touch_reader_func` of `carplay_services.m` at the
other end of the connection. The video keeps its aspect ratio in the middle of the view, with bars at two sides;
the app leaves out every event whose point is on a bar. Geometry is over the rationals.

* `mapTouch_isSome_iff` — which events are sent.
* `touchReader_stream` — the reader makes one report of each, however the stream is cut.
* `released_iff` — when a touch ends with a released report.
-/

namespace Showcase

open Lib

/-! ## The app -/

/-- The size of the view, or of the CarPlay screen (`g_carplay_w` and `g_carplay_h`). -/
structure Size where
  w : ℚ
  h : ℚ

/-- Both sides are positive. -/
def Size.Pos (s : Size) : Prop := 0 < s.w ∧ 0 < s.h

/-- A point in the coordinates of the view. -/
structure Point where
  x : ℚ
  y : ℚ

/-- `TOUCH_DOWN`, `TOUCH_MOVE` and `TOUCH_UP`. -/
def touchDown : UInt8 := 0
def touchMove : UInt8 := 1
def touchUp : UInt8 := 2

/-- `MSG_TOUCH`. -/
def msgTouch : UInt8 := 0x03

/-- `(uint16_t)` of a coordinate that is not negative. -/
def toU16 (q : ℚ) : UInt16 := UInt16.ofNat q.floor.toNat

/-- The video in the view: `rx`, `ry`, `rw` and `rh`. -/
structure VideoRect where
  x : ℚ
  y : ℚ
  w : ℚ
  h : ℚ

/-- The video touches the sides of the view or its top and bottom, whichever leaves it inside. -/
def videoRect (view carplay : Size) : VideoRect :=
  let va := carplay.w / carplay.h
  let vva := view.w / view.h
  if vva < va then
    let h := view.w / va
    ⟨0, (view.h - h) / 2, view.w, h⟩
  else
    let w := view.h * va
    ⟨(view.w - w) / 2, 0, w, view.h⟩

/-- `mapTouch`. -/
def mapTouch (view carplay : Size) (pt : Point) : Option (UInt16 × UInt16) :=
  if carplay.w ≤ 0 ∨ carplay.h ≤ 0 then none
  else
    let r := videoRect view carplay
    let nx := (pt.x - r.x) / r.w
    let ny := (pt.y - r.y) / r.h
    if nx < 0 ∨ 1 < nx ∨ ny < 0 ∨ 1 < ny then none
    else some (toU16 (nx * carplay.w), toU16 (ny * carplay.h))

/-- The payload of `send_touch`. -/
def touchPayload (phase : UInt8) (x y : UInt16) : Bytes := phase :: (toLE 2 x.toNat ++ toLE 2 y.toNat)

/-- `send_touch` on an open connection. -/
def sendTouch (phase : UInt8) (x y : UInt16) : Bytes := appMessage msgTouch (touchPayload phase x y)

/-- `handleTouches`. -/
def handleTouches (view carplay : Size) (phase : UInt8) (pt : Point) : Bytes :=
  match mapTouch view carplay pt with
  | some (x, y) => sendTouch phase x y
  | none => []

/-- A finger on the view: where it came down, where it moved and where it was lifted (or its touch cancelled). -/
structure Trajectory where
  began : Point
  moves : List Point
  ended : Point

/-- `touchesBegan`, `touchesMoved`, and `touchesEnded` or `touchesCancelled`. -/
def Trajectory.events (t : Trajectory) : List (UInt8 × Point) :=
  (touchDown, t.began) :: t.moves.map (touchMove, ·) ++ [(touchUp, t.ended)]

/-- What the app writes for a touch. -/
def Trajectory.written (view carplay : Size) (t : Trajectory) : Bytes :=
  t.events.flatMap fun e => handleTouches view carplay e.1 e.2

/-! ## The touch reader -/

/-- The HID report for a payload. -/
def hidReport (payload : Bytes) : Bytes :=
  (if payload.getD 0 0 = 2 then 0 else 1) :: payload.drop 1

/-- One round of the loop of `touch_reader_func`: the report it makes, if any, and where it goes on; nothing when it
ends. -/
def touchRound (sock : Sock) : Option (Option Bytes × Sock) :=
  match readExact 5 sock [] with
  | (none, _) => none
  | (some hdr, sock) =>
      let len := ofLE (hdr.take 4)
      if hdr.getD 4 0 = msgTouch ∧ len = 5 then
        match readExact 5 sock [] with
        | (none, _) => none
        | (some payload, sock) => some (some (hidReport payload), sock)
      else if 0 < len ∧ len < 65536 then some (none, (readExact len sock []).2)
      else some (none, sock)

theorem touchRound_work {sock sock' : Sock} {report : Option Bytes} (h : touchRound sock = some (report, sock')) :
    sock'.work < sock.work := by
  unfold touchRound at h
  rcases hhdr : readExact 5 sock [] with ⟨hdr, s₁⟩
  rw [hhdr] at h
  cases hdr with
  | none => cases h
  | some hdr =>
      have hs₁ : s₁.work < sock.work := readExact_work hhdr (by simp)
      simp only at h
      split at h
      · rcases hpayload : readExact 5 s₁ [] with ⟨payload, s₂⟩
        rw [hpayload] at h
        cases payload with
        | none => cases h
        | some payload =>
            have hs₂ := readExact_work_le hpayload
            simp only [Option.some.injEq, Prod.mk.injEq] at h
            rw [← h.2]
            omega
      · split at h
        · have hs₂ := readExact_work_le (rfl : readExact (ofLE (hdr.take 4)) s₁ [] = _)
          simp only [Option.some.injEq, Prod.mk.injEq] at h
          rw [← h.2]
          omega
        · simp only [Option.some.injEq, Prod.mk.injEq] at h
          rw [← h.2]
          exact hs₁

/-- `touch_reader_func`: the reports it hands to `send_hid_report`. -/
def touchReader (sock : Sock) : List Bytes :=
  match _h : touchRound sock with
  | none => []
  | some (report, sock') => report.toList ++ touchReader sock'
termination_by sock.work
decreasing_by exact touchRound_work _h

/-! ## Which events are sent -/

/-- The point is on the video, its border included. -/
def VideoRect.Holds (r : VideoRect) (pt : Point) : Prop :=
  r.x ≤ pt.x ∧ pt.x ≤ r.x + r.w ∧ r.y ≤ pt.y ∧ pt.y ≤ r.y + r.h

section

variable {view carplay : Size} (hview : view.Pos) (hcarplay : carplay.Pos)

include hview hcarplay

theorem videoRect_pos : 0 < (videoRect view carplay).w ∧ 0 < (videoRect view carplay).h := by
  obtain ⟨hvw, hvh⟩ := hview
  have hva : 0 < carplay.w / carplay.h := div_pos hcarplay.1 hcarplay.2
  unfold videoRect
  dsimp only
  split
  · exact ⟨hvw, div_pos hvw hva⟩
  · exact ⟨mul_pos hvh hva, hvh⟩

/-- **An event is sent exactly when its point is on the video.** -/
theorem mapTouch_isSome_iff (pt : Point) :
    (mapTouch view carplay pt).isSome = true ↔ (videoRect view carplay).Holds pt := by
  obtain ⟨hw, hh⟩ := videoRect_pos hview hcarplay
  have hsize : ¬ (carplay.w ≤ 0 ∨ carplay.h ≤ 0) := by
    rw [not_or, not_le, not_le]
    exact hcarplay
  have hout : ((pt.x - (videoRect view carplay).x) / (videoRect view carplay).w < 0 ∨
      1 < (pt.x - (videoRect view carplay).x) / (videoRect view carplay).w ∨
      (pt.y - (videoRect view carplay).y) / (videoRect view carplay).h < 0 ∨
      1 < (pt.y - (videoRect view carplay).y) / (videoRect view carplay).h) ↔
        ¬ (videoRect view carplay).Holds pt := by
    rw [div_lt_iff₀ hw, lt_div_iff₀ hw, div_lt_iff₀ hh, lt_div_iff₀ hh, zero_mul, one_mul, zero_mul, one_mul,
      sub_lt_zero, lt_sub_iff_add_lt', sub_lt_zero, lt_sub_iff_add_lt', VideoRect.Holds, not_and_or, not_and_or,
      not_and_or, not_le, not_le, not_le, not_le]
  rw [mapTouch, if_neg hsize]
  dsimp only
  split
  · rename_i h
    exact ⟨fun hsome => absurd hsome (by simp), fun hin => absurd hin (hout.mp h)⟩
  · rename_i h
    exact ⟨fun _ => not_not.mp fun hno => h (hout.mpr hno), fun _ => rfl⟩

end

/-- The payload sent for an event, if one is. -/
def touchEvent (view carplay : Size) (e : UInt8 × Point) : Option Bytes :=
  (mapTouch view carplay e.2).map fun (x, y) => touchPayload e.1 x y

/-- The app writes a message for each event that is sent. -/
theorem written_eq (view carplay : Size) (t : Trajectory) :
    t.written view carplay = (t.events.filterMap (touchEvent view carplay)).flatMap (appMessage msgTouch) := by
  unfold Trajectory.written
  induction t.events with
  | nil => rfl
  | cons e es ih =>
      rw [List.flatMap_cons, ih]
      cases hmap : mapTouch view carplay e.2 with
      | none =>
          have hnone : touchEvent view carplay e = none := by rw [touchEvent, hmap]; rfl
          have hwritten : handleTouches view carplay e.1 e.2 = [] := by rw [handleTouches, hmap]
          rw [List.filterMap_cons_none hnone, hwritten, List.nil_append]
      | some xy =>
          have hsome : touchEvent view carplay e = some (touchPayload e.1 xy.1 xy.2) := by
            rw [touchEvent, hmap]
            rfl
          have hwritten : handleTouches view carplay e.1 e.2 = sendTouch e.1 xy.1 xy.2 := by rw [handleTouches, hmap]
          rw [List.filterMap_cons_some hsome, List.flatMap_cons, hwritten, sendTouch]

/-! ## What the reader makes of them -/

/-- A touch message in front of the stream is one report. -/
theorem touchRound_message {sock : Sock} {payload rest : Bytes} (hlen : payload.length = 5)
    (hsock : sock.arriving = appMessage msgTouch payload ++ rest) :
    ∃ sock', touchRound sock = some (some (hidReport payload), sock') ∧ sock'.arriving = rest := by
  have hsplit : appMessage msgTouch payload ++ rest = (toLE 4 5 ++ [msgTouch]) ++ (payload ++ rest) := by
    rw [appMessage, hlen, List.append_assoc, List.append_assoc]
    rfl
  rw [hsplit] at hsock
  obtain ⟨s₁, hhdr, hs₁⟩ := readExact_ok hsock (show (toLE 4 5 ++ [msgTouch]).length = 5 from rfl)
  obtain ⟨s₂, hpayload, hs₂⟩ := readExact_ok hs₁ hlen
  refine ⟨s₂, ?_, hs₂⟩
  have htest : (toLE 4 5 ++ [msgTouch]).getD 4 0 = msgTouch ∧ ofLE ((toLE 4 5 ++ [msgTouch]).take 4) = 5 := by
    decide
  rw [touchRound, hhdr]
  dsimp only
  rw [if_pos htest, hpayload]

/-- **One report for each touch message**, however the stream is cut. -/
theorem touchReader_stream {sock : Sock} {payloads : List Bytes} (hlen : ∀ p ∈ payloads, p.length = 5)
    (hsock : sock.arriving = payloads.flatMap (appMessage msgTouch)) :
    touchReader sock = payloads.map hidReport := by
  induction payloads generalizing sock with
  | nil =>
      have hshort : (readExact 5 sock []).1 = none := readExact_short (by rw [hsock]; decide)
      have hround : touchRound sock = none := by
        rcases hread : readExact 5 sock [] with ⟨hdr, s₁⟩
        rw [hread] at hshort
        subst hshort
        rw [touchRound, hread]
      rw [touchReader]
      split
      · rfl
      · rename_i hsome
        rw [hround] at hsome
        cases hsome
  | cons p ps ih =>
      rw [List.flatMap_cons] at hsock
      obtain ⟨sock', hround, hsock'⟩ := touchRound_message (hlen p List.mem_cons_self) hsock
      rw [touchReader]
      split
      · rename_i hnone
        rw [hround] at hnone
        cases hnone
      · rename_i report s hsome
        rw [hround] at hsome
        obtain ⟨rfl, rfl⟩ := Prod.mk.inj (Option.some.inj hsome)
        rw [ih (fun q hq => hlen q (List.mem_cons_of_mem p hq)) hsock']
        rfl

/-! ## How a touch ends

The reports for a touch are those of the events that were sent. Released is only what `TOUCH_UP` leads to, so the
question is whether the last event of the touch was sent. -/

/-- The touch bit of a report. -/
def pressed (report : Bytes) : Bool := report.getD 0 0 == 1

/-- No stuck touch: if any report was pressed, the last one is released. -/
def NoStuckTouch (reports : List Bytes) : Prop :=
  (∃ r ∈ reports, pressed r = true) → ∃ r, reports.getLast? = some r ∧ pressed r = false

/-- The payloads sent while the finger is down. -/
def Trajectory.down (view carplay : Size) (t : Trajectory) : List Bytes :=
  ((touchDown, t.began) :: t.moves.map (touchMove, ·)).filterMap (touchEvent view carplay)

theorem Trajectory.sent_eq (view carplay : Size) (t : Trajectory) :
    t.events.filterMap (touchEvent view carplay) =
      t.down view carplay ++ (touchEvent view carplay (touchUp, t.ended)).toList := by
  rw [Trajectory.events, List.filterMap_append, Trajectory.down]
  cases h : touchEvent view carplay (touchUp, t.ended) with
  | none => rw [List.filterMap_cons_none h]; rfl
  | some p => rw [List.filterMap_cons_some h]; rfl

section

variable {view carplay : Size} {e : UInt8 × Point} {p : Bytes}

theorem touchEvent_eq_some (h : touchEvent view carplay e = some p) :
    ∃ x y, p = touchPayload e.1 x y := by
  obtain ⟨⟨x, y⟩, -, rfl⟩ := Option.map_eq_some_iff.mp h
  exact ⟨x, y, rfl⟩

theorem touchPayload_length (phase : UInt8) (x y : UInt16) : (touchPayload phase x y).length = 5 := by
  rw [touchPayload, List.length_cons, List.length_append, toLE_length, toLE_length]

/-- Of the three phases only `TOUCH_UP` releases. -/
theorem pressed_hidReport (phase : UInt8) (x y : UInt16) :
    pressed (hidReport (touchPayload phase x y)) = true ↔ phase ≠ touchUp := by
  have hhead : (touchPayload phase x y).getD 0 0 = phase := rfl
  rw [hidReport, hhead]
  by_cases h : phase = 2
  · rw [if_pos h]
    exact ⟨fun hp => absurd hp Bool.false_ne_true, fun hne => absurd h hne⟩
  · rw [if_neg h]
    exact ⟨fun _ => h, fun _ => rfl⟩

theorem mem_down (t : Trajectory) (h : p ∈ t.down view carplay) :
    ∃ phase x y, phase ≠ touchUp ∧ p = touchPayload phase x y := by
  obtain ⟨e, he, hp⟩ := List.mem_filterMap.mp h
  obtain ⟨x, y, rfl⟩ := touchEvent_eq_some hp
  refine ⟨e.1, x, y, ?_, rfl⟩
  have hdown : touchDown ≠ touchUp ∧ touchMove ≠ touchUp := by decide
  rcases List.mem_cons.mp he with rfl | he
  · exact hdown.1
  · obtain ⟨pt, -, rfl⟩ := List.mem_map.mp he
    exact hdown.2

/-- Every payload that is sent has five bytes. -/
theorem sent_length (t : Trajectory) (h : p ∈ t.events.filterMap (touchEvent view carplay)) : p.length = 5 := by
  obtain ⟨e, -, hp⟩ := List.mem_filterMap.mp h
  obtain ⟨x, y, rfl⟩ := touchEvent_eq_some hp
  exact touchPayload_length _ x y

end

/-- Nothing is sent while the finger is down exactly when none of its points is on the video. -/
theorem down_eq_nil_iff {view carplay : Size} (hview : view.Pos) (hcarplay : carplay.Pos) (t : Trajectory) :
    t.down view carplay = [] ↔ ∀ pt ∈ t.began :: t.moves, ¬ (videoRect view carplay).Holds pt := by
  have hevent : ∀ phase pt, touchEvent view carplay (phase, pt) = none ↔ ¬ (videoRect view carplay).Holds pt := by
    intro phase pt
    rw [← mapTouch_isSome_iff hview hcarplay, touchEvent, Option.map_eq_none_iff, Bool.not_eq_true,
      Option.isSome_eq_false_iff, Option.isNone_iff_eq_none]
  rw [Trajectory.down, List.filterMap_eq_nil_iff]
  constructor
  · intro h pt hpt
    rcases List.mem_cons.mp hpt with rfl | hpt
    · exact (hevent touchDown _).mp (h _ List.mem_cons_self)
    · exact (hevent touchMove pt).mp (h _ (List.mem_cons_of_mem _ (List.mem_map_of_mem hpt)))
  · intro h e he
    rcases List.mem_cons.mp he with rfl | he
    · exact (hevent touchDown _).mpr (h _ List.mem_cons_self)
    · obtain ⟨pt, hpt, rfl⟩ := List.mem_map.mp he
      exact (hevent touchMove pt).mpr (h _ (List.mem_cons_of_mem _ hpt))

/-- The reports for a touch: what the reader makes of what the app wrote. -/
theorem touchReader_touch {view carplay : Size} (t : Trajectory) {sock : Sock}
    (hsock : sock.arriving = t.written view carplay) :
    touchReader sock =
      ((t.down view carplay) ++ (touchEvent view carplay (touchUp, t.ended)).toList).map hidReport := by
  rw [written_eq] at hsock
  rw [touchReader_stream (fun p hp => sent_length t hp) hsock, t.sent_eq]

/-- A touch whose end is not sent: its last report is pressed, if it has any. -/
theorem noStuckTouch_of_unsent {view carplay : Size} {t : Trajectory}
    (h : touchEvent view carplay (touchUp, t.ended) = none) :
    NoStuckTouch (((t.down view carplay) ++ (touchEvent view carplay (touchUp, t.ended)).toList).map hidReport) ↔
      t.down view carplay = [] := by
  rw [h, Option.toList_none, List.append_nil]
  constructor
  · intro hno
    have hpressed : ∀ r ∈ (t.down view carplay).map hidReport, pressed r = true := by
      intro r hr
      obtain ⟨q, hq, rfl⟩ := List.mem_map.mp hr
      obtain ⟨phase, x, y, hphase, rfl⟩ := mem_down t hq
      exact (pressed_hidReport phase x y).mpr hphase
    refine List.eq_nil_iff_forall_not_mem.mpr fun p hp => ?_
    obtain ⟨r, hr, hreleased⟩ := hno ⟨_, List.mem_map_of_mem hp, hpressed _ (List.mem_map_of_mem hp)⟩
    rw [hpressed r (List.mem_of_getLast? hr)] at hreleased
    cases hreleased
  · rintro hnil ⟨r, hr, -⟩
    rw [hnil] at hr
    cases hr

/-- **A touch ends released exactly when it ends on the video, or never was there.** -/
theorem noStuckTouch_iff {view carplay : Size} (hview : view.Pos) (hcarplay : carplay.Pos) (t : Trajectory)
    {sock : Sock} (hsock : sock.arriving = t.written view carplay) :
    NoStuckTouch (touchReader sock) ↔
      (videoRect view carplay).Holds t.ended ∨
        ∀ pt ∈ t.began :: t.moves, ¬ (videoRect view carplay).Holds pt := by
  rw [touchReader_touch t hsock, ← down_eq_nil_iff hview hcarplay, ← mapTouch_isSome_iff hview hcarplay]
  cases hend : mapTouch view carplay t.ended with
  | some xy =>
      have hup : touchEvent view carplay (touchUp, t.ended) = some (touchPayload touchUp xy.1 xy.2) := by
        rw [touchEvent, hend]
        rfl
      rw [hup]
      refine ⟨fun _ => .inl rfl, fun _ _ => ⟨hidReport (touchPayload touchUp xy.1 xy.2), ?_, ?_⟩⟩
      · rw [List.map_append, Option.toList_some, List.map_singleton, List.getLast?_concat]
      · rw [Bool.eq_false_iff]
        exact fun h => (pressed_hidReport touchUp xy.1 xy.2).mp h rfl
  | none =>
      have hup : touchEvent view carplay (touchUp, t.ended) = none := by
        rw [touchEvent, hend]
        rfl
      rw [noStuckTouch_of_unsent hup]
      exact ⟨fun hnil => .inr hnil, fun h => h.resolve_left Bool.false_ne_true⟩

/-- The screen of an iPad, and a CarPlay screen that leaves bars above and below. -/
def Size.ipad : Size := ⟨1024, 768⟩
def Size.wide : Size := ⟨800, 480⟩

/-- A finger that is lifted on the video, and one that is lifted on the bar above it. -/
def Trajectory.tap : Trajectory := ⟨⟨512, 384⟩, [⟨512, 390⟩], ⟨512, 390⟩⟩
def Trajectory.swipeOff : Trajectory := ⟨⟨512, 384⟩, [⟨512, 100⟩], ⟨512, 20⟩⟩

theorem noStuckTouch_tap :
    NoStuckTouch (touchReader (Sock.push (Trajectory.tap.written .ipad .wide) [])) ↔
      (videoRect .ipad .wide).Holds Trajectory.tap.ended ∨
        ∀ pt ∈ Trajectory.tap.began :: Trajectory.tap.moves, ¬ (videoRect .ipad .wide).Holds pt :=
  noStuckTouch_iff ⟨by decide +kernel, by decide +kernel⟩ ⟨by decide +kernel, by decide +kernel⟩ _
    (by rw [Sock.arriving_push, Sock.arriving, List.append_nil])

/-- A swipe from the video to the bar above it leaves the finger down. -/
theorem swipeOff_stuck :
    ¬ NoStuckTouch (touchReader (Sock.push (Trajectory.swipeOff.written .ipad .wide) [])) := by
  have hup : touchEvent .ipad .wide (touchUp, Trajectory.swipeOff.ended) = none := by decide +kernel
  rw [touchReader_touch Trajectory.swipeOff (by rw [Sock.arriving_push, Sock.arriving, List.append_nil]),
    noStuckTouch_of_unsent hup]
  decide +kernel

end Showcase
