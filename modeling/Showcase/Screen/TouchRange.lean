import Mathlib.Data.Rat.Floor
import Mathlib.Tactic.Positivity
import Mathlib.Tactic.Ring
import Showcase.Screen.Touch

/-!
# `Screen.TouchRange` — the coordinates of a touch

What `mapTouch` makes of a point, against the video's place in the view and against the ranges that `handle_info`
(`carplay_services.m`) tells the phone the reports keep to. The first is described without the code's formulas
(`Letterboxed`), the second read off the HID descriptor itself (`hidFields`).

The descriptor is a constant, the size of the CarPlay screen comes with each `VideoConfig`.

* `letterboxed_iff` — the code's rectangle is the one that is meant.
* `hidFields_hidDesc` — what the descriptor declares.
* `touchesRight_iff` — for which sizes the reports are right.
-/

namespace Showcase

open Lib

/-! ## The place of the video -/

/-- The largest rectangle of the screen's aspect ratio in the middle of the view. -/
structure Letterboxed (view carplay : Size) (r : VideoRect) : Prop where
  screen : carplay.Pos
  aspect : r.w * carplay.h = r.h * carplay.w
  centred : r.x + r.x + r.w = view.w ∧ r.y + r.y + r.h = view.h
  inside : 0 ≤ r.x ∧ 0 ≤ r.y
  largest : r.x = 0 ∨ r.y = 0

section

variable {view carplay : Size}

theorem letterboxed_videoRect (hview : view.Pos) (hcarplay : carplay.Pos) :
    Letterboxed view carplay (videoRect view carplay) := by
  obtain ⟨hvw, hvh⟩ := hview
  obtain ⟨hcw, hch⟩ := hcarplay
  unfold videoRect
  dsimp only
  split
  case isTrue hlt =>
    rw [div_lt_div_iff₀ hvh hch] at hlt
    have hheight : view.w / (carplay.w / carplay.h) = view.w * carplay.h / carplay.w := div_div_eq_mul_div ..
    have hle : view.w / (carplay.w / carplay.h) ≤ view.h := by
      rw [hheight, div_le_iff₀ hcw]
      linarith
    refine ⟨⟨hcw, hch⟩, ?_, ⟨by ring, by ring⟩, ⟨le_refl _, by linarith⟩, .inl rfl⟩
    rw [hheight, div_mul_cancel₀ _ hcw.ne']
  case isFalse hlt =>
    rw [not_lt, div_le_div_iff₀ hch hvh] at hlt
    have hwidth : view.h * (carplay.w / carplay.h) = view.h * carplay.w / carplay.h := (mul_div_assoc ..).symm
    have hle : view.h * (carplay.w / carplay.h) ≤ view.w := by
      rw [hwidth, div_le_iff₀ hch]
      linarith
    refine ⟨⟨hcw, hch⟩, ?_, ⟨by ring, by ring⟩, ⟨by linarith, le_refl _⟩, .inr rfl⟩
    rw [hwidth, div_mul_cancel₀ _ hch.ne']

/-- No other one is wider. -/
theorem Letterboxed.w_le {r r' : VideoRect} (h : Letterboxed view carplay r) (h' : Letterboxed view carplay r') :
    r'.w ≤ r.w := by
  obtain ⟨hcw, hch⟩ := h.screen
  obtain ⟨hx, hy⟩ := h.centred
  obtain ⟨hx', hy'⟩ := h'.centred
  obtain ⟨hx₀, hy₀⟩ := h'.inside
  rcases h.largest with hzero | hzero
  · linarith
  · -- `r` has the height of the view, and the width goes with it
    have hheight : r'.h * carplay.w ≤ r.h * carplay.w := mul_le_mul_of_nonneg_right (by linarith) hcw.le
    rw [← h.aspect, ← h'.aspect] at hheight
    exact le_of_mul_le_mul_right hheight hch

/-- There is one such rectangle. -/
theorem Letterboxed.unique {r r' : VideoRect} (h : Letterboxed view carplay r) (h' : Letterboxed view carplay r') :
    r = r' := by
  have hw : r.w = r'.w := le_antisymm (h'.w_le h) (h.w_le h')
  have hh : r.h = r'.h := by
    have haspect : r.h * carplay.w = r'.h * carplay.w := by rw [← h.aspect, ← h'.aspect, hw]
    exact mul_right_cancel₀ h.screen.1.ne' haspect
  obtain ⟨hx, hy⟩ := h.centred
  obtain ⟨hx', hy'⟩ := h'.centred
  obtain ⟨x, y, w, ht⟩ := r
  obtain ⟨x', y', w', ht'⟩ := r'
  simp only at hw hh hx hy hx' hy'
  rw [VideoRect.mk.injEq]
  exact ⟨by linarith, by linarith, hw, hh⟩

theorem letterboxed_iff (hview : view.Pos) (hcarplay : carplay.Pos) {r : VideoRect} :
    Letterboxed view carplay r ↔ r = videoRect view carplay := by
  constructor
  · exact fun h => h.unique (letterboxed_videoRect hview hcarplay)
  · rintro rfl
    exact letterboxed_videoRect hview hcarplay

end

/-! ## The descriptor -/

/-- `hidDesc`. -/
def hidDesc : Bytes :=
  [0x05, 0x0D, 0x09, 0x04, 0xA1, 0x01,
    0x05, 0x0D, 0x09, 0x22, 0xA1, 0x02,
    0x05, 0x0D, 0x09, 0x33, 0x15, 0x00, 0x25, 0x01, 0x75, 0x01, 0x95, 0x01, 0x81, 0x02,
    0x75, 0x07, 0x95, 0x01, 0x81, 0x01,
    0x05, 0x01, 0x09, 0x30, 0x15, 0x00, 0x26, 0x20, 0x03, 0x75, 0x10, 0x95, 0x01, 0x81, 0x02,
    0x09, 0x31, 0x15, 0x00, 0x26, 0xE0, 0x01, 0x75, 0x10, 0x95, 0x01, 0x81, 0x02,
    0xC0, 0xC0]

/-- A short item: type (main 0, global 1, local 2), tag and data. -/
structure HidItem where
  type : Nat
  tag : Nat
  data : Bytes

/-- The first byte has tag, type and the number of data bytes, 3 standing for 4. -/
def hidItem : Bytes → Option (HidItem × Bytes)
  | [] => none
  | b :: rest =>
      let n := if b.toNat % 4 = 3 then 4 else b.toNat % 4
      if rest.length < n then none else some (⟨b.toNat / 4 % 4, b.toNat / 16, rest.take n⟩, rest.drop n)

/-- A variable of the report: its usage page and usage, its logical range, and where its bits are. -/
structure HidField where
  page : Nat
  usage : Nat
  min : ℤ
  max : ℤ
  bit : Nat
  size : Nat
deriving DecidableEq

/-- What holds for the items behind, and the variables so far. -/
structure HidState where
  page : Nat
  min : ℤ
  max : ℤ
  size : Nat
  count : Nat
  usages : List Nat
  bit : Nat
  fields : List HidField

def HidState.initial : HidState := ⟨0, 0, 0, 0, 0, [], 0, []⟩

/-- The data of a logical bound has a sign. -/
def hidSigned (data : Bytes) : ℤ := Int.bmod (ofLE data) (256 ^ data.length)

/-- One item. -/
def HidState.item (s : HidState) (i : HidItem) : HidState :=
  match i.type, i.tag with
  | 1, 0 => { s with page := ofLE i.data }
  | 1, 1 => { s with min := hidSigned i.data }
  | 1, 2 => { s with max := hidSigned i.data }
  | 1, 7 => { s with size := ofLE i.data }
  | 1, 9 => { s with count := ofLE i.data }
  | 2, 0 => { s with usages := s.usages ++ [ofLE i.data] }
  | 0, 8 =>
      -- Input: bit 0 is set where the bits are padding
      let fields := if ofLE i.data % 2 = 1 then []
        else (List.range s.count).map fun k =>
          ⟨s.page, s.usages.getD k 0, s.min, s.max, s.bit + k * s.size, s.size⟩
      { s with usages := [], bit := s.bit + s.count * s.size, fields := s.fields ++ fields }
  | 0, _ => { s with usages := [] }
  | _, _ => s

/-- The items of a descriptor; every one has at least a byte. -/
def hidItems (s : HidState) : Nat → Bytes → Option HidState
  | _, [] => some s
  | 0, _ => none
  | fuel + 1, desc =>
      match hidItem desc with
      | some (i, rest) => hidItems (s.item i) fuel rest
      | none => none

/-- The variables that a descriptor declares. -/
def hidFields (desc : Bytes) : Option (List HidField) :=
  (hidItems .initial desc.length desc).map HidState.fields

/-- What a report has for a variable. -/
def HidField.value (f : HidField) (report : Bytes) : ℤ := (ofLE report / 2 ^ f.bit % 2 ^ f.size : ℕ)

/-- The touch bit, and the two coordinates. -/
def hidTouch : HidField := ⟨0x0D, 0x33, 0, 1, 0, 1⟩
def hidX : HidField := ⟨0x01, 0x30, 0, 800, 8, 16⟩
def hidY : HidField := ⟨0x01, 0x31, 0, 480, 24, 16⟩

/-- **What `hidDesc` declares**: coordinates of 16 bits from 0 to 800 and from 0 to 480. -/
theorem hidFields_hidDesc : hidFields hidDesc = some [hidTouch, hidX, hidY] := by
  decide

/-- Every variable of the report is in the range declared for it. -/
def InDeclaredRange (report : Bytes) : Prop :=
  ∃ fields, hidFields hidDesc = some fields ∧ ∀ f ∈ fields, f.min ≤ f.value report ∧ f.value report ≤ f.max

/-! ## The coordinates of an event -/

section

variable {view carplay : Size} {pt pt' : Point} {x y x' y' : UInt16}

/-- Where a point is between the left and the right, and between the top and the bottom. -/
theorem mapTouch_eq_some_iff (hview : view.Pos) (hcarplay : carplay.Pos) :
    mapTouch view carplay pt = some (x, y) ↔
      (videoRect view carplay).Holds pt ∧
        x = toU16 ((pt.x - (videoRect view carplay).x) / (videoRect view carplay).w * carplay.w) ∧
        y = toU16 ((pt.y - (videoRect view carplay).y) / (videoRect view carplay).h * carplay.h) := by
  rw [← mapTouch_isSome_iff hview hcarplay]
  have hsize : ¬ (carplay.w ≤ 0 ∨ carplay.h ≤ 0) := by
    rw [not_or, not_le, not_le]
    exact hcarplay
  rw [mapTouch, if_neg hsize]
  dsimp only
  split
  case isTrue => exact ⟨(fun h => by cases h), fun h => absurd h.1 (by simp)⟩
  case isFalse =>
    rw [Option.some.injEq, Prod.mk.injEq]
    exact ⟨fun h => ⟨rfl, h.1.symm, h.2.symm⟩, fun h => ⟨h.2.1.symm, h.2.2.symm⟩⟩

theorem toU16_toNat {q : ℚ} (hpos : 0 ≤ q) (hlt : q < 65536) : ((toU16 q).toNat : ℤ) = ⌊q⌋ := by
  have hfloor : 0 ≤ ⌊q⌋ := Int.floor_nonneg.mpr hpos
  have hlt' : ⌊q⌋ < 65536 := Int.floor_lt.mpr (by exact_mod_cast hlt)
  rw [toU16, UInt16.toNat_ofNat', show q.floor = ⌊q⌋ from rfl]
  omega

/-- A coordinate goes from 0 to the full length, and does not turn back. -/
theorem coordinate_bounds {a r l w : ℚ} (hl : 0 < l) (hw : 0 < w) (hge : r ≤ a) (hle : a ≤ r + l) :
    0 ≤ (a - r) / l * w ∧ (a - r) / l * w ≤ w := by
  constructor
  · have hnum : 0 ≤ a - r := by linarith
    positivity
  · have hone : (a - r) / l ≤ 1 := (div_le_one hl).mpr (by linarith)
    calc (a - r) / l * w ≤ 1 * w := mul_le_mul_of_nonneg_right hone hw.le
      _ = w := one_mul w

theorem coordinate_mono {a b r l w : ℚ} (hl : 0 < l) (hw : 0 < w) (hab : a ≤ b) :
    (a - r) / l * w ≤ (b - r) / l * w := by
  have hdiff : (a - r) / l ≤ (b - r) / l := (div_le_div_iff_of_pos_right hl).mpr (by linarith)
  exact mul_le_mul_of_nonneg_right hdiff hw.le

end

/-! ## The reports -/

section

variable {view carplay : Size}

/-- The two coordinates of a report. -/
def reportX (report : Bytes) : Nat := ofLE ((report.drop 1).take 2)
def reportY (report : Bytes) : Nat := ofLE ((report.drop 3).take 2)

theorem ofLE_hidReport (phase : UInt8) (x y : UInt16) : ∃ b, b < 2 ∧
    ofLE (hidReport (touchPayload phase x y)) = b + 256 * (x.toNat + 65536 * y.toNat) := by
  have hx : x.toNat < 256 ^ 2 := x.toNat_lt
  have hy : y.toNat < 256 ^ 2 := y.toNat_lt
  have hcoords : ofLE (toLE 2 x.toNat ++ toLE 2 y.toNat) = x.toNat + 65536 * y.toNat := by
    rw [ofLE_append, ofLE_toLE, ofLE_toLE, toLE_length, Nat.mod_eq_of_lt hx, Nat.mod_eq_of_lt hy,
      show 256 ^ 2 = 65536 from rfl]
  rw [hidReport, touchPayload, List.drop_one, List.tail_cons, ofLE_cons, hcoords]
  refine ⟨_, ?_, rfl⟩
  split <;> decide

/-- The variables of a report that is sent. -/
theorem hidReport_values (phase : UInt8) (x y : UInt16) :
    (hidTouch.value (hidReport (touchPayload phase x y)) = 0 ∨
      hidTouch.value (hidReport (touchPayload phase x y)) = 1) ∧
      hidX.value (hidReport (touchPayload phase x y)) = x.toNat ∧
      hidY.value (hidReport (touchPayload phase x y)) = y.toNat := by
  obtain ⟨b, hb, heq⟩ := ofLE_hidReport phase x y
  have hx : x.toNat < 65536 := x.toNat_lt
  have hy : y.toNat < 65536 := y.toNat_lt
  unfold HidField.value hidTouch hidX hidY
  rw [heq]
  dsimp only
  omega

theorem reportX_hidReport (phase : UInt8) (x y : UInt16) : reportX (hidReport (touchPayload phase x y)) = x.toNat := by
  rw [reportX, hidReport, touchPayload, List.drop_succ_cons, List.drop_zero, List.drop_one, List.tail_cons,
    List.take_left' (toLE_length 2 _), ofLE_toLE]
  exact Nat.mod_eq_of_lt x.toNat_lt

theorem reportY_hidReport (phase : UInt8) (x y : UInt16) : reportY (hidReport (touchPayload phase x y)) = y.toNat := by
  rw [reportY, hidReport, touchPayload, List.drop_succ_cons, List.drop_one, List.tail_cons,
    List.drop_left' (toLE_length 2 _), List.take_of_length_le (toLE_length 2 _).le, ofLE_toLE]
  exact Nat.mod_eq_of_lt y.toNat_lt

/-- A report is in the declared range exactly when its coordinates are. -/
theorem inDeclaredRange_iff (phase : UInt8) (x y : UInt16) :
    InDeclaredRange (hidReport (touchPayload phase x y)) ↔ x.toNat ≤ 800 ∧ y.toNat ≤ 480 := by
  obtain ⟨htouch, hx, hy⟩ := hidReport_values phase x y
  unfold InDeclaredRange
  rw [hidFields_hidDesc]
  constructor
  · rintro ⟨fields, hfields, hrange⟩
    obtain rfl := Option.some.inj hfields
    have hxr : hidX.value (hidReport (touchPayload phase x y)) ≤ 800 := (hrange hidX (by decide)).2
    have hyr : hidY.value (hidReport (touchPayload phase x y)) ≤ 480 := (hrange hidY (by decide)).2
    omega
  · rintro ⟨hxr, hyr⟩
    refine ⟨_, rfl, fun f hf => ?_⟩
    rcases List.mem_cons.mp hf with rfl | hf
    · show (0 : ℤ) ≤ _ ∧ _ ≤ (1 : ℤ)
      omega
    rcases List.mem_cons.mp hf with rfl | hf
    · show (0 : ℤ) ≤ _ ∧ _ ≤ (800 : ℤ)
      omega
    obtain rfl := List.mem_singleton.mp hf
    show (0 : ℤ) ≤ _ ∧ _ ≤ (480 : ℤ)
    omega

/-- The reports for any number of touches, however the stream is cut: one for each event that is sent. -/
theorem touchReader_touches {ts : List Trajectory} {sock : Sock}
    (hsock : sock.arriving = ts.flatMap (Trajectory.written view carplay)) :
    touchReader sock = (ts.flatMap fun t => t.events.filterMap (touchEvent view carplay)).map hidReport := by
  refine touchReader_stream ?_ ?_
  · intro p hp
    obtain ⟨t, -, hp⟩ := List.mem_flatMap.mp hp
    exact sent_length t hp
  · rw [hsock, List.flatMap_assoc]
    exact congrArg ts.flatMap (funext (written_eq view carplay))

theorem mem_touchReader {ts : List Trajectory} {sock : Sock} {report : Bytes}
    (hsock : sock.arriving = ts.flatMap (Trajectory.written view carplay)) (hr : report ∈ touchReader sock) :
    ∃ phase pt x y, mapTouch view carplay pt = some (x, y) ∧ report = hidReport (touchPayload phase x y) := by
  rw [touchReader_touches hsock] at hr
  obtain ⟨p, hp, rfl⟩ := List.mem_map.mp hr
  obtain ⟨t, -, hp⟩ := List.mem_flatMap.mp hp
  obtain ⟨e, -, he⟩ := List.mem_filterMap.mp hp
  obtain ⟨⟨x, y⟩, hmap, rfl⟩ := Option.map_eq_some_iff.mp he
  exact ⟨e.1, e.2, x, y, hmap, rfl⟩

/-- An event that is sent becomes a report. -/
theorem exists_report {pt : Point} {x y : UInt16} (hmap : mapTouch view carplay pt = some (x, y)) :
    ∃ (ts : List Trajectory) (sock : Sock), sock.arriving = ts.flatMap (Trajectory.written view carplay) ∧
      hidReport (touchPayload touchDown x y) ∈ touchReader sock := by
  let tap : Trajectory := ⟨pt, [], pt⟩
  have hsock : (Sock.push (tap.written view carplay) []).arriving =
      [tap].flatMap (Trajectory.written view carplay) := by
    rw [Sock.arriving_push, Sock.arriving, List.append_nil, List.flatMap_singleton]
  refine ⟨[tap], _, hsock, ?_⟩
  rw [touchReader_touches hsock]
  refine List.mem_map_of_mem (List.mem_flatMap.mpr ⟨tap, List.mem_singleton_self _, ?_⟩)
  refine List.mem_filterMap.mpr ⟨(touchDown, pt), List.mem_cons_self .., ?_⟩
  rw [touchEvent, hmap]
  rfl

end

/-! ## For which sizes the reports are right

A coordinate goes up to the full size, so the size itself must be in the declared range; and then everything below it
is. A screen without a point is right for want of touches. -/

/-- What is expected of the touches of a screen in a view. -/
structure TouchesRight (view carplay : Size) : Prop where
  /-- A point is taken exactly where the video is. -/
  accepts : ∀ pt, (mapTouch view carplay pt).isSome = true ↔ ∃ r, Letterboxed view carplay r ∧ r.Holds pt
  /-- Further right is not further left on the screen, and further down not further up. -/
  monotone : ∀ pt pt' x y x' y', mapTouch view carplay pt = some (x, y) → mapTouch view carplay pt' = some (x', y') →
    (pt.x ≤ pt'.x → x ≤ x') ∧ (pt.y ≤ pt'.y → y ≤ y')
  /-- The edges are 0 and the full width or height. -/
  edges : ∀ r, Letterboxed view carplay r → ∀ pt x y, mapTouch view carplay pt = some (x, y) →
    ((pt.x = r.x → x = 0) ∧ (pt.x = r.x + r.w → (x.toNat : ℤ) = ⌊carplay.w⌋)) ∧
      ((pt.y = r.y → y = 0) ∧ (pt.y = r.y + r.h → (y.toNat : ℤ) = ⌊carplay.h⌋))
  /-- The reports keep to what the descriptor declares. -/
  range : ∀ (ts : List Trajectory) (sock : Sock), sock.arriving = ts.flatMap (Trajectory.written view carplay) →
    ∀ report ∈ touchReader sock, InDeclaredRange report ∧ reportX report ≤ 800 ∧ reportY report ≤ 480

section

variable {view carplay : Size}

/-- A screen without a size takes no touch. -/
theorem touchesRight_of_not_pos (hcarplay : ¬ carplay.Pos) : TouchesRight view carplay := by
  have hnone : ∀ pt, mapTouch view carplay pt = none := by
    intro pt
    refine if_pos ?_
    rwa [← not_lt, ← not_lt, ← not_and_or]
  refine ⟨fun pt => ⟨fun h => ?_, fun ⟨r, hr, _⟩ => absurd hr.screen hcarplay⟩, ?_, ?_, ?_⟩
  · rw [hnone pt] at h
    cases h
  · intro pt pt' x y x' y' h
    exact nomatch (hnone pt).symm.trans h
  · intro r hr
    exact absurd hr.screen hcarplay
  · intro ts sock hsock report hr
    obtain ⟨phase, pt, x, y, hmap, -⟩ := mem_touchReader hsock hr
    exact nomatch (hnone pt).symm.trans hmap

/-- What a coordinate is, when the length fits in 16 bits. -/
theorem coordinate_toNat {a r l w : ℚ} (hl : 0 < l) (hw : 0 < w) (hlt : w < 65536) (hge : r ≤ a) (hle : a ≤ r + l) :
    ((toU16 ((a - r) / l * w)).toNat : ℤ) = ⌊(a - r) / l * w⌋ := by
  obtain ⟨hpos, hmax⟩ := coordinate_bounds hl hw hge hle
  exact toU16_toNat hpos (hmax.trans_lt hlt)

theorem coordinate_edges {a r l w : ℚ} (hl : 0 < l) (hw : 0 < w) (hlt : w < 65536) :
    (a = r → toU16 ((a - r) / l * w) = 0) ∧ (a = r + l → ((toU16 ((a - r) / l * w)).toNat : ℤ) = ⌊w⌋) := by
  constructor
  · rintro rfl
    rw [sub_self, zero_div, zero_mul]
    rfl
  · rintro rfl
    rw [add_sub_cancel_left, div_self hl.ne', one_mul]
    exact toU16_toNat hw.le hlt

theorem coordinate_le {a b r l w : ℚ} (hl : 0 < l) (hw : 0 < w) (hlt : w < 65536) (ha : r ≤ a ∧ a ≤ r + l)
    (hb : r ≤ b ∧ b ≤ r + l) (hab : a ≤ b) : toU16 ((a - r) / l * w) ≤ toU16 ((b - r) / l * w) := by
  have hfloor : ⌊(a - r) / l * w⌋ ≤ ⌊(b - r) / l * w⌋ := Int.floor_mono (coordinate_mono hl hw hab)
  rw [← coordinate_toNat hl hw hlt ha.1 ha.2, ← coordinate_toNat hl hw hlt hb.1 hb.2] at hfloor
  exact UInt16.le_iff_toNat_le.mpr (Int.ofNat_le.mp hfloor)

theorem coordinate_lt {a r l w : ℚ} {n : ℕ} (hl : 0 < l) (hw : 0 < w) (hlt : w < 65536) (hn : w < n + 1)
    (ha : r ≤ a ∧ a ≤ r + l) : (toU16 ((a - r) / l * w)).toNat ≤ n := by
  have hfloor : ⌊(a - r) / l * w⌋ < n + 1 := by
    refine Int.floor_lt.mpr ((coordinate_bounds hl hw ha.1 ha.2).2.trans_lt ?_)
    exact_mod_cast hn
  rw [← coordinate_toNat hl hw hlt ha.1 ha.2] at hfloor
  omega

/-- A screen of at most 800 by 480. -/
theorem touchesRight_of_lt (hview : view.Pos) (hcarplay : carplay.Pos) (hw : carplay.w < 801) (hh : carplay.h < 481) :
    TouchesRight view carplay := by
  obtain ⟨hrw, hrh⟩ := videoRect_pos hview hcarplay
  obtain ⟨hcw, hch⟩ := hcarplay
  have hw16 : carplay.w < 65536 := by linarith
  have hh16 : carplay.h < 65536 := by linarith
  refine ⟨fun pt => ?_, ?_, ?_, ?_⟩
  · rw [mapTouch_isSome_iff hview ⟨hcw, hch⟩]
    exact ⟨fun h => ⟨_, letterboxed_videoRect hview ⟨hcw, hch⟩, h⟩,
      fun ⟨r, hr, h⟩ => (letterboxed_iff hview ⟨hcw, hch⟩).mp hr ▸ h⟩
  · intro pt pt' x y x' y' hmap hmap'
    obtain ⟨⟨hx₀, hx₁, hy₀, hy₁⟩, rfl, rfl⟩ := (mapTouch_eq_some_iff hview ⟨hcw, hch⟩).mp hmap
    obtain ⟨⟨hx₀', hx₁', hy₀', hy₁'⟩, rfl, rfl⟩ := (mapTouch_eq_some_iff hview ⟨hcw, hch⟩).mp hmap'
    exact ⟨coordinate_le hrw hcw hw16 ⟨hx₀, hx₁⟩ ⟨hx₀', hx₁'⟩, coordinate_le hrh hch hh16 ⟨hy₀, hy₁⟩ ⟨hy₀', hy₁'⟩⟩
  · intro r hr pt x y hmap
    obtain ⟨-, rfl, rfl⟩ := (mapTouch_eq_some_iff hview ⟨hcw, hch⟩).mp hmap
    obtain rfl := (letterboxed_iff hview ⟨hcw, hch⟩).mp hr
    exact ⟨coordinate_edges hrw hcw hw16, coordinate_edges hrh hch hh16⟩
  · intro ts sock hsock report hr
    obtain ⟨phase, pt, x, y, hmap, rfl⟩ := mem_touchReader hsock hr
    rw [inDeclaredRange_iff, reportX_hidReport, reportY_hidReport]
    obtain ⟨⟨hx₀, hx₁, hy₀, hy₁⟩, rfl, rfl⟩ := (mapTouch_eq_some_iff hview ⟨hcw, hch⟩).mp hmap
    have hx := coordinate_lt (n := 800) hrw hcw hw16 (by norm_num; linarith) ⟨hx₀, hx₁⟩
    have hy := coordinate_lt (n := 480) hrh hch hh16 (by norm_num; linarith) ⟨hy₀, hy₁⟩
    exact ⟨⟨hx, hy⟩, hx, hy⟩

/-- The corner of the video is sent with the full width and height. -/
theorem TouchesRight.size_lt (h : TouchesRight view carplay) (hview : view.Pos) (hcarplay : carplay.Pos) :
    carplay.w < 801 ∧ carplay.h < 481 := by
  obtain ⟨hrw, hrh⟩ := videoRect_pos hview hcarplay
  have hbox := letterboxed_videoRect hview hcarplay
  let corner : Point := ⟨(videoRect view carplay).x + (videoRect view carplay).w,
    (videoRect view carplay).y + (videoRect view carplay).h⟩
  have hholds : (videoRect view carplay).Holds corner :=
    ⟨le_add_of_nonneg_right hrw.le, le_refl _, le_add_of_nonneg_right hrh.le, le_refl _⟩
  obtain ⟨⟨x, y⟩, hmap⟩ := Option.isSome_iff_exists.mp ((h.accepts corner).mpr ⟨_, hbox, hholds⟩)
  obtain ⟨⟨-, hx⟩, -, hy⟩ := h.edges _ hbox corner x y hmap
  have hx := hx rfl
  have hy := hy rfl
  obtain ⟨ts, sock, hsock, hmem⟩ := exists_report hmap
  obtain ⟨-, hxr, hyr⟩ := h.range ts sock hsock _ hmem
  rw [reportX_hidReport] at hxr
  rw [reportY_hidReport] at hyr
  have hw : ⌊carplay.w⌋ < 801 := by omega
  have hh : ⌊carplay.h⌋ < 481 := by omega
  exact ⟨by exact_mod_cast Int.floor_lt.mp hw, by exact_mod_cast Int.floor_lt.mp hh⟩

/-- **The touches of a screen are right exactly when it is within 800 by 480**, or takes none. -/
theorem touchesRight_iff (hview : view.Pos) :
    TouchesRight view carplay ↔ ¬ carplay.Pos ∨ (carplay.w < 801 ∧ carplay.h < 481) := by
  constructor
  · intro h
    by_cases hcarplay : carplay.Pos
    · exact .inr (h.size_lt hview hcarplay)
    · exact .inl hcarplay
  · rintro (hnone | ⟨hw, hh⟩)
    · exact touchesRight_of_not_pos hnone
    · by_cases hcarplay : carplay.Pos
      · exact touchesRight_of_lt hview hcarplay hw hh
      · exact touchesRight_of_not_pos hcarplay

end

theorem touchesRight_wide : TouchesRight .ipad .wide :=
  (touchesRight_iff ⟨by decide +kernel, by decide +kernel⟩).mpr (.inr ⟨by decide +kernel, by decide +kernel⟩)

/-- The screen of a `VideoConfig` that is larger than the declared range. -/
def Size.large : Size := ⟨1920, 720⟩

/-- A touch at the right edge is reported at 1920. -/
theorem large_not_touchesRight : ¬ ∀ view carplay : Size, view.Pos → TouchesRight view carplay := by
  intro hall
  have hmap : mapTouch .ipad .large ⟨1024, 384⟩ = some (1920, 360) := by decide +kernel
  obtain ⟨ts, sock, hsock, hmem⟩ := exists_report hmap
  have hright := hall .ipad .large ⟨by decide +kernel, by decide +kernel⟩
  obtain ⟨hrange, -⟩ := hright.range ts sock hsock _ hmem
  exact absurd ((inDeclaredRange_iff _ _ _).mp hrange).1 (by decide)

end Showcase
