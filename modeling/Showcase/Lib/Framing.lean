import Showcase.Lib.Bytes

/-!
# `Lib.Framing` — frames with a length in their header

A frame is a header of a fixed size, and behind it as many bytes of payload as the header says. A reader that asks for
what is missing of a frame never reads beyond it, and what it has cut off a stream are the first frames of
everything that the stream can still become.

## Contents
- `Framing`, `IsFrame`, `missing` — the format, and what is missing of the frame that a string begins.
- `missing_append`, `isFrame_iff` — reading on.
- `frames_prefix` — where one stream is the beginning of another, so are its frames.
-/

namespace Lib

/-- A format of frames: the size of the header, and the size of the payload that a header tells. -/
structure Framing where
  header : Nat
  payload : Bytes → Nat
  header_pos : 0 < header

namespace Framing

/-- How many bytes are missing of the frame that `b` begins; as long as the header is incomplete, of the header. -/
def missing (F : Framing) (b : Bytes) : Nat :=
  if b.length < F.header then F.header - b.length else F.header + F.payload (b.take F.header) - b.length

/-- The string is one frame. -/
structure IsFrame (F : Framing) (b : Bytes) : Prop where
  header : F.header ≤ b.length
  length : b.length = F.header + F.payload (b.take F.header)

/-- The string is the beginning of a frame, or a frame. -/
def Begins (F : Framing) (b : Bytes) : Prop := b.length ≤ F.header ∨ b.length ≤ F.header + F.payload (b.take F.header)

variable {F : Framing} {b c f g t u : Bytes} {fs gs : List Bytes}

@[simp] theorem missing_nil : F.missing [] = F.header := by
  rw [missing, if_pos (by simpa using F.header_pos)]
  rfl

theorem begins_nil : F.Begins [] := .inl (Nat.zero_le _)

/-- The header of a longer string is the same. -/
theorem take_header_append (h : F.header ≤ b.length) : (b ++ c).take F.header = b.take F.header :=
  List.take_append_of_le_length h

/-- What is missing of the header, while it is incomplete. -/
theorem missing_header (h : b.length < F.header) : F.missing b = F.header - b.length := by
  rw [missing, if_pos h]

/-- What is missing of the payload, behind the header. -/
theorem missing_payload (h : F.header ≤ b.length) :
    F.missing b = F.header + F.payload (b.take F.header) - b.length := by
  rw [missing, if_neg (by omega)]

/-- **Nothing is missing of a frame**, and of nothing else. -/
theorem isFrame_iff (h : F.Begins b) : F.IsFrame b ↔ F.missing b = 0 := by
  constructor
  · intro hf
    rw [missing_payload hf.header, ← hf.length, Nat.sub_self]
  · intro hm
    have hheader : F.header ≤ b.length := by
      by_contra hlt
      rw [missing_header (by omega)] at hm
      omega
    rw [missing_payload hheader] at hm
    refine ⟨hheader, ?_⟩
    rcases h with h | h
    · omega
    · omega

/-- Who reads no more than is missing stays within the frame. -/
theorem Begins.append (h : F.Begins b) (hc : c.length ≤ F.missing b) : F.Begins (b ++ c) := by
  rw [Begins, List.length_append]
  by_cases hb : b.length < F.header
  · rw [missing_header hb] at hc
    exact .inl (by omega)
  · have hheader : F.header ≤ b.length := by omega
    rw [missing_payload hheader] at hc
    refine .inr ?_
    rw [take_header_append hheader]
    rcases h with h | h
    · omega
    · omega

/-- **Reading on.** What is missing becomes less by what is read, except that a complete header tells what else is. -/
theorem missing_append (hc : c.length ≤ F.missing b) :
    F.missing (b ++ c) =
      if F.missing b = c.length ∧ b.length < F.header then F.payload (b ++ c) else F.missing b - c.length := by
  by_cases hb : b.length < F.header
  · rw [missing_header hb] at hc ⊢
    by_cases hall : F.header - b.length = c.length
    · have hlen : (b ++ c).length = F.header := by
        rw [List.length_append]
        omega
      rw [if_pos ⟨hall, hb⟩, missing_payload (by omega), ← hlen, List.take_length]
      omega
    · rw [if_neg (fun h => hall h.1), missing_header (by rw [List.length_append]; omega), List.length_append]
      omega
  · have hheader : F.header ≤ b.length := by omega
    rw [if_neg (fun h => hb h.2), missing_payload (by rw [List.length_append]; omega), missing_payload hheader,
      take_header_append hheader, List.length_append]
    omega

/-- The header of a frame is that of every string it begins. -/
theorem IsFrame.take_append (h : F.IsFrame f) (t : Bytes) : (f ++ t).take F.header = f.take F.header :=
  take_header_append h.header

/-- Two frames that begin one string are the same. -/
theorem IsFrame.unique (hf : F.IsFrame f) (hg : F.IsFrame g) (h : f ++ t = g ++ u) : f = g ∧ t = u := by
  have hhead : f.take F.header = g.take F.header := by rw [← hf.take_append t, h, hg.take_append]
  have hlen : f.length = g.length := by rw [hf.length, hg.length, hhead]
  exact List.append_inj h hlen

/-- Where one stream is the beginning of another, so are its frames. -/
theorem frames_prefix (hfs : ∀ f ∈ fs, F.IsFrame f) (hgs : ∀ g ∈ gs, F.IsFrame g)
    (h : fs.flatten ++ t = gs.flatten) : fs <+: gs := by
  induction fs generalizing gs with
  | nil => exact List.nil_prefix
  | cons f fs ih =>
      have hf := hfs f List.mem_cons_self
      cases gs with
      | nil =>
          have hpos := F.header_pos
          have hlen := congrArg List.length h
          have hheader := hf.header
          simp only [List.flatten_cons, List.length_append, List.flatten_nil, List.length_nil] at hlen
          omega
      | cons g gs =>
          rw [List.flatten_cons, List.flatten_cons, List.append_assoc] at h
          obtain ⟨rfl, hrest⟩ := hf.unique (hgs g List.mem_cons_self) h
          exact List.cons_prefix_cons.mpr ⟨rfl, ih (fun f hf => hfs f (List.mem_cons_of_mem _ hf))
            (fun g hg => hgs g (List.mem_cons_of_mem _ hg)) hrest⟩

/-- A frame is not the beginning of less than a frame. -/
theorem IsFrame.not_short (hf : F.IsFrame f) (hb : F.Begins b) (hm : F.missing b ≠ 0) (h : b = f ++ t) : False := by
  subst h
  have hheader := hf.header
  have hlen := hf.length
  rw [missing_payload (by rw [List.length_append]; omega), hf.take_append, List.length_append] at hm
  omega

/-- The beginning of a frame is no longer than the frame that begins the same string. -/
theorem Begins.length_le (hb : F.Begins b) (hf : F.IsFrame f) (h : b ++ t = f ++ u) : b.length ≤ f.length := by
  have hheader := hf.header
  by_cases hlt : b.length ≤ F.header
  · omega
  · have hhead : b.take F.header = f.take F.header := by
      rw [← take_header_append (c := t) (Nat.le_of_not_le hlt), h, hf.take_append]
    have hlen := hf.length
    rw [← hhead] at hlen
    rcases hb with hb | hb
    · exact absurd hb hlt
    · omega

end Framing

end Lib
