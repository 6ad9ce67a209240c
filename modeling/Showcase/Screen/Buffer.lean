import Showcase.Screen.Stream

/-!
# `Screen.Buffer` — the buffers of the video stream

The arithmetic of `screen_thread_func` on `bodySize`, `bodyAlloc` and `msgLen`. `bodyAlloc` is a `size_t`, but the sums
it is computed from are `uint32_t`. Only sizes are kept here: what `Screen.Stream` says about the bytes of a message
stands for the rounds in which the allocations succeed (`inMemory_iff`).

* `RoundHolds` — the memory a message uses is there.
* `buffersHold_iff` — exactly for which sequences of headers it is there in every round.
-/

namespace Showcase

open Lib

/-! ## The buffers of a round -/

/-- The body buffer: its size, and the one `bodyAlloc` records. -/
structure BodyBuffer where
  allocated : Nat
  bodyAlloc : Nat
deriving DecidableEq

/-- `body = NULL`, `bodyAlloc = 0`. -/
def BodyBuffer.start : BodyBuffer := ⟨0, 0⟩

/-- What a round finds: the header, `g_screen_key_valid`, whether `realloc` and `malloc` give memory, and whether the
    whole body arrives. -/
structure BufferMsg where
  header : Block 128
  keyValid : Bool
  realloc : Bool
  malloc : Bool
  arrives : Bool

/-- A use of memory: the bytes from the start of a buffer up to the last one used, and its size. -/
structure Use where
  bytes : Nat
  room : Nat

namespace BufferMsg

variable (m : BufferMsg)

/-- `header[0] | (header[1] << 8) | ...`. -/
def bodySize : UInt32 := UInt32.ofNat (headerBodySize m.header.val)

def opcode : UInt8 := headerOpcode m.header.val

/-- `8 + bodySize`. -/
def msgLen : UInt32 := 8 + m.bodySize

end BufferMsg

/-- `if (bodySize > 0) if (bodySize > bodyAlloc) ...`. -/
def BodyBuffer.ensure (b : BodyBuffer) (m : BufferMsg) : BodyBuffer :=
  if 0 < m.bodySize then
    if b.bodyAlloc < m.bodySize.toNat then
      let bodyAlloc := (m.bodySize + 4096).toNat
      ⟨if m.realloc then bodyAlloc else 0, bodyAlloc⟩
    else b
  else b

/-- The uses of memory in a round whose body buffer is `b`. -/
def BufferMsg.uses (m : BufferMsg) (b : BodyBuffer) : List Use :=
  -- `tcp_read_exact(clientFd, body, bodySize)`
  (if 0 < m.bodySize then [⟨m.bodySize.toNat, b.allocated⟩] else []) ++
    if ! m.arrives then []
    else if m.opcode = 1 then
      let msg := if m.malloc then m.msgLen.toNat else 0
      [⟨4, msg⟩, ⟨8, msg⟩, ⟨8 + m.bodySize.toNat, msg⟩, ⟨m.bodySize.toNat, b.allocated⟩]
    else if m.opcode = 0 then
      -- ciphertext and tag
      if ! m.keyValid || m.bodySize < 16 then [] else [⟨m.bodySize.toNat, b.allocated⟩]
    else []

/-- **The memory of a round is there**: what is recorded is allocated, every use is within its buffer, and the size of
    the message for the app does not wrap. -/
structure RoundHolds (b : BodyBuffer) (m : BufferMsg) : Prop where
  recorded : (b.ensure m).bodyAlloc ≤ (b.ensure m).allocated
  uses : ∀ u ∈ m.uses (b.ensure m), u.bytes ≤ u.room
  config : m.arrives → m.opcode = 1 → m.msgLen.toNat = 8 + m.bodySize.toNat

/-- The memory is there in every round, up to the end of the connection. -/
def BuffersHold : BodyBuffer → List BufferMsg → Prop
  | _, [] => True
  | b, m :: msgs => RoundHolds b m ∧ (m.arrives → BuffersHold (b.ensure m) msgs)

/-! ## The sizes that fit -/

/-- The capacity behind a message, without wrap-around. -/
def growCapacity (capacity : Nat) (m : BufferMsg) : Nat :=
  if capacity < m.bodySize.toNat then m.bodySize.toNat + 4096 else capacity

/-- The capacity behind some messages. -/
def capacityOf (msgs : List BufferMsg) : Nat := msgs.foldl growCapacity 0

/-- The body fits, or the buffer for it can be had; and so can the message for the app. -/
structure Fits (capacity : Nat) (m : BufferMsg) : Prop where
  body : m.bodySize.toNat ≤ capacity ∨ (m.bodySize.toNat < 2 ^ 32 - 4096 ∧ m.realloc)
  config : m.arrives → m.opcode = 1 → m.bodySize.toNat < 2 ^ 32 - 8 ∧ m.malloc

section Round

variable {b : BodyBuffer} {m : BufferMsg} {capacity : Nat}

theorem toNat_pos_of_lt (h : capacity < m.bodySize.toNat) : 0 < m.bodySize := by
  rw [UInt32.lt_iff_toNat_lt, UInt32.toNat_zero]
  omega

/-- The sum for `bodyAlloc`. -/
theorem grown_toNat (m : BufferMsg) : (m.bodySize + 4096).toNat = (m.bodySize.toNat + 4096) % 2 ^ 32 := by
  rw [UInt32.toNat_add]
  rfl

theorem msgLen_toNat (m : BufferMsg) : m.msgLen.toNat = (8 + m.bodySize.toNat) % 2 ^ 32 := by
  rw [BufferMsg.msgLen, UInt32.toNat_add]
  rfl

theorem ensure_of_le (h : m.bodySize.toNat ≤ b.bodyAlloc) : b.ensure m = b := by
  rw [BodyBuffer.ensure]
  split
  · exact if_neg (Nat.not_lt.mpr h)
  · rfl

theorem ensure_of_lt (h : b.bodyAlloc < m.bodySize.toNat) :
    b.ensure m = ⟨if m.realloc then (m.bodySize + 4096).toNat else 0, (m.bodySize + 4096).toNat⟩ := by
  rw [BodyBuffer.ensure, if_pos (toNat_pos_of_lt h), if_pos h]

/-- A message that fits leaves a buffer of the capacity it asks for, with room for the body. -/
theorem ensure_of_fits (h : Fits capacity m) :
    BodyBuffer.ensure ⟨capacity, capacity⟩ m = ⟨growCapacity capacity m, growCapacity capacity m⟩ ∧
      m.bodySize.toNat ≤ growCapacity capacity m := by
  by_cases hgrow : capacity < m.bodySize.toNat
  · rw [ensure_of_lt hgrow, growCapacity, if_pos hgrow]
    rcases h.body with hle | ⟨hlt, hrealloc⟩
    · omega
    · rw [if_pos hrealloc, grown_toNat, Nat.mod_eq_of_lt (by omega)]
      exact ⟨rfl, Nat.le_add_right _ _⟩
  · rw [ensure_of_le (Nat.not_lt.mp hgrow), growCapacity, if_neg hgrow]
    exact ⟨rfl, Nat.not_lt.mp hgrow⟩

/-- The body read needs the whole body. -/
theorem body_le_of_uses (h : ∀ u ∈ m.uses b, u.bytes ≤ u.room) : m.bodySize.toNat ≤ b.allocated := by
  by_cases hpos : 0 < m.bodySize
  · refine h ⟨m.bodySize.toNat, b.allocated⟩ (List.mem_append_left _ ?_)
    rw [if_pos hpos]
    exact List.mem_singleton_self _
  · rw [UInt32.lt_iff_toNat_lt, UInt32.toNat_zero] at hpos
    omega

/-- The message for the app needs the whole body. -/
theorem config_le_of_uses (h : ∀ u ∈ m.uses b, u.bytes ≤ u.room) (harrives : m.arrives) (hconfig : m.opcode = 1) :
    8 + m.bodySize.toNat ≤ if m.malloc then m.msgLen.toNat else 0 := by
  refine h ⟨8 + m.bodySize.toNat, if m.malloc then m.msgLen.toNat else 0⟩ (List.mem_append_right _ ?_)
  simp [harrives, hconfig]

/-- Room for the body and for the message is room for every use. -/
theorem uses_of_le (hbody : m.bodySize.toNat ≤ b.allocated)
    (hconfig : m.arrives → m.opcode = 1 → 8 + m.bodySize.toNat ≤ if m.malloc then m.msgLen.toNat else 0) :
    ∀ u ∈ m.uses b, u.bytes ≤ u.room := by
  intro u hu
  rcases List.mem_append.mp hu with hu | hu
  · split at hu
    · rw [List.mem_singleton.mp hu]
      exact hbody
    · cases hu
  by_cases harrives : m.arrives
  case neg => simp [harrives] at hu
  simp only [harrives, Bool.not_true, Bool.false_eq_true, if_false] at hu
  by_cases hop : m.opcode = 1
  · have hmsg := hconfig harrives hop
    simp only [hop, if_true, List.mem_cons, List.not_mem_nil, or_false] at hu
    rcases hu with rfl | rfl | rfl | rfl
    · exact Nat.le_trans (show 4 ≤ 8 + m.bodySize.toNat by omega) hmsg
    · exact Nat.le_trans (show 8 ≤ 8 + m.bodySize.toNat by omega) hmsg
    · exact hmsg
    · exact hbody
  · rw [if_neg hop] at hu
    split at hu
    · split at hu
      · cases hu
      · rw [List.mem_singleton.mp hu]
        exact hbody
    · cases hu

/-- **One round**: the memory is there exactly when the message fits. -/
theorem roundHolds_iff : RoundHolds ⟨capacity, capacity⟩ m ↔ Fits capacity m := by
  have hsize : m.bodySize.toNat < 2 ^ 32 := m.bodySize.toNat_lt
  constructor
  · intro h
    have hbody := body_le_of_uses h.uses
    refine ⟨?_, ?_⟩
    · by_cases hgrow : capacity < m.bodySize.toNat
      case neg => exact .inl (Nat.not_lt.mp hgrow)
      rw [ensure_of_lt hgrow] at hbody
      by_cases hrealloc : m.realloc
      · -- a sum that wraps is less than what it was computed for
        rw [if_pos hrealloc, grown_toNat] at hbody
        simp only at hbody
        exact .inr ⟨by omega, hrealloc⟩
      · rw [if_neg hrealloc] at hbody
        simp only at hbody
        omega
    · intro harrives hconfig
      have hmsg := config_le_of_uses h.uses harrives hconfig
      by_cases hmalloc : m.malloc
      · rw [if_pos hmalloc, msgLen_toNat] at hmsg
        exact ⟨by omega, hmalloc⟩
      · rw [if_neg hmalloc] at hmsg
        omega
  · intro h
    obtain ⟨hensure, hroom⟩ := ensure_of_fits h
    have hconfig : m.arrives → m.opcode = 1 → m.msgLen.toNat = 8 + m.bodySize.toNat := by
      intro harrives hop
      obtain ⟨hlt, _⟩ := h.config harrives hop
      rw [msgLen_toNat, Nat.mod_eq_of_lt (by omega)]
    refine ⟨?_, uses_of_le ?_ ?_, hconfig⟩
    · rw [hensure]
    · rw [hensure]
      exact hroom
    · intro harrives hop
      rw [if_pos (h.config harrives hop).2, hconfig harrives hop]

end Round

/-! ## The whole stream

The induction is on the headers, from any buffer whose recorded size is right. A round that fits leaves such a buffer,
and one that does not fit ends the question. -/

/-- Every message that the loop gets to fits into the capacity that those in front of it have left. -/
def AllFit (capacity : Nat) (msgs : List BufferMsg) : Prop :=
  ∀ pre m post, msgs = pre ++ m :: post → (∀ x ∈ pre, x.arrives) → Fits (pre.foldl growCapacity capacity) m

theorem allFit_nil (capacity : Nat) : AllFit capacity [] := by
  intro pre m post h
  simp at h

theorem allFit_cons {capacity : Nat} {m : BufferMsg} {msgs : List BufferMsg} :
    AllFit capacity (m :: msgs) ↔ Fits capacity m ∧ (m.arrives → AllFit (growCapacity capacity m) msgs) := by
  constructor
  · intro h
    refine ⟨h [] m msgs rfl (fun _ hx => absurd hx List.not_mem_nil), ?_⟩
    rintro harrives pre x post rfl hpre
    refine h (m :: pre) x post rfl ?_
    intro y hy
    rcases List.mem_cons.mp hy with rfl | hy
    · exact harrives
    · exact hpre y hy
  · rintro ⟨hm, hmsgs⟩ pre x post heq hpre
    cases pre with
    | nil =>
        obtain ⟨rfl, _⟩ := List.cons.inj heq
        exact hm
    | cons y pre =>
        obtain ⟨rfl, htail⟩ := List.cons.inj heq
        exact hmsgs (hpre m (List.mem_cons_self ..)) pre x post htail (fun z hz => hpre z (List.mem_cons_of_mem _ hz))

/-- From any buffer that is as large as recorded. -/
theorem buffersHold_from (msgs : List BufferMsg) (capacity : Nat) :
    BuffersHold ⟨capacity, capacity⟩ msgs ↔ AllFit capacity msgs := by
  induction msgs generalizing capacity with
  | nil => exact iff_of_true trivial (allFit_nil capacity)
  | cons m msgs ih =>
      rw [BuffersHold, allFit_cons, roundHolds_iff]
      refine and_congr_right fun hfits => forall_congr' fun _ => ?_
      rw [(ensure_of_fits hfits).1]
      exact ih _

/-- **The buffers of the video stream.** For every sequence of headers the memory is there in every round exactly when
    every message fits: its body into what the earlier ones have left, or with its size below 2^32 - 4096 into what
    `realloc` gives; and a configuration below 2^32 - 8 into what `malloc` gives. -/
theorem buffersHold_iff (msgs : List BufferMsg) :
    BuffersHold .start msgs ↔
      ∀ pre m post, msgs = pre ++ m :: post → (∀ x ∈ pre, x.arrives) → Fits (capacityOf pre) m :=
  buffersHold_from msgs 0

/-- A keep-alive with the largest size. -/
def largestMsg : BufferMsg :=
  ⟨plainHeader (2 ^ 32 - 1) 2, false, true, true, true⟩

/-- The buffer for the largest message has 4095 bytes. -/
theorem largestMsg_room :
    (BodyBuffer.ensure .start largestMsg).allocated = 4095 ∧ ¬ BuffersHold .start [largestMsg] := by
  have hsize : largestMsg.bodySize.toNat = 2 ^ 32 - 1 := by
    rw [BufferMsg.bodySize, largestMsg, plainHeader_size (by decide)]
    decide
  have halloc : (BodyBuffer.ensure .start largestMsg).allocated = 4095 := by
    rw [ensure_of_lt (by rw [hsize]; decide), grown_toNat, hsize]
    rfl
  refine ⟨halloc, ?_⟩
  rintro ⟨hround, _⟩
  have hbody := body_le_of_uses hround.uses
  rw [halloc, hsize] at hbody
  omega

/-! ## The messages of `Screen.Stream` -/

/-- The round of a message when the allocations succeed. -/
def ScreenMsg.buffers (m : ScreenMsg) (keyValid : Bool) : BufferMsg := ⟨m.header, keyValid, true, true, true⟩

section Stream

variable {m : ScreenMsg} {alloc : Nat}

theorem buffers_bodySize (m : ScreenMsg) (keyValid : Bool) :
    (m.buffers keyValid).bodySize.toNat = m.body.length := by
  have hlt : m.body.length < 2 ^ 32 := by
    rw [m.size, headerBodySize]
    refine Nat.lt_of_lt_of_le (ofLE_lt _) ?_
    rw [List.length_take, m.header.property]
    decide
  rw [BufferMsg.bodySize, ScreenMsg.buffers, ← m.size, UInt32.toNat_ofNat']
  exact Nat.mod_eq_of_lt hlt

/-- **A message stays within memory** there when its buffers hold here, and a sealed frame fits an `int`. -/
theorem inMemory_iff (keyed : Bool) : m.InMemory keyed alloc ↔
    RoundHolds ⟨alloc, alloc⟩ (m.buffers keyed) ∧ (m.opcode = 0 → keyed → m.body.length < 2 ^ 31 + 16) := by
  have hop : (m.buffers keyed).opcode = m.opcode := rfl
  have hlt : m.body.length < 2 ^ 32 := by
    rw [← buffers_bodySize m keyed]
    exact (m.buffers keyed).bodySize.toNat_lt
  rw [roundHolds_iff, ScreenMsg.InMemory, ScreenMsg.allocAfter]
  constructor
  · rintro ⟨hroom, hconfig, hint⟩
    refine ⟨⟨?_, ?_⟩, hint⟩
    · rw [buffers_bodySize]
      by_cases hgrow : alloc < m.body.length
      · rw [if_pos hgrow] at hroom
        exact .inr ⟨by omega, rfl⟩
      · exact .inl (Nat.not_lt.mp hgrow)
    · intro _ h
      have := hconfig h
      rw [buffers_bodySize]
      exact ⟨by omega, rfl⟩
  · rintro ⟨⟨hbody, hconfig⟩, hint⟩
    rw [buffers_bodySize] at hbody hconfig
    refine ⟨?_, ?_, hint⟩
    · split
      · rcases hbody with hle | ⟨hfit, _⟩
        · omega
        · rw [Nat.mod_eq_of_lt (by omega)]
          exact Nat.le_add_right _ _
      · omega
    · intro h
      have := (hconfig rfl h).1
      omega

end Stream

end Showcase
