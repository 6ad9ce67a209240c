import Showcase.Lib.Loop
import Showcase.Bt.Emission

/-!
# `Bt.Chunks` — the loop that sends a packet in chunks

`rfcomm_send_chunked` goes through a packet in steps of `rfcomm_mtu`, which `handler` takes from the event that opens
the channel and does not look at. What `bt_send_rfcomm` returns decides about a pause only.

## Contents
- `chunkRound` — one round of the loop; `SentInChunks` — the loop ends, and the chunks are the packet.
- `ChunkInv` — what has been sent is the part of the packet that lies behind the loop.
- `chunkLoop_refines` — the loop sends what `chunksFrom` says.
- **`rfcomm_send_chunked_iff`** — the packet is sent exactly when the event has an MTU that is not 0.
-/

namespace Showcase.Bt

open Lib

/-! ## The loop -/

/-- The locals of `rfcomm_send_chunked` and what it has done: the calls of `bt_send_rfcomm` and of `usleep`. -/
structure ChunkLoop where
  s : Nat
  chunks : List Bytes
  pauses : Nat
deriving DecidableEq

def ChunkLoop.start : ChunkLoop := ⟨0, [], 0⟩

/-- `while(s<len)`. -/
def ChunkLoop.goesOn (data : Bytes) (l : ChunkLoop) : Prop := l.s < data.length

/-- A round of the loop, where `bt_send_rfcomm` returns `rc`. -/
def chunkRound (mtu : UInt16) (data : Bytes) (l : ChunkLoop) (rc : Int) : ChunkLoop :=
  let c := min (data.length - l.s) mtu.toNat
  { s := l.s + c
    chunks := l.chunks ++ [(data.drop l.s).take c]
    pauses := if rc ≠ c then l.pauses + 1 else l.pauses }

/-- The loop ends when `bt_send_rfcomm` returns `rc`, and it has sent the packet in chunks of 1 to `mtu` bytes. -/
def SentInChunks (mtu : UInt16) (data : Bytes) (rc : Nat → Int) : Prop :=
  ∃ t, Ends (ChunkLoop.goesOn data) (chunkRound mtu data) .start rc t ∧ t.chunks.flatten = data ∧
    ∀ c ∈ t.chunks, 1 ≤ c.length ∧ c.length ≤ mtu.toNat

/-! ## What a round keeps

A round moves `s` on by the length of a chunk, which is 0 exactly when the MTU is. So either the rest gets shorter in
every round, or no round changes anything. -/

variable {mtu : UInt16} {data : Bytes} {l : ChunkLoop}

/-- What is behind the loop has been sent. -/
structure ChunkInv (mtu : UInt16) (data : Bytes) (l : ChunkLoop) : Prop where
  within : l.s ≤ data.length
  sent : l.chunks.flatten = data.take l.s
  size : ∀ c ∈ l.chunks, 1 ≤ c.length ∧ c.length ≤ mtu.toNat

theorem ChunkInv.start (mtu : UInt16) (data : Bytes) : ChunkInv mtu data .start where
  within := Nat.zero_le _
  sent := rfl
  size := fun _ hc => absurd hc List.not_mem_nil

/-- A round sends the next chunk, and gets on. -/
theorem ChunkInv.round (hmtu : 1 ≤ mtu.toNat) (hinv : ChunkInv mtu data l) (hlt : l.goesOn data) (rc : Int) :
    ChunkInv mtu data (chunkRound mtu data l rc) ∧
      data.length - (chunkRound mtu data l rc).s < data.length - l.s := by
  unfold ChunkLoop.goesOn at hlt
  have hpos : 1 ≤ min (data.length - l.s) mtu.toNat := by omega
  have hle : min (data.length - l.s) mtu.toNat ≤ data.length - l.s := Nat.min_le_left _ _
  have hmax : min (data.length - l.s) mtu.toNat ≤ mtu.toNat := Nat.min_le_right _ _
  unfold chunkRound
  dsimp only
  generalize min (data.length - l.s) mtu.toNat = c at hpos hle hmax
  have hwithin : l.s + c ≤ data.length := by omega
  have hless : data.length - (l.s + c) < data.length - l.s := by omega
  refine ⟨⟨hwithin, ?_, ?_⟩, hless⟩
  · rw [List.flatten_append, List.flatten_singleton, hinv.sent, List.take_add]
  · intro d hd
    rcases List.mem_append.mp hd with hd | hd
    · exact hinv.size d hd
    · rw [List.mem_singleton.mp hd, List.length_take, List.length_drop]
      omega

/-- With a positive MTU the packet is sent. -/
theorem sentInChunks_of_pos (hmtu : 1 ≤ mtu.toNat) (data : Bytes) (rc : Nat → Int) : SentInChunks mtu data rc := by
  have hround : ∀ l (rc : Int), ChunkInv mtu data l → l.goesOn data →
      ChunkInv mtu data (chunkRound mtu data l rc) ∧
        data.length - (chunkRound mtu data l rc).s < data.length - l.s :=
    fun l rc hinv hlt => hinv.round hmtu hlt rc
  obtain ⟨t, ht⟩ := ends_of_variant (ChunkInv mtu data) (fun l => data.length - l.s) hround (.start mtu data) rc
  obtain ⟨hinv, hstop⟩ := ht.invariant (ChunkInv mtu data) (fun l rc h hlt => (hround l rc h hlt).1) (.start mtu data)
  refine ⟨t, ht, ?_, hinv.size⟩
  rw [hinv.sent]
  exact List.take_of_length_le (Nat.not_lt.mp hstop)

/-- **Without an MTU the loop stands still**: it sends nothing, over and over. -/
theorem not_ends_chunks (hpos : 0 < data.length) {rc : Nat → Int} {t : ChunkLoop} :
    ¬ Ends (ChunkLoop.goesOn data) (chunkRound 0 data) .start rc t := by
  refine not_ends (fun l => l.s = 0) ?_ ?_ rfl
  · intro l hl
    unfold ChunkLoop.goesOn
    rw [hl]
    exact hpos
  · intro l rc hl
    have hround : (chunkRound 0 data l rc).s = l.s := by simp [chunkRound]
    rw [hround, hl]

/-- **The packet is sent** exactly when the MTU is not 0. -/
theorem sentInChunks_iff (hpos : 0 < data.length) (rc : Nat → Int) : SentInChunks mtu data rc ↔ mtu ≠ 0 := by
  constructor
  · rintro ⟨t, ht, -⟩ rfl
    exact not_ends_chunks hpos ht
  · intro hmtu
    refine sentInChunks_of_pos (Nat.one_le_iff_ne_zero.mpr fun hz => hmtu ?_) data rc
    exact UInt16.toNat.inj hz

/-- **The loop is `chunksFrom`**, where this has a result. -/
theorem chunkLoop_refines (rc : Nat → Int) {cs : List Bytes} (h : chunksFrom mtu data l.s = some cs) :
    ∃ t, Ends (ChunkLoop.goesOn data) (chunkRound mtu data) l rc t ∧ t.chunks = l.chunks ++ cs := by
  obtain ⟨s, chunks, pauses⟩ := l
  simp only at h ⊢
  induction s using chunksFrom.induct mtu data generalizing chunks pauses rc cs with
  | case1 s hlt c hzero =>
      rw [chunksFrom, if_pos hlt] at h
      exact nomatch (if_pos hzero).symm.trans h
  | case2 s hlt c hc ih =>
      rw [chunksFrom, if_pos hlt] at h
      replace h := (if_neg hc).symm.trans h
      obtain ⟨cs', hcs', rfl⟩ := Option.map_eq_some_iff.mp h
      obtain ⟨t, ht, hchunks⟩ := ih (fun k => rc (k + 1)) (chunks ++ [(data.drop s).take c])
        (if rc 0 ≠ c then pauses + 1 else pauses) hcs'
      exact ⟨t, .round hlt ht, by rw [hchunks, List.append_assoc, List.singleton_append]⟩
  | case3 s hlt =>
      rw [chunksFrom, if_neg hlt] at h
      obtain rfl := Option.some.inj h
      exact ⟨_, .stop hlt, (List.append_nil _).symm⟩

/-! ## The channel -/

/-- A channel has been opened: `0x80` with status 0. -/
def ChannelOpened (byte : Nat → UInt8) : Prop := byte 0 = 0x80 ∧ byte 2 = 0

/-- The handler takes the MTU from the event. -/
theorem handler_channelOpened (cfg : Config) (s : State) (ch : UInt16) (pkt : Bytes) (e : Env)
    (hopen : ChannelOpened (memByte pkt e.behind)) :
    ∃ s' outs, handler cfg s 4 ch pkt e = some (s', outs) ∧ s'.rfcommMtu = r16 (memByte pkt e.behind) 14 := by
  obtain ⟨hcode, hstatus⟩ := hopen
  have hhci : handler cfg s 4 ch pkt e = some (handleHci cfg s (memByte pkt e.behind) pkt.length) := by
    simp [handler, hcode]
  have hne : memByte pkt e.behind 0 ≠ 0x0E := by rw [hcode]; decide
  have hswitch : handleHci cfg s (memByte pkt e.behind) pkt.length = rfcommOpened s (memByte pkt e.behind) := by
    rw [handleHci_of_ne cfg s _ hne, hcode, if_neg (by decide)]
    simp [eventSwitch, hcode, hstatus]
  refine ⟨_, _, by rw [hhci, hswitch], ?_⟩
  rw [(rfcommOpened_spec s _).1]

/-- **Chunking.** Behind an event that has opened a channel, a packet is sent in chunks of at most the MTU, whatever
`bt_send_rfcomm` returns, if and only if the MTU of the event is not 0. -/
theorem rfcomm_send_chunked_iff (cfg : Config) (s : State) (ch : UInt16) (pkt : Bytes) (e : Env)
    (hopen : ChannelOpened (memByte pkt e.behind)) {s' : State} {outs : List Out}
    (hs' : handler cfg s 4 ch pkt e = some (s', outs)) {data : Bytes} (hpos : 0 < data.length) (rc : Nat → Int) :
    SentInChunks s'.rfcommMtu data rc ↔ r16 (memByte pkt e.behind) 14 ≠ 0 := by
  obtain ⟨s'', outs', hs'', hmtu⟩ := handler_channelOpened cfg s ch pkt e hopen
  obtain ⟨rfl, rfl⟩ := Prod.mk.inj (Option.some.inj (hs'.symm.trans hs''))
  rw [← hmtu]
  exact sentInChunks_iff hpos rc

/-- The channel `0x41` is opened, with an MTU of `mtu`. -/
def channelOpened (mtu : UInt8) : Bytes := [0x80, 0x0E, 0, 1, 2, 3, 4, 5, 6, 0x40, 0, 1, 0x41, 0, mtu, 0]

/-- No byte behind the event is of interest. -/
def quietEnv : Env := ⟨fun _ => 0, 0, fun _ => none⟩

/-- With an MTU of 3 the packet is sent. -/
theorem rfcomm_send_chunked_three :
    ∃ s' outs, handler Session.config .initial 4 0 (channelOpened 3) quietEnv = some (s', outs) ∧
      SentInChunks s'.rfcommMtu [1, 2, 3, 4, 5] (fun _ => -1) := by
  have hopen : ChannelOpened (memByte (channelOpened 3) quietEnv.behind) := ⟨by decide, by decide⟩
  obtain ⟨s', outs, hs', -⟩ := handler_channelOpened Session.config .initial 0 _ _ hopen
  exact ⟨s', outs, hs',
    (rfcomm_send_chunked_iff Session.config .initial 0 _ _ hopen hs' (by decide) _).mpr (by decide)⟩

/-- **An MTU of 0 is taken**, and the packet of one byte is never sent. -/
theorem not_rfcomm_send_chunked :
    ∃ s' outs, handler Session.config .initial 4 0 (channelOpened 0) quietEnv = some (s', outs) ∧
      s'.rfcommMtu = 0 ∧ ¬ SentInChunks s'.rfcommMtu [1] (fun _ => 1) := by
  have hopen : ChannelOpened (memByte (channelOpened 0) quietEnv.behind) := ⟨by decide, by decide⟩
  obtain ⟨s', outs, hs', hmtu⟩ := handler_channelOpened Session.config .initial 0 _ _ hopen
  have hzero : s'.rfcommMtu = 0 := by rw [hmtu]; decide
  refine ⟨s', outs, hs', hzero, ?_⟩
  rw [hzero]
  rintro ⟨t, ht, -⟩
  exact not_ends_chunks (by decide) ht

end Showcase.Bt
