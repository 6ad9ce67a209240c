import Mathlib.Tactic.Common
import Showcase.Lib.Reads
import Showcase.Screen.Ipc

/-!
# `Screen.Avcc` — the walk over the parameter sets (`ipcHandleConnection`, `MSG_VIDEO_CONFIG`)

`Screen.Ipc` has the selection of the parameter sets as a function of the payload. Here is the same walk with
the reads it makes and the places it selects (`ps[]`, `psSize[]`), and `AvccRecord`, what it is meant to walk over.

* `ipcVideoConfig_safe` — no payload makes it read outside.
* `ipcVideoConfig_refines` — it selects what `avccSets` selects.
* `ipcVideoConfig_selects` — for which records these are the first two sets: the walk steps over one sequence
  parameter set, so there must be no second one.
-/

namespace Showcase

open Lib Lib.ReadProg

/-- `ps[i]` and `psSize[i]`: an offset from `avcc`, and a length. -/
structure ParameterSpan where
  off : Nat
  size : Nat
deriving DecidableEq

/-- What the handler makes of a configuration. -/
structure VideoConfig where
  w : Bytes
  h : Bytes
  sps : Option ParameterSpan
  pps : Option ParameterSpan
deriving DecidableEq

/-- A length-prefixed parameter set at `off`, when there are `n > 0` of them, and where `off` is then. -/
def parameterSpan (avcc : Int) (avccLen n off : Nat) : ReadProg (Option ParameterSpan × Nat) :=
  if 0 < n ∧ off + 2 ≤ avccLen then do
    let len ← be16 (avcc + off)
    if off + 2 + len ≤ avccLen then return (some ⟨off + 2, len⟩, off + 2 + len)
    else return (none, off + 2)
  else return (none, off)

/-- `ps[1]`, from behind the first set on. -/
def ppsSpan (avcc : Int) (avccLen off : Nat) : ReadProg (Option ParameterSpan) :=
  if off < avccLen then do
    let nPPS ← byte (avcc + off)
    let (pps, _) ← parameterSpan avcc avccLen nPPS.toNat (off + 1)
    return pps
  else return none

/-- `ps[0]` and `ps[1]`. -/
def avccSpans (avcc : Int) (avccLen : Nat) : ReadProg (Option ParameterSpan × Option ParameterSpan) :=
  if 7 ≤ avccLen then do
    let b ← byte (avcc + 5)
    let (sps, off) ← parameterSpan avcc avccLen (b &&& 0x1F).toNat 6
    let pps ← ppsSpan avcc avccLen off
    return (sps, pps)
  else return (none, none)

/-- `type == MSG_VIDEO_CONFIG`; none when `len < 9`. -/
def ipcVideoConfig (payload : Int) (len : Nat) : ReadProg (Option VideoConfig) :=
  if len < 9 then return none
  else do
    let w ← bytes payload 4
    let h ← bytes (payload + 4) 4
    let (sps, pps) ← avccSpans (payload + 8) (len - 8)
    return some ⟨w, h, sps, pps⟩

/-! ## Where it reads -/

section

variable {m : Mem} {avcc payload : Int} {avccLen len n off : Nat}

theorem parameterSpan_safe :
    Safe m (fun i => avcc ≤ i ∧ i < avcc + avccLen) (parameterSpan avcc avccLen n off)
      fun r => ∀ s ∈ r.1, s.off = off + 2 ∧ s.off + s.size ≤ avccLen := by
  unfold parameterSpan
  by_cases hset : 0 < n ∧ off + 2 ≤ avccLen
  · rw [if_pos hset]
    apply Safe.be16_bind ⟨by omega, by omega⟩ ⟨by omega, by omega⟩
    split
    · next hfits =>
        apply Safe.pure
        rintro s hs
        rw [← Option.some.inj hs]
        exact ⟨rfl, hfits⟩
    · exact Safe.pure (fun s hs => nomatch hs)
  · rw [if_neg hset]
    exact Safe.pure (fun s hs => nomatch hs)

theorem ppsSpan_safe :
    Safe m (fun i => avcc ≤ i ∧ i < avcc + avccLen) (ppsSpan avcc avccLen off)
      fun r => ∀ s ∈ r, s.off = off + 3 ∧ s.off + s.size ≤ avccLen := by
  unfold ppsSpan
  by_cases hoff : off < avccLen
  · rw [if_pos hoff]
    apply Safe.byte_bind ⟨by omega, by omega⟩
    apply Safe.bind parameterSpan_safe
    rintro ⟨pps, off'⟩ _ hpps
    exact Safe.pure hpps
  · rw [if_neg hoff]
    exact Safe.pure (fun s hs => nomatch hs)

theorem avccSpans_safe :
    Safe m (fun i => avcc ≤ i ∧ i < avcc + avccLen) (avccSpans avcc avccLen)
      fun r => (∀ s ∈ r.1, s.off + s.size ≤ avccLen) ∧ ∀ s ∈ r.2, s.off + s.size ≤ avccLen := by
  unfold avccSpans
  by_cases hlen : 7 ≤ avccLen
  · rw [if_pos hlen]
    apply Safe.byte_bind ⟨by omega, by omega⟩
    apply Safe.bind parameterSpan_safe
    rintro ⟨sps, off⟩ _ hsps
    apply Safe.bind ppsSpan_safe
    intro pps _ hpps
    exact Safe.pure ⟨fun s hs => (hsps s hs).2, fun s hs => (hpps s hs).2⟩
  · rw [if_neg hlen]
    exact Safe.pure ⟨fun s hs => (nomatch hs), fun s hs => (nomatch hs)⟩

/-- Every byte the handler reads is one of the payload, and so is every byte of the sets it selects. -/
theorem ipcVideoConfig_safe :
    Safe m (fun i => payload ≤ i ∧ i < payload + len) (ipcVideoConfig payload len)
      fun r => ∀ c ∈ r, (∀ s ∈ c.sps, 8 + s.off + s.size ≤ len) ∧ ∀ s ∈ c.pps, 8 + s.off + s.size ≤ len := by
  unfold ipcVideoConfig
  by_cases hlen : len < 9
  · rw [if_pos hlen]
    exact Safe.pure (fun c hc => nomatch hc)
  · rw [if_neg hlen]
    apply Safe.bind (Safe.bytes fun j hj hj' => ⟨by omega, by push_cast at hj'; omega⟩)
    intro w _ _
    apply Safe.bind (Safe.bytes fun j hj hj' => ⟨by omega, by push_cast at hj'; omega⟩)
    intro h _ _
    apply Safe.bind (avccSpans_safe.mono (fun j hj => ⟨by omega, by omega⟩) fun _ h => h)
    rintro ⟨sps, pps⟩ _ ⟨hsps, hpps⟩
    apply Safe.pure
    rintro c hc
    rw [← Option.some.inj hc]
    constructor
    · intro s hs
      have hin : s.off + s.size ≤ len - 8 := hsps s hs
      omega
    · intro s hs
      have hin : s.off + s.size ≤ len - 8 := hpps s hs
      omega

end

/-! ## What it selects -/

/-- The bytes of a set. -/
def ParameterSpan.of (b : Bytes) (s : ParameterSpan) : Bytes := (b.drop s.off).take s.size

/-- `x & 0x1F`, in numbers. -/
theorem and_1F_toNat (x : UInt8) : (x &&& 0x1F).toNat = x.toNat % 32 := by
  rw [UInt8.toNat_and]
  exact Nat.and_two_pow_sub_one_eq_mod x.toNat 5

section

variable {m : Mem} {avcc payload : Int} {b : Bytes} {n off : Nat}

/-- The walk over one set is that of `parameterSet`. -/
theorem run_parameterSpan (hmem : HoldsAt m avcc b) (n off : Nat) :
    ∃ s off', run m (parameterSpan avcc b.length n off) = some (s, off') ∧
      parameterSet b n off = (s.map (ParameterSpan.of b), off') := by
  unfold parameterSpan parameterSet
  by_cases hset : 0 < n ∧ off + 2 ≤ b.length
  · rw [if_pos hset, if_pos hset]
    have hhi : m (avcc + off) = b.getD off 0 := hmem.getD (by omega)
    have hlo : m (avcc + off + 1) = b.getD (off + 1) 0 := by
      rw [← hmem.getD (by omega)]
      congr 1
      omega
    rw [run_bind_of (run_be16 ..), hhi, hlo]
    simp only
    split
    · exact ⟨_, _, rfl, rfl⟩
    · exact ⟨none, _, rfl, rfl⟩
  · rw [if_neg hset, if_neg hset]
    exact ⟨none, _, rfl, rfl⟩

theorem run_ppsSpan (hmem : HoldsAt m avcc b) (off : Nat) :
    ∃ pps, run m (ppsSpan avcc b.length off) = some pps ∧
      (if off < b.length then (parameterSet b (b.getD off 0).toNat (off + 1)).1 else none) =
        pps.map (ParameterSpan.of b) := by
  unfold ppsSpan
  by_cases hoff : off < b.length
  · rw [if_pos hoff, if_pos hoff]
    obtain ⟨pps, off', hpps, hset⟩ := run_parameterSpan hmem (b.getD off 0).toNat (off + 1)
    refine ⟨pps, ?_, by rw [hset]⟩
    rw [run_byte_bind, hmem.getD hoff, run_bind_of hpps, run_pure]
  · rw [if_neg hoff, if_neg hoff]
    exact ⟨none, rfl, rfl⟩

theorem run_avccSpans (hmem : HoldsAt m avcc b) :
    ∃ sps pps, run m (avccSpans avcc b.length) = some (sps, pps) ∧
      avccSets b = (sps.map (ParameterSpan.of b), pps.map (ParameterSpan.of b)) := by
  unfold avccSpans avccSets
  by_cases hlen : 7 ≤ b.length
  · rw [if_pos hlen, if_pos hlen]
    have hcount : (m (avcc + 5) &&& 0x1F).toNat = (b.getD 5 0).toNat % 32 := by
      rw [and_1F_toNat, show avcc + 5 = avcc + (5 : Nat) from rfl, hmem.getD (by omega)]
    obtain ⟨sps, off, hsps, hset⟩ := run_parameterSpan hmem ((b.getD 5 0).toNat % 32) 6
    rw [run_byte_bind, hcount, run_bind_of hsps, hset]
    simp only
    obtain ⟨pps, hpps, hset'⟩ := run_ppsSpan hmem off
    exact ⟨sps, pps, by rw [run_bind_of hpps, run_pure], by rw [hset']⟩
  · rw [if_neg hlen, if_neg hlen]
    exact ⟨none, none, rfl, rfl⟩

/-- The size is read from the front of the payload. -/
theorem run_ipcVideoConfig (hmem : HoldsAt m payload b) (hlen : 9 ≤ b.length)
    {sps pps : Option ParameterSpan} (hrun : run m (avccSpans (payload + 8) (b.length - 8)) = some (sps, pps)) :
    run m (ipcVideoConfig payload b.length) = some (some ⟨b.take 4, (b.drop 4).take 4, sps, pps⟩) := by
  have hw : run m (bytes payload 4) = some (b.take 4) := by
    have hslice := hmem.run_slice (j := 0) (n := 4) (by omega)
    simpa using hslice
  have hh : run m (bytes (payload + 4) 4) = some ((b.drop 4).take 4) :=
    hmem.run_slice (j := 4) (n := 4) (by omega)
  rw [ipcVideoConfig, if_neg (by omega), run_bind_of hw, run_bind_of hh, run_bind_of hrun, run_pure]

/-- The handler selects the sets that `ipcConfig` passes on. -/
theorem ipcVideoConfig_refines (hmem : HoldsAt m payload b) (hlen : 9 ≤ b.length) :
    ∃ sps pps, run m (ipcVideoConfig payload b.length) = some (some ⟨b.take 4, (b.drop 4).take 4, sps, pps⟩) ∧
      avccSets (b.drop 8) = (sps.map (ParameterSpan.of (b.drop 8)), pps.map (ParameterSpan.of (b.drop 8))) := by
  have havcc : HoldsAt m (payload + 8) (b.drop 8) := by
    have hslice := hmem.slice (j := 8) (n := b.length - 8) (by omega)
    rwa [List.take_of_length_le (by rw [List.length_drop])] at hslice
  obtain ⟨sps, pps, hrun, hsets⟩ := run_avccSpans havcc
  rw [List.length_drop] at hrun
  exact ⟨sps, pps, run_ipcVideoConfig hmem hlen hrun, hsets⟩

end

/-! ## Well-formed records

A record is laid out in memory part by part, and the walk is followed along it. With one sequence parameter set it
comes out where the picture parameter sets begin; with a second one it is in front of that. -/

/-- A parameter set behind its length. -/
def parameterSetBytes (set : Bytes) : Bytes := toBE 2 set.length ++ set

theorem parameterSetBytes_length (set : Bytes) : (parameterSetBytes set).length = 2 + set.length := by
  rw [parameterSetBytes, List.length_append, toBE_length]

/-- An AVCC record: a configuration of five bytes, the sequence and the picture parameter sets behind their
numbers, and what a later profile adds. -/
structure AvccRecord where
  configuration : Block 5
  /-- The upper three bits beside the number of sequence parameter sets. -/
  reserved : Fin 8
  sps : List Bytes
  pps : List Bytes
  extension : Bytes
  sps_count : 1 ≤ sps.length ∧ sps.length < 32
  pps_count : 1 ≤ pps.length ∧ pps.length < 256
  set_length : ∀ set ∈ sps ++ pps, set.length < 65536

namespace AvccRecord

def encode (r : AvccRecord) : Bytes :=
  r.configuration.val ++ UInt8.ofNat (r.reserved * 32 + r.sps.length) ::
    (r.sps.flatMap parameterSetBytes ++ UInt8.ofNat r.pps.length :: (r.pps.flatMap parameterSetBytes ++ r.extension))

/-- Where the first sequence parameter set is. -/
def firstSps (r : AvccRecord) : ParameterSpan := ⟨8, (r.sps.headD []).length⟩

/-- Where the first picture parameter set is. -/
def firstPps (r : AvccRecord) : ParameterSpan :=
  ⟨6 + (r.sps.flatMap parameterSetBytes).length + 3, (r.pps.headD []).length⟩

/-- The record up to the first sequence parameter set, that set, and what follows. -/
theorem exists_firstSps (r : AvccRecord) :
    ∃ sps rest, r.sps = sps :: rest ∧ sps.length < 65536 ∧
      r.encode = r.configuration.val ++ UInt8.ofNat (r.reserved * 32 + r.sps.length) :: (parameterSetBytes sps ++
        (rest.flatMap parameterSetBytes ++
          UInt8.ofNat r.pps.length :: (r.pps.flatMap parameterSetBytes ++ r.extension))) := by
  rcases hsps : r.sps with _ | ⟨sps, rest⟩
  · exact absurd r.sps_count.1 (by rw [hsps]; decide)
  · refine ⟨sps, rest, rfl, r.set_length sps (by rw [hsps]; simp), ?_⟩
    rw [encode, hsps, List.flatMap_cons, List.append_assoc]

theorem exists_firstPps (r : AvccRecord) :
    ∃ pps rest, r.pps = pps :: rest ∧ pps.length < 65536 := by
  rcases hpps : r.pps with _ | ⟨pps, rest⟩
  · exact absurd r.pps_count.1 (by rw [hpps]; decide)
  · exact ⟨pps, rest, rfl, r.set_length pps (by rw [hpps]; simp)⟩

theorem le_length (r : AvccRecord) : 8 ≤ r.encode.length := by
  obtain ⟨sps, rest, -, -, hencode⟩ := r.exists_firstSps
  rw [hencode, List.length_append, r.configuration.property, List.length_cons, List.length_append,
    parameterSetBytes_length]
  omega

end AvccRecord

section

variable {m : Mem} {avcc payload : Int} {avccLen n off : Nat} {set rest : Bytes}

/-- A set that is there is found, and stepped over. -/
theorem run_parameterSpan_set (hn : 0 < n) (hset : set.length < 65536)
    (hmem : HoldsAt m (avcc + off) (parameterSetBytes set)) (hlen : off + (2 + set.length) ≤ avccLen) :
    run m (parameterSpan avcc avccLen n off) = some (some ⟨off + 2, set.length⟩, off + (2 + set.length)) := by
  obtain ⟨hfront, -⟩ := HoldsAt.append_iff.mp hmem
  rw [parameterSpan, if_pos ⟨hn, by omega⟩, run_bind_of (hfront.run_be16 hset)]
  rw [if_pos (by omega), run_pure, Nat.add_assoc]

/-- The number of sequence parameter sets is read back from the byte they share with the reserved bits. -/
theorem AvccRecord.count_toNat (r : AvccRecord) :
    (UInt8.ofNat (r.reserved * 32 + r.sps.length) &&& 0x1F).toNat = r.sps.length := by
  have hcount := r.sps_count.2
  rw [and_1F_toNat, UInt8.toNat_ofNat']
  omega

/-- What lies where: the number of sets, the first of them, and what follows it. -/
theorem AvccRecord.holds_parts {r : AvccRecord} {sps tail : Bytes}
    (hencode : r.encode = r.configuration.val ++
      UInt8.ofNat (r.reserved * 32 + r.sps.length) :: (parameterSetBytes sps ++ tail))
    (hmem : HoldsAt m avcc r.encode) :
    m (avcc + 5) = UInt8.ofNat (r.reserved * 32 + r.sps.length) ∧
      HoldsAt m (avcc + (6 : Nat)) (parameterSetBytes sps) ∧ HoldsAt m (avcc + (8 + sps.length : Nat)) tail ∧
        r.encode.length = 8 + sps.length + tail.length := by
  rw [hencode] at hmem ⊢
  have hconf := r.configuration.property
  obtain ⟨-, hrest⟩ := HoldsAt.append_iff.mp hmem
  obtain ⟨hcount, hrest⟩ := HoldsAt.cons_iff.mp hrest
  obtain ⟨hset, htail⟩ := HoldsAt.append_iff.mp hrest
  rw [hconf] at hcount hset htail
  rw [parameterSetBytes_length] at htail
  refine ⟨hcount, ?_, ?_, ?_⟩
  · rwa [Int.add_assoc] at hset
  · rwa [show avcc + (5 : Nat) + 1 + ((2 + sps.length : Nat) : Int) = avcc + (8 + sps.length : Nat) by
      push_cast; ring] at htail
  · rw [List.length_append, List.length_cons, List.length_append, parameterSetBytes_length, hconf]
    omega

/-- The first sequence parameter set is always the one selected, and the picture parameter sets are looked for
behind it. -/
theorem run_avccSpans_sps (r : AvccRecord) (hmem : HoldsAt m avcc r.encode) {pps : Option ParameterSpan}
    (hpps : run m (ppsSpan avcc r.encode.length (8 + (r.sps.headD []).length)) = some pps) :
    run m (avccSpans avcc r.encode.length) = some (some r.firstSps, pps) := by
  obtain ⟨sps, more, hsps, hsize, hencode⟩ := r.exists_firstSps
  obtain ⟨hcount, hset, htail, hlen⟩ := AvccRecord.holds_parts hencode hmem
  have hhead : r.sps.headD [] = sps := by rw [hsps]; rfl
  have hspan := run_parameterSpan_set r.sps_count.1 hsize hset (show 6 + (2 + sps.length) ≤ r.encode.length by omega)
  rw [hhead, show 8 + sps.length = 6 + (2 + sps.length) by omega] at hpps
  rw [avccSpans, if_pos (by omega), run_byte_bind, hcount, r.count_toNat, run_bind_of hspan]
  simp only
  rw [run_bind_of hpps, run_pure, AvccRecord.firstSps, hhead]

/-- With one sequence parameter set the first picture parameter set is found behind it. -/
theorem run_ppsSpan_one (r : AvccRecord) (hmem : HoldsAt m avcc r.encode) (hone : r.sps.length = 1) :
    run m (ppsSpan avcc r.encode.length (8 + (r.sps.headD []).length)) = some (some r.firstPps) := by
  obtain ⟨sps, more, hsps, hsize, hencode⟩ := r.exists_firstSps
  obtain ⟨pps, more', hpps, hsize'⟩ := r.exists_firstPps
  obtain ⟨-, -, htail, hlen⟩ := AvccRecord.holds_parts hencode hmem
  obtain rfl : more = [] := by
    rw [hsps] at hone
    simpa using hone
  rw [List.flatMap_nil, List.nil_append, hpps, List.flatMap_cons, List.append_assoc] at htail hlen
  obtain ⟨hcount, hrest⟩ := HoldsAt.cons_iff.mp htail
  obtain ⟨hset, -⟩ := HoldsAt.append_iff.mp hrest
  rw [List.length_cons, List.length_append, parameterSetBytes_length] at hlen
  have hmore : 0 < (UInt8.ofNat r.pps.length).toNat := by
    obtain ⟨hpos, hlt⟩ := r.pps_count
    rw [UInt8.toNat_ofNat']
    omega
  rw [hpps] at hmore
  have hmempps : HoldsAt m (avcc + (8 + sps.length + 1 : Nat)) (parameterSetBytes pps) := by
    push_cast
    rwa [← Int.add_assoc]
  have hspan := run_parameterSpan_set hmore hsize' hmempps
    (show 8 + sps.length + 1 + (2 + pps.length) ≤ r.encode.length by omega)
  have hhead : r.sps.headD [] = sps := by rw [hsps]; rfl
  have hfirst : r.firstPps = ⟨8 + sps.length + 1 + 2, pps.length⟩ := by
    rw [AvccRecord.firstPps, hsps, hpps, List.flatMap_cons, List.flatMap_nil, List.append_nil,
      parameterSetBytes_length]
    congr 1
    omega
  rw [hhead, ppsSpan, if_pos (by omega), run_byte_bind, hcount, run_bind_of hspan, run_pure, hfirst]

/-- The places selected are those of the first sets when there is one sequence parameter set; the second of more
would be taken for the number of picture parameter sets. -/
theorem run_avccSpans_iff (r : AvccRecord) (hmem : HoldsAt m avcc r.encode) :
    run m (avccSpans avcc r.encode.length) = some (some r.firstSps, some r.firstPps) ↔ r.sps.length = 1 := by
  constructor
  · intro hrun
    obtain ⟨pps, hpps, -⟩ := run_ppsSpan hmem (8 + (r.sps.headD []).length)
    rw [run_avccSpans_sps r hmem hpps] at hrun
    obtain rfl : pps = some r.firstPps := (Prod.mk.inj (Option.some.inj hrun)).2
    have hplace : r.firstPps.off = 8 + (r.sps.headD []).length + 3 := (ppsSpan_safe.2 _ hpps _ rfl).1
    obtain ⟨sps, more, hsps, -, -⟩ := r.exists_firstSps
    rw [AvccRecord.firstPps, hsps, List.flatMap_cons, List.length_append, parameterSetBytes_length,
      List.headD_cons] at hplace
    simp only at hplace
    cases more with
    | nil => rw [hsps, List.length_singleton]
    | cons sps' more =>
        rw [List.flatMap_cons, List.length_append, parameterSetBytes_length] at hplace
        omega
  · intro hone
    exact run_avccSpans_sps r hmem (run_ppsSpan_one r hmem hone)

end

/-- The handler reads nothing outside the payload, and of a well-formed record it selects the first sequence and
the first picture parameter set just when there is one of the former. -/
theorem ipcVideoConfig_selects (m : Mem) (payload : Int) :
    (∀ len, ∀ i ∈ reads m (ipcVideoConfig payload len), payload ≤ i ∧ i < payload + len) ∧
      ∀ (size : Block 8) (r : AvccRecord), HoldsAt m payload (size.val ++ r.encode) →
        ((∃ w h, run m (ipcVideoConfig payload (size.val ++ r.encode).length) =
            some (some ⟨w, h, some r.firstSps, some r.firstPps⟩)) ↔ r.sps.length = 1) := by
  refine ⟨fun len => ipcVideoConfig_safe.1, ?_⟩
  intro size r hmem
  have hsize := size.property
  have havcc : HoldsAt m (payload + 8) r.encode := by
    have hrest := (HoldsAt.append_iff.mp hmem).2
    rwa [hsize] at hrest
  have hlength : (size.val ++ r.encode).length = 8 + r.encode.length := by rw [List.length_append, hsize]
  have hlen : 8 ≤ r.encode.length := r.le_length
  obtain ⟨sps, pps, hrun, -⟩ := run_avccSpans havcc
  have hconfig := run_ipcVideoConfig hmem (by omega) (by rwa [hlength, Nat.add_sub_cancel_left])
  rw [hconfig, ← run_avccSpans_iff r havcc, hrun]
  constructor
  · rintro ⟨w, h, heq⟩
    cases heq
    rfl
  · intro heq
    cases heq
    exact ⟨_, _, rfl⟩

/-- A record with one set of each kind. -/
def oneSpsRecord : AvccRecord where
  configuration := ⟨[1, 0x64, 0, 0x1F, 0xFF], rfl⟩
  reserved := 7
  sps := [[0x67, 0x64]]
  pps := [[0x68]]
  extension := []
  sps_count := by decide
  pps_count := by decide
  set_length := by decide

/-- A record with two sequence parameter sets and a picture parameter set. -/
def twoSpsRecord : AvccRecord where
  configuration := ⟨[1, 0x64, 0, 0x1F, 0xFF], rfl⟩
  reserved := 7
  sps := [[0x67, 0x64], [0x67, 0x4D]]
  pps := [[0x68]]
  extension := []
  sps_count := by decide
  pps_count := by decide
  set_length := by decide

/-- A size in front of a record; its bytes play no part in the walk. -/
def anySize : Block 8 := Block.zero 8

theorem oneSps_selected :
    ∃ w h, run (memoryOf (anySize.val ++ oneSpsRecord.encode))
        (ipcVideoConfig 0 (anySize.val ++ oneSpsRecord.encode).length) =
      some (some ⟨w, h, some ⟨8, 2⟩, some ⟨13, 1⟩⟩) :=
  ((ipcVideoConfig_selects _ 0).2 anySize oneSpsRecord (holds_memoryOf _)).mpr rfl

/-- Of the two sequence parameter sets the first is selected; the picture parameter set is not found. -/
theorem twoSps_not_selected :
    ¬ ∀ (m : Mem) (payload : Int) (size : Block 8) (r : AvccRecord), HoldsAt m payload (size.val ++ r.encode) →
      ∃ w h, run m (ipcVideoConfig payload (size.val ++ r.encode).length) =
        some (some ⟨w, h, some r.firstSps, some r.firstPps⟩) := by
  intro hall
  obtain ⟨w, h, hrun⟩ := hall _ 0 anySize twoSpsRecord (holds_memoryOf _)
  have hvalue : run (memoryOf (anySize.val ++ twoSpsRecord.encode))
      (ipcVideoConfig 0 (anySize.val ++ twoSpsRecord.encode).length) =
        some (some ⟨[0, 0, 0, 0], [0, 0, 0, 0], some ⟨8, 2⟩, none⟩) := by decide
  rw [hvalue] at hrun
  cases hrun

end Showcase
