import Showcase.Btstack.SocketConnection
import Showcase.Lib.Crc
import Showcase.Lib.Decoder

/-!
# `Btstack.RfcommFrames` — the frames of `rfcomm.c`

Frames of GSM 07.10 as RFCOMM uses them: address, control, a length of one or two octets, credits in a UIH frame with
the P/F bit, data, and a checksum over the first two to four octets.

## Contents
- `crc8`, `btstackCrc8Calc`, `btstackCrc8Check` — the checksum of `btstack_util.c`, from its table.
- **`crc8_bitwise`**, `crc8_changed` — it is the one of the polynomial, and sees every changed octet.
- `rfcommSendPacketForMultiplexer`, `rfcommSendUihPrepared` — the two functions that build a frame.
- `decodeFrame` — a frame as the standard has it, and **`frame_decoded`**, `uihPrepared_decoded`.
- `rfcommUihFields` — what the receiving side of `rfcomm.c` reads, and **`uihFields_of_decoded`**.
-/

namespace Showcase.Btstack

open Lib Decoder

/-! ## The checksum -/

/-- `crc8table`. -/
def crc8table : List UInt8 := [
  0x00, 0x91, 0xE3, 0x72, 0x07, 0x96, 0xE4, 0x75, 0x0E, 0x9F, 0xED, 0x7C, 0x09, 0x98, 0xEA, 0x7B,
  0x1C, 0x8D, 0xFF, 0x6E, 0x1B, 0x8A, 0xF8, 0x69, 0x12, 0x83, 0xF1, 0x60, 0x15, 0x84, 0xF6, 0x67,
  0x38, 0xA9, 0xDB, 0x4A, 0x3F, 0xAE, 0xDC, 0x4D, 0x36, 0xA7, 0xD5, 0x44, 0x31, 0xA0, 0xD2, 0x43,
  0x24, 0xB5, 0xC7, 0x56, 0x23, 0xB2, 0xC0, 0x51, 0x2A, 0xBB, 0xC9, 0x58, 0x2D, 0xBC, 0xCE, 0x5F,
  0x70, 0xE1, 0x93, 0x02, 0x77, 0xE6, 0x94, 0x05, 0x7E, 0xEF, 0x9D, 0x0C, 0x79, 0xE8, 0x9A, 0x0B,
  0x6C, 0xFD, 0x8F, 0x1E, 0x6B, 0xFA, 0x88, 0x19, 0x62, 0xF3, 0x81, 0x10, 0x65, 0xF4, 0x86, 0x17,
  0x48, 0xD9, 0xAB, 0x3A, 0x4F, 0xDE, 0xAC, 0x3D, 0x46, 0xD7, 0xA5, 0x34, 0x41, 0xD0, 0xA2, 0x33,
  0x54, 0xC5, 0xB7, 0x26, 0x53, 0xC2, 0xB0, 0x21, 0x5A, 0xCB, 0xB9, 0x28, 0x5D, 0xCC, 0xBE, 0x2F,
  0xE0, 0x71, 0x03, 0x92, 0xE7, 0x76, 0x04, 0x95, 0xEE, 0x7F, 0x0D, 0x9C, 0xE9, 0x78, 0x0A, 0x9B,
  0xFC, 0x6D, 0x1F, 0x8E, 0xFB, 0x6A, 0x18, 0x89, 0xF2, 0x63, 0x11, 0x80, 0xF5, 0x64, 0x16, 0x87,
  0xD8, 0x49, 0x3B, 0xAA, 0xDF, 0x4E, 0x3C, 0xAD, 0xD6, 0x47, 0x35, 0xA4, 0xD1, 0x40, 0x32, 0xA3,
  0xC4, 0x55, 0x27, 0xB6, 0xC3, 0x52, 0x20, 0xB1, 0xCA, 0x5B, 0x29, 0xB8, 0xCD, 0x5C, 0x2E, 0xBF,
  0x90, 0x01, 0x73, 0xE2, 0x97, 0x06, 0x74, 0xE5, 0x9E, 0x0F, 0x7D, 0xEC, 0x99, 0x08, 0x7A, 0xEB,
  0x8C, 0x1D, 0x6F, 0xFE, 0x8B, 0x1A, 0x68, 0xF9, 0x82, 0x13, 0x61, 0xF0, 0x85, 0x14, 0x66, 0xF7,
  0xA8, 0x39, 0x4B, 0xDA, 0xAF, 0x3E, 0x4C, 0xDD, 0xA6, 0x37, 0x45, 0xD4, 0xA1, 0x30, 0x42, 0xD3,
  0xB4, 0x25, 0x57, 0xC6, 0xB3, 0x22, 0x50, 0xC1, 0xBA, 0x2B, 0x59, 0xC8, 0xBD, 0x2C, 0x5E, 0xCF]

/-- `CRC8_INIT` and `CRC8_OK`. -/
def crc8Init : UInt8 := 0xFF
def crc8Ok : UInt8 := 0xCF

/-- An entry of the table. -/
def crc8Entry (i : UInt8) : UInt8 := crc8table.getD i.toNat 0

/-- `crc8`. -/
def crc8 (data : Bytes) : UInt8 := data.foldl (fun crc b => crc8Entry (crc ^^^ b)) crc8Init

/-- `btstack_crc8_calc`. -/
def btstackCrc8Calc (data : Bytes) : UInt8 := 0xFF - crc8 data

/-- `btstack_crc8_check`. -/
def btstackCrc8Check (data : Bytes) (checkSum : UInt8) : UInt8 :=
  if crc8Entry (crc8 data ^^^ checkSum) = crc8Ok then 0 else 1

/-- `BT_RFCOMM_CODE_WORD`, "pol = x8+x2+x1+1". -/
def btRfcommCodeWord : BitVec 8 := 0xE0#8

/-- The register of the standard takes an octet, one bit after the other. -/
def crcTakeOctet (c : BitVec 8) (b : UInt8) : BitVec 8 := Crc.takeBits btRfcommCodeWord 8 c b.toBitVec

theorem crc8Entry_fin : ∀ i : Fin 256, (crc8table.getD i.val 0).toBitVec =
    Crc.shifts btRfcommCodeWord 8 (BitVec.ofFin i) := by
  decide +kernel

/-- The table holds eight shifts of every octet. -/
theorem crc8Entry_eq (i : UInt8) : (crc8Entry i).toBitVec = Crc.shifts btRfcommCodeWord 8 i.toBitVec :=
  crc8Entry_fin i.toFin

/-- **The table and the bits agree.** -/
theorem crc8_bitwise (data : Bytes) : (crc8 data).toBitVec = data.foldl crcTakeOctet 0xFF#8 := by
  have hloop : ∀ (data : Bytes) (c : UInt8),
      (data.foldl (fun crc b => crc8Entry (crc ^^^ b)) c).toBitVec = data.foldl crcTakeOctet c.toBitVec := by
    intro data
    induction data with
    | nil => exact fun _ => rfl
    | cons b data ih =>
        intro c
        rw [List.foldl_cons, ih, List.foldl_cons, crc8Entry_eq, UInt8.toBitVec_xor, crcTakeOctet,
          Crc.takeBits_eq_shifts]
  exact hloop data crc8Init

theorem crc8Entry_injective : Function.Injective crc8Entry := by
  intro i j h
  have hshift := congrArg UInt8.toBitVec h
  rw [crc8Entry_eq, crc8Entry_eq] at hshift
  exact UInt8.toBitVec_inj.mp (Crc.shifts_injective (by decide) 8 hshift)

/-- `0xFFu - crc` is the complement. -/
theorem crc8Calc_xor (data : Bytes) : btstackCrc8Calc data = 0xFF ^^^ crc8 data := by
  apply UInt8.toBitVec_inj.mp
  rw [UInt8.toBitVec_xor]
  exact (BitVec.allOnes_sub_eq_not _).trans BitVec.allOnes_xor.symm

/-- The check accepts what was calculated, and nothing else. -/
theorem crc8Check_iff (data : Bytes) (checkSum : UInt8) :
    btstackCrc8Check data checkSum = 0 ↔ checkSum = btstackCrc8Calc data := by
  have hok : crc8Ok = crc8Entry 0xFF := rfl
  have hcancel : crc8 data ^^^ (0xFF ^^^ crc8 data) = 0xFF := by
    rw [UInt8.xor_comm 0xFF, ← UInt8.xor_assoc, UInt8.xor_self, UInt8.zero_xor]
  rw [crc8Calc_xor]
  unfold btstackCrc8Check
  constructor
  · intro h
    split at h
    · rename_i hentry
      rw [hok, ← hcancel] at hentry
      exact (UInt8.xor_right_inj _).mp (crc8Entry_injective hentry)
    · cases h
  · rintro rfl
    rw [hcancel, if_pos hok.symm]

/-- **A changed octet** gives another checksum. -/
theorem crc8_changed (a t : Bytes) {x y : UInt8} (h : x ≠ y) :
    btstackCrc8Calc (a ++ x :: t) ≠ btstackCrc8Calc (a ++ y :: t) := by
  rw [crc8Calc_xor, crc8Calc_xor]
  intro heq
  refine Crc.foldl_ne ?_ ?_ crc8Init a t h ((UInt8.xor_right_inj _).mp heq)
  · exact fun b c d hcd => (UInt8.xor_left_inj b).mp (crc8Entry_injective hcd)
  · exact fun c b d hbd => (UInt8.xor_right_inj c).mp (crc8Entry_injective hbd)

/-! ## Building frames -/

def btRfcommUih : UInt8 := 0xEF
def btRfcommUihPf : UInt8 := 0xFF

/-- The length field: "can be 1 or 2 octets". -/
def lengthField (len : Nat) : Bytes :=
  if len < 128 then [UInt8.ofNat (2 * len + 1)]
  else [UInt8.ofNat (2 * (len % 128)), UInt8.ofNat (len / 128)]

/-- The octets that the checksum is calculated over. -/
def crcFields (control : UInt8) (len : Nat) : Nat :=
  if control &&& 0xef = btRfcommUih then 2 else if len < 128 then 3 else 4

/-- The frame of `rfcomm_send_packet_for_multiplexer`. -/
def rfcommSendPacketForMultiplexer (address control credits : UInt8) (data : Bytes) : Bytes :=
  let frame := [address, control] ++ lengthField data.length ++ (if control = btRfcommUihPf then [credits] else []) ++
    data
  frame ++ [btstackCrc8Calc (frame.take (crcFields control data.length))]

/-- The frame of `rfcomm_send_uih_prepared`: "UIH, 2 byte len, no credits". -/
def rfcommSendUihPrepared (address : UInt8) (data : Bytes) : Bytes :=
  let frame := [address, btRfcommUih, UInt8.ofNat (2 * (data.length % 128)), UInt8.ofNat (data.length / 128)] ++ data
  frame ++ [btstackCrc8Calc (frame.take 2)]

/-- The address of the UIH frames of a channel. -/
def uihAddress (outgoing : Bool) (dlci : UInt8) : UInt8 := (1 : UInt8) ||| (if outgoing then (2 : UInt8) else 0) ||| (dlci <<< 2)

/-! ## Frames of the standard -/

/-- What a frame carries. -/
structure RfcommFrame where
  address : UInt8
  control : UInt8
  credits : Option UInt8
  data : Bytes
deriving DecidableEq

/-- A length field, with its octets: the lowest bit of the first one says that it is the only one. -/
def frameLength : Decoder (Bytes × Nat) := do
  let l ← byte
  if l.toNat % 2 = 1 then return ([l], l.toNat / 2)
  else
    let h ← byte
    return ([l, h], l.toNat / 2 + 128 * h.toNat)

/-- The credits of a UIH frame with the P/F bit. -/
def frameCredits (control : UInt8) : Decoder (Option UInt8) :=
  if control = btRfcommUihPf then do return some (← byte) else return none

/-- The frame check sequence of the standard. -/
def frameCheck (octets : Bytes) : UInt8 := UInt8.ofBitVec (~~~ octets.foldl crcTakeOctet 0xFF#8)

/-- What the frame check sequence of a frame protects. -/
def checkedOctets (address control : UInt8) (length : Bytes) : Bytes :=
  [address, control] ++ if control = btRfcommUih ∨ control = btRfcommUihPf then [] else length

/-- A frame. -/
def rfcommFrame : Decoder RfcommFrame := do
  let address ← byte
  let control ← byte
  let (length, len) ← frameLength
  let credits ← frameCredits control
  let data ← bytes len
  let check ← byte
  if check = frameCheck (checkedOctets address control length) then return ⟨address, control, credits, data⟩
  else failure

def decodeFrame (b : Bytes) : Option RfcommFrame := whole rfcommFrame b

/-- The table and the standard calculate the same. -/
theorem frameCheck_eq (octets : Bytes) : frameCheck octets = btstackCrc8Calc octets := by
  rw [crc8Calc_xor]
  apply UInt8.toBitVec_inj.mp
  rw [UInt8.toBitVec_xor, frameCheck, crc8_bitwise]
  exact BitVec.allOnes_xor.symm

/-- The form with two octets is read back, whatever the length. -/
theorem twoOctets_reads {len : Nat} (h : len < 2 ^ 15) :
    Reads frameLength [UInt8.ofNat (2 * (len % 128)), UInt8.ofNat (len / 128)]
      ([UInt8.ofNat (2 * (len % 128)), UInt8.ofNat (len / 128)], len) := by
  have hlow : (UInt8.ofNat (2 * (len % 128))).toNat = 2 * (len % 128) :=
    UInt8.toNat_ofNat_of_lt' (show 2 * (len % 128) < 256 by omega)
  have hhigh : (UInt8.ofNat (len / 128)).toNat = len / 128 :=
    UInt8.toNat_ofNat_of_lt' (show len / 128 < 256 by omega)
  show Reads frameLength ([UInt8.ofNat (2 * (len % 128))] ++ ([UInt8.ofNat (len / 128)] ++ [])) _
  refine (Reads.byte _).bind ?_
  rw [hlow, if_neg (by omega)]
  refine (Reads.byte _).bind ?_
  rw [hhigh, show 2 * (len % 128) / 2 + 128 * (len / 128) = len by omega]
  exact Reads.pure _

/-- The form that is chosen is read back. -/
theorem lengthField_reads {len : Nat} (h : len < 2 ^ 15) : Reads frameLength (lengthField len) (lengthField len, len) := by
  unfold lengthField
  split
  · have hval : (UInt8.ofNat (2 * len + 1)).toNat = 2 * len + 1 :=
      UInt8.toNat_ofNat_of_lt' (show 2 * len + 1 < 256 by omega)
    show Reads frameLength ([UInt8.ofNat (2 * len + 1)] ++ []) _
    refine (Reads.byte _).bind ?_
    rw [hval, if_pos (by omega), show (2 * len + 1) / 2 = len by omega]
    exact Reads.pure _
  · exact twoOctets_reads h

/-- A frame that `rfcomm_send_packet_for_multiplexer` or `rfcomm_send_uih_prepared` builds, in the form in which it is
    decoded. -/
theorem frame_reads {address control check : UInt8} {length data : Bytes} (credits : Option UInt8)
    (hlength : Reads frameLength length (length, data.length)) (hcredits : credits.isSome ↔ control = btRfcommUihPf)
    (hcheck : check = frameCheck (checkedOctets address control length)) :
    decodeFrame ([address] ++ ([control] ++ (length ++ (credits.toList ++ (data ++ ([check] ++ [])))))) =
      some ⟨address, control, credits, data⟩ := by
  refine Reads.whole ((Reads.byte _).bind ((Reads.byte _).bind (hlength.bind (Reads.bind (a := credits) ?_
    ((Reads.bytes rfl).bind ((Reads.byte _).bind ?_))))))
  · unfold frameCredits
    cases credits with
    | none =>
        rw [if_neg (fun h => by simpa using hcredits.mpr h)]
        exact Reads.pure _
    | some c =>
        rw [if_pos (hcredits.mp rfl)]
        exact (Reads.byte c).map
  · rw [if_pos hcheck]
    exact Reads.pure _

theorem uih_iff_fin : ∀ i : Fin 256, UInt8.ofFin i &&& 0xef = btRfcommUih ↔
    UInt8.ofFin i = btRfcommUih ∨ UInt8.ofFin i = btRfcommUihPf := by
  decide +kernel

/-- The mask finds the UIH frames with and without the P/F bit. -/
theorem uih_iff (control : UInt8) :
    control &&& 0xef = btRfcommUih ↔ control = btRfcommUih ∨ control = btRfcommUihPf :=
  uih_iff_fin control.toFin

/-- The octets under the checksum are those that the standard protects. -/
theorem take_crcFields (address control credits : UInt8) (data : Bytes) :
    ([address, control] ++ lengthField data.length ++ (if control = btRfcommUihPf then [credits] else []) ++
      data).take (crcFields control data.length) = checkedOctets address control (lengthField data.length) := by
  have huih : control &&& 0xef = btRfcommUih ↔ control = btRfcommUih ∨ control = btRfcommUihPf := uih_iff control
  unfold crcFields checkedOctets
  by_cases h : control = btRfcommUih ∨ control = btRfcommUihPf
  · rw [if_pos (huih.mpr h), if_pos h]
    rfl
  · rw [if_neg (fun hc => h (huih.mp hc)), if_neg h]
    have hlen : ([address, control] ++ lengthField data.length).length = if data.length < 128 then 3 else 4 := by
      unfold lengthField
      split
      · rfl
      · rfl
    rw [List.append_assoc _ _ data, List.take_append_of_le_length (Nat.le_of_eq hlen.symm), ← hlen, List.take_length]

/-- **What is built is decoded**, with any address and control field, and up to 32767 bytes of data. -/
theorem frame_decoded (address control credits : UInt8) {data : Bytes} (hlen : data.length < 2 ^ 15) :
    decodeFrame (rfcommSendPacketForMultiplexer address control credits data) =
      some ⟨address, control, if control = btRfcommUihPf then some credits else none, data⟩ := by
  have hsome : (if control = btRfcommUihPf then some credits else none).isSome ↔ control = btRfcommUihPf := by
    split
    · rename_i h
      exact iff_of_true rfl h
    · rename_i h
      exact iff_of_false Bool.false_ne_true h
  have hlist : (if control = btRfcommUihPf then some credits else none).toList =
      if control = btRfcommUihPf then [credits] else [] := by
    split
    · rfl
    · rfl
  rw [← frame_reads _ (lengthField_reads hlen) hsome rfl, frameCheck_eq, ← take_crcFields address control credits,
    hlist]
  simp [rfcommSendPacketForMultiplexer]

/-- A prepared frame is decoded too, with two octets of length whatever it carries. -/
theorem uihPrepared_decoded (address : UInt8) {data : Bytes} (hlen : data.length < 2 ^ 15) :
    decodeFrame (rfcommSendUihPrepared address data) = some ⟨address, btRfcommUih, none, data⟩ := by
  have hne : btRfcommUih ≠ btRfcommUihPf := by decide
  rw [← frame_reads none (twoOctets_reads hlen) (iff_of_false Bool.false_ne_true hne) rfl, frameCheck_eq,
    checkedOctets, if_pos (.inl rfl)]
  simp [rfcommSendUihPrepared]

/-! ## What the receiving side reads

The receiving side looks at fixed places of the packet, the standard decodes it from the front. A decoded frame is the
octets of its fields, and there the two meet. -/

/-- What `rfcomm_channel_packet_handler_uih` takes from a packet. -/
structure UihFields where
  dlci : UInt8
  newCredits : Option UInt8
  payload : Option Bytes
deriving DecidableEq

/-- The fields of a packet in `rfcomm_channel_packet_handler_uih`; the payload ends in front of the last octet,
    whatever the length field says. -/
def rfcommUihFields (packet : Bytes) : UihFields :=
  let lengthOffset := if packet.getD 2 0 &&& 1 = 1 then 0 else 1
  let creditOffset := if packet.getD 1 0 &&& btRfcommUihPf = btRfcommUihPf then 1 else 0
  let payloadOffset := 3 + lengthOffset + creditOffset
  { dlci := packet.getD 0 0 >>> 2
    newCredits := if packet.getD 1 0 = btRfcommUihPf then some (packet.getD (3 + lengthOffset) 0) else none
    payload := if payloadOffset < packet.length - 1 then
        some ((packet.drop payloadOffset).take (packet.length - payloadOffset - 1))
      else none }

theorem odd_iff (l : UInt8) : l.toNat % 2 = 1 ↔ l &&& 1 = 1 := by
  rw [← UInt8.toNat_inj, UInt8.toNat_and]
  show _ ↔ l.toNat &&& 1 = 1
  rw [Nat.and_one_is_mod]

/-- The octets of a length field: the first of two is even. -/
theorem only_frameLength : Only frameLength fun b r => b = r.1 ∧
    ((∃ l : UInt8, r.1 = [l] ∧ l &&& 1 = 1) ∨ ∃ l h : UInt8, r.1 = [l, h] ∧ l &&& 1 ≠ 1) := by
  refine (Only.byte.bind (S := fun l b r => (l &&& 1 = 1 ∧ b = [] ∧ r.1 = [l]) ∨
    (l &&& 1 ≠ 1 ∧ ∃ h, b = [h] ∧ r.1 = [l, h])) fun l => ?_).mono ?_
  · by_cases hodd : l &&& 1 = 1
    · rw [if_pos ((odd_iff l).mpr hodd)]
      exact (Only.pure _).mono fun b r hr => .inl ⟨hodd, hr.1, by rw [hr.2]⟩
    · rw [if_neg (fun h => hodd ((odd_iff l).mp h))]
      refine (Only.byte.bind fun h => Only.pure _).mono ?_
      rintro b r ⟨b₁, h, b₂, rfl, ⟨rfl, rfl⟩, rfl⟩
      exact .inr ⟨hodd, h, rfl, rfl⟩
  · rintro b r ⟨b₁, l, b₂, rfl, ⟨hodd, rfl, hr⟩ | ⟨heven, h, rfl, hr⟩, rfl⟩
    · exact ⟨by rw [hr]; rfl, .inl ⟨l, hr, hodd⟩⟩
    · exact ⟨by rw [hr]; rfl, .inr ⟨l, h, hr, heven⟩⟩

theorem only_frameCredits (control : UInt8) :
    Only (frameCredits control) fun b c => b = c.toList ∧ (c.isSome ↔ control = btRfcommUihPf) := by
  unfold frameCredits
  split
  · rename_i hpf
    refine (Only.byte.bind fun c => Only.pure _).mono ?_
    rintro b c ⟨b₁, c', b₂, rfl, ⟨rfl, rfl⟩, rfl⟩
    exact ⟨rfl, iff_of_true rfl hpf⟩
  · rename_i hpf
    refine (Only.pure _).mono ?_
    rintro b c ⟨rfl, rfl⟩
    exact ⟨rfl, iff_of_false Bool.false_ne_true hpf⟩

/-- Every frame is the octets of its fields, and a checksum. -/
theorem decodeFrame_octets {b : Bytes} {f : RfcommFrame} (h : decodeFrame b = some f) :
    ∃ length check, b = [f.address, f.control] ++ length ++ f.credits.toList ++ f.data ++ [check] ∧
      (f.credits.isSome ↔ f.control = btRfcommUihPf) ∧
      ((∃ l : UInt8, length = [l] ∧ l &&& 1 = 1) ∨ ∃ l h : UInt8, length = [l, h] ∧ l &&& 1 ≠ 1) := by
  have honly := Only.byte.bind fun address => Only.byte.bind fun control => only_frameLength.bind fun r =>
    (only_frameCredits control).bind fun credits => (Only.bytes r.2).bind fun data => Only.byte.bind fun check =>
      (show Only (if check = frameCheck (checkedOctets address control r.1) then
          (return ⟨address, control, credits, data⟩ : Decoder RfcommFrame) else failure)
        (fun b f => b = [] ∧ f = ⟨address, control, credits, data⟩) by
          split
          · exact Only.pure _
          · exact Only.failure.mono fun _ _ h => h.elim)
  obtain ⟨_, address, _, rfl, ⟨_, control, _, rfl, ⟨_, r, _, ⟨rfl, hlength⟩, ⟨_, credits, _, ⟨rfl, hcredits⟩,
    ⟨_, data, _, ⟨rfl, -⟩, ⟨_, check, _, rfl, ⟨rfl, rfl⟩, rfl⟩, rfl⟩, rfl⟩, rfl⟩, rfl⟩, rfl⟩ := honly.whole h
  refine ⟨r.1, check, ?_, hcredits, hlength⟩
  simp

/-- **The receiving side reads what the frame carries**, in either form of the length. -/
theorem uihFields_of_decoded {b : Bytes} {f : RfcommFrame} (h : decodeFrame b = some f)
    (hcontrol : f.control = btRfcommUih ∨ f.control = btRfcommUihPf) :
    rfcommUihFields b = ⟨f.address >>> 2, f.credits, if f.data = [] then none else some f.data⟩ := by
  obtain ⟨length, check, rfl, hcredits, hlength⟩ := decodeFrame_octets h
  obtain ⟨address, control, credits, data⟩ := f
  simp only at hcontrol hcredits hlength ⊢
  -- the payload is what stands between the header and the last octet
  have hpayload : ∀ head : Bytes, (if head.length < (head ++ data ++ [check]).length - 1 then
      some (((head ++ data ++ [check]).drop head.length).take ((head ++ data ++ [check]).length - head.length - 1))
      else none) = if data = [] then none else some data := by
    intro head
    cases data with
    | nil => simp
    | cons x data =>
        rw [if_pos (by simp), if_neg (List.cons_ne_nil x data), List.append_assoc, List.drop_left]
        simp
  have huih : btRfcommUih &&& btRfcommUihPf ≠ btRfcommUihPf := by decide
  have hne : btRfcommUih ≠ btRfcommUihPf := by decide
  rcases hcontrol with rfl | rfl
  · obtain rfl : credits = none := by
      cases credits with
      | none => rfl
      | some c => exact absurd (hcredits.mp rfl) hne
    rcases hlength with ⟨l, rfl, hodd⟩ | ⟨l, high, rfl, heven⟩
    · have hp := hpayload [address, btRfcommUih, l]
      simpa [rfcommUihFields, huih, hne, hodd] using hp
    · have hp := hpayload [address, btRfcommUih, l, high]
      simpa [rfcommUihFields, huih, hne, heven] using hp
  · obtain ⟨c, rfl⟩ := Option.isSome_iff_exists.mp (hcredits.mpr rfl)
    rcases hlength with ⟨l, rfl, hodd⟩ | ⟨l, high, rfl, heven⟩
    · have hp := hpayload [address, btRfcommUihPf, l, c]
      simpa [rfcommUihFields, hodd] using hp
    · have hp := hpayload [address, btRfcommUihPf, l, high, c]
      simpa [rfcommUihFields, heven] using hp

theorem uihAddress_dlci_fin : ∀ (outgoing : Bool) (i : Fin 64),
    uihAddress outgoing (UInt8.ofNat i.val) >>> 2 = UInt8.ofNat i.val := by
  decide +kernel

/-- The address of a channel with one of the 64 DLCIs there are tells it. -/
theorem uihAddress_dlci (outgoing : Bool) {dlci : UInt8} (h : dlci < 64) : uihAddress outgoing dlci >>> 2 = dlci := by
  have hfin := uihAddress_dlci_fin outgoing ⟨dlci.toNat, UInt8.lt_iff_toNat_lt.mp h⟩
  rwa [UInt8.ofNat_toNat] at hfin

/-- What the receiving side reads of the frames that carry data and credits. -/
theorem uihFields_prepared (outgoing : Bool) {dlci : UInt8} {data : Bytes} (hdlci : dlci < 64)
    (hlen : data.length < 2 ^ 15) : rfcommUihFields (rfcommSendUihPrepared (uihAddress outgoing dlci) data) =
      ⟨dlci, none, if data = [] then none else some data⟩ := by
  rw [uihFields_of_decoded (uihPrepared_decoded _ hlen) (.inl rfl), uihAddress_dlci outgoing hdlci]

theorem uihFields_pf (outgoing : Bool) {dlci credits : UInt8} {data : Bytes} (hdlci : dlci < 64)
    (hlen : data.length < 2 ^ 15) :
    rfcommUihFields (rfcommSendPacketForMultiplexer (uihAddress outgoing dlci) btRfcommUihPf credits data) =
      ⟨dlci, some credits, if data = [] then none else some data⟩ := by
  have hframe := frame_decoded (uihAddress outgoing dlci) btRfcommUihPf credits hlen
  rw [if_pos rfl] at hframe
  rw [uihFields_of_decoded hframe (.inr rfl), uihAddress_dlci outgoing hdlci]

/-- **Round trip of a frame.** Whatever the two functions build is a frame of the standard with the address, control
    field, credits and data that it was built from, and the receiving side of `rfcomm.c` reads the data and the
    credits of a channel from it. -/
theorem rfcomm_round_trip (outgoing : Bool) (control credits : UInt8) {dlci : UInt8} {data : Bytes}
    (hdlci : dlci < 64) (hlen : data.length < 2 ^ 15) :
    decodeFrame (rfcommSendPacketForMultiplexer (uihAddress outgoing dlci) control credits data) =
        some ⟨uihAddress outgoing dlci, control, if control = btRfcommUihPf then some credits else none, data⟩ ∧
      decodeFrame (rfcommSendUihPrepared (uihAddress outgoing dlci) data) =
        some ⟨uihAddress outgoing dlci, btRfcommUih, none, data⟩ ∧
      rfcommUihFields (rfcommSendUihPrepared (uihAddress outgoing dlci) data) =
        ⟨dlci, none, if data = [] then none else some data⟩ ∧
      rfcommUihFields (rfcommSendPacketForMultiplexer (uihAddress outgoing dlci) btRfcommUihPf credits data) =
        ⟨dlci, some credits, if data = [] then none else some data⟩ :=
  ⟨frame_decoded _ _ _ hlen, uihPrepared_decoded _ hlen, uihFields_prepared outgoing hdlci hlen,
    uihFields_pf outgoing hdlci hlen⟩

/-- A frame that grants ten credits on the channel for server channel 3. -/
theorem rfcomm_round_trip_credits :
    rfcommUihFields (rfcommSendPacketForMultiplexer (uihAddress false 6) btRfcommUihPf 10 []) = ⟨6, some 10, none⟩ :=
  (@rfcomm_round_trip false btRfcommUihPf 10 6 [] (by decide) (by decide)).2.2.2

/-- **The checksum.** The table calculates what the polynomial gives bit by bit, the check accepts exactly what was
    calculated, and an octet that was changed gives another checksum. -/
theorem crc8_sound (data : Bytes) (checkSum : UInt8) :
    btstackCrc8Calc data = frameCheck data ∧ (btstackCrc8Check data checkSum = 0 ↔ checkSum = frameCheck data) ∧
      ∀ a x t, data = a ++ x :: t → ∀ y ≠ x, frameCheck (a ++ y :: t) ≠ frameCheck data := by
  rw [frameCheck_eq]
  refine ⟨rfl, crc8Check_iff data checkSum, ?_⟩
  rintro a x t rfl y hy
  rw [frameCheck_eq]
  exact crc8_changed a t hy

end Showcase.Btstack
