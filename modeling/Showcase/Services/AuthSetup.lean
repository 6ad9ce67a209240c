import Showcase.Lib.Decoder
import Showcase.OpenSSL

/-!
# `Services.AuthSetup` — the response to auth-setup

The last part of `handle_auth_setup`: once it has its public key, the encrypted signature and the two certificates,
it computes the size of the response, allocates it and writes the fields one behind the other. The intermediate
certificate goes into an OPACK dictionary whose header has four forms, by the certificate's length. Lengths are
`int`s for the certificates and `size_t`s (64 bits) for the rest.

* `M2Layout` — the documented layout, as a relation between a body and its four fields.
* `decodeM2` — a decoder, which reads exactly what has that layout (`decodeM2_iff`).
* `authSetup_ok_iff` — the response decodes to what went in, and when it fills its buffer.
-/

namespace Showcase

open Lib

/-! ## The response -/

/-- A certificate or a signature: not empty, and of a length that is an `int`. -/
structure Der where
  data : Bytes
  pos : 0 < data.length
  lt : data.length < 2 ^ 31

/-- What an `int` holds of a sum. -/
def toInt (z : Int) : Int := z.bmod (2 ^ 32)

/-- What a `size_t` holds of a sum. -/
def toSize (z : Int) : Nat := (z % 2 ^ 64).toNat

/-- `opackHdr`: a dictionary of one entry, the key `baIC`, and the tag and the length of the bytes behind it. -/
def opackHdr (interLen : Nat) : Bytes :=
  0xE1 :: 0x44 :: ascii "baIC" ++
    if interLen ≤ 0x20 then [0x70 + UInt8.ofNat interLen]
    else if interLen ≤ 0xFF then [0x91, UInt8.ofNat interLen]
    else if interLen ≤ 0xFFFF then [0x92, UInt8.ofNat interLen, UInt8.ofNat (interLen >>> 8)]
    else
      [0x93, UInt8.ofNat interLen, UInt8.ofNat (interLen >>> 8), UInt8.ofNat (interLen >>> 16),
        UInt8.ofNat (interLen >>> 24)]

/-- `opackBlob`. -/
def opackBlob (inter : Bytes) : Bytes := opackHdr inter.length ++ inter

/-- `p[0] = (len >> 24) & 0xFF; ...`. -/
def putLen (len : Nat) : Bytes :=
  [UInt8.ofNat (len >>> 24), UInt8.ofNat (len >>> 16), UInt8.ofNat (len >>> 8), UInt8.ofNat len]

/-- `respLen`. The sum starts with `int`s and becomes a `size_t` with `encLen`. -/
def respLen (leafLen encLen opackBlobLen : Nat) : Nat :=
  toSize (toInt (toInt (32 + 4 + leafLen) + 4) + encLen + 4 + opackBlobLen)

/-- What is written from the start of `resp` on. -/
def authSetupResp (ourPK : Block 32) (leaf encSig inter : Bytes) : Bytes :=
  ourPK.val ++ (putLen leaf.length ++ leaf) ++ (putLen encSig.length ++ encSig) ++
    (putLen (opackBlob inter).length ++ opackBlob inter)

/-! ## The documented layout -/

/-- The four fields of the response. -/
structure M2 where
  publicKey : Block 32
  leaf : Bytes
  signature : Bytes
  intermediate : Bytes

/-- The OPACK forms of a byte string: up to 32 bytes the tag holds the length, then one, two or four bytes do. -/
inductive OpackData : Bytes → Bytes → Prop where
  | inline {d : Bytes} : d.length ≤ 32 → OpackData (UInt8.ofNat (0x70 + d.length) :: d) d
  | len1 {d : Bytes} : d.length < 256 ^ 1 → OpackData (0x91 :: (toLE 1 d.length ++ d)) d
  | len2 {d : Bytes} : d.length < 256 ^ 2 → OpackData (0x92 :: (toLE 2 d.length ++ d)) d
  | len4 {d : Bytes} : d.length < 256 ^ 4 → OpackData (0x93 :: (toLE 4 d.length ++ d)) d

/-- `0xE1`, a dictionary of one entry, and its key: `0x44`, a string of four bytes, `baIC`. -/
def baICKey : Bytes := 0xE1 :: 0x44 :: ascii "baIC"

/-- A field behind its length. -/
def LengthPrefixed (b d : Bytes) : Prop := d.length < 256 ^ 4 ∧ b = toBE 4 d.length ++ d

/-- **The layout**: the public key, then three fields behind their lengths, the last one `{baIC: intermediate}`. -/
def M2Layout (b : Bytes) (m : M2) : Prop :=
  ∃ leaf sig blob value field : Bytes,
    LengthPrefixed leaf m.leaf ∧ LengthPrefixed sig m.signature ∧ LengthPrefixed field blob ∧
      blob = baICKey ++ value ∧ OpackData value m.intermediate ∧
      b = m.publicKey.val ++ (leaf ++ (sig ++ field))

/-! ## The decoder -/

/-- A field behind its length. -/
def lengthPrefixed : Decoder Bytes := do
  let n ← Decoder.be 4
  Decoder.bytes n

/-- A byte string in one of its four forms. -/
def opackData : Decoder Bytes := do
  let tag ← Decoder.byte
  if 0x70 ≤ tag ∧ tag ≤ 0x90 then Decoder.bytes (tag.toNat - 0x70)
  else if tag = 0x91 then do Decoder.bytes (← Decoder.le 1)
  else if tag = 0x92 then do Decoder.bytes (← Decoder.le 2)
  else if tag = 0x93 then do Decoder.bytes (← Decoder.le 4)
  else failure

/-- The dictionary `{baIC: bytes}`. -/
def opackBaIC : Decoder Bytes := do
  let key ← Decoder.bytes 6
  if key = baICKey then opackData else failure

/-- The response. -/
def m2 : Decoder M2 := do
  let pk ← Decoder.bytes 32
  let leaf ← lengthPrefixed
  let sig ← lengthPrefixed
  let blob ← lengthPrefixed
  match Block.ofBytes? 32 pk, Decoder.whole opackBaIC blob with
  | some pk, some inter => return ⟨pk, leaf, sig, inter⟩
  | _, _ => failure

/-- The fields of a body, if it is one. -/
def decodeM2 (b : Bytes) : Option M2 := Decoder.whole m2 b

/-! ## The decoder reads the layout, and nothing else

For each field there are two facts, one for each direction: the bytes of the field are read as its value, and what is
read as a value is one of the forms of the field (`Lib.Decoder`). -/

theorem putLen_eq (n : Nat) : putLen n = toBE 4 n := by
  simp [putLen, toBE, Nat.shiftRight_eq_div_pow, Nat.div_div_eq_div_mul]

theorem reads_lengthPrefixed {b d : Bytes} (h : LengthPrefixed b d) : Decoder.Reads lengthPrefixed b d := by
  obtain ⟨hlt, rfl⟩ := h
  exact (Decoder.Reads.be hlt).bind (Decoder.Reads.bytes rfl)

theorem only_lengthPrefixed : Decoder.Only lengthPrefixed LengthPrefixed := by
  refine (Decoder.Only.bind (Decoder.Only.be 4) fun n => Decoder.Only.bytes n).mono ?_
  rintro b d ⟨b₁, n, b₂, ⟨hn, rfl⟩, ⟨rfl, rfl⟩, rfl⟩
  exact ⟨hn, rfl⟩

/-- A length of `k` bytes, and the bytes it counts. -/
theorem reads_counted {k : Nat} {d : Bytes} (h : d.length < 256 ^ k) :
    Decoder.Reads (do Decoder.bytes (← Decoder.le k)) (toLE k d.length ++ d) d :=
  (Decoder.Reads.le h).bind (Decoder.Reads.bytes rfl)

theorem only_counted (k : Nat) :
    Decoder.Only (do Decoder.bytes (← Decoder.le k)) (fun b d => d.length < 256 ^ k ∧ b = toLE k d.length ++ d) := by
  refine (Decoder.Only.bind (Decoder.Only.le k) fun n => Decoder.Only.bytes n).mono ?_
  rintro b d ⟨b₁, n, b₂, ⟨hn, rfl⟩, ⟨rfl, rfl⟩, rfl⟩
  exact ⟨hn, rfl⟩

theorem reads_opackData {b d : Bytes} (h : OpackData b d) : Decoder.Reads opackData b d := by
  cases h with
  | inline hlen =>
      have htag : (UInt8.ofNat (0x70 + d.length)).toNat = 0x70 + d.length := by
        rw [UInt8.toNat_ofNat']
        omega
      refine (Decoder.Reads.byte _).bind (b := [_]) ?_
      rw [if_pos (by simp only [UInt8.le_iff_toNat_le, htag]; simp; omega), htag]
      exact Decoder.Reads.bytes (by omega)
  | len1 hlen => exact (Decoder.Reads.byte _).bind (b := [_]) (reads_counted hlen)
  | len2 hlen => exact (Decoder.Reads.byte _).bind (b := [_]) (reads_counted hlen)
  | len4 hlen => exact (Decoder.Reads.byte _).bind (b := [_]) (reads_counted hlen)

theorem only_opackData : Decoder.Only opackData OpackData := by
  refine (Decoder.Only.byte.bind (S := fun tag v d => OpackData (tag :: v) d) fun tag => ?_).mono ?_
  · by_cases hinline : 0x70 ≤ tag ∧ tag ≤ 0x90
    · rw [if_pos hinline]
      refine (Decoder.Only.bytes _).mono ?_
      rintro b d ⟨rfl, hlen⟩
      have hlow : 0x70 ≤ tag.toNat := UInt8.le_iff_toNat_le.mp hinline.1
      have hhigh : tag.toNat ≤ 0x90 := UInt8.le_iff_toNat_le.mp hinline.2
      have htag : tag = UInt8.ofNat (0x70 + b.length) := by
        rw [hlen, show 0x70 + (tag.toNat - 0x70) = tag.toNat by omega, UInt8.ofNat_toNat]
      rw [htag]
      exact .inline (by omega)
    · rw [if_neg hinline]
      by_cases h1 : tag = 0x91
      · rw [if_pos h1, h1]
        exact (only_counted 1).mono fun b d h => h.2 ▸ .len1 h.1
      · rw [if_neg h1]
        by_cases h2 : tag = 0x92
        · rw [if_pos h2, h2]
          exact (only_counted 2).mono fun b d h => h.2 ▸ .len2 h.1
        · rw [if_neg h2]
          by_cases h4 : tag = 0x93
          · rw [if_pos h4, h4]
            exact (only_counted 4).mono fun b d h => h.2 ▸ .len4 h.1
          · rw [if_neg h4]
            exact Decoder.Only.failure.mono fun b d h => h.elim
  · rintro b d ⟨b₁, tag, b₂, rfl, h, rfl⟩
    exact h

/-- The dictionary is its key and the bytes behind it. -/
theorem opackBaIC_iff {blob d : Bytes} :
    Decoder.whole opackBaIC blob = some d ↔ ∃ value, blob = baICKey ++ value ∧ OpackData value d := by
  constructor
  · intro h
    have honly : Decoder.Only opackBaIC (fun b d => ∃ value, b = baICKey ++ value ∧ OpackData value d) := by
      refine ((Decoder.Only.bytes 6).bind
        (S := fun key v d => key = baICKey ∧ OpackData v d) fun key => ?_).mono ?_
      · by_cases hkey : key = baICKey
        · rw [if_pos hkey]
          exact only_opackData.mono fun b d h => ⟨hkey, h⟩
        · rw [if_neg hkey]
          exact Decoder.Only.failure.mono fun b d h => h.elim
      · rintro b d ⟨b₁, key, value, ⟨rfl, -⟩, ⟨rfl, hvalue⟩, rfl⟩
        exact ⟨value, rfl, hvalue⟩
    exact honly.whole h
  · rintro ⟨value, rfl, hvalue⟩
    have hkey : Decoder.Reads (if baICKey = baICKey then opackData else failure) value d := by
      rw [if_pos rfl]
      exact reads_opackData hvalue
    exact ((Decoder.Reads.bytes (n := 6) rfl).bind hkey).whole

/-- **The decoder reads exactly the bodies of the documented layout.** -/
theorem decodeM2_iff {b : Bytes} {m : M2} : decodeM2 b = some m ↔ M2Layout b m := by
  constructor
  · intro h
    have honly : Decoder.Only m2 M2Layout := by
      refine ((Decoder.Only.bytes 32).bind fun pk => only_lengthPrefixed.bind fun leaf =>
        only_lengthPrefixed.bind fun sig => only_lengthPrefixed.bind
          (S := fun blob v m => v = [] ∧ m.publicKey.val = pk ∧ m.leaf = leaf ∧ m.signature = sig ∧
            Decoder.whole opackBaIC blob = some m.intermediate) fun blob => ?_).mono ?_
      · intro s m t hrun
        split at hrun
        · rename_i pk' inter hpk hinter
          obtain ⟨rfl, rfl⟩ : (⟨pk', leaf, sig, inter⟩ : M2) = m ∧ s = t := by
            simpa [StateT.run_pure] using hrun
          exact ⟨[], ⟨rfl, (Block.ofBytes?_eq_some.mp hpk).symm, rfl, rfl, hinter⟩, rfl⟩
        · exact absurd hrun (by simp [StateT.run_failure])
      · rintro b m ⟨pk, _, _, ⟨rfl, -⟩, ⟨leafField, _, _, hleaf, ⟨sigField, _, _, hsig,
          ⟨field, blob, _, hfield, ⟨rfl, hpk, rfl, rfl, hinter⟩, rfl⟩, rfl⟩, rfl⟩, rfl⟩
        obtain ⟨value, hblob, hvalue⟩ := opackBaIC_iff.mp hinter
        exact ⟨leafField, sigField, blob, value, field, hleaf, hsig, hfield, hblob, hvalue, by
          rw [hpk, List.append_nil]⟩
    exact honly.whole h
  · rintro ⟨leaf, sig, blob, value, field, hleaf, hsig, hfield, hblob, hvalue, rfl⟩
    have hinter : Decoder.whole opackBaIC blob = some m.intermediate := opackBaIC_iff.mpr ⟨value, hblob, hvalue⟩
    refine Decoder.Reads.whole ((Decoder.Reads.bytes m.publicKey.property).bind
      ((reads_lengthPrefixed hleaf).bind ((reads_lengthPrefixed hsig).bind ?_)))
    rw [← List.append_nil field]
    refine (reads_lengthPrefixed hfield).bind ?_
    rw [Block.ofBytes?_val, hinter]
    exact Decoder.Reads.pure _

/-! ## What the code writes -/

/-- The header written for a certificate is one of the four forms of it. -/
theorem opackBlob_layout (inter : Der) :
    ∃ value, opackBlob inter.data = baICKey ++ value ∧ OpackData value inter.data := by
  have hlt := inter.lt
  by_cases h0 : inter.data.length ≤ 0x20
  · refine ⟨_ :: inter.data, ?_, .inline h0⟩
    have htag : UInt8.ofNat (0x70 + inter.data.length) = 0x70 + UInt8.ofNat inter.data.length := by
      rw [UInt8.ofNat_add]
      rfl
    rw [htag, opackBlob, opackHdr, if_pos h0, baICKey, List.append_assoc, List.singleton_append]
  · by_cases h1 : inter.data.length ≤ 0xFF
    · refine ⟨_, ?_, .len1 (by omega)⟩
      rw [opackBlob, opackHdr, if_neg h0, if_pos h1, baICKey, List.append_assoc]
      rfl
    · by_cases h2 : inter.data.length ≤ 0xFFFF
      · refine ⟨_, ?_, .len2 (by omega)⟩
        rw [opackBlob, opackHdr, if_neg h0, if_neg h1, if_pos h2, baICKey, List.append_assoc]
        simp [toLE, toBE, Nat.shiftRight_eq_div_pow]
      · refine ⟨_, ?_, .len4 (by omega)⟩
        rw [opackBlob, opackHdr, if_neg h0, if_neg h1, if_neg h2, baICKey, List.append_assoc]
        simp [toLE, toBE, Nat.shiftRight_eq_div_pow, Nat.div_div_eq_div_mul]

theorem opackHdr_length_le (n : Nat) : (opackHdr n).length ≤ 11 := by
  unfold opackHdr
  split
  · simp [ascii]
  · split
    · simp [ascii]
    · split
      · simp [ascii]
      · simp [ascii]

variable (ourPK : Block 32) (leaf encSig inter : Der)

/-- What is written has the documented layout. -/
theorem authSetupResp_layout :
    M2Layout (authSetupResp ourPK leaf.data encSig.data inter.data)
      ⟨ourPK, leaf.data, encSig.data, inter.data⟩ := by
  have hleaf := leaf.lt
  have hsig := encSig.lt
  have hinter := inter.lt
  have hhdr := opackHdr_length_le inter.data.length
  have hblob : (opackBlob inter.data).length < 256 ^ 4 := by
    rw [opackBlob, List.length_append]
    omega
  obtain ⟨value, hvalue, hdata⟩ := opackBlob_layout inter
  have hleaf' : leaf.data.length < 256 ^ 4 := by omega
  have hsig' : encSig.data.length < 256 ^ 4 := by omega
  refine ⟨_, _, opackBlob inter.data, value, _, ⟨hleaf', rfl⟩, ⟨hsig', rfl⟩, ⟨hblob, rfl⟩, hvalue, hdata, ?_⟩
  simp only [authSetupResp, putLen_eq, List.append_assoc]

theorem authSetupResp_length :
    (authSetupResp ourPK leaf.data encSig.data inter.data).length =
      44 + leaf.data.length + encSig.data.length + (opackBlob inter.data).length := by
  simp only [authSetupResp, putLen, List.length_append, List.length_cons, List.length_nil, ourPK.property]
  omega

/-- A sum of two `int`s that are not negative wraps around once at most. -/
theorem toInt_eq {z : Int} (h0 : 0 ≤ z) (h : z < 2 ^ 32) : toInt z = if z < 2 ^ 31 then z else z - 2 ^ 32 := by
  rw [toInt, Int.bmod_def]
  omega

/-- The buffer has the size of what is written unless the first sum of its size leaves the range of `int`. -/
theorem respLen_eq_iff {leafLen encLen blobLen : Nat} (hleaf : leafLen < 2 ^ 31) (henc : encLen < 2 ^ 31)
    (hblob : blobLen < 2 ^ 32) :
    44 + leafLen + encLen + blobLen = respLen leafLen encLen blobLen ↔ leafLen + 40 < 2 ^ 31 := by
  have hfirst : toInt (toInt (32 + 4 + leafLen) + 4) =
      if leafLen + 40 < 2 ^ 31 then (leafLen : Int) + 40 else leafLen + 40 - 2 ^ 32 := by
    rw [toInt_eq (z := 32 + 4 + leafLen) (by omega) (by omega)]
    by_cases h36 : (32 + 4 + leafLen : Int) < 2 ^ 31
    · rw [if_pos h36, toInt_eq (by omega) (by omega)]
      omega
    · rw [if_neg h36, toInt, Int.bmod_def]
      omega
  rw [respLen, toSize, hfirst]
  by_cases h40 : leafLen + 40 < 2 ^ 31
  · rw [if_pos h40]
    omega
  · rw [if_neg h40]
    omega

/-- The response is what its reader expects: it fills the buffer it is written into, and its fields are those that
went in and no others. -/
structure RespOk (ourPK : Block 32) (leaf encSig inter : Bytes) : Prop where
  fills : (authSetupResp ourPK leaf encSig inter).length =
    respLen leaf.length encSig.length (opackBlob inter).length
  decodes : decodeM2 (authSetupResp ourPK leaf encSig inter) = some ⟨ourPK, leaf, encSig, inter⟩
  unique : ∀ m, M2Layout (authSetupResp ourPK leaf encSig inter) m → m = ⟨ourPK, leaf, encSig, inter⟩

/-- The size of the buffer is the length of what is written as long as the first sum of it is an `int`. -/
theorem fills_iff :
    (authSetupResp ourPK leaf.data encSig.data inter.data).length =
        respLen leaf.data.length encSig.data.length (opackBlob inter.data).length ↔
      leaf.data.length + 40 < 2 ^ 31 := by
  have hblob : (opackBlob inter.data).length < 2 ^ 32 := by
    have hinter := inter.lt
    have hhdr := opackHdr_length_le inter.data.length
    rw [opackBlob, List.length_append]
    omega
  rw [authSetupResp_length]
  exact respLen_eq_iff leaf.lt encSig.lt hblob

/-- **Whatever the lengths, the body decodes to exactly what went in; it fills its buffer as long as
`32 + 4 + g_baa_leaf_len + 4` is an `int`.** -/
theorem authSetup_ok_iff : RespOk ourPK leaf.data encSig.data inter.data ↔ leaf.data.length + 40 < 2 ^ 31 := by
  have hdecodes := decodeM2_iff.mpr (authSetupResp_layout ourPK leaf encSig inter)
  constructor
  · intro h
    exact (fills_iff ourPK leaf encSig inter).mp h.fills
  · intro h
    refine ⟨(fills_iff ourPK leaf encSig inter).mpr h, hdecodes, fun m hm => ?_⟩
    have hboth := (decodeM2_iff.mpr hm).symm.trans hdecodes
    exact Option.some.inj hboth

/-- `n` zero bytes. -/
@[irreducible] def Der.zeros (n : Nat) (hpos : 0 < n) (hlt : n < 2 ^ 31) : Der :=
  ⟨List.replicate n 0, by rwa [List.length_replicate], by rwa [List.length_replicate]⟩

theorem Der.zeros_length {n : Nat} (hpos : 0 < n) (hlt : n < 2 ^ 31) : (Der.zeros n hpos hlt).data.length = n := by
  unfold Der.zeros
  exact List.length_replicate

/-- A leaf certificate for which the first sum is `INT_MAX + 1`. -/
def Der.longLeaf : Der := Der.zeros (2 ^ 31 - 40) (by decide) (by decide)

/-- One byte. -/
def Der.short : Der := ⟨[0x30], by decide, by decide⟩

/-- A leaf certificate of 40 bytes less than `INT_MAX + 1`: the size wraps around to one the body does not have. -/
theorem authSetup_leaf_wraps :
    ¬ RespOk (Block.zero 32) Der.longLeaf.data Der.short.data Der.short.data := by
  intro h
  have hfit := (fills_iff (Block.zero 32) Der.longLeaf Der.short Der.short).mp h.fills
  rw [Der.longLeaf, Der.zeros_length] at hfit
  omega

end Showcase
