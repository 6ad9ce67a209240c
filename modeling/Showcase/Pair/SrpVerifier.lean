import Showcase.Pair.Srp

/-!
# `Pair.SrpVerifier` — the guards of `srp_verifier_new` and the mode of `srp_verifier_verify`

The length of the client's key `A` is chosen by the client. `H_nn_pad` refuses a number longer than `N`; the
left-padding computations behind it have no check of their own. Here each such copy is listed with the buffer it
goes into. `srp_verifier_verify` then picks one of the two sets of values that `srp_verifier_new` computed, and
writes it over the other.

## Contents
- `PadCopy` — one left-padded copy, and `srpVerifierNewCopies`, the copies of `srp_verifier_new` in their order;
- **`srpVerifierNew_guarded`** — which keys are refused, and that every copy stays inside its buffer;
- `SrpVerifierState`, `srpVerifierCheck` — `srp_verifier_verify` with all it writes, and `srpVerifierCheck_eq`, that
  the handlers' `srpVerifierVerify` is what a caller sees of it;
- **`srpVerifierCheck_mode`** — after a check all values are those of one mode.
-/

namespace Showcase

open Lib

/-! ## Left-padded copies -/

/-- `BN_bn2bin(n, buf + slot + (len - BN_num_bytes(n)))` into a buffer of `size` zero bytes. -/
structure PadCopy where
  size : Nat
  slot : Nat
  len : Nat
  n : Nat

/-- The left-padding offset `len - BN_num_bytes(n)`, in the `int` arithmetic of the source. -/
def PadCopy.offset (c : PadCopy) : Int := (c.len : Int) - (numBytes c.n : Int)

/-- The offset is not negative, and the copy ends with its slot, inside the buffer. -/
structure PadCopy.Inside (c : PadCopy) : Prop where
  offset : 0 ≤ c.offset
  ends : (c.slot : Int) + c.offset + (numBytes c.n : Int) = (c.slot + c.len : Nat)
  slot : c.slot + c.len ≤ c.size

theorem PadCopy.inside {c : PadCopy} (hn : numBytes c.n ≤ c.len) (hslot : c.slot + c.len ≤ c.size) : c.Inside where
  offset := by
    unfold PadCopy.offset
    omega
  ends := by
    unfold PadCopy.offset
    omega
  slot := hslot

/-- A copy into a buffer of one slot. -/
def padOne (len n : Nat) : PadCopy := ⟨len, 0, len, n⟩

/-- The copies of `H_nn_pad`: two slots in one buffer. -/
def hNnPadCopies (alloc : Bool) (N n1 n2 : Nat) : List PadCopy :=
  if alloc = false then []
  else if numBytes n1 > numBytes N ∨ numBytes n2 > numBytes N then []
  else [⟨numBytes N * 2, 0, numBytes N, n1⟩, ⟨numBytes N * 2, numBytes N, numBytes N, n2⟩]

/-- The copy of `hash_session_key_padded`. -/
def hashSessionKeyPaddedCopies (alloc : Bool) (S paddedLen : Nat) : List PadCopy :=
  if numBytes S > paddedLen then []
  else if alloc then [padOne paddedLen S] else []

/-- The copies of `calculate_M`. -/
def calculateMCopies (e : ProofAlloc) (A B : Nat) : List PadCopy :=
  if e.bufs then [padOne (numBytes srpN) A, padOne (numBytes srpN) B] else []

/-- The copy of `calculate_H_AMK`. -/
def calculateHAmkCopies (bufs : Bool) (A lenN : Nat) : List PadCopy :=
  if bufs then [padOne lenN A] else []

/-- The copies behind the session keys: a call is reached only when those before it came back. -/
def srpVerifierProofCopies (A B : Nat) (e : VerifierEnv) : List PadCopy :=
  calculateMCopies e.m A B ++
    if e.m.bufs = false then []
    else calculateHAmkCopies e.amk A (numBytes srpN) ++
      if e.amk = false then []
      else calculateMCopies e.mPadded A B ++
        if e.mPadded.bufs = false then [] else calculateHAmkCopies e.amkPadded A (numBytes srpN)

/-- The copies of the last part of `srp_verifier_new`. -/
def srpVerifierKeysCopies (P : OpenSSL) (A B S : Nat) (e : VerifierEnv) : List PadCopy :=
  match hashSessionKey P e.keyAlloc S with
  | none => []
  | some _ =>
      hashSessionKeyPaddedCopies e.keyPaddedAlloc S (numBytes srpN) ++
        match hashSessionKeyPadded P e.keyPaddedAlloc S (numBytes srpN) with
        | none => []
        | some _ => srpVerifierProofCopies A B e

/-- The left-padded copies of one `srp_verifier_new`, in their order. -/
def srpVerifierNewCopies (P : OpenSSL) (verifier : Option Bytes) (vlen : Nat) (bytesA : Bytes) (b : Block 32)
    (e : VerifierEnv) : List PadCopy :=
  match bnOfPointer verifier vlen with
  | none => []
  | some v =>
      let A := ofBE bytesA
      if e.init = false then []
      else if unchecked e.modA (A % srpN) = 0 then []
      else
        hNnPadCopies e.kAlloc srpN srpN srpG ++
          match hNnPad P e.kAlloc srpN srpN srpG with
          | none => []
          | some k =>
              let B := srpPublicB e.mulKV e.expB e.addB k v (ofBE b.val)
              hNnPadCopies e.uAlloc srpN A B ++
                match hNnPad P e.uAlloc srpN A B with
                | none => []
                | some u =>
                    let tmp1 := unchecked e.expU (modExp v u srpN)
                    let tmp2 := unchecked e.mulA (A * tmp1)
                    let S := unchecked e.expS (modExp tmp2 (ofBE b.val) srpN)
                    if e.verAlloc = false ∨ e.username = false then []
                    else if e.ng = false then []
                    else srpVerifierKeysCopies P A B S e

/-- All copies of a call that gets through, with the numbers it pads. -/
def allPadCopies (A B S : Nat) : List PadCopy :=
  let lenN := numBytes srpN
  [⟨lenN * 2, 0, lenN, srpN⟩, ⟨lenN * 2, lenN, lenN, srpG⟩, ⟨lenN * 2, 0, lenN, A⟩, ⟨lenN * 2, lenN, lenN, B⟩,
    padOne lenN S, padOne lenN A, padOne lenN B, padOne lenN A, padOne lenN A, padOne lenN B, padOne lenN A]

/-! ## The guards

A copy is inside when its number is not longer than its slot. For each function the lengths of its arguments are
bounded by a check in front of the copy, its own or that of a caller. -/

theorem padOne_inside {len n : Nat} (h : numBytes n ≤ len) : (padOne len n).Inside :=
  PadCopy.inside h (Nat.le_of_eq (Nat.zero_add len))

/-- `H_nn_pad` checks both lengths before it copies. -/
theorem hNnPadCopies_inside {alloc : Bool} {N n1 n2 : Nat} : ∀ c ∈ hNnPadCopies alloc N n1 n2, c.Inside := by
  unfold hNnPadCopies
  split
  · exact fun c hc => nomatch hc
  split
  · exact fun c hc => nomatch hc
  · rename_i hlen
    intro c hc
    rw [List.mem_cons, List.mem_singleton] at hc
    rcases hc with rfl | rfl
    · exact PadCopy.inside (by simp only; omega) (by simp only; omega)
    · exact PadCopy.inside (by simp only; omega) (by simp only; omega)

/-- `hash_session_key_padded` checks the length of `S` before it copies. -/
theorem hashSessionKeyPaddedCopies_inside {alloc : Bool} {S len : Nat} :
    ∀ c ∈ hashSessionKeyPaddedCopies alloc S len, c.Inside := by
  unfold hashSessionKeyPaddedCopies
  split
  · exact fun c hc => nomatch hc
  split
  · rename_i hlen _
    intro c hc
    rw [List.mem_singleton.mp hc]
    exact padOne_inside (by omega)
  · exact fun c hc => nomatch hc

/-- `calculate_M` has no check: it relies on the lengths of `A` and `B`. -/
theorem calculateMCopies_inside {e : ProofAlloc} {A B : Nat} (hA : numBytes A ≤ numBytes srpN)
    (hB : numBytes B ≤ numBytes srpN) : ∀ c ∈ calculateMCopies e A B, c.Inside := by
  unfold calculateMCopies
  split
  · intro c hc
    rw [List.mem_cons, List.mem_singleton] at hc
    rcases hc with rfl | rfl
    · exact padOne_inside hA
    · exact padOne_inside hB
  · exact fun c hc => nomatch hc

/-- `calculate_H_AMK` stays inside where `A` is no longer than the group. -/
theorem calculateHAmkCopies_inside {bufs : Bool} {A len : Nat} (hA : numBytes A ≤ len) :
    ∀ c ∈ calculateHAmkCopies bufs A len, c.Inside := by
  unfold calculateHAmkCopies
  split
  · intro c hc
    rw [List.mem_singleton.mp hc]
    exact padOne_inside hA
  · exact fun c hc => nomatch hc

/-- Copies in a row. -/
theorem inside_append {a b : List PadCopy} (ha : ∀ c ∈ a, c.Inside) (hb : ∀ c ∈ b, c.Inside) :
    ∀ c ∈ a ++ b, c.Inside := by
  intro c hc
  rcases List.mem_append.mp hc with h | h
  · exact ha c h
  · exact hb c h

theorem srpVerifierProofCopies_inside {A B : Nat} {e : VerifierEnv} (hA : numBytes A ≤ numBytes srpN)
    (hB : numBytes B ≤ numBytes srpN) : ∀ c ∈ srpVerifierProofCopies A B e, c.Inside := by
  unfold srpVerifierProofCopies
  refine inside_append (calculateMCopies_inside hA hB) ?_
  split
  · exact fun c hc => nomatch hc
  refine inside_append (calculateHAmkCopies_inside hA) ?_
  split
  · exact fun c hc => nomatch hc
  refine inside_append (calculateMCopies_inside hA hB) ?_
  split
  · exact fun c hc => nomatch hc
  · exact calculateHAmkCopies_inside hA

theorem srpVerifierKeysCopies_inside {P : OpenSSL} {A B S : Nat} {e : VerifierEnv}
    (hA : numBytes A ≤ numBytes srpN) (hB : numBytes B ≤ numBytes srpN) :
    ∀ c ∈ srpVerifierKeysCopies P A B S e, c.Inside := by
  unfold srpVerifierKeysCopies
  split
  · exact fun c hc => nomatch hc
  refine inside_append hashSessionKeyPaddedCopies_inside ?_
  split
  · exact fun c hc => nomatch hc
  · exact srpVerifierProofCopies_inside hA hB

theorem numBytes_le_srpN {n : Nat} (h : numBytes n ≤ 384) : numBytes n ≤ numBytes srpN := by
  rw [numBytes_srpN]
  exact h

/-- **Every copy stays inside**: whatever fails, and whatever a failed call leaves behind. -/
theorem srpVerifierNewCopies_inside (P : OpenSSL) (verifier : Option Bytes) (vlen : Nat) (bytesA : Bytes)
    (b : Block 32) (e : VerifierEnv) : ∀ c ∈ srpVerifierNewCopies P verifier vlen bytesA b e, c.Inside := by
  unfold srpVerifierNewCopies
  simp only
  split
  · exact fun c hc => nomatch hc
  split
  · exact fun c hc => nomatch hc
  split
  · exact fun c hc => nomatch hc
  refine inside_append hNnPadCopies_inside ?_
  split
  · exact fun c hc => nomatch hc
  refine inside_append hNnPadCopies_inside ?_
  split
  · exact fun c hc => nomatch hc
  -- `H_nn_pad` came back with `u`, so `A` and `B` are no longer than `N`
  rename_i u hu
  obtain ⟨_, hA, hB⟩ := hNnPad_eq hu
  split
  · exact fun c hc => nomatch hc
  split
  · exact fun c hc => nomatch hc
  · exact srpVerifierKeysCopies_inside (numBytes_le_srpN hA) (numBytes_le_srpN hB)

/-! ## What a returned verifier went through -/

theorem hNnPadCopies_of_some {P : OpenSSL} {alloc : Bool} {N n1 n2 r : Nat} (h : hNnPad P alloc N n1 n2 = some r) :
    hNnPadCopies alloc N n1 n2 =
      [⟨numBytes N * 2, 0, numBytes N, n1⟩, ⟨numBytes N * 2, numBytes N, numBytes N, n2⟩] := by
  unfold hNnPad at h
  unfold hNnPadCopies
  split at h
  · exact nomatch h
  split at h
  · exact nomatch h
  · rename_i halloc hlen
    rw [if_neg halloc, if_neg hlen]

theorem hashSessionKeyPaddedCopies_of_some {P : OpenSSL} {alloc : Bool} {S len : Nat} {K : Block 64}
    (h : hashSessionKeyPadded P alloc S len = some K) :
    hashSessionKeyPaddedCopies alloc S len = [padOne len S] := by
  unfold hashSessionKeyPadded at h
  unfold hashSessionKeyPaddedCopies
  split at h
  · exact nomatch h
  split at h
  · rename_i hlen halloc
    rw [if_neg hlen, if_pos halloc]
  · exact nomatch h

theorem calculateM_bufs {P : OpenSSL} {e : ProofAlloc} {I salt : Bytes} {A B : Nat} {K M : Block 64}
    (h : calculateM P e I salt A B K = some M) : e.bufs = true := by
  unfold calculateM at h
  split at h
  · assumption
  · exact nomatch h

theorem calculateHAmk_bufs {P : OpenSSL} {bufs : Bool} {A len : Nat} {M K r : Block 64}
    (h : calculateHAmk P bufs A M K len = some r) : bufs = true := by
  unfold calculateHAmk at h
  split at h
  · assumption
  · exact nomatch h

theorem srpVerifierKeysCopies_of_some {P : OpenSSL} {username salt : Bytes} {A B S : Nat} {e : VerifierEnv}
    {ver : SrpVerifier} (h : srpVerifierKeys P username salt A B S e = some (some ver)) :
    srpVerifierKeysCopies P A B S e =
      [padOne (numBytes srpN) S, padOne (numBytes srpN) A, padOne (numBytes srpN) B, padOne (numBytes srpN) A,
        padOne (numBytes srpN) A, padOne (numBytes srpN) B, padOne (numBytes srpN) A] := by
  obtain ⟨hK, hKp, hM, hH, hMp, hHp⟩ := srpVerifierKeys_some h
  rw [srpVerifierKeysCopies, hK, hKp]
  simp only [hashSessionKeyPaddedCopies_of_some hKp, srpVerifierProofCopies, calculateMCopies, calculateHAmkCopies,
    calculateM_bufs hM, calculateHAmk_bufs hH, calculateM_bufs hMp, calculateHAmk_bufs hHp, if_true]
  rfl

/-- A verifier was returned only after every padded copy was made. -/
theorem srpVerifierNewCopies_of_some {P : OpenSSL} {username : Bytes} {salt : Block 16} {verifier : Option Bytes}
    {vlen : Nat} {bytesA : Bytes} {b : Block 32} {e : VerifierEnv} {ver : SrpVerifier}
    (h : srpVerifierNew P username salt verifier vlen bytesA b e = some (some ver)) :
    ∃ B S, srpVerifierKeys P username salt.val (ofBE bytesA) B S e = some (some ver) ∧
      numBytes (ofBE bytesA) ≤ numBytes srpN ∧ numBytes B ≤ numBytes srpN ∧
      srpVerifierNewCopies P verifier vlen bytesA b e = allPadCopies (ofBE bytesA) B S := by
  unfold srpVerifierNew at h
  unfold srpVerifierNewCopies
  cases hv : bnOfPointer verifier vlen with
  | none =>
      simp only [hv] at h
      exact nomatch h
  | some v =>
  simp only [hv] at h
  by_cases hinit : e.init = false
  · rw [if_pos hinit] at h
    exact nomatch h
  by_cases hmod : unchecked e.modA (ofBE bytesA % srpN) = 0
  · rw [if_neg hinit, if_pos hmod] at h
    exact nomatch h
  rw [if_neg hinit, if_neg hmod] at h
  dsimp only
  rw [if_neg hinit, if_neg hmod]
  cases hk : hNnPad P e.kAlloc srpN srpN srpG with
  | none =>
      simp only [hk] at h
      exact nomatch h
  | some k =>
  simp only [hk] at h
  rw [hNnPadCopies_of_some hk]
  dsimp only
  cases hu : hNnPad P e.uAlloc srpN (ofBE bytesA) (srpPublicB e.mulKV e.expB e.addB k v (ofBE b.val)) with
  | none =>
      simp only [hu] at h
      exact nomatch h
  | some u =>
  simp only [hu] at h
  rw [hNnPadCopies_of_some hu]
  dsimp only
  by_cases halloc : e.verAlloc = false ∨ e.username = false
  · rw [if_pos halloc] at h
    exact nomatch h
  by_cases hng : e.ng = false
  · rw [if_neg halloc, if_pos hng] at h
    exact nomatch h
  rw [if_neg halloc, if_neg hng] at h
  rw [if_neg halloc, if_neg hng]
  obtain ⟨_, hA, hB⟩ := hNnPad_eq hu
  refine ⟨_, _, h, numBytes_le_srpN hA, numBytes_le_srpN hB, ?_⟩
  rw [srpVerifierKeysCopies_of_some h]
  rfl

/-! ## Keys that are refused -/

/-- A key that is 0 mod `N` is refused at the SRP-6a check: `BN_mod` writes the remainder, or fails and leaves the
    zero that `BN_new` made. -/
theorem srpVerifierNew_zero {P : OpenSSL} {username : Bytes} {salt : Block 16} {verifier : Option Bytes}
    {vlen : Nat} {bytesA : Bytes} {b : Block 32} {e : VerifierEnv} (hmod : e.modA = none ∨ e.modA = some 0)
    (hA : ofBE bytesA % srpN = 0) :
    srpVerifierNew P username salt verifier vlen bytesA b e
      = (bnOfPointer verifier vlen).map fun _ => none := by
  have hzero : unchecked e.modA (ofBE bytesA % srpN) = 0 := by
    rcases hmod with h | h
    · rw [h, unchecked_none, hA]
    · rw [h]
      rfl
  unfold srpVerifierNew
  cases bnOfPointer verifier vlen with
  | none => rfl
  | some v =>
      simp only [hzero, if_true, Option.map_some]
      split
      · rfl
      · rfl

/-- A key longer than `N` is refused by `H_nn_pad`, before anything is computed from it. -/
theorem srpVerifierNew_long {P : OpenSSL} {username : Bytes} {salt : Block 16} {verifier : Option Bytes}
    {vlen : Nat} {bytesA : Bytes} {b : Block 32} {e : VerifierEnv}
    (hA : numBytes (ofBE bytesA) > numBytes srpN) :
    srpVerifierNew P username salt verifier vlen bytesA b e
      = (bnOfPointer verifier vlen).map fun _ => none := by
  have hu : ∀ B, hNnPad P e.uAlloc srpN (ofBE bytesA) B = none := by
    intro B
    unfold hNnPad
    split
    · rfl
    · exact if_pos (.inl hA)
  unfold srpVerifierNew
  cases bnOfPointer verifier vlen with
  | none => rfl
  | some v =>
      simp only [hu, Option.map_some]
      split
      · rfl
      split
      · rfl
      split
      · rfl
      · rfl

/-- **The guards of `srp_verifier_new`.** For every key, private value and verifier, and whatever allocation or
    unchecked call fails: a key that is 0 mod `N` and a key longer than `N` get NULL, no left-padded copy of any
    call leaves its slot or its buffer, and a verifier is returned only after all eleven of them were made.
    (Where the stored verifier is NULL but has a length there is no result: reading it comes first.) -/
theorem srpVerifierNew_guarded (P : OpenSSL) (username : Bytes) (salt : Block 16) (verifier : Option Bytes)
    (vlen : Nat) (bytesA : Bytes) (b : Block 32) (e : VerifierEnv) :
    ((e.modA = none ∨ e.modA = some 0) → ofBE bytesA % srpN = 0 →
      srpVerifierNew P username salt verifier vlen bytesA b e = (bnOfPointer verifier vlen).map fun _ => none) ∧
    (numBytes (ofBE bytesA) > numBytes srpN →
      srpVerifierNew P username salt verifier vlen bytesA b e = (bnOfPointer verifier vlen).map fun _ => none) ∧
    (∀ c ∈ srpVerifierNewCopies P verifier vlen bytesA b e, c.Inside) ∧
    (∀ ver, srpVerifierNew P username salt verifier vlen bytesA b e = some (some ver) →
      ∃ B S, srpVerifierKeys P username salt.val (ofBE bytesA) B S e = some (some ver) ∧
        srpVerifierNewCopies P verifier vlen bytesA b e = allPadCopies (ofBE bytesA) B S ∧
        ∀ c ∈ allPadCopies (ofBE bytesA) B S, c.Inside) := by
  refine ⟨srpVerifierNew_zero, srpVerifierNew_long, srpVerifierNewCopies_inside P verifier vlen bytesA b e, ?_⟩
  intro ver h
  obtain ⟨B, S, hkeys, _, _, hcopies⟩ := srpVerifierNewCopies_of_some h
  refine ⟨B, S, hkeys, hcopies, ?_⟩
  rw [← hcopies]
  exact srpVerifierNewCopies_inside P verifier vlen bytesA b e

/-! ## The mode of a check -/

/-- `srp_verifier_t` as `srp_verifier_verify` changes it. -/
structure SrpVerifierState extends SrpVerifier where
  authenticated : Bool
  /-- 1 = minimal-S KDF, 2 = padded-S KDF. -/
  proofMode : Nat

/-- The verifier `srp_verifier_new` returns: the flags are zero from `calloc`. -/
def SrpVerifier.fresh (ver : SrpVerifier) : SrpVerifierState := { ver with authenticated := false, proofMode := 0 }

/-- `srp_verifier_verify`: the return value, the verifier it leaves, and `*server_M2` (`none` for NULL). -/
def srpVerifierCheck (ver : SrpVerifierState) (clientM : Block 64) : Int × SrpVerifierState × Option (Block 64) :=
  if ver.M = clientM then
    let ver := { ver with authenticated := true, proofMode := 1 }
    (0, ver, some ver.hAmk)
  else if ver.mPadded = clientM then
    let ver := { ver with
      authenticated := true
      proofMode := 2
      sessionKey := ver.sessionKeyPadded
      M := ver.mPadded
      hAmk := ver.hAmkPadded }
    (0, ver, some ver.hAmk)
  else (-1, ver, none)

/-- What M3 reads from a check: the server proof and the session key. -/
theorem srpVerifierCheck_eq (ver : SrpVerifier) (clientM : Block 64) :
    srpVerifierVerify ver clientM.val =
      (srpVerifierCheck ver.fresh clientM).2.2.map fun serverM2 =>
        (serverM2, (srpVerifierCheck ver.fresh clientM).2.1.sessionKey) := by
  have hval : ∀ m : Block 64, (m.val = clientM.val) = (m = clientM) := fun m => propext Subtype.ext_iff.symm
  unfold srpVerifierVerify srpVerifierCheck SrpVerifier.fresh
  simp only [hval]
  by_cases hM : ver.M = clientM
  · rw [if_pos hM, if_pos hM]
    rfl
  rw [if_neg hM, if_neg hM]
  by_cases hMp : ver.mPadded = clientM
  · rw [if_pos hMp, if_pos hMp]
    rfl
  · rw [if_neg hMp, if_neg hMp]
    rfl

/-- The allocations of the `calculate_M` of a mode. -/
def VerifierEnv.proofAlloc (e : VerifierEnv) : Srp.Kdf → ProofAlloc
  | .minimal => e.m
  | .padded => e.mPadded

/-- The values of one mode: the session key made from `S` in that way, the proof that `calculate_M` made with this
    key, and the server proof over this proof and this key. -/
structure SrpVerifierState.OfMode (P : OpenSSL) (e : VerifierEnv) (salt : Block 16) (A B S : Nat) (mode : Srp.Kdf)
    (ver : SrpVerifierState) : Prop where
  sessionKey : ver.sessionKey = Srp.key P mode S
  calculated : calculateM P (e.proofAlloc mode) srpUsername salt.val A B ver.sessionKey = some ver.M
  /-- It is the proof of the protocol when the two unchecked `malloc`s of `hash_bn` did not fail. -/
  M : (e.proofAlloc mode).Clean → ver.M = Srp.M P salt A B (Srp.key P mode S)
  hAmk : ver.hAmk = Srp.serverProof P A ver.M (Srp.key P mode S)

/-- A key, a proof made with it and a server proof made with both are of one mode. -/
theorem SrpVerifierState.OfMode.mk' {P : OpenSSL} {e : VerifierEnv} {salt : Block 16} {A B S : Nat} {mode : Srp.Kdf}
    {ver : SrpVerifierState} {bufs : Bool} (hA : numBytes A ≤ 384) (hB : numBytes B ≤ 384)
    (hkey : ver.sessionKey = Srp.key P mode S)
    (hM : calculateM P (e.proofAlloc mode) srpUsername salt.val A B ver.sessionKey = some ver.M)
    (hAmk : calculateHAmk P bufs A ver.M ver.sessionKey (numBytes srpN) = some ver.hAmk) :
    ver.OfMode P e salt A B S mode where
  sessionKey := hkey
  calculated := hM
  M := fun hclean => by
    rw [← hkey]
    exact calculateM_eq hclean hA hB hM
  hAmk := by
    rw [← hkey]
    exact calculateHAmk_eq hA hAmk

/-- **One mode.** Take what `srp_verifier_new` puts into a verifier for any `S`, `A`, `B` and salt (`A` and `B` no
    longer than `N`, as `H_nn_pad` left them). If `srp_verifier_verify` returns 0, then session key, proof and server
    proof are those of one mode, the client's proof is the proof of this mode, and the server proof handed out is the
    one of this mode; otherwise it returns -1, changes nothing and hands out no proof. -/
theorem srpVerifierCheck_mode (P : OpenSSL) (salt : Block 16) (A B S : Nat) (e : VerifierEnv)
    (ver : SrpVerifierState) (clientM : Block 64) (hA : numBytes A ≤ numBytes srpN)
    (hB : numBytes B ≤ numBytes srpN)
    (hnew : srpVerifierKeys P srpUsername salt.val A B S e = some (some ver.toSrpVerifier)) :
    ((srpVerifierCheck ver clientM).1 = 0 ∨ (srpVerifierCheck ver clientM).1 = -1) ∧
    ((srpVerifierCheck ver clientM).1 = 0 → ∃ mode,
      (srpVerifierCheck ver clientM).2.1.OfMode P e salt A B S mode ∧
      (srpVerifierCheck ver clientM).2.1.M = clientM ∧
      (srpVerifierCheck ver clientM).2.2 = some (Srp.serverProof P A clientM (Srp.key P mode S))) ∧
    ((srpVerifierCheck ver clientM).1 = -1 →
      (srpVerifierCheck ver clientM).2.1 = ver ∧ (srpVerifierCheck ver clientM).2.2 = none) := by
  rw [numBytes_srpN] at hA hB
  obtain ⟨hK, hKp, hM, hH, hMp, hHp⟩ := srpVerifierKeys_some hnew
  have hne : ¬ (0 : Int) = -1 := by decide
  unfold srpVerifierCheck
  by_cases hminimal : ver.M = clientM
  · rw [if_pos hminimal]
    refine ⟨.inl rfl, fun _ => ⟨.minimal, ?_⟩, fun h => absurd h hne⟩
    have hmode : SrpVerifierState.OfMode P e salt A B S .minimal
        { ver with authenticated := true, proofMode := 1 } :=
      .mk' hA hB (hashSessionKey_eq hK) hM hH
    refine ⟨hmode, hminimal, congrArg some ?_⟩
    rw [← hminimal]
    exact hmode.hAmk
  rw [if_neg hminimal]
  by_cases hpadded : ver.mPadded = clientM
  · rw [if_pos hpadded]
    refine ⟨.inl rfl, fun _ => ⟨.padded, ?_⟩, fun h => absurd h hne⟩
    have hmode : SrpVerifierState.OfMode P e salt A B S .padded
        { ver with
          authenticated := true
          proofMode := 2
          sessionKey := ver.sessionKeyPadded
          M := ver.mPadded
          hAmk := ver.hAmkPadded } :=
      .mk' hA hB (hashSessionKeyPadded_eq hKp) hMp hHp
    refine ⟨hmode, hpadded, congrArg some ?_⟩
    rw [← hpadded]
    exact hmode.hAmk
  · rw [if_neg hpadded]
    exact ⟨.inr rfl, fun h => absurd h.symm hne, fun _ => ⟨rfl, rfl⟩⟩

theorem srpVerifierCheck_padded (ver : SrpVerifierState) : (srpVerifierCheck ver ver.mPadded).1 = 0 := by
  unfold srpVerifierCheck
  split
  · rfl
  · rw [if_pos rfl]

/-- A secret of one byte, all but one of its 384 bytes zeros, and the proof of the padded key. -/
theorem srpVerifierCheck_mode_short :
    ∃ ver : SrpVerifier, srpVerifierKeys .toy srpUsername (Block.zero 16).val 1 1 1 .ok = some (some ver) ∧
      ∃ mode, (srpVerifierCheck ver.fresh ver.mPadded).2.1.OfMode .toy .ok (Block.zero 16) 1 1 1 mode := by
  have hone : numBytes 1 ≤ numBytes srpN := numBytes_le_srpN (by decide)
  obtain ⟨ver, hnew⟩ := srpVerifierKeys_ok .toy (Block.zero 16).val 1 1 hone
  obtain ⟨_, hmode, _⟩ := srpVerifierCheck_mode .toy (Block.zero 16) 1 1 1 .ok ver.fresh ver.mPadded hone hone hnew
  obtain ⟨mode, hof, _⟩ := hmode (srpVerifierCheck_padded ver.fresh)
  exact ⟨ver, hnew, mode, hof⟩

end Showcase
