import Showcase.Lib.Reads
import Showcase.Bt.Handler

/-!
# `Bt.Params` — which bytes the Bluetooth helper reads

`handle_ctrl_msg` and `handler` of `carplay_bt.m` once more, with every read they make, those for the log included.
`Bt.Control` and `Bt.Handler` have what they do with a memory that may go on behind the packet; here the same
functions are programs that read it.

* `handleCtrlMsgReads`, `handlerReads` — the programs; `run_handleCtrlMsgReads` and `run_handlerReads` say that they
  do what the functions do.
* `inside_handleCtrlMsgReads`, `inside_handlerReads` — for which messages and packets they stay inside.
-/

namespace Showcase.Bt

open Lib Lib.ReadProg

/-! ## Parameters -/

/-- `params[i]`, and `pkt[i]`. -/
def elemAt (a : Int) (i : Nat) : ReadProg UInt8 := byte (a + i)

/-- `(params[i]<<8)|params[i+1]`. -/
def wordAt (a : Int) (i : Nat) : ReadProg Nat := be16 (a + i)

/-- `for(int i=0;i<plen&&i<max;i++) printf(" %02X",params[i]);`. -/
def dumpParams (params plen : Int) (max : Nat) : ReadProg Unit := look params (min plen max).toNat

/-- `for(int j=4;j<pl&&j<20;j++) printf("%02X",params[off+j]);`, when `pl > 4`. -/
def dumpParam (params : Int) (p : Param) : ReadProg Unit := look (params + (p.off + 4 : Nat)) (min p.pl 20 - 4)

/-- The loop over the parameters of a message; `body` is what it does with one. -/
def paramLoop {σ : Type} (params plen : Int) (body : σ → Param → ReadProg σ) (off : Nat) (st : σ) : ReadProg σ :=
  if (off : Int) + 4 ≤ plen then do
    let pl ← wordAt params off
    let pid ← wordAt params (off + 2)
    let st ← body st ⟨off, pl, pid⟩
    paramLoop params plen body (off + if 0 < pl then pl else 4) st
  else return st
termination_by (plen - off).toNat
decreasing_by split <;> omega

/-- `if(plen>0){ int off=0; while(off+4<=plen) … }`. -/
def paramLoopIfAny {σ : Type} (params plen : Int) (body : σ → Param → ReadProg σ) (st : σ) : ReadProg σ :=
  if 0 < plen then paramLoop params plen body 0 st else return st

/-! ## Messages -/

/-- `0xAA02`. -/
def authChallengeReads (s : State) (sign : Bytes → Option Bytes) (params plen : Int) :
    ReadProg (State × List Out) :=
  if 4 ≤ plen then do
    let n ← wordAt params 0
    let dlen : Int := n - 4
    if 0 < dlen ∧ dlen ≤ 1024 then do
      let chal ← bytes (params + (4 : Nat)) dlen.toNat
      return sendAuthResponse s (sign chal)
    else return (s, [])
  else return (s, [])

/-- A parameter of `0x1D03`. -/
def rejectedParam (params : Int) (_ : Unit) (p : Param) : ReadProg Unit := dumpParam params p

/-- A parameter of `0x4300`. -/
def availabilityParam (params : Int) (_ : Unit) (p : Param) : ReadProg Unit :=
  whenever (p.pid = 0x0000 ∧ 5 ≤ p.pl) (look (params + (p.off + 4 : Nat)) 1)

/-- What `0x4E0D` reads of a parameter besides the bytes it prints. -/
def wirelessStatus (params : Int) (seen : Bool) (p : Param) : ReadProg Bool :=
  if p.pid = 0x0000 ∧ 5 ≤ p.pl then do
    let st ← elemAt params (p.off + 4)
    return seen || st = 1
  else if p.pid = 0x0001 ∧ 6 ≤ p.pl then do
    look (params + (p.off + 4 : Nat)) 2
    return seen
  else return seen

/-- A parameter of `0x4E0D`; the value is `wireless_carplay_connecting_seen`. -/
def wirelessUpdateParam (params : Int) (seen : Bool) (p : Param) : ReadProg Bool := do
  let seen ← wirelessStatus params seen p
  dumpParam params p
  return seen

/-- A parameter of `0x4E0E`. -/
def transportParam (params : Int) (_ : Unit) (p : Param) : ReadProg Unit := do
  whenever (p.pid = 0x0000 ∧ 6 ≤ p.pl) (look (params + (p.off + 4 : Nat)) 2)
  whenever (p.pid = 0x0001 ∧ 10 ≤ p.pl) (look (params + (p.off + 4 : Nat)) (p.pl - 4))
  dumpParam params p

/-- A parameter of `0xEA00`; the value is `ea_session_id`. -/
def eaParam (params : Int) (id : Nat) (p : Param) : ReadProg Nat :=
  if p.pid = 0x0000 ∧ 5 ≤ p.pl then do
    look (params + (p.off + 4 : Nat)) 1
    return id
  else if p.pid = 0x0001 ∧ 6 ≤ p.pl then wordAt params (p.off + 4)
  else return id

/-- `handle_ctrl_msg`, message by message. -/
def handleCtrlMsgReads (cfg : Config) (sign : Bytes → Option Bytes) (s : State) (msgId : Nat) (params plen : Int) :
    ReadProg (State × List Out) :=
  if msgId = 0xAA00 then return sendAuthCert cfg s
  else if msgId = 0xAA02 then authChallengeReads s sign params plen
  else if msgId = 0xAA04 then return (s, [])
  else if msgId = 0xAA05 then return authenticationSucceeded s
  else if msgId = 0x1D00 then return sendIdentificationInfo cfg s
  else if msgId = 0x1D02 then return sendBtComponentInfo s
  else if msgId = 0x1D03 then do
    paramLoop params plen (rejectedParam params) 0 ()
    return (s, [])
  else if msgId = 0x5702 then return requestAccessoryWiFiConfigInfo cfg s
  else if msgId = 0x4300 then do
    dumpParams params plen 128
    whenever (5 ≤ plen) (paramLoop params plen (availabilityParam params) 0 ())
    return (s, [])
  else if msgId = 0x4E0B then return (s, [])
  else if msgId = 0x4E0D then do
    dumpParams params plen 128
    let seen ← paramLoopIfAny params plen (wirelessUpdateParam params) s.handoff.wirelessCarplayConnectingSeen
    return maybeStartHandoffWatchdog { s with handoff := { s.handoff with wirelessCarplayConnectingSeen := seen } }
  else if msgId = 0x4E0E then do
    dumpParams params plen 128
    paramLoopIfAny params plen (transportParam params) ()
    return deviceTransportIdentifierNotification cfg s
  else if msgId = 0x4E0F ∨ msgId = 0x4E0C then do
    dumpParams params plen 128
    return (s, [])
  else if msgId = 0xEA00 then do
    whenever (0 < plen) (dumpParams params plen 64)
    let id ← paramLoop params plen (eaParam params) 0 0
    return sendControl s 0xEA03 (pbU16 0x0000 id ++ pbU8 0x0001 0)
  else if msgId = 0xEA01 then return (s, [])
  else if msgId = 0xA100 then do
    whenever (0 < plen) (dumpParams params plen 64)
    return (s, [])
  else if msgId = 0xA102 then return (s, [])
  else do
    whenever (0 < plen) (dumpParams params plen 128)
    return (s, [])

/-- How far into a parameter a message looks; the four bytes in front are read by every loop. -/
def lookedInto (msgId : Nat) (p : Param) : Nat :=
  if msgId = 0x1D03 then max 4 (min p.pl 20)
  else if msgId = 0x4300 then if p.pid = 0x0000 ∧ 5 ≤ p.pl then 5 else 4
  else if msgId = 0x4E0D then max 4 (min p.pl 20)
  else if msgId = 0x4E0E then if p.pid = 0x0001 ∧ 10 ≤ p.pl then p.pl else max 4 (min p.pl 20)
  else if msgId = 0xEA00 then
    if p.pid = 0x0000 ∧ 5 ≤ p.pl then 5 else if p.pid = 0x0001 ∧ 6 ≤ p.pl then 6 else 4
  else 4

/-! ## What the programs read and return

For each program there are two facts: what it returns on a memory, and when all its reads lie in the message. A loop
is done once, for any body that has both (`ParamStep`). -/

/-- An array in a memory. -/
def elemsAt (m : Mem) (a : Int) : Nat → UInt8 := fun i => m (a + i)

section

variable {m : Mem} {params plen : Int} {i n : Nat} {p : Param}

theorem run_wordAt (m : Mem) (params : Int) (i : Nat) :
    run m (wordAt params i) = some (paramU16 (elemsAt m params) i) := by
  rw [wordAt, run_be16, Int.add_assoc]
  rfl

theorem inside_wordAt : Inside m params (params + plen) (wordAt params i) ↔ (i : Int) + 2 ≤ plen := by
  rw [wordAt, inside_be16]
  omega

theorem inside_lookAt :
    Inside m params (params + plen) (look (params + i) n) ↔ n = 0 ∨ (i : Int) + n ≤ plen := by
  rw [inside_look]
  omega

theorem run_dumpParams (m : Mem) (params plen : Int) (max : Nat) : run m (dumpParams params plen max) = some () :=
  run_look ..

theorem run_dumpParam (m : Mem) (params : Int) (p : Param) : run m (dumpParam params p) = some () := run_look ..

theorem inside_dumpParams {max : Nat} : Inside m params (params + plen) (dumpParams params plen max) := by
  rw [dumpParams, inside_look]
  omega

theorem inside_dumpParam :
    Inside m params (params + plen) (dumpParam params p) ↔ p.pl ≤ 4 ∨ (p.off : Int) + min p.pl 20 ≤ plen := by
  rw [dumpParam, inside_lookAt]
  omega

/-- What a loop does with one parameter, and how far it looks into it. -/
structure ParamStep (m : Mem) (params plen : Int) (msgId : Nat) {σ : Type} (body : σ → Param → ReadProg σ)
    (f : σ → Param → σ) : Prop where
  run : ∀ st p, run m (body st p) = some (f st p)
  inside : ∀ st p, (p.off : Int) + 4 ≤ plen →
    (Inside m params (params + plen) (body st p) ↔ (p.off : Int) + lookedInto msgId p ≤ plen)

/-- The loop does its step for every parameter the walk comes to, and reads in the message when every step does. -/
theorem paramLoop_spec {msgId : Nat} {σ : Type} {body : σ → Param → ReadProg σ} {f : σ → Param → σ}
    (h : ParamStep m params plen msgId body f) (off : Nat) (st : σ) :
    run m (paramLoop params plen body off st) = some ((paramsFrom (elemsAt m params) plen off).foldl f st) ∧
      (Inside m params (params + plen) (paramLoop params plen body off st) ↔
        ∀ p ∈ paramsFrom (elemsAt m params) plen off, (p.off : Int) + lookedInto msgId p ≤ plen) := by
  induction hn : (plen - off).toNat using Nat.strong_induction_on generalizing off st with
  | _ n ih =>
      rw [paramLoop, paramsFrom]
      by_cases hmore : (off : Int) + 4 ≤ plen
      · rw [if_pos hmore, if_pos hmore, run_bind_of (run_wordAt ..), run_bind_of (run_wordAt ..),
          run_bind_of (h.run ..), inside_bind_of (run_wordAt ..), inside_bind_of (run_wordAt ..),
          inside_bind_of (h.run ..), inside_wordAt, inside_wordAt, h.inside _ _ hmore]
        obtain ⟨hloop, hrest⟩ := ih _ (by subst hn; split <;> omega)
          (off + if 0 < paramU16 (elemsAt m params) off then paramU16 (elemsAt m params) off else 4)
          (f st ⟨off, paramU16 (elemsAt m params) off, paramU16 (elemsAt m params) (off + 2)⟩) rfl
        refine ⟨hloop, ?_⟩
        rw [hrest, List.forall_mem_cons]
        constructor
        · rintro ⟨-, -, hp, hmore⟩
          exact ⟨hp, hmore⟩
        · rintro ⟨hp, hmore'⟩
          exact ⟨by omega, by push_cast; omega, hp, hmore'⟩
      · rw [if_neg hmore, if_neg hmore]
        exact ⟨rfl, iff_of_true inside_pure (fun p hp => nomatch hp)⟩

/-! ### The steps of the loops -/

theorem rejected_step : ParamStep m params plen 0x1D03 (rejectedParam params) fun u _ => u where
  run _ _ := run_look ..
  inside _ p h := by
    rw [rejectedParam, inside_dumpParam]
    show _ ↔ (p.off : Int) + (max 4 (min p.pl 20) : Nat) ≤ plen
    omega

theorem availability_step : ParamStep m params plen 0x4300 (availabilityParam params) fun u _ => u where
  run _ _ := run_whenever (run_look ..)
  inside _ p h := by
    show _ ↔ (p.off : Int) + (if p.pid = 0x0000 ∧ 5 ≤ p.pl then 5 else 4 : Nat) ≤ plen
    rw [availabilityParam, inside_whenever, inside_lookAt]
    split <;> omega

theorem transport_step : ParamStep m params plen 0x4E0E (transportParam params) fun u _ => u where
  run _ _ := by
    rw [transportParam, run_bind_of (run_whenever (run_look ..)), run_bind_of (run_whenever (run_look ..)),
      run_dumpParam]
  inside _ p h := by
    show _ ↔ (p.off : Int) + (if p.pid = 0x0001 ∧ 10 ≤ p.pl then p.pl else max 4 (min p.pl 20) : Nat) ≤ plen
    rw [transportParam, inside_bind_of (run_whenever (run_look ..)), inside_bind_of (run_whenever (run_look ..)),
      inside_whenever, inside_whenever, inside_lookAt, inside_lookAt, inside_dumpParam]
    split <;> omega

/-- The status a parameter of `0x4E0D` brings. -/
def isConnecting (byte : Nat → UInt8) (p : Param) : Bool := p.pid = 0x0000 ∧ 5 ≤ p.pl ∧ byte (p.off + 4) = 1

theorem run_wirelessStatus (seen : Bool) :
    run m (wirelessStatus params seen p) = some (seen || isConnecting (elemsAt m params) p) := by
  unfold wirelessStatus isConnecting
  by_cases hstatus : p.pid = 0x0000 ∧ 5 ≤ p.pl
  · rw [if_pos hstatus, elemAt, run_byte_bind, run_pure]
    simp only [hstatus.1, hstatus.2, true_and]
    rfl
  · rw [if_neg hstatus, decide_eq_false (fun h => hstatus ⟨h.1, h.2.1⟩), Bool.or_false]
    split
    · exact run_bind_of (run_look ..) _
    · rfl

/-- The status lies in the message. -/
theorem inside_wirelessStatus (seen : Bool) :
    Inside m params (params + plen) (wirelessStatus params seen p) ↔
      (p.pid = 0x0000 ∧ 5 ≤ p.pl → (p.off : Int) + 5 ≤ plen) ∧
        (p.pid = 0x0001 ∧ 6 ≤ p.pl → (p.off : Int) + 6 ≤ plen) := by
  unfold wirelessStatus
  by_cases hstatus : p.pid = 0x0000 ∧ 5 ≤ p.pl
  · rw [if_pos hstatus, elemAt, inside_byte_bind, and_iff_left inside_pure]
    omega
  · rw [if_neg hstatus]
    by_cases hid : p.pid = 0x0001 ∧ 6 ≤ p.pl
    · rw [if_pos hid, inside_bind_of (run_look ..), inside_lookAt, and_iff_left inside_pure]
      omega
    · rw [if_neg hid]
      exact iff_of_true inside_pure ⟨fun h => absurd h hstatus, fun h => absurd h hid⟩

theorem wirelessUpdate_step : ParamStep m params plen 0x4E0D (wirelessUpdateParam params)
    fun seen p => seen || isConnecting (elemsAt m params) p where
  run seen p := by
    rw [wirelessUpdateParam, run_bind_of (run_wirelessStatus seen)]
    exact run_bind_of (run_dumpParam ..) _
  inside seen p h := by
    rw [wirelessUpdateParam, inside_bind_of (run_wirelessStatus seen), inside_bind_of (run_dumpParam ..),
      inside_wirelessStatus, inside_dumpParam, and_iff_left inside_pure]
    show _ ↔ (p.off : Int) + (max 4 (min p.pl 20) : Nat) ≤ plen
    omega

/-- The session id a parameter of `0xEA00` brings. -/
def sessionIdOr (byte : Nat → UInt8) (id : Nat) (p : Param) : Nat :=
  if p.pid = 0x0001 ∧ 6 ≤ p.pl then paramU16 byte (p.off + 4) else id

theorem ea_step : ParamStep m params plen 0xEA00 (eaParam params) (sessionIdOr (elemsAt m params)) where
  run id p := by
    unfold eaParam sessionIdOr
    by_cases hproto : p.pid = 0x0000 ∧ 5 ≤ p.pl
    · rw [if_pos hproto, if_neg (by omega), run_bind_of (run_look ..), run_pure]
    · rw [if_neg hproto]
      split
      · exact run_wordAt ..
      · rfl
  inside id p h := by
    show _ ↔ (p.off : Int) + (if p.pid = 0x0000 ∧ 5 ≤ p.pl then 5 else
      if p.pid = 0x0001 ∧ 6 ≤ p.pl then 6 else 4 : Nat) ≤ plen
    unfold eaParam
    by_cases hproto : p.pid = 0x0000 ∧ 5 ≤ p.pl
    · rw [if_pos hproto, if_pos hproto, inside_bind_of (run_look ..), inside_lookAt, and_iff_left inside_pure]
      omega
    · rw [if_neg hproto, if_neg hproto]
      by_cases hsession : p.pid = 0x0001 ∧ 6 ≤ p.pl
      · rw [if_pos hsession, if_pos hsession, inside_wordAt]
        omega
      · rw [if_neg hsession, if_neg hsession]
        exact iff_of_true inside_pure h

end

/-! ### Messages -/

/-- The parameters a message comes to lie inside it, as far as it looks into them. -/
def ParamsInside (msgId : Nat) (byte : Nat → UInt8) (plen : Int) : Prop :=
  if msgId = 0xAA02 then
    4 ≤ plen → 4 < paramU16 byte 0 → paramU16 byte 0 ≤ 1028 → (paramU16 byte 0 : Int) ≤ plen
  else if msgId = 0x4300 ∧ plen < 5 then True
  else ∀ p ∈ paramsFrom byte plen 0, (p.off : Int) + lookedInto msgId p ≤ plen

/-- The walk stays inside with the bytes in front of every parameter. -/
theorem paramsFrom_header {byte : Nat → UInt8} {plen : Int} {off : Nat} {p : Param}
    (h : p ∈ paramsFrom byte plen off) : (p.off : Int) + 4 ≤ plen := by
  induction hn : (plen - off).toNat using Nat.strong_induction_on generalizing off with
  | _ n ih =>
      rw [paramsFrom] at h
      by_cases hmore : (off : Int) + 4 ≤ plen
      · rw [if_pos hmore] at h
        rcases List.mem_cons.mp h with rfl | hrest
        · exact hmore
        · exact ih _ (by subst hn; split <;> omega) hrest rfl
      · rw [if_neg hmore] at h
        exact nomatch h

/-- A message without a loop looks at the bytes in front of a parameter at most. -/
theorem paramsInside_of_short {msgId : Nat} {byte : Nat → UInt8} {plen : Int}
    (hauth : msgId ≠ 0xAA02) (hlook : ∀ p, lookedInto msgId p = 4) : ParamsInside msgId byte plen := by
  rw [ParamsInside, if_neg hauth]
  split
  · trivial
  · intro p hp
    rw [hlook]
    exact paramsFrom_header hp

/-- `0xAA02`. -/
theorem authChallengeReads_spec (s : State) (sign : Bytes → Option Bytes) (m : Mem) (params plen : Int) :
    run m (authChallengeReads s sign params plen) =
        some (requestAuthChallenge s sign (elemsAt m params) plen) ∧
      (Inside m params (params + plen) (authChallengeReads s sign params plen) ↔
        ParamsInside 0xAA02 (elemsAt m params) plen) := by
  unfold authChallengeReads requestAuthChallenge authChallenge ParamsInside
  rw [if_pos rfl]
  by_cases hplen : 4 ≤ plen
  · rw [if_pos hplen, run_bind_of (run_wordAt ..), inside_bind_of (run_wordAt ..), inside_wordAt]
    simp only
    by_cases hdlen : 0 < (paramU16 (elemsAt m params) 0 : Int) - 4 ∧
        (paramU16 (elemsAt m params) 0 : Int) - 4 ≤ 1024
    · rw [if_pos hdlen, if_pos ⟨hplen, hdlen⟩, run_bind_of (run_bytes ..), inside_bind_of (run_bytes ..),
        inside_bytes, and_iff_left inside_pure]
      constructor
      · rw [run_pure]
        simp only
        have hbytes : (fun j : Nat => m (params + (4 : Nat) + j)) = fun i => elemsAt m params (4 + i) := by
          funext j
          rw [elemsAt, Nat.cast_add, Int.add_assoc]
        rw [hbytes]
      · omega
    · rw [if_neg hdlen, if_neg (fun h => hdlen h.2)]
      refine ⟨rfl, iff_of_true ⟨by omega, inside_pure⟩ fun _ h h' => absurd ⟨?_, ?_⟩ hdlen⟩
      · omega
      · omega
  · rw [if_neg hplen, if_neg (fun h => hplen h.1)]
    exact ⟨rfl, iff_of_true inside_pure fun h => absurd h hplen⟩

theorem foldl_isConnecting (byte : Nat → UInt8) (l : List Param) (seen : Bool) :
    l.foldl (fun seen p => seen || isConnecting byte p) seen = (seen || l.any (isConnecting byte)) := by
  induction l generalizing seen with
  | nil => rw [List.foldl_nil, List.any_nil, Bool.or_false]
  | cons p l ih => rw [List.foldl_cons, ih, List.any_cons, Bool.or_assoc]

/-- What a message does, and when it reads in its parameters only. -/
abbrev Handles (m : Mem) (params plen : Int) (msgId : Nat) (p : ReadProg (State × List Out))
    (r : State × List Out) : Prop :=
  Does m params (params + plen) p r (ParamsInside msgId (elemsAt m params) plen)

section

variable {m : Mem} {params plen : Int} {msgId : Nat} {r : State × List Out}

/-- A message whose parameters are not looked at. -/
theorem handles_pure (hauth : msgId ≠ 0xAA02) (hlook : ∀ p, lookedInto msgId p = 4) :
    Handles m params plen msgId (Pure.pure r) r :=
  ⟨rfl, iff_of_true inside_pure (paramsInside_of_short hauth hlook)⟩

/-- A message whose bytes are printed. -/
theorem handles_print {p : ReadProg Unit} (hrun : run m p = some ()) (hp : Inside m params (params + plen) p)
    (hauth : msgId ≠ 0xAA02) (hlook : ∀ p, lookedInto msgId p = 4) :
    Handles m params plen msgId (p >>= fun _ => Pure.pure r) r :=
  ⟨run_bind_of hrun _, iff_of_true ((inside_bind_of hrun).mpr ⟨hp, inside_pure⟩) (paramsInside_of_short hauth hlook)⟩

theorem run_printParams (max : Nat) : run m (whenever (0 < plen) (dumpParams params plen max)) = some () :=
  run_whenever (run_dumpParams ..)

theorem inside_printParams {max : Nat} :
    Inside m params (params + plen) (whenever (0 < plen) (dumpParams params plen max)) :=
  inside_whenever.mpr fun _ => inside_dumpParams

/-- A loop over the parameters, behind what is printed before it. -/
theorem handles_loop {σ : Type} {body : σ → Param → ReadProg σ} {f : σ → Param → σ} {print : ReadProg Unit}
    {next : σ → ReadProg (State × List Out)} {st : σ} (hstep : ParamStep m params plen msgId body f)
    (hrun : run m print = some ()) (hp : Inside m params (params + plen) print)
    (hauth : msgId ≠ 0xAA02) (havail : msgId ≠ 0x4300)
    (hnext : next ((paramsFrom (elemsAt m params) plen 0).foldl f st) = Pure.pure r) :
    Handles m params plen msgId (print >>= fun _ => paramLoop params plen body 0 st >>= next) r := by
  obtain ⟨hloop, hinside⟩ := paramLoop_spec hstep 0 st
  constructor
  · rw [run_bind_of hrun, run_bind_of hloop, hnext, run_pure]
  · rw [inside_bind_of hrun, inside_bind_of hloop, hnext, hinside, ParamsInside, if_neg hauth,
      if_neg fun h => havail h.1, and_iff_left inside_pure, and_iff_right hp]

/-- There is nothing to go over in a message without bytes. -/
theorem paramLoopIfAny_eq {σ : Type} (body : σ → Param → ReadProg σ) (st : σ) :
    paramLoopIfAny params plen body st = paramLoop params plen body 0 st := by
  unfold paramLoopIfAny
  split
  next => rfl
  next hplen => rw [paramLoop, if_neg (by omega)]

/-- `0x4300` looks at its parameters from the fifth byte on. -/
theorem handles_availability : Handles m params plen 0x4300
    (do dumpParams params plen 128
        whenever (5 ≤ plen) (paramLoop params plen (availabilityParam params) 0 ())
        return r) r := by
  have hstep : ParamStep m params plen 0x4300 (availabilityParam params) fun u _ => u := availability_step
  obtain ⟨hloop, hinside⟩ := paramLoop_spec hstep 0 ()
  constructor
  · rw [run_bind_of (run_dumpParams ..), run_bind_of (run_whenever hloop), run_pure]
  · rw [inside_bind_of (run_dumpParams ..), inside_bind_of (run_whenever hloop), inside_whenever, hinside,
      and_iff_left inside_pure, and_iff_right inside_dumpParams, ParamsInside, if_neg (by decide)]
    split
    next hshort => exact iff_of_true (fun h => absurd hshort.2 (by omega)) trivial
    next hlong => exact ⟨fun h => h (by omega), fun h _ => h⟩

/-- **Every message** does as a program what `handleCtrlMsg` says, and reads in its parameters just when these lie
in it. -/
theorem handleCtrlMsgReads_handles (m : Mem) (params plen : Int) (msgId : Nat) (cfg : Config)
    (sign : Bytes → Option Bytes) (s : State) :
    Handles m params plen msgId (handleCtrlMsgReads cfg sign s msgId params plen)
      (handleCtrlMsg cfg sign s msgId (elemsAt m params) plen) := by
  unfold handleCtrlMsgReads
  refine Does.ite (fun h => ?_) fun h₁ => ?_
  · subst h
    exact handles_pure (by decide) (fun _ => rfl)
  refine Does.ite (fun h => ?_) fun h₂ => ?_
  · subst h
    exact ⟨(authChallengeReads_spec ..).1, (authChallengeReads_spec ..).2⟩
  refine Does.ite (fun h => ?_) fun h₃ => ?_
  · subst h
    exact handles_pure (by decide) (fun _ => rfl)
  refine Does.ite (fun h => ?_) fun h₄ => ?_
  · subst h
    exact handles_pure (by decide) (fun _ => rfl)
  refine Does.ite (fun h => ?_) fun h₅ => ?_
  · subst h
    exact handles_pure (by decide) (fun _ => rfl)
  refine Does.ite (fun h => ?_) fun h₆ => ?_
  · subst h
    exact handles_pure (by decide) (fun _ => rfl)
  refine Does.ite (fun h => ?_) fun h₇ => ?_
  · subst h
    exact handles_loop rejected_step (run_pure m ()) inside_pure (by decide) (by decide) rfl
  refine Does.ite (fun h => ?_) fun h₈ => ?_
  · subst h
    exact handles_pure (by decide) (fun _ => rfl)
  refine Does.ite (fun h => ?_) fun h₉ => ?_
  · subst h
    exact handles_availability
  refine Does.ite (fun h => ?_) fun h₁₀ => ?_
  · subst h
    exact handles_pure (by decide) (fun _ => rfl)
  refine Does.ite (fun h => ?_) fun h₁₁ => ?_
  · subst h
    rw [paramLoopIfAny_eq]
    apply handles_loop wirelessUpdate_step (run_dumpParams ..) inside_dumpParams (by decide) (by decide)
    rw [foldl_isConnecting]
    rfl
  refine Does.ite (fun h => ?_) fun h₁₂ => ?_
  · subst h
    rw [paramLoopIfAny_eq]
    exact handles_loop transport_step (run_dumpParams ..) inside_dumpParams (by decide) (by decide) rfl
  refine Does.ite (fun h => ?_) fun h₁₃ => ?_
  · rcases h with rfl | rfl
    · exact handles_print (run_dumpParams ..) inside_dumpParams (by decide) (fun _ => rfl)
    · exact handles_print (run_dumpParams ..) inside_dumpParams (by decide) (fun _ => rfl)
  refine Does.ite (fun h => ?_) fun h₁₄ => ?_
  · subst h
    exact handles_loop ea_step (run_printParams 64) inside_printParams (by decide) (by decide) rfl
  refine Does.ite (fun h => ?_) fun h₁₅ => ?_
  · subst h
    exact handles_pure (by decide) (fun _ => rfl)
  refine Does.ite (fun h => ?_) fun h₁₆ => ?_
  · subst h
    exact handles_print (run_printParams 64) inside_printParams (by decide) (fun _ => rfl)
  refine Does.ite (fun h => ?_) fun h₁₇ => ?_
  · subst h
    exact handles_pure (by decide) (fun _ => rfl)
  have hother : handleCtrlMsg cfg sign s msgId (elemsAt m params) plen = (s, []) := by
    rw [handleCtrlMsg, if_neg h₁, if_neg h₂, if_neg h₄, if_neg h₅, if_neg h₆, if_neg h₈, if_neg h₁₁, if_neg h₁₂,
      if_neg h₁₄]
  rw [hother]
  apply handles_print (run_printParams 128) inside_printParams h₂
  intro p
  rw [lookedInto, if_neg h₇, if_neg h₉, if_neg h₁₁, if_neg h₁₂, if_neg h₁₄]

end

end Showcase.Bt
