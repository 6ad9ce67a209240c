import Showcase.Pair.VerifyAuth
import Showcase.Services.Session
import Showcase.Services.RoundTrip

/-!
# `Services.NonceReuse` — one plaintext for each key and nonce

A nonce is fresh because `writeNonce` is above every nonce used under its key. Four things can undo that: a frame
that is encrypted and not counted, a reset under a key that is already in use, two threads in one channel, and the
counter itself.

* `nonce_fresh` — a run whose steps avoid these never encrypts two plaintexts under one key and nonce.
* `nonce_reused` — a second POST /pair-verify, of any content, makes the next response reuse nonce 0.
-/

namespace Showcase

open Lib

variable {P : OpenSSL} {sk pk : Block 32}

/-- No two different plaintexts under one key and nonce. -/
def NoNonceReuse (log : List Encryption) : Prop :=
  ∀ a ∈ log, ∀ b ∈ log, a.key = b.key → a.nonce = b.nonce → a.plaintext = b.plaintext

/-- Some frame is encrypted under this key. -/
def KeyUsed (log : List Encryption) (key : Block 32) : Prop := ∃ a ∈ log, a.key = key

/-- Some thread is in the middle of using the channel. -/
def InFlight (s : Session) (ch : Chan) : Prop := ∃ t pc, (s.thread t).pc = some pc ∧ pc.chan = ch

/-! ## The condition on a step -/

/-- The step begins the operation. -/
def Executes (x : Step Session SessionInput) (op : Op) : Prop :=
  ∃ t todo, x.input = .step t ∧ x.pre.thread t = ⟨none, op :: todo⟩

/-- The step goes on from here. -/
def Advances (x : Step Session SessionInput) (pc : Pc) : Prop :=
  ∃ t todo, x.input = .step t ∧ x.pre.thread t = ⟨some pc, todo⟩

/-- The step does not open a way to a second use of a nonce. -/
structure NonceSafe (P : OpenSSL) (x : Step Session SessionInput) : Prop where
  /-- No two frames of the event channel overlap. -/
  alone : ∀ data e, Executes x (.eventFrame data e) → ¬ InFlight x.pre .event
  /-- What is encrypted is also sent ... -/
  sealed : ∀ ch nonce data e, Advances x (.encrypt ch nonce data e) → e.cipher = true ∧ e.out = true
  /-- ... completely. -/
  sent : ∀ ch out e, Advances x (.transmit ch out e) → (sendLoop e.sends out).2 = true
  counted : ∀ ch, Advances x (.count ch) → (x.pre.ctx ch).writeNonce.toNat + 1 < 2 ^ 64
  /-- Keys are activated before they are used, ... -/
  controlKey : ∀ kp, Executes x .activate → x.pre.pair.bind (pairDeriveControlKeys P) = some kp →
    ¬ KeyUsed x.pre.log kp.writeKey ∧
      ((x.pre.ctx .event).active = true → kp.writeKey ≠ (x.pre.ctx .event).writeKey)
  /-- ... and not under a frame that is being sent. -/
  eventKey : ∀ kp, Executes x .eventKeys → x.pre.pair.bind (pairDeriveEventKeys P) = some kp →
    ¬ KeyUsed x.pre.log kp.writeKey ∧
      ((x.pre.ctx .control).active = true → kp.writeKey ≠ (x.pre.ctx .control).writeKey) ∧
      ¬ InFlight x.pre .event

/-! ## Counters above the log -/

/-- Every nonce used under the key is below `n`. -/
def UsedBelow (log : List Encryption) (key : Block 32) (n : Nat) : Prop :=
  ∀ a ∈ log, a.key = key → a.nonce.toNat < n

section UsedBelow

variable {log : List Encryption} {key key' : Block 32} {n : Nat} {nonce : UInt64} {plaintext : Bytes}

theorem usedBelow_of_unused (h : ¬ KeyUsed log key) : UsedBelow log key n := by
  intro a ha hkey
  exact absurd ⟨a, ha, hkey⟩ h

theorem UsedBelow.snoc (h : UsedBelow log key nonce.toNat) :
    UsedBelow (log ++ [⟨key, nonce, plaintext⟩]) key (nonce.toNat + 1) := by
  intro a ha hkey
  rcases List.mem_append.mp ha with ha | ha
  · exact Nat.lt_succ_of_lt (h a ha hkey)
  · rw [List.mem_singleton.mp ha]
    exact Nat.lt_succ_self _

/-- A frame under another key does not count. -/
theorem UsedBelow.snoc_other (h : UsedBelow log key n) (hne : key' ≠ key) :
    UsedBelow (log ++ [⟨key', nonce, plaintext⟩]) key n := by
  intro a ha hkey
  rcases List.mem_append.mp ha with ha | ha
  · exact h a ha hkey
  · rw [List.mem_singleton.mp ha] at hkey
    exact absurd hkey hne

/-- A nonce that is not below itself is new. -/
theorem NoNonceReuse.snoc (h : NoNonceReuse log) (hnew : UsedBelow log key nonce.toNat) :
    NoNonceReuse (log ++ [⟨key, nonce, plaintext⟩]) := by
  have hother : ∀ a ∈ log, a.key = key → a.nonce ≠ nonce := by
    intro a ha hkey hnonce
    have hlt := hnew a ha hkey
    rw [hnonce] at hlt
    exact Nat.lt_irrefl _ hlt
  intro a ha b hb hkey hnonce
  rcases List.mem_append.mp ha with ha | ha <;> rcases List.mem_append.mp hb with hb | hb
  · exact h a ha b hb hkey hnonce
  · rw [List.mem_singleton.mp hb] at hkey hnonce
    exact absurd hnonce (hother a ha hkey)
  · rw [List.mem_singleton.mp ha] at hkey hnonce
    exact absurd hnonce.symm (hother b hb hkey.symm)
  · rw [List.mem_singleton.mp ha, List.mem_singleton.mp hb]

end UsedBelow

/-! ## The invariant

The counter of a channel is above every nonce in the log under its key, but for a frame between its encryption and the
count; a thread is at that place then, and no other one in the channel. Channels that are live have different keys. -/

/-- What holds of a channel in the middle of a function. -/
def Pc.Ok (log : List Encryption) (enc : EncryptedCtx) : Pc → Prop
  | .encrypt _ nonce _ _ =>
      enc.active = true ∧ nonce = enc.writeNonce ∧ UsedBelow log enc.writeKey enc.writeNonce.toNat
  | .transmit _ _ _ => enc.active = true ∧ UsedBelow log enc.writeKey (enc.writeNonce.toNat + 1)
  | .count _ => enc.active = true ∧ UsedBelow log enc.writeKey (enc.writeNonce.toNat + 1)
  | .resetEvent => UsedBelow log enc.writeKey 0

/-- What a thread may have left to do. -/
def Op.Ok (t : ThreadId) (eventEnc : EncryptedCtx) : Op → Prop
  | .eventFrame _ _ => eventEnc.active = true
  | .hidReport _ _ _ => True
  | .wait => True
  | .signal => True
  | _ => t = .control

/-- The channel encrypts under its key, or is about to. -/
def Live (s : Session) (ch : Chan) : Prop :=
  (s.ctx ch).active = true ∨ (ch = .event ∧ ∃ t, (s.thread t).pc = some .resetEvent)

/-- The invariant of a run. -/
structure NonceInv (s : Session) : Prop where
  fresh : NoNonceReuse s.log
  keys : ∀ ch ch', ch ≠ ch' → Live s ch → Live s ch' → (s.ctx ch).writeKey ≠ (s.ctx ch').writeKey
  todo : ∀ t, ∀ op ∈ (s.thread t).todo, op.Ok t (s.ctx .event)
  controlPc : ∀ t pc, (s.thread t).pc = some pc → (pc.chan = .control ∨ pc = .resetEvent) → t = .control
  exclusive : ∀ t t' pc pc', (s.thread t).pc = some pc → (s.thread t').pc = some pc' → pc.chan = pc'.chan → t = t'
  inFlight : ∀ t pc, (s.thread t).pc = some pc → pc.Ok s.log (s.ctx pc.chan)
  idle : ∀ ch, ¬ InFlight s ch → (s.ctx ch).active = true →
    UsedBelow s.log (s.ctx ch).writeKey (s.ctx ch).writeNonce.toNat

theorem nonceInv_init : NonceInv Session.init where
  fresh := by
    intro a ha
    exact absurd ha List.not_mem_nil
  keys := by
    intro ch ch' _ hlive
    rcases hlive with hact | ⟨_, t, hpc⟩
    · exact absurd hact Bool.false_ne_true
    · exact absurd hpc (by simp [Session.init])
  todo := by
    intro t op hop
    exact absurd hop List.not_mem_nil
  controlPc := by
    intro t pc hpc
    exact absurd hpc (by simp [Session.init])
  exclusive := by
    intro t t' pc pc' hpc
    exact absurd hpc (by simp [Session.init])
  inFlight := by
    intro t pc hpc
    exact absurd hpc (by simp [Session.init])
  idle := by
    intro ch _ hact
    exact absurd hact Bool.false_ne_true

/-- A thread in the middle of a function makes its channel live. -/
theorem NonceInv.live_of_pc {s : Session} (h : NonceInv s) {t : ThreadId} {pc : Pc}
    (hpc : (s.thread t).pc = some pc) : Live s pc.chan := by
  have hok := h.inFlight t pc hpc
  cases pc with
  | encrypt ch nonce data e => exact .inl hok.1
  | transmit ch out e => exact .inl hok.1
  | count ch => exact .inl hok.1
  | resetEvent => exact .inr ⟨rfl, t, hpc⟩

/-! ## One thread moves

A step moves one thread. The places of the others keep their meaning when the step leaves their channels alone, so
what is left to show is the place of the thread itself and what becomes of the log. -/

section Thread

variable {s s' : Session} {t : ThreadId} {pc pc' : Option Pc} {todo todo' : List Op}

/-- **A thread moves.** What is left to show where one thread moves and the others stay: its own place, the
    channels of the others, and the channels nobody uses. -/
theorem NonceInv.of_thread (h : NonceInv s) (hthread : s'.thread = s.thread) (hfresh : NoNonceReuse s'.log)
    (hkeys : ∀ ch ch', ch ≠ ch' → Live (s'.setThread t ⟨pc', todo'⟩) ch → Live (s'.setThread t ⟨pc', todo'⟩) ch' →
      (s'.ctx ch).writeKey ≠ (s'.ctx ch').writeKey)
    (htodo : ∀ op ∈ todo', op.Ok t (s'.ctx .event))
    (hactive : (s.ctx .event).active = true → (s'.ctx .event).active = true)
    (hpc : ∀ p, pc' = some p → p.Ok s'.log (s'.ctx p.chan) ∧
      ((p.chan = .control ∨ p = .resetEvent) → t = .control) ∧ ∀ t' q, t' ≠ t → (s.thread t').pc = some q →
        q.chan ≠ p.chan)
    (hother : ∀ t' q, t' ≠ t → (s.thread t').pc = some q → q.Ok s'.log (s'.ctx q.chan))
    (hidle : ∀ ch, (∀ p, pc' = some p → p.chan ≠ ch) →
      (∀ t' q, t' ≠ t → (s.thread t').pc = some q → q.chan ≠ ch) → (s'.ctx ch).active = true →
        UsedBelow s'.log (s'.ctx ch).writeKey (s'.ctx ch).writeNonce.toNat) :
    NonceInv (s'.setThread t ⟨pc', todo'⟩) := by
  have hself : (s'.setThread t ⟨pc', todo'⟩).thread t = ⟨pc', todo'⟩ :=
    s'.setThread_self t _
  have hne : ∀ t', t' ≠ t → (s'.setThread t ⟨pc', todo'⟩).thread t' = s.thread t' := by
    intro t' ht'
    rw [s'.setThread_other _ ht', hthread]
  constructor
  case fresh => exact hfresh
  case keys => exact hkeys
  case todo =>
    intro t' op hop
    by_cases ht' : t' = t
    · subst ht'
      rw [hself] at hop
      exact htodo op hop
    · rw [hne t' ht'] at hop
      have hok := h.todo t' op hop
      -- only a frame of the event channel looks at the channel, and that stays active
      cases op with
      | eventFrame data e => exact hactive hok
      | _ => exact hok
  case controlPc =>
    intro t' q hq hchan
    by_cases ht' : t' = t
    · subst ht'
      rw [hself] at hq
      exact (hpc q hq).2.1 hchan
    · rw [hne t' ht'] at hq
      exact h.controlPc t' q hq hchan
  case exclusive =>
    intro t₁ t₂ q₁ q₂ hq₁ hq₂ hchan
    by_cases ht₁ : t₁ = t
    · by_cases ht₂ : t₂ = t
      · rw [ht₁, ht₂]
      · subst ht₁
        rw [hself] at hq₁
        rw [hne t₂ ht₂] at hq₂
        exact absurd hchan.symm ((hpc q₁ hq₁).2.2 t₂ q₂ ht₂ hq₂)
    · rw [hne t₁ ht₁] at hq₁
      by_cases ht₂ : t₂ = t
      · subst ht₂
        rw [hself] at hq₂
        exact absurd hchan ((hpc q₂ hq₂).2.2 t₁ q₁ ht₁ hq₁)
      · rw [hne t₂ ht₂] at hq₂
        exact h.exclusive t₁ t₂ q₁ q₂ hq₁ hq₂ hchan
  case inFlight =>
    intro t' q hq
    by_cases ht' : t' = t
    · subst ht'
      rw [hself] at hq
      exact (hpc q hq).1
    · rw [hne t' ht'] at hq
      exact hother t' q ht' hq
  case idle =>
    intro ch hfree hact
    apply hidle ch _ _ hact
    · intro p hp hchan
      exact hfree ⟨t, p, by rw [hself]; exact hp, hchan⟩
    · intro t' q ht' hq hchan
      exact hfree ⟨t', q, by rw [hne t' ht']; exact hq, hchan⟩

/-- What makes a channel live behind a step. -/
theorem live_setThread {ch : Chan} (hthread : s'.thread = s.thread)
    (h : Live (s'.setThread t ⟨pc', todo'⟩) ch) :
    (s'.ctx ch).active = true ∨
      (ch = .event ∧ (pc' = some .resetEvent ∨ ∃ t', t' ≠ t ∧ (s.thread t').pc = some .resetEvent)) := by
  rcases h with hact | ⟨hch, t', hreset⟩
  · exact .inl hact
  · by_cases ht' : t' = t
    · subst ht'
      rw [s'.setThread_self] at hreset
      exact .inr ⟨hch, .inl hreset⟩
    · rw [s'.setThread_other _ ht', hthread] at hreset
      exact .inr ⟨hch, .inr ⟨t', ht', hreset⟩⟩

/-- **Keys and log stay.** The thread moves within its channel, or into one that nobody uses. -/
theorem NonceInv.keep (h : NonceInv s) (ht : s.thread t = ⟨pc, todo⟩) (hthread : s'.thread = s.thread)
    (hlog : s'.log = s.log) (hctx : s'.ctx = s.ctx) (htodo : ∀ op ∈ todo', op.Ok t (s.ctx .event))
    (hpc : ∀ p, pc' = some p → p ≠ .resetEvent ∧ p.Ok s.log (s.ctx p.chan) ∧ (p.chan = .control → t = .control) ∧
      ∀ t' q, t' ≠ t → (s.thread t').pc = some q → q.chan ≠ p.chan)
    (hstay : ∀ p, pc = some p → ∃ p', pc' = some p' ∧ p'.chan = p.chan) :
    NonceInv (s'.setThread t ⟨pc', todo'⟩) := by
  have hlive : ∀ ch, Live (s'.setThread t ⟨pc', todo'⟩) ch → Live s ch := by
    intro ch hl
    rcases live_setThread hthread hl with hact | ⟨hch, hreset | ⟨t', _, hreset⟩⟩
    · exact .inl (hctx ▸ hact)
    · exact absurd rfl (hpc _ hreset).1
    · exact .inr ⟨hch, t', hreset⟩
  apply h.of_thread hthread
  · exact hlog ▸ h.fresh
  · intro ch ch' hne hl hl'
    rw [hctx]
    exact h.keys ch ch' hne (hlive ch hl) (hlive ch' hl')
  · rw [hctx]
    exact htodo
  · rw [hctx]
    exact id
  · intro p hp
    obtain ⟨hreset, hok, hchan, hexcl⟩ := hpc p hp
    rw [hlog, hctx]
    refine ⟨hok, ?_, hexcl⟩
    intro hcontrol
    exact hchan (hcontrol.resolve_right hreset)
  · intro t' q ht' hq
    rw [hlog, hctx]
    exact h.inFlight t' q hq
  · intro ch hself hfree hact
    rw [hctx] at hact
    rw [hlog, hctx]
    apply h.idle ch _ hact
    rintro ⟨t', q, hq, hchan⟩
    by_cases ht' : t' = t
    · subst ht'
      rw [ht] at hq
      obtain ⟨p', hp', hchan'⟩ := hstay q hq
      exact hself p' hp' (hchan'.trans hchan)
    · exact hfree t' q ht' hq hchan

/-- The thread is done with an operation that used no channel. -/
theorem NonceInv.quiet (h : NonceInv s) (ht : s.thread t = ⟨none, todo⟩) (hthread : s'.thread = s.thread)
    (hlog : s'.log = s.log) (hctx : s'.ctx = s.ctx) (htodo : ∀ op ∈ todo', op.Ok t (s.ctx .event)) :
    NonceInv (s'.setThread t ⟨none, todo'⟩) := by
  apply h.keep ht hthread hlog hctx htodo
  · intro p hp
    cases hp
  · intro p hp
    cases hp

/-- **A frame begins** in an active channel that nobody uses. -/
theorem NonceInv.begin (h : NonceInv s) {ch : Chan} {data : Bytes} {e : SendEnv}
    (ht : s.thread t = ⟨none, todo⟩) (hfree : ¬ InFlight s ch) (hact : (s.ctx ch).active = true)
    (hchan : ch = .control → t = .control) (htodo : ∀ op ∈ todo', op.Ok t (s.ctx .event)) :
    NonceInv (s.setThread t ⟨encSendBegin s ch data e, todo'⟩) := by
  apply h.keep ht rfl rfl rfl htodo
  · intro p hp
    unfold encSendBegin at hp
    split at hp
    · cases hp
    split at hp
    · cases hp
    cases hp
    refine ⟨by simp, ⟨hact, rfl, h.idle ch hfree hact⟩, hchan, ?_⟩
    intro t' q _ hq hqchan
    exact hfree ⟨t', q, hq, hqchan⟩
  · intro p hp
    cases hp

/-! ## The steps inside a function -/

/-- A step that sets no key and resets nothing makes no channel live. -/
theorem live_of_active (hthread : s'.thread = s.thread) (hpc : pc' ≠ some .resetEvent)
    (hact : ∀ ch, (s'.ctx ch).active = (s.ctx ch).active) {ch : Chan}
    (hl : Live (s'.setThread t ⟨pc', todo'⟩) ch) : Live s ch := by
  rcases live_setThread hthread hl with h | ⟨hch, h | ⟨t', _, h⟩⟩
  · exact .inl (hact ch ▸ h)
  · exact absurd h hpc
  · exact .inr ⟨hch, t', h⟩

/-- **Encryption.** The nonce was above the log; now it is in it, and the frame is still to be counted. -/
theorem NonceInv.encrypt (h : NonceInv s) {ch : Chan} {nonce : UInt64} {data out : Bytes} {e : SendEnv}
    (ht : s.thread t = ⟨some (.encrypt ch nonce data e), todo⟩) :
    NonceInv (Session.setThread { s with log := s.log ++ [⟨(s.ctx ch).writeKey, nonce, data⟩] } t
      ⟨some (.transmit ch out e), todo⟩) := by
  have hpc : (s.thread t).pc = some (.encrypt ch nonce data e) := by rw [ht]
  obtain ⟨hact, hnonce, hbelow⟩ : (s.ctx ch).active = true ∧ nonce = (s.ctx ch).writeNonce ∧
      UsedBelow s.log (s.ctx ch).writeKey (s.ctx ch).writeNonce.toNat := h.inFlight t _ hpc
  subst hnonce
  have hthread : Session.thread { s with log := s.log ++ [⟨(s.ctx ch).writeKey, (s.ctx ch).writeNonce, data⟩] }
      = s.thread := rfl
  -- the other channels have other keys
  have hkey : ∀ ch', ch' ≠ ch → Live s ch' → (s.ctx ch).writeKey ≠ (s.ctx ch').writeKey :=
    fun ch' hne hl => h.keys ch ch' hne.symm (.inl hact) hl
  have hexcl : ∀ t' q, t' ≠ t → (s.thread t').pc = some q → q.chan ≠ ch :=
    fun t' q ht' hq hchan => ht' (h.exclusive t' t q _ hq hpc hchan)
  apply h.of_thread hthread
  · exact h.fresh.snoc hbelow
  · intro ch₁ ch₂ hne hl₁ hl₂
    have hl₁' := live_of_active hthread (by simp) (fun _ => rfl) hl₁
    have hl₂' := live_of_active hthread (by simp) (fun _ => rfl) hl₂
    exact h.keys ch₁ ch₂ hne hl₁' hl₂'
  · intro op hop
    apply h.todo t op
    rw [ht]
    exact hop
  · exact id
  · intro p hp
    cases hp
    refine ⟨⟨hact, hbelow.snoc⟩, ?_, hexcl⟩
    intro hcontrol
    exact h.controlPc t _ hpc (.inl (hcontrol.resolve_right (by simp)))
  · intro t' q ht' hq
    have hne := hkey q.chan (hexcl t' q ht' hq) (h.live_of_pc hq)
    have hok := h.inFlight t' q hq
    cases q with
    | encrypt ch' nonce' data' e' => exact ⟨hok.1, hok.2.1, hok.2.2.snoc_other hne⟩
    | transmit ch' out' e' => exact ⟨hok.1, hok.2.snoc_other hne⟩
    | count ch' => exact ⟨hok.1, hok.2.snoc_other hne⟩
    | resetEvent => exact UsedBelow.snoc_other hok hne
  · intro ch' hself hfree hact'
    have hne : ch' ≠ ch := fun heq => hself _ rfl heq.symm
    apply UsedBelow.snoc_other _ (hkey ch' hne (.inl hact'))
    apply h.idle ch' _ hact'
    rintro ⟨t', q, hq, hchan⟩
    by_cases ht' : t' = t
    · subst ht'
      rw [hpc] at hq
      cases hq
      exact hne hchan.symm
    · exact hfree t' q ht' hq hchan

/-- A complete `send` leads to the counter. -/
theorem NonceInv.transmit (h : NonceInv s) {ch : Chan} {out : Bytes} {e : SendEnv}
    (ht : s.thread t = ⟨some (.transmit ch out e), todo⟩) :
    NonceInv (s.setThread t ⟨some (.count ch), todo⟩) := by
  have hpc : (s.thread t).pc = some (.transmit ch out e) := by rw [ht]
  apply h.keep ht rfl rfl rfl
  · intro op hop
    apply h.todo t op
    rw [ht]
    exact hop
  · intro p hp
    cases hp
    have hok : (Pc.count ch).Ok s.log (s.ctx ch) := h.inFlight t (.transmit ch out e) hpc
    refine ⟨by simp, hok, fun hcontrol => h.controlPc t _ hpc (.inl hcontrol), ?_⟩
    intro t' q ht' hq hchan
    exact ht' (h.exclusive t' t q _ hq hpc hchan)
  · intro p hp
    cases hp
    exact ⟨_, rfl, rfl⟩

/-- A channel that a step leaves to itself: its context is `enc`, the others stay. -/
theorem NonceInv.release (h : NonceInv s) {p : Pc} (enc : EncryptedCtx)
    (ht : s.thread t = ⟨some p, todo⟩) (hkey : enc.writeKey = (s.ctx p.chan).writeKey) (hact : enc.active = true)
    (hbelow : UsedBelow s.log enc.writeKey enc.writeNonce.toNat) :
    NonceInv ((s.setCtx p.chan enc).setThread t ⟨none, todo⟩) := by
  have hpc : (s.thread t).pc = some p := by rw [ht]
  have hthread : (s.setCtx p.chan enc).thread = s.thread := rfl
  have hself : (s.setCtx p.chan enc).ctx p.chan = enc := s.setCtx_self ..
  have hne : ∀ ch, ch ≠ p.chan → (s.setCtx p.chan enc).ctx ch = s.ctx ch :=
    fun ch hch => s.setCtx_other enc hch
  have hwrite : ∀ ch, ((s.setCtx p.chan enc).ctx ch).writeKey = (s.ctx ch).writeKey := by
    intro ch
    by_cases hch : ch = p.chan
    · rw [hch, hself, hkey]
    · rw [hne ch hch]
  have hexcl : ∀ t' q, t' ≠ t → (s.thread t').pc = some q → q.chan ≠ p.chan :=
    fun t' q ht' hq hchan => ht' (h.exclusive t' t q _ hq hpc hchan)
  have hlive : ∀ ch, Live ((s.setCtx p.chan enc).setThread t ⟨none, todo⟩) ch → Live s ch := by
    intro ch hl
    rcases live_setThread hthread hl with hact' | ⟨hch, hreset | ⟨t', _, hreset⟩⟩
    · by_cases hch : ch = p.chan
      · exact hch ▸ h.live_of_pc hpc
      · exact .inl (hne ch hch ▸ hact')
    · cases hreset
    · exact .inr ⟨hch, t', hreset⟩
  apply h.of_thread hthread
  · exact h.fresh
  · intro ch ch' hch hl hl'
    rw [hwrite, hwrite]
    exact h.keys ch ch' hch (hlive ch hl) (hlive ch' hl')
  · intro op hop
    have hok := h.todo t op (by rw [ht]; exact hop)
    cases op with
    | eventFrame data e =>
        show ((s.setCtx p.chan enc).ctx .event).active = true
        by_cases hch : Chan.event = p.chan
        · rw [hch, hself]
          exact hact
        · rw [hne _ hch]
          exact hok
    | _ => exact hok
  · intro hact'
    by_cases hch : Chan.event = p.chan
    · rw [hch, hself]
      exact hact
    · rw [hne _ hch]
      exact hact'
  · intro q hq
    cases hq
  · intro t' q ht' hq
    rw [hne _ (hexcl t' q ht' hq)]
    exact h.inFlight t' q hq
  · intro ch _ hfree hact'
    by_cases hch : ch = p.chan
    · rw [hch, hself]
      exact hbelow
    · rw [hne ch hch] at hact' ⊢
      apply h.idle ch _ hact'
      rintro ⟨t', q, hq, hchan⟩
      by_cases ht' : t' = t
      · subst ht'
        rw [hpc] at hq
        cases hq
        exact hch hchan.symm
      · exact hfree t' q ht' hq hchan

/-! ## New keys -/

/-- **A new key.** A channel that nobody uses gets a key that is neither in the log nor the other channel's; the
    thread leaves it activated, or on the way to its reset. -/
theorem NonceInv.rekey (h : NonceInv s) {ch : Chan} {enc : EncryptedCtx} (ht : s.thread t = ⟨none, todo⟩)
    (hfree : ¬ InFlight s ch) (hunused : ¬ KeyUsed s.log enc.writeKey)
    (hdistinct : ∀ ch', ch' ≠ ch → (s.ctx ch').active = true → enc.writeKey ≠ (s.ctx ch').writeKey)
    (hnoreset : ∀ t', (s.thread t').pc ≠ some .resetEvent)
    (hact : ch = .event → (s.ctx .event).active = true → enc.active = true)
    (hpc : pc' = none ∨ (pc' = some .resetEvent ∧ ch = .event ∧ t = .control))
    (htodo : ∀ op ∈ todo', op.Ok t ((s.setCtx ch enc).ctx .event)) :
    NonceInv ((s.setCtx ch enc).setThread t ⟨pc', todo'⟩) := by
  have hthread : (s.setCtx ch enc).thread = s.thread := rfl
  have hself : (s.setCtx ch enc).ctx ch = enc := s.setCtx_self ..
  have hne : ∀ ch', ch' ≠ ch → (s.setCtx ch enc).ctx ch' = s.ctx ch' :=
    fun ch' hch => s.setCtx_other enc hch
  -- behind the step the other channel is live only because it is active
  have hlive : ∀ ch', ch' ≠ ch → Live ((s.setCtx ch enc).setThread t ⟨pc', todo'⟩) ch' →
      (s.ctx ch').active = true := by
    intro ch' hch hl
    rcases live_setThread hthread hl with hact' | ⟨hev, hreset | ⟨t', _, hreset⟩⟩
    · exact hne ch' hch ▸ hact'
    · rcases hpc with hpc | ⟨_, hev', _⟩
      · rw [hpc] at hreset
        cases hreset
      · exact absurd (hev.trans hev'.symm) hch
    · exact absurd hreset (hnoreset t')
  have hother : ∀ t' q, (s.thread t').pc = some q → q.chan ≠ ch :=
    fun t' q hq hchan => hfree ⟨t', q, hq, hchan⟩
  apply h.of_thread hthread
  · exact h.fresh
  · intro ch₁ ch₂ hch hl₁ hl₂
    by_cases h₁ : ch₁ = ch
    · have h₂ : ch₂ ≠ ch := fun h₂ => hch (h₁.trans h₂.symm)
      rw [h₁, hself, hne ch₂ h₂]
      exact hdistinct ch₂ h₂ (hlive ch₂ h₂ hl₂)
    · by_cases h₂ : ch₂ = ch
      · rw [h₂, hself, hne ch₁ h₁]
        exact (hdistinct ch₁ h₁ (hlive ch₁ h₁ hl₁)).symm
      · rw [hne ch₁ h₁, hne ch₂ h₂]
        exact h.keys ch₁ ch₂ hch (.inl (hlive ch₁ h₁ hl₁)) (.inl (hlive ch₂ h₂ hl₂))
  · exact htodo
  · intro hev
    by_cases hch : Chan.event = ch
    · rw [hch, hself]
      exact hact hch.symm hev
    · rw [hne _ hch]
      exact hev
  · intro p hp
    rcases hpc with hpc | ⟨hpc, hev, hcontrol⟩
    · rw [hpc] at hp
      cases hp
    · rw [hpc] at hp
      cases hp
      refine ⟨?_, fun _ => hcontrol, ?_⟩
      · show UsedBelow s.log ((s.setCtx ch enc).ctx .event).writeKey 0
        rw [← hev, hself]
        exact usedBelow_of_unused hunused
      · intro t' q _ hq hchan
        exact hother t' q hq (hchan.trans hev.symm)
  · intro t' q _ hq
    rw [hne _ (hother t' q hq)]
    exact h.inFlight t' q hq
  · intro ch' _ hothers hact'
    by_cases hch : ch' = ch
    · rw [hch, hself]
      exact usedBelow_of_unused hunused
    · rw [hne ch' hch] at hact' ⊢
      apply h.idle ch' _ hact'
      rintro ⟨t', q, hq, hchan⟩
      by_cases ht' : t' = t
      · subst ht'
        rw [ht] at hq
        cases hq
      · exact hothers t' q ht' hq hchan

end Thread

/-! ## Every step keeps the invariant

A step begins an operation, goes on inside of one, or takes up work. The condition on the step is used where an
operation begins a frame or sets keys. -/

section Steps

variable {s s' : Session} {t : ThreadId} {todo : List Op}

/-- A step inside a function. -/
theorem nonceInv_advance {pc : Pc} (h : NonceInv s) (ht : s.thread t = ⟨some pc, todo⟩)
    (hsafe : NonceSafe P ⟨s, .step t, s'⟩) (hs' : s' = (pc.exec P s).1.setThread t ⟨(pc.exec P s).2, todo⟩) :
    NonceInv s' := by
  have hadv : Advances ⟨s, .step t, s'⟩ pc := ⟨t, todo, rfl, ht⟩
  have hok := h.inFlight t pc (by rw [ht])
  cases pc with
  | encrypt ch nonce data e =>
      obtain ⟨hcipher, hout⟩ := hsafe.sealed ch nonce data e hadv
      have hnone : ¬ (e.cipher = false ∨ e.out = false) := by simp [hcipher, hout]
      rw [hs']
      simp only [Pc.exec, if_neg hnone]
      exact h.encrypt ht
  | transmit ch out e =>
      have hsent := hsafe.sent ch out e hadv
      rw [hs']
      simp only [Pc.exec, if_pos hsent]
      exact h.transmit ht
  | count ch =>
      have hlt := hsafe.counted ch hadv
      have hnonce : ((s.ctx ch).writeNonce + 1).toNat = (s.ctx ch).writeNonce.toNat + 1 := by
        rw [UInt64.toNat_add]
        exact Nat.mod_eq_of_lt hlt
      rw [hs']
      apply h.release { s.ctx ch with writeNonce := (s.ctx ch).writeNonce + 1 } ht rfl hok.1
      show UsedBelow s.log (s.ctx ch).writeKey ((s.ctx ch).writeNonce + 1).toNat
      rw [hnonce]
      exact hok.2
  | resetEvent =>
      rw [hs']
      exact h.release { s.ctx .event with readNonce := 0, writeNonce := 0, active := true } ht rfl rfl hok

/-- The pairing endpoints touch no channel, and leave a response and the keys to the control thread. -/
theorem pairExec_frame {i : PairInput} {create rtsp : Bool} {cseq : Int} {e : SendEnv} {ops : List Op}
    (hx : pairExec P sk pk s i create rtsp cseq e = some (s', ops)) (eventEnc : EncryptedCtx) :
    s'.thread = s.thread ∧ s'.log = s.log ∧ s'.ctx = s.ctx ∧ ∀ op ∈ ops, op.Ok .control eventEnc := by
  have hbehind : ∀ op ∈ i.behind, op.Ok .control eventEnc := by
    cases i with
    | setup body env => simp [PairInput.behind]
    | verify body env => simp [PairInput.behind, Op.Ok]
  have hrespond : ∀ data, (Op.respond data e).Ok .control eventEnc := fun _ => rfl
  unfold pairExec at hx
  split at hx
  · cases hx
    exact ⟨rfl, rfl, rfl, by intro op hop; rw [List.mem_singleton.mp hop]; exact hrespond _⟩
  split at hx
  · cases hx
    exact ⟨rfl, rfl, rfl, by intro op hop; rw [List.mem_singleton.mp hop]; exact hrespond _⟩
  split at hx
  · cases hx
  · cases hx
    refine ⟨rfl, rfl, rfl, ?_⟩
    intro op hop
    rcases List.mem_cons.mp hop with rfl | hop
    · exact hrespond _
    · exact hbehind op hop

/-- What a thread has left to do may be done. -/
theorem NonceInv.rest {pc : Option Pc} {op : Op} (h : NonceInv s) (ht : s.thread t = ⟨pc, op :: todo⟩) :
    ∀ o ∈ todo, o.Ok t (s.ctx .event) := by
  intro o ho
  apply h.todo t o
  rw [ht]
  exact List.mem_cons_of_mem _ ho

/-- What a thread has left to do may also be done behind what an operation leaves to do. -/
theorem NonceInv.append {pc : Option Pc} {op : Op} {ops : List Op} (h : NonceInv s)
    (ht : s.thread t = ⟨pc, op :: todo⟩) (hops : ∀ o ∈ ops, o.Ok t (s.ctx .event)) :
    ∀ o ∈ ops ++ todo, o.Ok t (s.ctx .event) := by
  intro o ho
  rcases List.mem_append.mp ho with ho | ho
  · exact hops o ho
  · exact h.rest ht o ho

/-- Between two operations of the control thread nobody uses the control channel. -/
theorem NonceInv.controlFree {ops : List Op} (h : NonceInv s) (ht : s.thread .control = ⟨none, ops⟩) :
    ¬ InFlight s .control := by
  rintro ⟨t', q, hq, hchan⟩
  rw [h.controlPc t' q hq (.inl hchan), ht] at hq
  cases hq

/-- New keys of the control channel. -/
theorem NonceInv.activateControl {kp : KeyPair} (h : NonceInv s)
    (ht : s.thread .control = ⟨none, .activate :: todo⟩) (hunused : ¬ KeyUsed s.log kp.writeKey)
    (hdistinct : (s.ctx .event).active = true → kp.writeKey ≠ (s.ctx .event).writeKey) :
    NonceInv ((s.setCtx .control ⟨kp.readKey, kp.writeKey, 0, 0, true⟩).setThread .control
      ⟨none, [.eventKeys] ++ todo⟩) := by
  have hevent : ∀ enc : EncryptedCtx, (s.setCtx .control enc).ctx .event = s.ctx .event :=
    fun enc => s.setCtx_other enc (by decide)
  apply h.rekey ht (h.controlFree ht) hunused
  · intro ch' hch hact
    cases ch' with
    | control => exact absurd rfl hch
    | event => exact hdistinct hact
  · -- only the control thread resets, and it is here
    intro t' hreset
    rw [h.controlPc t' _ hreset (.inr rfl), ht] at hreset
    cases hreset
  · intro hch
    cases hch
  · exact .inl rfl
  · rw [hevent]
    apply h.append ht
    intro o ho
    rw [List.mem_singleton.mp ho]
    exact rfl

/-- New keys of the event channel; its counters are those of the keys before until they are reset. -/
theorem NonceInv.activateEvent {kp : KeyPair} (h : NonceInv s)
    (ht : s.thread .control = ⟨none, .eventKeys :: todo⟩) (hunused : ¬ KeyUsed s.log kp.writeKey)
    (hdistinct : (s.ctx .control).active = true → kp.writeKey ≠ (s.ctx .control).writeKey)
    (hfree : ¬ InFlight s .event) :
    NonceInv ((s.setCtx .event { s.ctx .event with readKey := kp.readKey, writeKey := kp.writeKey }).setThread .control
      ⟨some .resetEvent, [] ++ todo⟩) := by
  have hevent : ∀ enc : EncryptedCtx, (s.setCtx .event enc).ctx .event = enc :=
    fun enc => s.setCtx_self .event enc
  apply h.rekey ht hfree hunused
  · intro ch' hch hact
    cases ch' with
    | control => exact hdistinct hact
    | event => exact absurd rfl hch
  · intro t' hreset
    exact hfree ⟨t', _, hreset, rfl⟩
  · intro _ hact
    exact hact
  · exact .inr ⟨rfl, rfl, rfl⟩
  · -- what is left to do of frames is left to do as before
    rw [hevent]
    intro o ho
    have hok := h.rest ht o ho
    cases o with
    | eventFrame data e => exact hok
    | _ => exact hok

/-- An operation. -/
theorem nonceInv_execute {op : Op} {pc' : Option Pc} {ops : List Op} {s₁ : Session} (h : NonceInv s)
    (ht : s.thread t = ⟨none, op :: todo⟩) (hsafe : NonceSafe P ⟨s, .step t, s'⟩)
    (hx : op.exec P sk pk s = some (s₁, pc', ops)) (hs' : s' = s₁.setThread t ⟨pc', ops ++ todo⟩) :
    NonceInv s' := by
  have hexec : Executes ⟨s, .step t, s'⟩ op := ⟨t, todo, rfl, ht⟩
  have hop : op.Ok t (s.ctx .event) := h.todo t op (by rw [ht]; exact List.mem_cons_self ..)
  have hrest := h.rest ht
  rw [hs']
  cases op with
  | respond data e =>
      cases hx
      obtain rfl : t = .control := hop
      by_cases hact : (s.ctx .control).active = true
      · rw [if_pos hact]
        exact h.begin ht (h.controlFree ht) hact (fun _ => rfl) hrest
      · rw [if_neg hact]
        exact h.quiet ht rfl rfl rfl hrest
  | command connected data e =>
      cases hx
      apply h.quiet ht rfl rfl rfl
      apply h.append ht
      split
      · rename_i hact
        simpa [Op.Ok] using hact.2
      · simp
  | hidReport connected data e =>
      cases hx
      apply h.quiet ht rfl rfl rfl
      apply h.append ht
      split
      · rename_i hact
        simpa [Op.Ok] using hact.2
      · simp
  | eventFrame data e =>
      cases hx
      exact h.begin ht (hsafe.alone data e hexec) hop (fun hch => by cases hch) hrest
  | wait =>
      simp only [Op.exec] at hx
      split at hx
      · cases hx
      · cases hx
        exact h.quiet ht rfl rfl rfl hrest
  | signal =>
      cases hx
      exact h.quiet ht rfl rfl rfl hrest
  | pair i create rtsp cseq e =>
      obtain ⟨⟨s₂, ops₂⟩, hpair, heq⟩ := Option.map_eq_some_iff.mp hx
      cases heq
      obtain rfl : t = .control := hop
      obtain ⟨hthread, hlog, hctx, hops⟩ := pairExec_frame hpair (s.ctx .event)
      exact h.quiet ht hthread hlog hctx (h.append ht hops)
  | activate =>
      obtain rfl : t = .control := hop
      simp only [Op.exec] at hx
      split at hx
      · cases hx
        exact h.quiet ht rfl rfl rfl hrest
      · rename_i kp hkp
        obtain ⟨hunused, hdistinct⟩ := hsafe.controlKey kp hexec hkp
        cases hx
        exact h.activateControl ht hunused hdistinct
  | eventKeys =>
      obtain rfl : t = .control := hop
      simp only [Op.exec] at hx
      split at hx
      · cases hx
        exact h.quiet ht rfl rfl rfl hrest
      · rename_i kp hkp
        obtain ⟨hunused, hdistinct, hfree⟩ := hsafe.eventKey kp hexec hkp
        cases hx
        exact h.activateEvent ht hunused hdistinct hfree

/-- A thread that takes up new work. -/
theorem nonceInv_start {ops : List Op} (h : NonceInv s) (hs : s.start t ops s')
    (hops : ∀ op ∈ ops, op.Ok t (s.ctx .event)) : NonceInv s' := by
  obtain ⟨ht, rfl⟩ := hs
  exact h.quiet ht rfl rfl rfl hops

/-- **One step** that opens no way to a second use of a nonce keeps the invariant. -/
theorem nonceInv_step {i : SessionInput} (h : NonceInv s) (hstep : sessionStep P sk pk s i s')
    (hsafe : NonceSafe P ⟨s, i, s'⟩) : NonceInv s' := by
  cases i with
  | request r =>
      apply nonceInv_start h hstep
      cases r with
      | other responses =>
          intro op hop
          obtain ⟨x, _, rfl⟩ := List.mem_map.mp hop
          exact rfl
      | record response e connected command e' => simp [Request.ops, Op.Ok]
      | pair i create rtsp cseq e => simp [Request.ops, Op.Ok]
  | report connected data e =>
      apply nonceInv_start h hstep
      simp [Op.Ok]
  | step t =>
      have hthread : threadStep P sk pk s t = some s' := hstep
      unfold threadStep at hthread
      split at hthread
      · rename_i pc todo ht
        exact nonceInv_advance h ht hsafe (Option.some.inj hthread).symm
      · cases hthread
      · rename_i op todo ht
        obtain ⟨⟨s₁, pc', ops⟩, hx, heq⟩ := Option.map_eq_some_iff.mp hthread
        exact nonceInv_execute h ht hsafe hx heq.symm

end Steps

/-- **No nonce reuse.** In a run that counts every frame it encrypts, activates every key before its first frame
    and sends the frames of the event channel one after the other, no two plaintexts are encrypted under one key
    and nonce. -/
theorem nonce_fresh {hist : List (Step Session SessionInput)} {s : Session}
    (hr : SessionRun P sk pk Session.init hist s) (hsafe : ∀ x ∈ hist, NonceSafe P x) : NoNonceReuse s.log := by
  have hinv := Run.invariant_where (NonceSafe P) NonceInv nonceInv_init
    (fun _ _ _ h hstep hx => nonceInv_step h hstep hx) hr hsafe
  exact hinv.fresh

/-! ## Steps of the control thread

Both the run that meets the condition and the one that does not are made of these pieces: `Reaches safe` carries
the condition along where `safe` asks for it. -/

/-- Some run leads here, and where `safe` holds each of its steps meets the condition. -/
def Reaches (P : OpenSSL) (sk pk : Block 32) (safe : Prop) (s : Session) : Prop :=
  ∃ hist, SessionRun P sk pk Session.init hist s ∧ (safe → ∀ x ∈ hist, NonceSafe P x)

section Reaches

variable {safe : Prop} {s s' : Session} {t : ThreadId} {todo : List Op}

theorem reaches_init (P : OpenSSL) (sk pk : Block 32) (safe : Prop) : Reaches P sk pk safe Session.init :=
  ⟨[], .nil, fun _ _ hx => absurd hx List.not_mem_nil⟩

theorem Reaches.step {i : SessionInput} (h : Reaches P sk pk safe s) (hstep : sessionStep P sk pk s i s')
    (hsafe : safe → NonceSafe P ⟨s, i, s'⟩) : Reaches P sk pk safe s' := by
  obtain ⟨hist, hr, hall⟩ := h
  refine ⟨_, hr.snoc hstep, ?_⟩
  intro hs x hx
  rcases List.mem_append.mp hx with hx | hx
  · exact hall hs x hx
  · rw [List.mem_singleton.mp hx]
    exact hsafe hs

/-- Of a step that begins an operation, only what this operation is asked for is left. -/
theorem nonceSafe_op {op : Op} (ht : s.thread t = ⟨none, op :: todo⟩)
    (hframe : ∀ data e, op = .eventFrame data e → ¬ InFlight s .event)
    (hcontrol : op = .activate → ∀ kp, s.pair.bind (pairDeriveControlKeys P) = some kp →
      ¬ KeyUsed s.log kp.writeKey ∧ ((s.ctx .event).active = true → kp.writeKey ≠ (s.ctx .event).writeKey))
    (hevent : op = .eventKeys → ∀ kp, s.pair.bind (pairDeriveEventKeys P) = some kp →
      ¬ KeyUsed s.log kp.writeKey ∧ ((s.ctx .control).active = true → kp.writeKey ≠ (s.ctx .control).writeKey) ∧
        ¬ InFlight s .event) : NonceSafe P ⟨s, .step t, s'⟩ := by
  have hop : ∀ {op'}, Executes ⟨s, .step t, s'⟩ op' → op = op' := by
    rintro op' ⟨t', todo', hi, ht'⟩
    cases hi
    rw [ht] at ht'
    cases ht'
    rfl
  have hpc : ∀ {pc}, ¬ Advances ⟨s, .step t, s'⟩ pc := by
    rintro pc ⟨t', todo', hi, ht'⟩
    cases hi
    rw [ht] at ht'
    cases ht'
  constructor
  case alone => exact fun data e hx => hframe data e (hop hx)
  case sealed => exact fun ch nonce data e hx => absurd hx hpc
  case sent => exact fun ch out e hx => absurd hx hpc
  case counted => exact fun ch hx => absurd hx hpc
  case controlKey => exact fun kp hx => hcontrol (hop hx) kp
  case eventKey => exact fun kp hx => hevent (hop hx) kp

/-- Of a step inside a function, only what its place is asked for is left. -/
theorem nonceSafe_pc {pc : Pc} (ht : s.thread t = ⟨some pc, todo⟩)
    (hencrypt : ∀ ch nonce data e, pc = .encrypt ch nonce data e → e.cipher = true ∧ e.out = true)
    (htransmit : ∀ ch out e, pc = .transmit ch out e → (sendLoop e.sends out).2 = true)
    (hcount : ∀ ch, pc = .count ch → (s.ctx ch).writeNonce.toNat + 1 < 2 ^ 64) :
    NonceSafe P ⟨s, .step t, s'⟩ := by
  have hop : ∀ {op}, ¬ Executes ⟨s, .step t, s'⟩ op := by
    rintro op ⟨t', todo', hi, ht'⟩
    cases hi
    rw [ht] at ht'
    cases ht'
  have hpc : ∀ {pc'}, Advances ⟨s, .step t, s'⟩ pc' → pc = pc' := by
    rintro pc' ⟨t', todo', hi, ht'⟩
    cases hi
    rw [ht] at ht'
    cases ht'
    rfl
  constructor
  case alone => exact fun data e hx => absurd hx hop
  case sealed => exact fun ch nonce data e hx => hencrypt ch nonce data e (hpc hx)
  case sent => exact fun ch out e hx => htransmit ch out e (hpc hx)
  case counted => exact fun ch hx => hcount ch (hpc hx)
  case controlKey => exact fun kp hx => absurd hx hop
  case eventKey => exact fun kp hx => absurd hx hop

/-- Taking up a request is no danger. -/
theorem nonceSafe_request {r : Request} : NonceSafe P ⟨s, .request r, s'⟩ where
  alone := fun _ _ ⟨_, _, hi, _⟩ => by cases hi
  sealed := fun _ _ _ _ ⟨_, _, hi, _⟩ => by cases hi
  sent := fun _ _ _ ⟨_, _, hi, _⟩ => by cases hi
  counted := fun _ ⟨_, _, hi, _⟩ => by cases hi
  controlKey := fun _ ⟨_, _, hi, _⟩ => by cases hi
  eventKey := fun _ ⟨_, _, hi, _⟩ => by cases hi

theorem threadStep_op {op : Op} {pc' : Option Pc} {ops : List Op} {s₁ : Session}
    (ht : s.thread t = ⟨none, op :: todo⟩) (hx : op.exec P sk pk s = some (s₁, pc', ops)) :
    sessionStep P sk pk s (.step t) (s₁.setThread t ⟨pc', ops ++ todo⟩) := by
  show threadStep P sk pk s t = _
  unfold threadStep
  rw [ht]
  simp only [hx, Option.map_some]

theorem threadStep_pc {pc : Pc} {o : Option Pc} {s₁ : Session} (ht : s.thread t = ⟨some pc, todo⟩)
    (hx : pc.exec P s = (s₁, o)) : sessionStep P sk pk s (.step t) (s₁.setThread t ⟨o, todo⟩) := by
  show threadStep P sk pk s t = _
  unfold threadStep
  rw [ht]
  simp only [hx]

/-- The control thread takes up a request. -/
theorem Reaches.request (h : Reaches P sk pk safe s) (ht : s.thread .control = ⟨none, []⟩) (r : Request) :
    Reaches P sk pk safe (s.setThread .control ⟨none, r.ops⟩) :=
  h.step (i := .request r) ⟨ht, rfl⟩ (fun _ => nonceSafe_request)

/-- An operation that neither begins a frame of the event channel nor sets keys is no danger. -/
theorem nonceSafe_other {op : Op} (ht : s.thread t = ⟨none, op :: todo⟩)
    (hframe : ∀ data e, op ≠ .eventFrame data e) (hcontrol : op ≠ .activate) (hevent : op ≠ .eventKeys) :
    NonceSafe P ⟨s, .step t, s'⟩ := by
  apply nonceSafe_op ht
  · intro data e heq
    exact absurd heq (hframe data e)
  · intro heq
    exact absurd heq hcontrol
  · intro heq
    exact absurd heq hevent

/-- A response before the keys are active. -/
theorem Reaches.respondPlain {data : Bytes} {e : SendEnv} (h : Reaches P sk pk safe s)
    (ht : s.thread .control = ⟨none, .respond data e :: todo⟩) (hact : (s.ctx .control).active = false) :
    Reaches P sk pk safe (s.setThread .control ⟨none, todo⟩) := by
  have hx : (Op.respond data e).exec P sk pk s = some (s, none, []) := by
    simp only [Op.exec, hact, Bool.false_eq_true, if_false]
  exact h.step (threadStep_op ht hx) (fun _ => nonceSafe_other ht (by simp) (by simp) (by simp))

/-- A frame of the control channel, from its encryption on. -/
theorem Reaches.frame {data : Bytes} (h : Reaches P sk pk safe s)
    (ht : s.thread .control = ⟨some (.encrypt .control (s.ctx .control).writeNonce data .ok), todo⟩)
    (hlen : data.length ≤ maxFrame) (hcount : (s.ctx .control).writeNonce.toNat + 1 < 2 ^ 64) :
    ∃ s', Reaches P sk pk safe s' ∧ s'.thread .control = ⟨none, todo⟩ ∧ s'.pair = s.pair ∧
      s'.log = s.log ++ [⟨(s.ctx .control).writeKey, (s.ctx .control).writeNonce, data⟩] ∧
      s'.ctx .control = { s.ctx .control with writeNonce := (s.ctx .control).writeNonce + 1 } := by
  let out := sealedFrame P.chachaSeal (s.ctx .control).writeKey (s.ctx .control).writeNonce data
  have hout : out.length ≤ maxFrame + 18 := by
    show (sealedFrame _ _ _ _).length ≤ _
    rw [sealedFrame_length]
    omega
  have hsend : sendLoop SendEnv.ok.sends out = (out, true) := sendLoop_once hout
  -- encrypted
  have h₁ := h.step (threadStep_pc (P := P) ht rfl) (fun _ => nonceSafe_pc ht
    (by intro ch nonce data' e heq; cases heq; exact ⟨rfl, rfl⟩) (by simp) (by simp))
  have ht₁ := Session.setThread_self
    { s with log := s.log ++ [⟨(s.ctx .control).writeKey, (s.ctx .control).writeNonce, data⟩] } .control
    ⟨some (.transmit .control out .ok), todo⟩
  -- sent
  have h₂ := h₁.step (threadStep_pc (P := P) ht₁ rfl) (fun _ => nonceSafe_pc ht₁
    (by simp) (by intro ch out' e heq; cases heq; rw [hsend]) (by simp))
  simp only [hsend, if_true] at h₂
  have ht₂ := Session.setThread_self
    (Session.setThread { s with log := s.log ++ [⟨(s.ctx .control).writeKey, (s.ctx .control).writeNonce, data⟩] }
      .control ⟨some (.transmit .control out .ok), todo⟩) .control ⟨some (.count .control), todo⟩
  -- and counted
  have h₃ := h₂.step (threadStep_pc (P := P) ht₂ rfl) (fun _ => nonceSafe_pc ht₂
    (by simp) (by simp) (by intro ch heq; cases heq; exact hcount))
  refine ⟨_, h₃, Session.setThread_self _ _ _, rfl, rfl, ?_⟩
  simp [Session.setCtx, Session.setThread]

/-- A response under active keys is encrypted under the counter, and counted. -/
theorem Reaches.respondSealed {data : Bytes} (h : Reaches P sk pk safe s)
    (ht : s.thread .control = ⟨none, .respond data .ok :: todo⟩) (hact : (s.ctx .control).active = true)
    (hlen : data.length ≤ maxFrame) (hcount : (s.ctx .control).writeNonce.toNat + 1 < 2 ^ 64) :
    ∃ s', Reaches P sk pk safe s' ∧ s'.thread .control = ⟨none, todo⟩ ∧ s'.pair = s.pair ∧
      s'.log = s.log ++ [⟨(s.ctx .control).writeKey, (s.ctx .control).writeNonce, data⟩] ∧
      s'.ctx .control = { s.ctx .control with writeNonce := (s.ctx .control).writeNonce + 1 } := by
  have hx : (Op.respond data .ok).exec P sk pk s
      = some (s, some (.encrypt .control (s.ctx .control).writeNonce data .ok), []) := by
    have hfits : ¬ maxFrame < data.length := by omega
    simp [Op.exec, hact, encSendBegin, hfits, SendEnv.ok]
  have h₁ := h.step (threadStep_op ht hx) (fun _ => nonceSafe_other ht (by simp) (by simp) (by simp))
  exact h₁.frame (s.setThread_self _ _) hlen hcount

/-- The answer of the pairing endpoints over HTTP, without a CSeq. -/
def pairText (resp : Option Bytes) : Bytes :=
  responseText false 200 "OK" (some "application/octet-stream") (resp.getD []) 0

/-- A request for a pairing endpoint, up to its response. -/
theorem Reaches.pair {i : PairInput} {ctx ctx' : PairCtx} {resp : Option Bytes} (h : Reaches P sk pk safe s)
    (ht : s.thread .control = ⟨none, []⟩) (hbody : i.body.length ≠ 0)
    (hpair : s.pair.orElse (fun _ => some (pairCtxCreate sk pk none)) = some ctx)
    (hcall : pairCall P ctx i = some (ctx', resp)) :
    ∃ s', Reaches P sk pk safe s' ∧ s'.thread .control = ⟨none, .respond (pairText resp) .ok :: i.behind⟩ ∧
      s'.thread .touch = s.thread .touch ∧ s'.pair = some ctx' ∧ s'.log = s.log ∧ s'.ctx = s.ctx := by
  have h₁ := h.request ht (.pair i true false 0 .ok)
  have ht₁ := s.setThread_self .control ⟨none, Request.ops (.pair i true false 0 .ok)⟩
  let s₁ := s.setThread .control ⟨none, Request.ops (.pair i true false 0 .ok)⟩
  have hx : (Op.pair i true false 0 .ok).exec P sk pk s₁
      = some ({ s₁ with pair := some ctx' }, none, pairRespond false 0 .ok (resp.getD []) :: i.behind) := by
    have hpair₁ : s₁.pair.orElse (fun _ => some (pairCtxCreate sk pk none)) = some ctx := hpair
    simp only [Op.exec, pairExec, hbody, if_false, if_true, hpair₁, hcall, Option.map_some]
  have h₂ := h₁.step (threadStep_op ht₁ hx) (fun _ => nonceSafe_other ht₁ (by simp) (by simp) (by simp))
  refine ⟨_, h₂, (Session.setThread_self _ _ _).trans ?_, ?_, rfl, rfl, rfl⟩
  · rw [List.append_nil]
    rfl
  · have hother : ThreadId.touch ≠ ThreadId.control := by decide
    exact (Session.setThread_other { s₁ with pair := some ctx' } _ hother).trans
      (s.setThread_other ⟨none, Request.ops (.pair i true false 0 .ok)⟩ hother)

/-- Behind the response of a pair-verify that is not complete there is nothing to do. -/
theorem Reaches.notComplete {ctx : PairCtx} (h : Reaches P sk pk safe s)
    (ht : s.thread .control = ⟨none, .activate :: todo⟩) (hpair : s.pair = some ctx)
    (hstate : ctx.verifyState ≠ 4) :
    Reaches P sk pk safe (s.setThread .control ⟨none, todo⟩) := by
  have hnone : s.pair.bind (pairDeriveControlKeys P) = none := by
    rw [hpair]
    exact if_pos hstate
  have hx : Op.activate.exec P sk pk s = some (s, none, []) := by
    simp only [Op.exec, hnone]
  apply h.step (threadStep_op ht hx)
  intro _
  apply nonceSafe_op ht
  · intro data e heq
    cases heq
  · intro _ kp hkp
    rw [hnone] at hkp
    cases hkp
  · intro heq
    cases heq

/-- **Activation.** Whenever `verify_state` is 4 the control channel starts at nonce 0 under the derived key. -/
theorem Reaches.activate {ctx : PairCtx} {kc ke : KeyPair} (h : Reaches P sk pk safe s)
    (ht : s.thread .control = ⟨none, .activate :: todo⟩) (hpair : s.pair = some ctx)
    (hkc : pairDeriveControlKeys P ctx = some kc) (hke : pairDeriveEventKeys P ctx = some ke)
    (hsafe : safe → s.log = [] ∧ s.thread .touch = ⟨none, []⟩ ∧ (s.ctx .event).active = false ∧
      ke.writeKey ≠ kc.writeKey) :
    ∃ s', Reaches P sk pk safe s' ∧ s'.thread .control = ⟨none, todo⟩ ∧ s'.pair = s.pair ∧ s'.log = s.log ∧
      s'.ctx .control = ⟨kc.readKey, kc.writeKey, 0, 0, true⟩ := by
  have hbindC : s.pair.bind (pairDeriveControlKeys P) = some kc := by rw [hpair]; exact hkc
  have hbindE : s.pair.bind (pairDeriveEventKeys P) = some ke := by rw [hpair]; exact hke
  have hunused : s.log = [] → ∀ key, ¬ KeyUsed s.log key := by
    rintro hlog key ⟨a, ha, _⟩
    rw [hlog] at ha
    cases ha
  -- the control keys
  let s₁ := (s.setCtx .control ⟨kc.readKey, kc.writeKey, 0, 0, true⟩).setThread .control ⟨none, .eventKeys :: todo⟩
  have hx₁ : Op.activate.exec P sk pk s
      = some (s.setCtx .control ⟨kc.readKey, kc.writeKey, 0, 0, true⟩, none, [.eventKeys]) := by
    simp only [Op.exec, hbindC]
  have h₁ : Reaches P sk pk safe s₁ := by
    apply h.step (threadStep_op ht hx₁)
    intro hs
    obtain ⟨hlog, _, hevent, _⟩ := hsafe hs
    apply nonceSafe_op ht
    · intro data e heq
      cases heq
    · intro _ kp _
      refine ⟨hunused hlog _, ?_⟩
      rw [hevent]
      intro hact
      cases hact
    · intro heq
      cases heq
  have ht₁ : s₁.thread .control = ⟨none, .eventKeys :: todo⟩ := Session.setThread_self ..
  have hctx₁ : s₁.ctx .control = ⟨kc.readKey, kc.writeKey, 0, 0, true⟩ := s.setCtx_self .control _
  -- the event keys
  have hx₂ : Op.eventKeys.exec P sk pk s₁
      = some (s₁.setCtx .event { s₁.ctx .event with readKey := ke.readKey, writeKey := ke.writeKey },
          some .resetEvent, []) := by
    have hbind : s₁.pair.bind (pairDeriveEventKeys P) = some ke := hbindE
    simp only [Op.exec, hbind]
  have h₂ := h₁.step (threadStep_op ht₁ hx₂) (by
    intro hs
    obtain ⟨hlog, htouch, _, hne⟩ := hsafe hs
    apply nonceSafe_op ht₁
    · intro data e heq
      cases heq
    · intro heq
      cases heq
    · intro _ kp hkp
      obtain rfl : ke = kp := Option.some.inj (hbindE.symm.trans hkp)
      refine ⟨hunused hlog _, ?_, ?_⟩
      · intro _
        rw [hctx₁]
        exact hne
      · rintro ⟨t', q, hq, _⟩
        cases t' with
        | control =>
            rw [ht₁] at hq
            cases hq
        | touch =>
            have htouch₁ : s₁.thread .touch = ⟨none, []⟩ :=
              (Session.setThread_other _ _ (by decide)).trans htouch
            rw [htouch₁] at hq
            cases hq)
  -- and their nonces
  have ht₂ := Session.setThread_self
    (s₁.setCtx .event { s₁.ctx .event with readKey := ke.readKey, writeKey := ke.writeKey }) .control
    ⟨some .resetEvent, todo⟩
  have h₃ := h₂.step (threadStep_pc (P := P) ht₂ rfl)
    (fun _ => nonceSafe_pc ht₂ (by simp) (by simp) (by simp))
  refine ⟨_, h₃, Session.setThread_self .., rfl, rfl, ?_⟩
  simp [Session.setCtx, Session.setThread, s₁]

theorem verifyCall_nonempty (items : List TlvItem) (item : TlvItem) (e : VerifyEnv) :
    (PairInput.verify ((item :: items).flatMap tlvEncode) e).body.length ≠ 0 := by
  have hpos := tlvEncode_length_pos item
  show ((item :: items).flatMap tlvEncode).length ≠ 0
  rw [List.flatMap_cons, List.length_append]
  omega

/-- **A completed pair-verify.** An M1 and an M3 under its key activate the control channel. -/
theorem reaches_verified (P : OpenSSL) (sk pk : Block 32) (safe : Prop)
    (hsafe : safe → verifyHkdf P (P.x25519 (Block.zero 32) (Block.zero 32))
      (ascii "Events-Salt") (ascii "Events-Write-Encryption-Key") ≠
        verifyHkdf P (P.x25519 (Block.zero 32) (Block.zero 32)) (ascii "Control-Salt")
          (ascii "Control-Read-Encryption-Key")) :
    ∃ s ctx kc ke, Reaches P sk pk safe s ∧ s.thread .control = ⟨none, []⟩ ∧ s.pair = some ctx ∧
      ctx.verifyState = 4 ∧ pairDeriveControlKeys P ctx = some kc ∧ pairDeriveEventKeys P ctx = some ke ∧
      s.log = [] ∧ s.ctx .control = ⟨kc.readKey, kc.writeKey, 0, 0, true⟩ := by
  obtain ⟨ctx₁, ⟨resp₁, hcall₁⟩, _, hstate₁, _, hshared⟩ :=
    verifyM1_step P (pairCtxCreate sk pk none) (Block.zero 32) (Block.zero 32)
  obtain ⟨_, ⟨resp₂, hcall₂⟩, _⟩ := verifyM3_step P ctx₁ (ascii "id") (Block.zero 64)
  have hother : ThreadId.touch ≠ ThreadId.control := by decide
  -- M1: answered in plaintext, nothing to activate
  obtain ⟨s₁, h₁, ht₁, htouch₁, hpair₁, hlog₁, hctx₁⟩ :=
    (reaches_init P sk pk safe).pair rfl (verifyCall_nonempty _ _ _) rfl hcall₁
  have hinactive₁ : (s₁.ctx .control).active = false := by rw [hctx₁]; rfl
  have h₁' := (h₁.respondPlain ht₁ hinactive₁).notComplete (s₁.setThread_self _ _) hpair₁ (by rw [hstate₁]; decide)
  -- M3: answered in plaintext, and behind it the keys
  obtain ⟨s₂, h₂, ht₂, htouch₂, hpair₂, hlog₂, hctx₂⟩ :=
    h₁'.pair (Session.setThread_self _ _ _) (verifyCall_nonempty _ _ _) (by
      show s₁.pair.orElse _ = _
      rw [hpair₁]
      rfl) hcall₂
  have hctx : s₂.ctx = Session.init.ctx := hctx₂.trans hctx₁
  have hlog : s₂.log = [] := hlog₂.trans hlog₁
  have htouch : s₂.thread .touch = ⟨none, []⟩ := by
    rw [htouch₂, Session.setThread_other _ _ hother, Session.setThread_other _ _ hother, htouch₁]
    rfl
  have h₂' := h₂.respondPlain ht₂ (by rw [hctx]; rfl)
  obtain ⟨s₃, h₃, ht₃, hpair₃, hlog₃, hctx₃⟩ :=
    h₂'.activate (s₂.setThread_self _ _) hpair₂ rfl rfl (by
      intro hs
      refine ⟨hlog, (s₂.setThread_other _ hother).trans htouch, ?_, ?_⟩
      · show (s₂.ctx .event).active = false
        rw [hctx]
        rfl
      · show verifyHkdf P ctx₁.verifyShared _ _ ≠ verifyHkdf P ctx₁.verifyShared _ _
        rw [hshared]
        exact hsafe hs)
  exact ⟨s₃, _, _, _, h₃, ht₃, hpair₃.trans hpair₂, rfl, rfl, rfl, hlog₃.trans hlog, hctx₃⟩

end Reaches

/-- The first response under new keys. -/
theorem nonce_fresh_response :
    ∃ (hist : List (Step Session SessionInput)) (s : Session),
      SessionRun .toy (Block.zero 32) (Block.zero 32) Session.init hist s ∧ s.log ≠ [] ∧ NoNonceReuse s.log := by
  have hkeys : verifyHkdf .toy (OpenSSL.toy.x25519 (Block.zero 32) (Block.zero 32)) (ascii "Events-Salt")
      (ascii "Events-Write-Encryption-Key") ≠ verifyHkdf .toy
        (OpenSSL.toy.x25519 (Block.zero 32) (Block.zero 32)) (ascii "Control-Salt")
          (ascii "Control-Read-Encryption-Key") := by
    decide +kernel
  have hzero : (0 : UInt64).toNat + 1 < 2 ^ 64 := by decide
  obtain ⟨s, ctx, kc, ke, h, ht, _, _, _, _, hlog, hctx⟩ :=
    reaches_verified .toy (Block.zero 32) (Block.zero 32) True (fun _ => hkeys)
  have h' := h.request ht (.other [([65], .ok)])
  obtain ⟨s', ⟨hist, hr, hsafe⟩, _, _, hlog', _⟩ :=
    h'.respondSealed (s.setThread_self _ _) (by show (s.ctx .control).active = true; rw [hctx])
      (by decide) (by show (s.ctx .control).writeNonce.toNat + 1 < 2 ^ 64; rw [hctx]; exact hzero)
  refine ⟨hist, s', hr, ?_, nonce_fresh hr (hsafe trivial)⟩
  rw [hlog']
  simp

/-! ## A nonce is used twice -/

/-- A pair-verify request without an item is answered, and changes nothing. -/
theorem pairCall_garbage (P : OpenSSL) (ctx : PairCtx) :
    pairCall P ctx (.verify [0] (.ok (Block.zero 32))) = some (ctx, none) := by
  have hin : incoming TlvAlloc.ok [0] = none := by
    simp [incoming, tlvParse, tlvLoop, tlvFind, TlvAlloc.ok]
  show pairVerifyHandle P ctx [0] (VerifyEnv.ok (Block.zero 32)) = _
  unfold pairVerifyHandle
  rw [show (VerifyEnv.ok (Block.zero 32)).tlv = TlvAlloc.ok from rfl, hin]

/-- Nonces are reused: when pair-verify is complete, any further POST /pair-verify sets `writeNonce` back to 0
    under the same key. -/
theorem nonce_reused :
    ¬ ∃ P : OpenSSL, ∀ (sk pk : Block 32) (hist : List (Step Session SessionInput)) (s : Session),
      SessionRun P sk pk Session.init hist s → NoNonceReuse s.log := by
  rintro ⟨P, hall⟩
  have hzero : (0 : UInt64).toNat + 1 < 2 ^ 64 := by decide
  have hone : ((0 : UInt64) + 1).toNat + 1 < 2 ^ 64 := by decide
  obtain ⟨s₁, ctx, kc, ke, h₁, ht₁, hpair₁, hstate, hkc, hke, hlog₁, hctx₁⟩ :=
    reaches_verified P (Block.zero 32) (Block.zero 32) False (fun h => h.elim)
  -- a response under nonce 0
  obtain ⟨s₂, h₂, ht₂, hpair₂, hlog₂, hctx₂⟩ :=
    (h₁.request ht₁ (.other [([65], .ok)])).respondSealed (s₁.setThread_self _ _)
      (by show (s₁.ctx .control).active = true; rw [hctx₁])
      (by decide) (by show (s₁.ctx .control).writeNonce.toNat + 1 < 2 ^ 64; rw [hctx₁]; exact hzero)
  -- a rejected pair-verify request: its response takes nonce 1, and the counter starts again
  obtain ⟨s₃, h₃, ht₃, _, hpair₃, hlog₃, hctx₃⟩ :=
    h₂.pair ht₂ (by decide) (by rw [hpair₂]; show s₁.pair.orElse _ = _; rw [hpair₁]; rfl) (pairCall_garbage P ctx)
  obtain ⟨s₄, h₄, ht₄, hpair₄, hlog₄, hctx₄⟩ :=
    h₃.respondSealed ht₃ (by rw [hctx₃, hctx₂]; show (s₁.ctx .control).active = true; rw [hctx₁])
      (by decide) (by rw [hctx₃, hctx₂]; show ((s₁.ctx .control).writeNonce + 1).toNat + 1 < _; rw [hctx₁]; exact hone)
  obtain ⟨s₅, h₅, ht₅, hpair₅, hlog₅, hctx₅⟩ :=
    h₄.activate ht₄ (hpair₄.trans hpair₃) hkc hke (fun h => h.elim)
  -- another response under nonce 0
  obtain ⟨s₆, ⟨hist, hr, _⟩, _, _, hlog₆, _⟩ :=
    (h₅.request ht₅ (.other [([66], .ok)])).respondSealed (s₅.setThread_self _ _)
      (by show (s₅.ctx .control).active = true; rw [hctx₅])
      (by decide) (by show (s₅.ctx .control).writeNonce.toNat + 1 < 2 ^ 64; rw [hctx₅]; exact hzero)
  have hfirst : (⟨kc.writeKey, 0, [65]⟩ : Encryption) ∈ s₆.log := by
    rw [hlog₆]
    show _ ∈ s₅.log ++ _
    rw [hlog₅, hlog₄, hlog₃, hlog₂]
    show _ ∈ s₁.log ++ [⟨(s₁.ctx .control).writeKey, (s₁.ctx .control).writeNonce, [65]⟩] ++ _ ++ _
    rw [hctx₁]
    simp
  have hsecond : (⟨kc.writeKey, 0, [66]⟩ : Encryption) ∈ s₆.log := by
    rw [hlog₆]
    show _ ∈ s₅.log ++ [⟨(s₅.ctx .control).writeKey, (s₅.ctx .control).writeNonce, [66]⟩]
    rw [hctx₅]
    simp
  have hreuse : ([65] : Bytes) = [66] := hall _ _ _ _ hr _ hfirst _ hsecond rfl rfl
  exact absurd hreuse (by decide)

end Showcase
