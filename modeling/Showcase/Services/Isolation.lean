import Showcase.Services.Plaintext

/-!
# `Services.Isolation` — one encryption state for all connections

`g_pair` and `g_enc` are the program's, and nothing resets them when a connection is closed. A connection is treated
as its own requests ask for as long as one connection has both for itself: it sends all pairing requests, and once
`g_enc.active` is set no other connection looks at it.

* `treated_as_alone` — in such a run each connection is treated as it is alone.
* `shared_mode` — a new connection behind the activation of another one.
-/

namespace Showcase

open Lib

/-! ## How a connection is treated -/

/-- The mode, and the keys and nonces that are used. -/
def ConnObs.keying : ConnObs → Bool
  | .wrote _ => false
  | _ => true

/-- How a connection is treated in a run. -/
def connTreatment (P : OpenSSL) (sk pk : Block 32) (c : ConnId) (h : List (Step Server ServerInput)) :
    List ConnObs :=
  (treatment (connPart P sk pk) c h).filterMap fun o => o.filter ConnObs.keying

/-- How it is treated when it is the only one of the program. -/
def aloneTreatment (P : OpenSSL) (sk pk : Block 32) (es : List ConnEvent) : List ConnObs :=
  (alone (connPart P sk pk) Server.init.globals none es).2.filterMap fun o => o.filter ConnObs.keying

/-! ## One connection has the state for itself

An operation that is not `Shared` is executed under the globals of the run and under the initial ones side by side,
and does the same; it leaves behind only operations of its own kind. This is what `Parts.treated_alone` asks of a
bystander. -/

/-- The operation is part of pairing, or uses `g_enc` when `g_enc.active` is set. -/
def ConnOp.Shared (active : Bool) : ConnOp → Prop
  | .round | .respond _ _ _ | .decrypt _ _ _ _ _ | .countRead | .sealFrame _ _ | .encrypt _ _ _ | .count =>
      active = true
  | .pair i _ _ _ _ => i.body.length ≠ 0
  | .controlKeys | .activate | .eventKeys | .activateEvent => True
  | .recvPlain | .recvFrame | .plain _ | .transmit _ _ | .options _ _ => False

/-- The connection does not go on with such an operation. -/
def Unshared (g : Globals) (ev : ConnEvent) (old : Option (List ConnOp)) : Prop :=
  ev = .step → ∀ op rest, old = some (op :: rest) → ¬ op.Shared g.enc.active

/-- Only one connection does. -/
def OneConnection (h : List (Step Server ServerInput)) : Prop :=
  ∃ c₀, ∀ x ∈ h, x.input.part = c₀ ∨ Unshared x.pre.globals x.input.event (x.pre.part x.input.part)

/-- What another connection has left to do. -/
def ConnOp.Bystander : ConnOp → Prop
  | .round | .recvPlain | .respond _ _ _ | .plain _ | .options _ _ | .pair _ _ _ _ _ => True
  | _ => False

section Bystander

variable {P : OpenSSL} {sk pk : Block 32} {g g' : Globals} {op : ConnOp} {ops : List ConnOp} {obs : Option ConnObs}

theorem requestOps_bystander {route : Bytes → Bytes → Handler} {m : Bytes} {len : Nat} {e : HandlerEnv}
    (h : requestOps route m len e = some ops) : ∀ o ∈ ops, o.Bystander := by
  intro o ho
  rcases requestOps_cases h ho with ⟨_, _, _, rfl⟩ | ⟨_, _, rfl⟩ | ⟨_, _, _, _, _, rfl⟩
  · trivial
  · trivial
  · trivial

/-- **An operation of another connection** leaves the globals alone, and goes the same way wherever `g_enc.active` is
    not set. -/
theorem exec_bystander (hop : op.Bystander) (hquiet : ¬ op.Shared g.enc.active)
    (h : op.exec P sk pk g = some (g', obs, ops)) {g₀ : Globals} (h₀ : g₀.enc.active = false) :
    g' = g ∧ (∀ o ∈ ops, o.Bystander) ∧ op.exec P sk pk g₀ = some (g₀, obs, ops) := by
  cases op with
  | recvPlain => cases h
  | round =>
      have hoff : g.enc.active = false := Bool.eq_false_of_not_eq_true hquiet
      simp only [ConnOp.exec, hoff, Option.some.injEq, Prod.mk.injEq] at h
      obtain ⟨rfl, rfl, rfl⟩ := h
      refine ⟨rfl, by simp [ConnOp.Bystander], ?_⟩
      simp only [ConnOp.exec, h₀]
  | respond head body e =>
      have hoff : g.enc.active = false := Bool.eq_false_of_not_eq_true hquiet
      simp only [ConnOp.exec, hoff, Option.some.injEq, Prod.mk.injEq] at h
      obtain ⟨rfl, rfl, rfl⟩ := h
      refine ⟨rfl, ?_, ?_⟩
      · by_cases hbody : body = []
        · simp [hbody, ConnOp.Bystander]
        · simp [hbody, ConnOp.Bystander]
      · simp only [ConnOp.exec, h₀]
  | plain text =>
      simp only [ConnOp.exec, Option.some.injEq, Prod.mk.injEq] at h
      obtain ⟨rfl, rfl, rfl⟩ := h
      exact ⟨rfl, by simp, rfl⟩
  | options rtsp cseq =>
      simp only [ConnOp.exec, Option.some.injEq, Prod.mk.injEq] at h
      obtain ⟨rfl, rfl, rfl⟩ := h
      exact ⟨rfl, by simp, rfl⟩
  | pair i create rtsp cseq e =>
      have hempty : i.body.length = 0 := not_not.mp hquiet
      simp only [ConnOp.exec, pairEndpoint, hempty, if_true, Option.map_some, Option.some.injEq, Prod.mk.injEq] at h
      obtain ⟨rfl, rfl, rfl⟩ := h
      refine ⟨rfl, by simp [pairResponse, ConnOp.Bystander], ?_⟩
      simp only [ConnOp.exec, pairEndpoint, hempty, if_true, Option.map_some]
  | recvFrame | decrypt | countRead | sealFrame | encrypt | transmit | count | controlKeys | activate | eventKeys
    | activateEvent => exact hop.elim

/-- The connections in which there is nothing else left to do. -/
def Bystanders (old : Option (List ConnOp)) : Prop := ∀ todo, old = some todo → ∀ o ∈ todo, o.Bystander

/-- An event of a bystander leaves the globals alone, and does not depend on them. -/
theorem connPart_bystander {ev : ConnEvent} {old new : Option (List ConnOp)} (hold : Bystanders old)
    (hquiet : Unshared g ev old)
    (h : connPart P sk pk g ev old = some (g', obs, new)) {g₀ : Globals} (h₀ : g₀.enc.active = false) :
    g' = g ∧ Bystanders new ∧ connPart P sk pk g₀ ev old = some (g₀, obs, new) := by
  obtain ⟨⟨g₁, obs₁, todo⟩, hconn, heq⟩ := Option.map_eq_some_iff.mp h
  simp only [Prod.mk.injEq] at heq
  obtain ⟨rfl, rfl, rfl⟩ := heq
  have hnew : (∀ o ∈ todo, o.Bystander) → Bystanders (some todo) := by
    intro hall todo' htodo
    rwa [← Option.some.inj htodo]
  rcases connStep_cases hconn with ⟨op, rest, ops, rfl, rfl, hexec, rfl⟩ | ⟨rfl, rfl, hcase⟩
  · have hop := hold _ rfl op List.mem_cons_self
    obtain ⟨hg, hops, hexec₀⟩ := exec_bystander hop (hquiet rfl op rest rfl) hexec h₀
    refine ⟨hg, hnew fun o ho => ?_, ?_⟩
    · rcases List.mem_append.mp ho with ho | ho
      · exact hops o ho
      · exact hold _ rfl o (List.mem_cons_of_mem _ ho)
    · simp only [connPart, connStep, hexec₀, Option.map_some]
  rcases hcase with ⟨rfl, rfl, rfl⟩ | ⟨rfl, rfl | rfl, rfl⟩ | ⟨m, len, e, ops, rfl, rfl, hops, rfl⟩ | ⟨rfl, -⟩
  · exact ⟨rfl, hnew (by simp [ConnOp.Bystander]), rfl⟩
  · exact ⟨rfl, hnew (by simp), rfl⟩
  · exact ⟨rfl, hnew (by simp), rfl⟩
  · refine ⟨rfl, hnew fun o ho => ?_, ?_⟩
    · rcases List.mem_append.mp ho with ho | ho
      · exact requestOps_bystander hops o ho
      · rw [List.mem_singleton.mp ho]
        trivial
    · simp only [connPart, connStep, hops, Option.map_some]
  · exact (hold _ rfl .recvFrame (List.mem_singleton_self _)).elim

end Bystander

/-! ## The property -/

/-- **Encryption state is per connection** in a run: each connection is treated as it is alone, and begins in
    plaintext. -/
def PerConnection (P : OpenSSL) (sk pk : Block 32) (h : List (Step Server ServerInput)) : Prop :=
  ∀ c, connTreatment P sk pk c h = aloneTreatment P sk pk (history c h) ∧
    ([.accept, .step] <+: history c h → [.mode false] <+: connTreatment P sk pk c h)

/-- **Each connection is treated as it is alone** in every run in which one connection sends all pairing requests, and
    no other looks at `g_enc` once it is active. -/
theorem treated_as_alone (P : OpenSSL) (sk pk : Block 32) (h : List (Step Server ServerInput)) (s : Server)
    (hr : ServerRun P sk pk Server.init h s) (hone : OneConnection h) : PerConnection P sk pk h := by
  obtain ⟨c₀, hone⟩ := hone
  intro c
  have hsame : connTreatment P sk pk c h = aloneTreatment P sk pk (history c h) := by
    have hinit : ∀ c, Bystanders (Server.init.part c) := by
      intro c todo htodo
      cases htodo
    obtain ⟨g, halone, -⟩ := treated_alone (f := connPart P sk pk) c₀ Bystanders Unshared hinit
      (fun hold hquiet hstep => connPart_bystander hold hquiet hstep rfl) hr hone c
    have halone' : alone (connPart P sk pk) Server.init.globals none (history c h) =
      ((g, s.part c), treatment (connPart P sk pk) c h) := halone
    rw [connTreatment, aloneTreatment, halone']
  refine ⟨hsame, fun hnew => ?_⟩
  rw [hsame]
  have hprefix := (alone_grows (f := connPart P sk pk) (g := Server.init.globals) (l := none) hnew).filterMap
    fun o => o.filter ConnObs.keying
  exact hprefix

/-- The run of one client. -/
theorem treated_as_alone_activated :
    ∃ (h : List (Step Server ServerInput)) (s : Server),
      ServerRun .toy (Block.zero 32) (Block.zero 32) Server.init h s ∧ s.globals.enc.active = true ∧
        PerConnection .toy (Block.zero 32) (Block.zero 32) h := by
  obtain ⟨before, x, g, ctx, hr, hx, hall, -⟩ := activated_run .toy (Block.zero 32) (Block.zero 32)
  exact ⟨_, _, hr, hx.2.2, treated_as_alone .toy _ _ _ _ hr ⟨0, fun y hy => .inl (hall y hy)⟩⟩

/-- A new connection looks at `g_enc.active`. -/
theorem accepted_mode {P : OpenSSL} {sk pk : Block 32} {h : List (Step Server ServerInput)} {s : Server}
    (c : ConnId)
    (hr : ServerRun P sk pk Server.init h s) (hnew : s.part c = none) (hno : ∀ x ∈ h, x.input.part ≠ c) :
    ∃ (h' : List (Step Server ServerInput)) (s' : Server), ServerRun P sk pk Server.init h' s' ∧
      history c h' = [.accept, .step] ∧ connTreatment P sk pk c h' = [.mode s.globals.enc.active] := by
  let s₁ : Server := ⟨s.globals, Function.update s.part c (some [.round])⟩
  have haccept : serverStep P sk pk s ⟨c, .accept⟩ = some (s₁, none) := by
    simp only [Parts.step, connPart, hnew, connStep, Option.map_some]
    rfl
  obtain ⟨s₂, hround⟩ : ∃ s₂, serverStep P sk pk s₁ ⟨c, .step⟩ = some (s₂, some (.mode s.globals.enc.active)) := by
    simp only [Parts.step, connPart, s₁, Function.update_self, connStep, ConnOp.exec, Option.map_some]
    exact ⟨_, rfl⟩
  refine ⟨_, s₂, (hr.snoc ⟨_, haccept⟩).snoc ⟨_, hround⟩, ?_, ?_⟩
  · have h₁ := history_self (h := h) (x := ⟨s, ⟨c, .accept⟩, s₁⟩)
    have h₂ := history_self (h := h ++ [⟨s, ⟨c, .accept⟩, s₁⟩]) (x := ⟨s₁, ⟨c, .step⟩, s₂⟩)
    simp only [history_none hno, List.nil_append] at h₁
    rw [h₂, h₁]
    rfl
  · have h₁ := treatment_self (f := connPart P sk pk) (h := h) (x := ⟨s, ⟨c, .accept⟩, s₁⟩) haccept
    have h₂ := treatment_self (f := connPart P sk pk) (h := h ++ [⟨s, ⟨c, .accept⟩, s₁⟩])
        (x := ⟨s₁, ⟨c, .step⟩, s₂⟩)
      hround
    simp only [treatment_none hno, List.nil_append] at h₁
    rw [connTreatment, h₂, h₁]
    rfl

/-- **A new connection** is treated as the last one has left `g_enc`. -/
theorem shared_mode :
    ¬ ∃ (P : OpenSSL) (f : List ConnEvent → List ConnObs), ∀ (sk pk : Block 32) (h : List (Step Server ServerInput))
      (s : Server) (c : ConnId), ServerRun P sk pk Server.init h s →
        connTreatment P sk pk c h = f (history c h) := by
  rintro ⟨P, f, hall⟩
  obtain ⟨before, x, g, ctx, hr, hx, hzero, hpost, -⟩ := activated_run P (Block.zero 32) (Block.zero 32)
  obtain ⟨h, s, hrun, hhist, hmode⟩ := accepted_mode 1 hr (by rw [hpost]; rfl)
      (fun y hy => by rw [hzero y hy]; decide)
  obtain ⟨h', s', hrun', hhist', hmode'⟩ := accepted_mode (P := P) (h := []) 1 Run.nil rfl
    (fun y hy => absurd hy List.not_mem_nil)
  have hone := hall (Block.zero 32) (Block.zero 32) h s 1 hrun
  have htwo := hall (Block.zero 32) (Block.zero 32) h' s' 1 hrun'
  rw [hmode, hhist, hx.2.2] at hone
  rw [hmode', hhist', ← hone] at htwo
  cases htwo

end Showcase
