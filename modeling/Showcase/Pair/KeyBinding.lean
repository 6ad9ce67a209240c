import Showcase.Pair.VerifyAuth

/-!
# `Pair.KeyBinding` — which secret the derived keys come from

`pair_derive_control_keys`, `pair_derive_event_keys` and `pair_derive_stream_key` look at `verify_state` only,
while `verify_shared` and `verify_enc_key` are written at different points of `handle_verify_m1`.

* `key_binding` — as long as no M3 opens before the first M1, no unchecked `EVP_PKEY_derive` or HKDF call fails,
  and no M1 takes an error exit between its shared secret and its key (or, in a completed exchange, behind it),
  the keys come from the secret of one M1, under whose key the completing M3 was opened.
* `key_not_bound` — an M3 sealed under the all-zero key completes pair-verify on a fresh context, and the keys
  are derived from an all-zero secret.
-/

namespace Showcase

open Lib

variable {P : OpenSSL}

/-- The call writes `verify_state = 4`. -/
def Completes (P : OpenSSL) (x : PairStep) : Prop :=
  ∃ ident sig report, CompletesVerify P x ident sig report

/-- **Key binding** of a state reached by the run `h`: when a `pair_derive_*` call succeeds, there is an M1 since
    which `verify_shared` is unchanged; it is the X25519 secret of that M1, `verify_enc_key` is derived from it,
    and the last M3 to complete pair-verify came after that M1 and was opened under this key. -/
def KeyBound (P : OpenSSL) (h : List PairStep) (ctx : PairCtx) : Prop :=
  DerivesKeys P ctx →
    ∃ pre m post pk ours e x, h = pre ++ m :: post ∧ StoresEcdh P m pk ours e ∧
      ctx.verifyShared = P.x25519 ours pk ∧ ctx.verifyEncKey = verifyEncryptKey P ctx.verifyShared ∧
      Last (Completes P) post x ∧ x.pre.verifyEncKey = ctx.verifyEncKey ∧
      ∀ y ∈ post, y.post.verifyShared = y.pre.verifyShared

/-- The step takes none of the branches that leave the secret, the key and `verify_state` out of step: an M1 that
    stores its ECDH values also derives secret and key and is answered if `verify_state` is 4, and an M3 before
    any M1 does not open. -/
def KeyGuarded (P : OpenSSL) (x : PairStep) : Prop :=
  (∀ pk ours e, StoresEcdh P x pk ours e →
    e.m1.derive = none ∧ e.m1.encKey = none ∧ e.m1.ReachesKey ∧ (x.pre.verifyState = 4 → e.m1.Answers)) ∧
  (x.pre.verifyEcdhOurs = none → ¬ Completes P x)

/-! ## The invariant

A binding begins with an M1 that gets as far as the key, and is kept by every step that leaves secret and key alone. A
guarded step does, or begins a binding of its own. -/

/-- The M1 `m`, the steps `post` behind it, and the context they lead to. -/
structure BoundSince (P : OpenSSL) (m : PairStep) (post : List PairStep) (ctx : PairCtx) (pk ours : Block 32)
    (e : VerifyEnv) : Prop where
  stores : StoresEcdh P m pk ours e
  shared : ctx.verifyShared = P.x25519 ours pk
  encKey : ctx.verifyEncKey = verifyEncryptKey P ctx.verifyShared
  kept : ∀ y ∈ post, y.post.verifyShared = y.pre.verifyShared
  completed : ctx.verifyState = 4 → ∃ x, Last (Completes P) post x ∧ x.pre.verifyEncKey = ctx.verifyEncKey

/-- Before the first M1 nothing is complete; from then on the context is bound since some M1. -/
def KeyInv (P : OpenSSL) (h : List PairStep) (ctx : PairCtx) : Prop :=
  (ctx.verifyEcdhOurs = none ∧ ctx.verifyState ≠ 4) ∨
    ((∃ o, ctx.verifyEcdhOurs = some o) ∧
      ∃ pre m post pk ours e, h = pre ++ m :: post ∧ BoundSince P m post ctx pk ours e)

/-- A step that leaves secret and key alone, and completes or leaves `verify_state` alone as well, keeps the
    binding. -/
theorem BoundSince.frame {m : PairStep} {post : List PairStep} {ctx ctx' : PairCtx} {i : PairInput}
    {pk ours : Block 32} {e : VerifyEnv} (hb : BoundSince P m post ctx pk ours e)
    (hshared : ctx'.verifyShared = ctx.verifyShared) (hkey : ctx'.verifyEncKey = ctx.verifyEncKey)
    (hstate : Completes P ⟨ctx, i, ctx'⟩ ∨ ctx'.verifyState = ctx.verifyState) :
    BoundSince P m (post ++ [⟨ctx, i, ctx'⟩]) ctx' pk ours e := by
  refine ⟨hb.stores, hshared.trans hb.shared, ?_, ?_, ?_⟩
  · rw [hkey, hshared]
    exact hb.encKey
  · intro y hy
    rcases List.mem_append.mp hy with hy | hy
    · exact hb.kept y hy
    · rw [List.mem_singleton.mp hy]
      exact hshared
  · intro h4
    by_cases hc : Completes P ⟨ctx, i, ctx'⟩
    · exact ⟨_, Last.snoc_self hc, hkey.symm⟩
    · obtain ⟨x, hx, hxk⟩ := hb.completed ((hstate.resolve_left hc).symm.trans h4)
      exact ⟨x, hx.snoc_other hc, hxk.trans hkey.symm⟩

/-- A step that leaves the keys and the state alone keeps the invariant. -/
theorem KeyInv.frame {h : List PairStep} {ctx ctx' : PairCtx} {i : PairInput} (hinv : KeyInv P h ctx)
    (hours : ctx'.verifyEcdhOurs = ctx.verifyEcdhOurs) (hshared : ctx'.verifyShared = ctx.verifyShared)
    (hkey : ctx'.verifyEncKey = ctx.verifyEncKey) (hstate : ctx'.verifyState = ctx.verifyState) :
    KeyInv P (h ++ [⟨ctx, i, ctx'⟩]) ctx' := by
  rcases hinv with ⟨hnone, h4⟩ | ⟨⟨o, ho⟩, pre, m, post, pk, ours, e, rfl, hb⟩
  · exact .inl ⟨hours.trans hnone, hstate ▸ h4⟩
  · exact .inr ⟨⟨o, hours.trans ho⟩, pre, m, _, pk, ours, e, by simp,
      hb.frame (i := i) hshared hkey (.inr hstate)⟩

/-- An M1 that derives secret and key and leaves `verify_state` other than 4 starts a new binding. -/
theorem KeyInv.rebind {h : List PairStep} {x : PairStep} {pk ours : Block 32} {e : VerifyEnv}
    (hM1 : StoresEcdh P x pk ours e) (hderive : e.m1.derive = none) (henc : e.m1.encKey = none)
    {o : EvpPkey} (hours : x.post.verifyEcdhOurs = some o)
    (hshared : x.post.verifyShared = unchecked e.m1.derive (P.x25519 ours pk))
    (hkey : x.post.verifyEncKey = unchecked e.m1.encKey (verifyEncryptKey P x.post.verifyShared))
    (h4 : x.post.verifyState ≠ 4) : KeyInv P (h ++ [x]) x.post := by
  rw [hderive, unchecked_none] at hshared
  rw [henc, unchecked_none] at hkey
  exact .inr ⟨⟨o, hours⟩, h, x, [], pk, ours, e, rfl, hM1, hshared, hkey, by simp, fun hc => absurd hc h4⟩

/-- Every guarded step keeps the invariant. -/
theorem KeyInv.step {h : List PairStep} {ctx ctx' : PairCtx} {i : PairInput} (hinv : KeyInv P h ctx)
    (hs : pairStep P ctx i ctx') (hg : KeyGuarded P ⟨ctx, i, ctx'⟩) :
    KeyInv P (h ++ [⟨ctx, i, ctx'⟩]) ctx' := by
  cases verifyEffect_of_step hs with
  | other _ _ heq =>
      simp only [PairCtx.verify, Prod.mk.injEq] at heq
      exact hinv.frame heq.2.1 heq.2.2.1 heq.2.2.2.1 heq.1
  | clientEcdh pk _ _ heq =>
      simp only at heq
      subst heq
      exact hinv.frame rfl rfl rfl rfl
  | ecdh pk ours e hM1 hno _ => exact absurd (hg.1 pk ours e hM1).2.2.1 hno
  | encKey pk ours e hM1 _ hno heq =>
      obtain ⟨hderive, henc, _, hanswers⟩ := hg.1 pk ours e hM1
      simp only at heq
      subst heq
      exact KeyInv.rebind hM1 hderive henc rfl rfl rfl (fun h4 => hno (hanswers h4))
  | answered pk ours e hM1 _ heq =>
      obtain ⟨hderive, henc, _, _⟩ := hg.1 pk ours e hM1
      simp only at heq
      subst heq
      exact KeyInv.rebind hM1 hderive henc rfl rfl rfl (by simp)
  | completed ident sig report hM3 heq =>
      have hc : Completes P ⟨ctx, i, ctx'⟩ := ⟨ident, sig, report, hM3⟩
      simp only at heq
      subst heq
      rcases hinv with ⟨hnone, _⟩ | ⟨ho, pre, m, post, pk, ours, e, rfl, hb⟩
      · exact absurd hc (hg.2 hnone)
      · exact .inr ⟨ho, pre, m, _, pk, ours, e, by simp, hb.frame rfl rfl (.inl hc)⟩

theorem keyInv_run {sk pk : Block 32} {pin : Option Bytes} {h : List PairStep} {ctx : PairCtx}
    (hr : PairRun P (pairCtxCreate sk pk pin) h ctx) (hC : ∀ x ∈ h, KeyGuarded P x) : KeyInv P h ctx :=
  Run.induction (KeyGuarded P) (KeyInv P) (.inl ⟨rfl, by simp [pairCtxCreate]⟩)
    (fun _ _ _ _ _ hinv hs hg => hinv.step hs hg) hr hC

/-! ## Key binding -/

/-- **Over every guarded run the derived keys are bound** to one M1 and to the M3 that completed it. -/
theorem key_binding {sk pk : Block 32} {pin : Option Bytes} {h : List PairStep} {ctx : PairCtx}
    (hr : PairRun P (pairCtxCreate sk pk pin) h ctx) (hC : ∀ x ∈ h, KeyGuarded P x) : KeyBound P h ctx := by
  intro hder
  have h4 : ctx.verifyState = 4 := derivesKeys_iff.mp hder
  rcases keyInv_run hr hC with ⟨_, hne⟩ | ⟨_, pre, m, post, pk, ours, e, hh, hb⟩
  · exact absurd h4 hne
  · obtain ⟨x, hx, hxk⟩ := hb.completed h4
    exact ⟨pre, m, post, pk, ours, e, x, hh, hb.stores, hb.shared, hb.encKey, hx, hxk, hb.kept⟩

/-- An M1 and the M3 under its key: keys are derived, and they are bound. -/
theorem key_binding_m1_m3 :
    ∃ (m x : PairStep) (ctx : PairCtx),
      PairRun .toy (pairCtxCreate (Block.zero 32) (Block.zero 32) none) [m, x] ctx ∧ DerivesKeys .toy ctx ∧
        KeyBound .toy [m, x] ctx := by
  obtain ⟨ctx₁, hstep₁, hder, _, hours, _⟩ :=
    verifyM1_step .toy (pairCtxCreate (Block.zero 32) (Block.zero 32) none) (Block.zero 32) (Block.zero 32)
  obtain ⟨report, hstep₂, hM3⟩ := verifyM3_step .toy ctx₁ (ascii "id") (Block.zero 64)
  have hr := Run.snoc (Run.snoc Run.nil hstep₁) hstep₂
  refine ⟨_, _, _, hr, derivesKeys_iff.mpr rfl, key_binding hr ?_⟩
  intro y hy
  rcases List.mem_cons.mp hy with rfl | hy
  · refine ⟨?_, ?_⟩
    · intro pk ours e hM1
      obtain ⟨_, _, rfl⟩ := hder.1.unique hM1
      exact ⟨rfl, rfl, ⟨rfl, rfl, rfl⟩, fun _ => ⟨rfl, rfl, rfl⟩⟩
    · rintro _ ⟨_, _, _, _, _, hmsg, _⟩
      obtain ⟨⟨_, hmsg', _⟩, _⟩ := hder
      exact absurd (hmsg'.unique hmsg).1 (by decide)
  · obtain rfl := List.mem_singleton.mp hy
    refine ⟨?_, fun hnone => absurd (hours.symm.trans hnone) (by simp)⟩
    rintro pk ours e ⟨_, hmsg, _⟩
    obtain ⟨_, _, hmsg', _⟩ := hM3
    exact absurd (hmsg.unique hmsg').1 (by decide)

/-- Key binding does not hold of every run: a single M3 under the all-zero key is enough to derive keys. -/
theorem key_not_bound :
    ¬ ∃ P : OpenSSL, ∀ (sk pk : Block 32) (pin : Option Bytes) (h : List PairStep) (ctx : PairCtx),
      PairRun P (pairCtxCreate sk pk pin) h ctx → KeyBound P h ctx := by
  rintro ⟨P, hall⟩
  obtain ⟨report, hstep, _⟩ :=
    verifyM3_step P (pairCtxCreate (Block.zero 32) (Block.zero 32) none) (ascii "id") (Block.zero 64)
  obtain ⟨pre, m, post, _, _, _, x, hh, _, _, _, hx, _⟩ :=
    hall _ _ _ _ _ (Run.snoc Run.nil hstep) (derivesKeys_iff.mpr rfl)
  -- an M1 and an M3 behind it do not fit into one step
  have hlen := congrArg List.length hh
  have hpos := List.length_pos_of_mem hx.mem
  simp only [List.nil_append, List.length_nil, List.length_append, List.length_cons] at hlen
  omega

end Showcase
