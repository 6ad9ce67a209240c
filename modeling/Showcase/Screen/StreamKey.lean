import Showcase.Screen.Listener

/-!
# `Screen.StreamKey` — the key that video frames are decrypted with

`g_screen_key` and `g_screen_key_valid` belong to the last SETUP that derived a key; the screen thread reads them at
every frame of the connection it has. Nothing clears the flag.

* `FramesBound` — every frame was decrypted with the key of the stream that its connection came in on.
* `frames_bound` — so it is in a run whose SETUPs derive a key only for the stream the thread is on, and start the
  thread only with a key of their own or without any.
-/

namespace Showcase

open Lib

namespace VideoServer

variable (s : VideoServer)

/-- The stream whose frames the thread decrypts now or once it has accepted. -/
def threadOn : Option (Option Nat) :=
  match s.thread with
  | some .start =>
      if 0 ≤ s.screenListenFd ∧ s.listening s.screenListenFd.toNat then some (s.owner s.screenListenFd.toNat) else none
  | some (.accepting fd) => some (s.owner fd)
  | some (.closeListen c) => some c.stream
  | some (.unsetListen c) => some c.stream
  | some (.streaming c) => some c.stream
  | some (.decrypting c) => some c.stream
  | _ => none

/-- The stream `k` has the key `key`: the one derived for its id, in the context of its SETUP. -/
def HasKey (P : OpenSSL) (k : Nat) (key : Block 32) : Prop := ∃ r, s.streams k = some r ∧ r.key P = some key

end VideoServer

/-- **Bound keys.** Every frame was decrypted with the key of the stream that its connection came in on; a stream without
    an id or with a failed derivation has none. -/
def FramesBound (P : OpenSSL) (s : VideoServer) : Prop :=
  ∀ f ∈ s.frames, ∃ k, f.1 = some k ∧ s.HasKey P k f.2

/-- **The condition**, on the steps of the SETUP:
    * it binds a socket while no thread is started with an old key on a descriptor that is closed;
    * it stores its own socket, and not while a thread is started with an old key;
    * it derives a key when the thread is on no other stream;
    * it starts the thread with the key it has derived, or without any. -/
def Unmixed (P : OpenSSL) (x : Step VideoServer VideoInput) : Prop :=
  match x.input with
  | .setup _ _ =>
      x.pre.thread = some .start → x.pre.screenKeyValid = true → 0 ≤ x.pre.screenListenFd →
        (x.pre.table x.pre.screenListenFd.toNat).isSome
  | .setupNext =>
      match x.pre.setup with
      | .idle => True
      | .store k => (x.pre.thread = some .start → x.pre.screenKeyValid = false) ∧
          ∀ r ∈ x.pre.streams k, 0 ≤ r.fd → x.pre.listening r.fd.toNat = true → x.pre.owner r.fd.toNat = some k
      | .key k => ∀ r ∈ x.pre.streams k, (r.connId.bind (pairDeriveStreamKey P x.pre.pair)).isSome →
          ∀ o ∈ x.pre.threadOn, o = some k
      | .start k => x.pre.screenThreadRunning = false → 0 ≤ x.pre.screenListenFd → x.pre.screenKeyValid = true →
          ∃ r ∈ x.pre.streams k, (r.key P).isSome
  | _ => True

instance (P : OpenSSL) : DecidablePred (Unmixed P)
  | ⟨s, .setup _ _, _⟩ =>
      inferInstanceAs (Decidable (s.thread = some .start → s.screenKeyValid = true → 0 ≤ s.screenListenFd →
        (s.table s.screenListenFd.toNat).isSome))
  | ⟨s, .setupNext, _⟩ =>
      match h : s.setup with
      | .idle => isTrue (by simp only [Unmixed, h])
      | .store k =>
          decidable_of_iff ((s.thread = some .start → s.screenKeyValid = false) ∧
            ∀ r ∈ s.streams k, 0 ≤ r.fd → s.listening r.fd.toNat = true → s.owner r.fd.toNat = some k)
            (by simp only [Unmixed, h])
      | .key k =>
          decidable_of_iff (∀ r ∈ s.streams k, (r.connId.bind (pairDeriveStreamKey P s.pair)).isSome →
            ∀ o ∈ s.threadOn, o = some k) (by simp only [Unmixed, h])
      | .start k =>
          decidable_of_iff (s.screenThreadRunning = false → 0 ≤ s.screenListenFd → s.screenKeyValid = true →
            ∃ r ∈ s.streams k, (r.key P).isSome) (by simp only [Unmixed, h])
  | ⟨_, .threadNext, _⟩ | ⟨_, .accept _, _⟩ | ⟨_, .frame, _⟩ | ⟨_, .decrypt, _⟩ | ⟨_, .leave, _⟩ | ⟨_, .pairing _, _⟩
  | ⟨_, .otherOpen _, _⟩ | ⟨_, .otherClose _, _⟩ => inferInstanceAs (Decidable True)

/-! ## The invariant

The thread reads the key at every frame, so it has to be that of its stream all the time: from the SETUP that starts
the thread to the end of its connection no other stream derives a key. -/

/-- What every step keeps. -/
structure StreamKeyInv (P : OpenSSL) (s : VideoServer) : Prop where
  fresh : ∀ k, s.count ≤ k → s.streams k = none
  /-- A stream has no key before its SETUP derives it. -/
  early : ∀ k r, s.setup = .store k ∨ s.setup = .key k → s.streams k = some r → r.ctx = none
  listener : ∀ k, s.setup = .key k ∨ s.setup = .start k → 0 ≤ s.screenListenFd →
    s.listening s.screenListenFd.toNat = true → s.owner s.screenListenFd.toNat = some k
  derived : ∀ k key, s.setup = .start k → s.HasKey P k key → s.screenKey = key
  accepting : ∀ fd, s.thread = some (.accepting fd) → ∃ sock, s.table fd = some (.socket sock)
  decrypting : ∀ c, s.thread = some (.decrypting c) → s.screenKeyValid = true
  bound : s.screenKeyValid = true → ∀ o ∈ s.threadOn, ∃ k, o = some k ∧ s.HasKey P k s.screenKey
  frames : FramesBound P s

theorem streamKeyInv_init (P : OpenSSL) (pair : PairCtx) (table : Descriptors NetFile) : StreamKeyInv P (.init pair table) where
  fresh := fun _ _ => rfl
  early := fun _ _ _ hr => nomatch hr
  listener := fun _ hpc => hpc.elim (fun hno => nomatch hno) (fun hno => nomatch hno)
  derived := fun _ _ hpc => nomatch hpc
  accepting := fun _ hpc => nomatch hpc
  decrypting := fun _ hpc => nomatch hpc
  bound := fun hno => nomatch hno
  frames := fun _ hf => nomatch hf

section Steps

variable {P : OpenSSL} {s s' : VideoServer} {k : Nat} {r : ScreenStream} {pc : ScreenPc} {key : Block 32}

/-- A stream has the same key where its id and its context are the same. -/
theorem hasKey_congr (h : (s'.streams k).map (fun r => (r.connId, r.ctx)) = (s.streams k).map fun r => (r.connId, r.ctx)) :
    s'.HasKey P k key ↔ s.HasKey P k key := by
  have hone : ∀ {t t' : VideoServer}, ((t'.streams k).map (fun r => (r.connId, r.ctx)) = (t.streams k).map fun r =>
      (r.connId, r.ctx)) → t'.HasKey P k key → t.HasKey P k key := by
    rintro t t' heq ⟨r', hr', hkey⟩
    rw [hr', Option.map_some] at heq
    obtain ⟨r, hr, hsame⟩ := Option.map_eq_some_iff.mp heq.symm
    obtain ⟨hid, hctx⟩ := Prod.mk.inj hsame
    refine ⟨r, hr, ?_⟩
    rw [ScreenStream.key, hid, hctx]
    exact hkey
  exact ⟨hone h, hone h.symm⟩

/-- The stage of a stream does not matter to its key. -/
theorem setStream_map {k' : Nat} {f : ScreenStream → ScreenStream}
    (hf : ∀ r, ((f r).connId, (f r).ctx) = (r.connId, r.ctx)) :
    ((s.setStream k f).streams k').map (fun r => (r.connId, r.ctx)) = (s.streams k').map fun r => (r.connId, r.ctx) := by
  by_cases hk : k' = k
  · subst hk
    simp only [VideoServer.setStream, Function.update_self, Option.map_map]
    exact Option.map_congr fun r _ => hf r
  · simp only [VideoServer.setStream, Function.update_of_ne hk]

theorem listening_iff {fd : Nat} :
    s.listening fd = true ↔ ∃ sock, s.table fd = some (.socket sock) ∧ sock.type = .stream ∧ sock.listening = true := by
  unfold VideoServer.listening
  split
  · rename_i sock hsock
    simp [hsock]
  · rename_i hno
    refine iff_of_false (fun hno => nomatch hno) ?_
    rintro ⟨sock, hsock, _⟩
    exact hno sock hsock

/-- A socket that listens did so before, where the table has not got it since. -/
theorem listening_mono {fd : Nat} (htable : ∀ sock, s'.table fd = some (.socket sock) → s.table fd = some (.socket sock))
    (h : s'.listening fd = true) : s.listening fd = true := by
  obtain ⟨sock, hsock, hrest⟩ := listening_iff.mp h
  exact listening_iff.mpr ⟨sock, htable sock hsock, hrest⟩

/-- The listener of `s'` is that of `s`, where it is one. -/
def SameListener (s s' : VideoServer) : Prop :=
  0 ≤ s'.screenListenFd → s'.listening s'.screenListenFd.toNat = true → 0 ≤ s.screenListenFd ∧
    s.listening s.screenListenFd.toNat = true ∧ s'.owner s'.screenListenFd.toNat = s.owner s.screenListenFd.toNat

/-- A thread that stays where it is stays on its stream. -/
theorem threadOn_mono (hthread : s'.thread = s.thread) (hstart : s.thread = some .start → SameListener s s')
    (hacc : ∀ fd, s.thread = some (.accepting fd) → s'.owner fd = s.owner fd) : ∀ o ∈ s'.threadOn, o ∈ s.threadOn := by
  intro o ho
  cases hpc : s.thread with
  | none =>
      rw [VideoServer.threadOn, hthread, hpc] at ho
      cases ho
  | some pc =>
      rw [VideoServer.threadOn, hthread, hpc] at ho
      rw [VideoServer.threadOn, hpc]
      cases pc with
      | start =>
          simp only [Option.mem_def, Option.ite_none_right_eq_some] at ho ⊢
          obtain ⟨⟨hnonneg, hlisten⟩, howner⟩ := ho
          obtain ⟨hnonneg₀, hlisten₀, hsame⟩ := hstart hpc hnonneg hlisten
          exact ⟨⟨hnonneg₀, hlisten₀⟩, hsame ▸ howner⟩
      | accepting fd =>
          have howner := hacc fd hpc
          simp only [howner] at ho
          exact ho
      | _ => exact ho

namespace StreamKeyInv

/-- A step that touches neither the SETUP nor the key, does not turn to another listener and leaves the thread on the
    stream it is on. -/
theorem keep (h : StreamKeyInv P s) (hcount : s'.count = s.count) (hsetup : s'.setup = s.setup)
    (hkey : s'.screenKey = s.screenKey) (hvalid : s'.screenKeyValid = s.screenKeyValid) (hframes : s'.frames = s.frames)
    (hstreams : ∀ k, (s'.streams k).map (fun r => (r.connId, r.ctx)) = (s.streams k).map fun r => (r.connId, r.ctx))
    (hlisten : SameListener s s')
    (hon : ∀ o ∈ s'.threadOn, o ∈ s.threadOn)
    (hacc : ∀ fd, s'.thread = some (.accepting fd) → ∃ sock, s'.table fd = some (.socket sock))
    (hdec : ∀ c, s'.thread = some (.decrypting c) → s.screenKeyValid = true) : StreamKeyInv P s' where
  fresh := by
    intro k hk
    have hmap := hstreams k
    rw [h.fresh k (hcount ▸ hk), Option.map_none] at hmap
    exact Option.map_eq_none_iff.mp hmap
  early := by
    intro k r' hpc hr'
    have hmap := hstreams k
    rw [hr', Option.map_some] at hmap
    obtain ⟨r, hr, hsame⟩ := Option.map_eq_some_iff.mp hmap.symm
    rw [← (Prod.mk.inj hsame).2]
    exact h.early k r (hsetup ▸ hpc) hr
  listener := by
    intro k hpc hnonneg hlisten'
    obtain ⟨hnonneg₀, hlisten₀, howner⟩ := hlisten hnonneg hlisten'
    rw [howner]
    exact h.listener k (hsetup ▸ hpc) hnonneg₀ hlisten₀
  derived := by
    intro k key hpc hhas
    rw [hkey]
    exact h.derived k key (hsetup ▸ hpc) ((hasKey_congr (hstreams k)).mp hhas)
  accepting := hacc
  decrypting := by
    intro c hpc
    rw [hvalid]
    exact hdec c hpc
  bound := by
    intro hv o ho
    obtain ⟨k, hk, hhas⟩ := h.bound (hvalid ▸ hv) o (hon o ho)
    refine ⟨k, hk, (hasKey_congr (hstreams k)).mpr ?_⟩
    rw [hkey]
    exact hhas
  frames := by
    intro f hf
    obtain ⟨k, hk, hhas⟩ := h.frames f (hframes ▸ hf)
    exact ⟨k, hk, (hasKey_congr (hstreams k)).mpr hhas⟩

/-! ### The SETUP -/

/-- A socket is bound for a new stream. -/
theorem bindStream (h : StreamKeyInv P s) {connId : Option UInt64} {e : BindCalls}
    (hcond : Unmixed P ⟨s, .setup connId e, s'⟩) (hstep : s.bindStream connId e = some s') : StreamKeyInv P s' := by
  obtain ⟨b, hb, rfl⟩ := Option.map_eq_some_iff.mp hstep
  have htable : ∀ fd f, s.table fd = some f → b.table fd = some f := fun fd f hf => bindPort_frame hb hf
  have hother : ∀ {k}, (s.streams k).isSome → k ≠ s.count := by
    rintro k hsome rfl
    rw [h.fresh _ (le_refl _)] at hsome
    cases hsome
  have hhas : ∀ {k key}, s.HasKey P k key → VideoServer.HasKey { s with
      table := b.table
      setup := .store s.count
      streams := Function.update s.streams s.count (some ⟨b.fd, b.outPort, connId, none, .waiting⟩)
      count := s.count + 1
      owner := if (0 : Int) ≤ b.fd ∧ s.table b.fd.toNat = none then Function.update s.owner b.fd.toNat (some s.count)
        else s.owner } P k key := by
    rintro k key ⟨r, hr, hkey⟩
    refine ⟨r, ?_, hkey⟩
    exact (Function.update_of_ne (hother (by rw [hr]; rfl)) ..).trans hr
  -- the descriptors that are open stay what they are
  have howner : ∀ {fd}, (s.table fd).isSome → (if (0 : Int) ≤ b.fd ∧ s.table b.fd.toNat = none then
      Function.update s.owner b.fd.toNat (some s.count) else s.owner) fd = s.owner fd := by
    intro fd hopen
    split
    · rename_i hnew
      refine Function.update_of_ne ?_ ..
      rintro rfl
      rw [hnew.2] at hopen
      cases hopen
    · rfl
  refine ⟨?_, ?_, ?_, ?_, ?_, h.decrypting, ?_, ?_⟩
  · intro k hk
    refine (Function.update_of_ne (Nat.ne_of_gt hk) ..).trans ?_
    exact h.fresh k (Nat.le_of_succ_le hk)
  · intro k r hpc hr
    rcases hpc with hpc | hpc
    · cases hpc
      cases (Function.update_self ..).symm.trans hr
      rfl
    · cases hpc
  · intro k hpc
    rcases hpc with hpc | hpc
    · cases hpc
    · cases hpc
  · intro k key hpc
    cases hpc
  · intro fd hpc
    obtain ⟨sock, hsock⟩ := h.accepting fd hpc
    exact ⟨sock, htable fd _ hsock⟩
  · intro hv o ho
    have hon : o ∈ s.threadOn := by
      refine threadOn_mono ?_ ?_ ?_ o ho
      · rfl
      · intro hpc hnonneg hlisten
        have hopen : (s.table s.screenListenFd.toNat).isSome := hcond hpc hv hnonneg
        obtain ⟨f, hf⟩ := Option.isSome_iff_exists.mp hopen
        refine ⟨hnonneg, listening_mono ?_ hlisten, howner hopen⟩
        intro sock hsock
        rw [← hsock]
        exact hf.trans (htable _ f hf).symm
      · intro fd hpc
        obtain ⟨sock, hsock⟩ := h.accepting fd hpc
        exact howner (by rw [hsock]; rfl)
    obtain ⟨k, hk, hkey⟩ := h.bound hv o hon
    exact ⟨k, hk, hhas hkey⟩
  · intro f hf
    obtain ⟨k, hk, hkey⟩ := h.frames f hf
    exact ⟨k, hk, hhas hkey⟩

/-- The listener is stored: that of the stream, which a thread that is started turns to. -/
theorem storeListener (h : StreamKeyInv P s) (hpc : s.setup = .store k)
    (hcond : (s.thread = some .start → s.screenKeyValid = false) ∧
      (0 ≤ r.fd → s.listening r.fd.toNat = true → s.owner r.fd.toNat = some k)) :
    StreamKeyInv P { s with screenListenFd := r.fd, screenDataPort := r.port, setup := .key k } := by
  obtain ⟨hstart, hown⟩ := hcond
  refine ⟨h.fresh, ?_, ?_, (fun _ _ hno => nomatch hno), h.accepting, h.decrypting, ?_, h.frames⟩
  · intro k' r' hpc' hr'
    rcases hpc' with hpc' | hpc'
    · cases hpc'
    · cases hpc'
      exact h.early k r' (.inl hpc) hr'
  · intro k' hpc'
    rcases hpc' with hpc' | hpc'
    · cases hpc'
      exact hown
    · cases hpc'
  · intro hv o ho
    refine h.bound hv o (threadOn_mono ?_ ?_ ?_ o ho)
    · rfl
    · intro hthread
      rw [hstart hthread] at hv
      cases hv
    · exact fun _ _ => rfl

/-- The key is derived while the thread is on no other stream, or there is none. -/
theorem deriveKey (h : StreamKeyInv P s) (hpc : s.setup = .key k) (hr : s.streams k = some r)
    (hcond : (r.connId.bind (pairDeriveStreamKey P s.pair)).isSome → ∀ o ∈ s.threadOn, o = some k) :
    StreamKeyInv P { s.deriveKey P k r with setup := .start k } := by
  have hctx : r.ctx = none := h.early k r (.inr hpc) hr
  have hthis : (s.setStream k fun r => { r with ctx := some s.pair }).streams k = some { r with ctx := some s.pair } :=
    setStream_eq_some.mpr ⟨r, hr, by rw [if_pos rfl]⟩
  -- the streams that have a key are other ones
  have hhas : ∀ {t : VideoServer} {j key}, t.streams = (s.setStream k fun r => { r with ctx := some s.pair }).streams →
      s.HasKey P j key → t.HasKey P j key := by
    rintro t j key ht ⟨r', hr', hkey⟩
    have hne : j ≠ k := by
      rintro rfl
      obtain rfl : r = r' := Option.some.inj (hr.symm.trans hr')
      rw [ScreenStream.key, hctx] at hkey
      cases hkey
    refine ⟨r', ?_, hkey⟩
    rw [ht]
    exact setStream_eq_some.mpr ⟨r', hr', by rw [if_neg hne]⟩
  have hderives : ∀ {t : VideoServer} {key},
      t.streams = (s.setStream k fun r => { r with ctx := some s.pair }).streams → t.HasKey P k key →
      ∃ id, r.connId = some id ∧ pairDeriveStreamKey P s.pair id = some key := by
    rintro t key ht ⟨r', hr', hkey⟩
    obtain rfl := Option.some.inj (hthis.symm.trans (ht ▸ hr'))
    exact Option.bind_eq_some_iff.mp hkey
  have hfresh : ∀ k', s.count ≤ k' → (s.setStream k fun r => { r with ctx := some s.pair }).streams k' = none :=
    fun k' hk' => setStream_eq_none.mpr (h.fresh k' hk')
  rcases deriveKey_cases P s k r with ⟨id, key, hid, hkey, heq⟩ | ⟨hno, connId, heq⟩
  · rw [heq]
    refine ⟨hfresh, ?_, ?_, ?_, h.accepting, (fun _ _ => rfl), ?_, ?_⟩
    · rintro _ _ (hno | hno)
      · cases hno
      · cases hno
    · rintro k' (hno | hpc')
      · cases hno
      · cases hpc'
        exact h.listener k (.inl hpc)
    · intro k' key' hpc' hhas'
      cases hpc'
      obtain ⟨id', hid', hkey'⟩ := hderives rfl hhas'
      obtain rfl : id = id' := Option.some.inj (hid.symm.trans hid')
      exact Option.some.inj (hkey.symm.trans hkey')
    · intro _ o ho
      have hbind : r.connId.bind (pairDeriveStreamKey P s.pair) = some key := by rw [hid, Option.bind_some, hkey]
      exact ⟨k, hcond (by rw [hbind]; rfl) o ho, { r with ctx := some s.pair }, hthis, hbind⟩
    · intro f hf
      obtain ⟨j, hj, hhas'⟩ := h.frames f hf
      exact ⟨j, hj, hhas rfl hhas'⟩
  · rw [heq]
    refine ⟨hfresh, ?_, ?_, ?_, h.accepting, h.decrypting, ?_, ?_⟩
    · rintro _ _ (hno | hno)
      · cases hno
      · cases hno
    · rintro k' (hno | hpc')
      · cases hno
      · cases hpc'
        exact h.listener k (.inl hpc)
    · intro k' key' hpc' hhas'
      cases hpc'
      obtain ⟨id', hid', hkey'⟩ := hderives rfl hhas'
      rw [hno id' hid'] at hkey'
      cases hkey'
    · intro hv o ho
      obtain ⟨j, hj, hhas'⟩ := h.bound hv o ho
      exact ⟨j, hj, hhas rfl hhas'⟩
    · intro f hf
      obtain ⟨j, hj, hhas'⟩ := h.frames f hf
      exact ⟨j, hj, hhas rfl hhas'⟩

/-- The thread is started with the key of the stream, or without any. -/
theorem startThread (h : StreamKeyInv P s) (hpc : s.setup = .start k)
    (hcond : s.screenThreadRunning = false → 0 ≤ s.screenListenFd → s.screenKeyValid = true →
      ∃ r ∈ s.streams k, (r.key P).isSome) : StreamKeyInv P { s.startScreenThread with setup := .idle } := by
  have hidle : ∀ {t : VideoServer}, t.setup = .idle → ∀ {k}, ¬ (t.setup = .store k ∨ t.setup = .key k) ∧
      ¬ (t.setup = .key k ∨ t.setup = .start k) ∧ t.setup ≠ .start k := by
    intro t ht k
    rw [ht]
    simp
  rw [VideoServer.startScreenThread]
  split
  · refine ⟨h.fresh, fun _ _ hno => ?_, fun _ hno => ?_, fun _ _ hno => ?_, h.accepting, h.decrypting, ?_, h.frames⟩
    · exact absurd hno (hidle rfl).1
    · exact absurd hno (hidle rfl).2.1
    · exact absurd hno (hidle rfl).2.2
    · exact h.bound
  · rename_i hstart
    obtain ⟨hclear, hnonneg⟩ := not_or.mp hstart
    refine ⟨h.fresh, fun _ _ hno => ?_, fun _ hno => ?_, fun _ _ hno => ?_, (fun _ hno => by cases hno),
      (fun _ hno => by cases hno), ?_, h.frames⟩
    · exact absurd hno (hidle rfl).1
    · exact absurd hno (hidle rfl).2.1
    · exact absurd hno (hidle rfl).2.2
    · intro hv o ho
      obtain ⟨r, hr, hsome⟩ := hcond (by simpa using hclear) (not_lt.mp hnonneg) hv
      obtain ⟨key, hkey⟩ := Option.isSome_iff_exists.mp hsome
      have hhas : s.HasKey P k key := ⟨r, hr, hkey⟩
      obtain ⟨⟨hfd, hlisten⟩, howner⟩ := Option.ite_none_right_eq_some.mp ho
      refine ⟨k, ?_, ?_⟩
      · rw [← Option.some.inj howner]
        exact h.listener k (.inr hpc) hfd hlisten
      · rw [← h.derived k key hpc hhas] at hhas
        exact hhas

/-! ### The thread -/

/-- A step that leaves the SETUP, the key and the descriptors alone. -/
theorem moveThread (h : StreamKeyInv P s) {thread' : Option ScreenPc} {running : Bool}
    (hon : ∀ o ∈ VideoServer.threadOn { s with screenThreadRunning := running, thread := thread' }, o ∈ s.threadOn)
    (hacc : ∀ fd, thread' = some (.accepting fd) → ∃ sock, s.table fd = some (.socket sock))
    (hdec : ∀ c, thread' = some (.decrypting c) → s.screenKeyValid = true) :
    StreamKeyInv P { s with screenThreadRunning := running, thread := thread' } :=
  h.keep rfl rfl rfl rfl rfl (fun _ => rfl) (fun hnonneg hlisten => ⟨hnonneg, hlisten, rfl⟩) hon hacc hdec

/-- What is closed is not listening any more, and the rest is as before. -/
theorem closeListener (h : StreamKeyInv P s) {c : ScreenConn} (hpc : s.thread = some (.closeListen c)) :
    StreamKeyInv P { s.closeListener with thread := some (.unsetListen c) } := by
  have hon : ∀ t : VideoServer, t.thread = some (.unsetListen c) → ∀ o ∈ t.threadOn, o ∈ s.threadOn := by
    intro t ht o ho
    rw [VideoServer.threadOn, ht] at ho
    rw [VideoServer.threadOn, hpc]
    exact ho
  rw [VideoServer.closeListener]
  split
  · -- the number of the listener is free now
    have hgone : ∀ t : VideoServer, t.screenListenFd = s.screenListenFd →
        t.table = s.table.close s.screenListenFd.toNat → SameListener s t := by
      intro t hfd htable hnonneg hlisten
      obtain ⟨sock, hsock, _⟩ := listening_iff.mp hlisten
      rw [hfd, htable, Descriptors.close, Function.update_self] at hsock
      cases hsock
    cases hown : s.owner s.screenListenFd.toNat with
    | none =>
        simp only [hown]
        exact h.keep rfl rfl rfl rfl rfl (fun _ => rfl) (hgone _ rfl rfl) (hon _ rfl) (fun _ hno => by cases hno)
          (fun _ hno => by cases hno)
    | some k =>
        simp only [hown]
        refine h.keep rfl rfl rfl rfl rfl ?_ (hgone _ rfl rfl) (hon _ rfl) (fun _ hno => by cases hno)
          (fun _ hno => by cases hno)
        exact fun k' => setStream_map fun _ => rfl
  · exact h.moveThread (hon _ rfl) (fun _ hno => by cases hno) (fun _ hno => by cases hno)

/-- A step of the thread that waits for nothing. -/
theorem threadNext (h : StreamKeyInv P s) (hstep : s.threadNext = some s') : StreamKeyInv P s' := by
  unfold VideoServer.threadNext at hstep
  split at hstep
  · rename_i hpc
    split at hstep
    · rename_i hlisten
      rw [← Option.some.inj hstep]
      refine h.moveThread ?_ ?_ (fun _ hno => nomatch hno)
      · intro o ho
        rw [VideoServer.threadOn, hpc]
        simp only [hlisten, and_self, if_true]
        exact ho
      · rintro fd hfd
        cases hfd
        obtain ⟨sock, hsock, _⟩ := listening_iff.mp hlisten.2
        exact ⟨sock, hsock⟩
    · rw [← Option.some.inj hstep]
      exact h.moveThread (fun _ hno => nomatch hno) (fun _ hno => nomatch hno) (fun _ hno => nomatch hno)
  · rename_i c hpc
    rw [← Option.some.inj hstep]
    exact h.closeListener hpc
  · rename_i c hpc
    rw [← Option.some.inj hstep]
    refine h.keep rfl rfl rfl rfl rfl (fun _ => rfl) ?_ ?_ (fun _ hno => nomatch hno) (fun _ hno => nomatch hno)
    · intro hnonneg
      cases hnonneg
    · intro o ho
      rw [VideoServer.threadOn, hpc]
      exact ho
  · rename_i c hpc
    rw [← Option.some.inj hstep]
    refine h.keep rfl rfl rfl rfl rfl (fun _ => rfl) ?_ (fun _ hno => nomatch hno) (fun _ hno => nomatch hno)
      (fun _ hno => nomatch hno)
    exact fun hnonneg hlisten => ⟨hnonneg, listening_mono (fun _ hsock => of_closed hsock) hlisten, rfl⟩
  · rw [← Option.some.inj hstep]
    exact h.moveThread (fun _ hno => nomatch hno) (fun _ hno => nomatch hno) (fun _ hno => nomatch hno)
  · cases hstep

/-- The connection is one of the stream whose socket it came in on. -/
theorem accept (h : StreamKeyInv P s) {client : Option Nat} (hstep : s.accept client = some s') : StreamKeyInv P s' := by
  unfold VideoServer.accept at hstep
  split at hstep
  · rw [← Option.some.inj hstep]
    exact h.moveThread (fun _ hno => nomatch hno) (fun _ hno => nomatch hno) (fun _ hno => nomatch hno)
  · rename_i fd client hpc
    obtain ⟨hopen, hs⟩ := Option.ite_none_left_eq_some.mp hstep
    have hfree : s.table client = none := by simpa using hopen
    have hon : ∀ t : VideoServer, t.thread = some (.closeListen ⟨client, s.owner fd⟩) →
        ∀ o ∈ t.threadOn, o ∈ s.threadOn := by
      intro t ht o ho
      rw [VideoServer.threadOn, ht] at ho
      rw [VideoServer.threadOn, hpc]
      exact ho
    have hlisten : ∀ t : VideoServer, t.screenListenFd = s.screenListenFd → t.owner = s.owner →
        t.table = s.table.install client .other → SameListener s t := by
      intro t hfd howner htable hnonneg hlisten
      rw [hfd] at hnonneg hlisten ⊢
      refine ⟨hnonneg, listening_mono ?_ hlisten, by rw [howner]⟩
      intro sock hsock
      rw [htable] at hsock
      rcases of_opened hsock with ⟨_, hno⟩ | ⟨_, hsame⟩
      · cases hno
      · exact hsame
    rw [← Option.some.inj hs]
    cases hown : s.owner fd with
    | none =>
        simp only [hown] at hon ⊢
        exact h.keep rfl rfl rfl rfl rfl (fun _ => rfl) (hlisten _ rfl rfl rfl) (hon _ rfl) (fun _ hno => nomatch hno)
          (fun _ hno => nomatch hno)
    | some k =>
        simp only [hown] at hon ⊢
        refine h.keep rfl rfl rfl rfl rfl ?_ (hlisten _ rfl rfl rfl) (hon _ rfl) (fun _ hno => nomatch hno)
          (fun _ hno => nomatch hno)
        exact fun k' => setStream_map fun _ => rfl
  · cases hstep

theorem frame (h : StreamKeyInv P s) (hstep : s.frame = some s') : StreamKeyInv P s' := by
  unfold VideoServer.frame at hstep
  split at hstep
  · rename_i c hpc
    split at hstep
    · rename_i hv
      rw [← Option.some.inj hstep]
      refine h.moveThread ?_ (fun _ hno => nomatch hno) (fun _ _ => hv)
      intro o ho
      rw [VideoServer.threadOn, hpc]
      exact ho
    · rwa [← Option.some.inj hstep]
  · cases hstep

/-- The frame is decrypted with the key of the stream that the thread is on. -/
theorem decrypt (h : StreamKeyInv P s) (hstep : s.decrypt = some s') : StreamKeyInv P s' := by
  unfold VideoServer.decrypt at hstep
  split at hstep
  · rename_i c hpc
    rw [← Option.some.inj hstep]
    have hon : c.stream ∈ s.threadOn := by
      rw [VideoServer.threadOn, hpc]
      exact rfl
    have hnew := h.bound (h.decrypting c hpc) c.stream hon
    have hmoved : StreamKeyInv P { s with thread := some (.streaming c) } := by
      refine h.moveThread ?_ (fun _ hno => nomatch hno) (fun _ hno => nomatch hno)
      intro o ho
      rw [VideoServer.threadOn, hpc]
      exact ho
    refine ⟨h.fresh, h.early, h.listener, h.derived, hmoved.accepting, hmoved.decrypting, hmoved.bound, ?_⟩
    intro f hf
    rcases List.mem_append.mp hf with hf | hf
    · exact h.frames f hf
    · rw [List.mem_singleton.mp hf]
      exact hnew
  · cases hstep

theorem leave (h : StreamKeyInv P s) (hstep : s.leave = some s') : StreamKeyInv P s' := by
  unfold VideoServer.leave at hstep
  split at hstep
  · rw [← Option.some.inj hstep]
    exact h.moveThread (fun _ hno => nomatch hno) (fun _ hno => nomatch hno) (fun _ hno => nomatch hno)
  · cases hstep

/-! ### All steps -/

theorem setupNext (h : StreamKeyInv P s) (hstep : s.setupNext P = some s') (hcond : Unmixed P ⟨s, .setupNext, s'⟩) :
    StreamKeyInv P s' := by
  rw [VideoServer.setupNext] at hstep
  rw [Unmixed] at hcond
  cases hpc : s.setup with
  | idle =>
      rw [hpc] at hstep
      cases hstep
  | store k =>
      rw [hpc] at hstep
      simp only [hpc] at hcond
      obtain ⟨r, hr, rfl⟩ := Option.map_eq_some_iff.mp hstep
      exact h.storeListener hpc ⟨hcond.1, hcond.2 r hr⟩
  | key k =>
      rw [hpc] at hstep
      simp only [hpc] at hcond
      obtain ⟨r, hr, rfl⟩ := Option.map_eq_some_iff.mp hstep
      exact h.deriveKey hpc hr (hcond r hr)
  | start k =>
      rw [hpc] at hstep
      simp only [hpc] at hcond
      rw [← Option.some.inj hstep]
      exact h.startThread hpc hcond

/-- A descriptor of another part of the process is opened or closed. -/
theorem otherTable (h : StreamKeyInv P s) {table' : Descriptors NetFile}
    (hsock : ∀ fd sock, table' fd = some (.socket sock) ↔ s.table fd = some (.socket sock)) :
    StreamKeyInv P { s with table := table' } := by
  have hlisten : SameListener s { s with table := table' } :=
    fun hnonneg hlisten => ⟨hnonneg, listening_mono (fun sock hs => (hsock _ sock).mp hs) hlisten, rfl⟩
  refine h.keep rfl rfl rfl rfl rfl (fun _ => rfl) hlisten ?_ ?_ h.decrypting
  · exact threadOn_mono rfl (fun _ => hlisten) (fun _ _ => rfl)
  · intro fd hpc
    obtain ⟨sock, hs⟩ := h.accepting fd hpc
    exact ⟨sock, (hsock fd sock).mpr hs⟩

/-- **One step.** -/
theorem step (h : StreamKeyInv P s) {i : VideoInput} (hstep : videoStep P s i = some s') (hcond : Unmixed P ⟨s, i, s'⟩) :
    StreamKeyInv P s' := by
  cases i with
  | setup connId e =>
      rw [videoStep] at hstep
      split at hstep
      · exact h.bindStream hcond hstep
      · cases hstep
  | setupNext => exact h.setupNext hstep hcond
  | threadNext => exact h.threadNext hstep
  | accept client => exact h.accept hstep
  | frame => exact h.frame hstep
  | decrypt => exact h.decrypt hstep
  | leave => exact h.leave hstep
  | pairing i =>
      -- the keys that have been derived stay
      obtain ⟨r, _, rfl⟩ := Option.map_eq_some_iff.mp hstep
      exact h.keep rfl rfl rfl rfl rfl (fun _ => rfl) (fun hnonneg hlisten => ⟨hnonneg, hlisten, rfl⟩)
        (fun _ ho => ho) h.accepting h.decrypting
  | otherOpen fd =>
      rw [videoStep, Option.ite_none_left_eq_some] at hstep
      obtain ⟨hopen, hs⟩ := hstep
      have hfree : s.table fd = none := by simpa using hopen
      rw [← Option.some.inj hs]
      refine h.otherTable fun fd' sock => ⟨fun hsock => ?_, opened_of hfree⟩
      rcases of_opened hsock with ⟨_, hno⟩ | ⟨_, hsame⟩
      · cases hno
      · exact hsame
  | otherClose fd =>
      rw [videoStep, Option.ite_none_right_eq_some] at hstep
      obtain ⟨⟨hother, _⟩, hs⟩ := hstep
      rw [← Option.some.inj hs]
      refine h.otherTable fun fd' sock => ⟨of_closed, fun hsock => ?_⟩
      refine (Function.update_of_ne ?_ ..).trans hsock
      rintro rfl
      rw [hsock] at hother
      cases hother

end StreamKeyInv

end Steps

/-- **Video frames are decrypted with the key of their stream** in every run whose SETUPs derive keys only for the stream
    the thread is on and start it with a key of their own or without any. -/
theorem frames_bound (P : OpenSSL) (pair : PairCtx) (table : Descriptors NetFile)
    (h : List (Step VideoServer VideoInput)) (s : VideoServer) (hrun : VideoRun P pair table h s)
    (hcond : ∀ x ∈ h, Unmixed P x) : FramesBound P s :=
  (hrun.invariant_where (Unmixed P) (StreamKeyInv P) (streamKeyInv_init P pair table)
    (fun _ _ _ hinv hstep hc => hinv.step hstep hc) hcond).frames

/-! ### Runs -/

/-- The context behind a complete pair-verify. -/
def verified : PairCtx := { noKeys with verifyState := 4 }

/-- A stream with an id, its connection, and a frame. -/
def oneFrame : List VideoInput :=
  [.setup (some 7) dualCalls, .setupNext, .setupNext, .setupNext, .threadNext, .accept (some 4), .threadNext,
    .threadNext, .frame, .decrypt]

theorem frames_bound_oneFrame : ∃ s, s.frames.length = 1 ∧ FramesBound .toy s := by
  have hexec : (exec (videoStep .toy) (.init verified fun _ => none) oneFrame).map (fun r =>
      decide ((∀ x ∈ r.1, Unmixed .toy x) ∧ r.2.frames.length = 1)) = some true := by decide +kernel
  obtain ⟨r, hr, hend⟩ := Option.map_eq_some_iff.mp hexec
  obtain ⟨hcond, hframes⟩ := of_decide_eq_true hend
  exact ⟨r.2, hframes, frames_bound .toy verified (fun _ => none) r.1 r.2 (Run.exec hr) hcond⟩

/-- The stream of the connection has no id; another SETUP derives a key. -/
def strayKey : List VideoInput :=
  [.setup none dualCalls, .setupNext, .setupNext, .setupNext, .threadNext, .accept (some 4), .threadNext, .threadNext,
    .setup (some 7) dualCalls, .setupNext, .setupNext, .setupNext, .frame, .decrypt]

/-- A frame of the connection is decrypted with it. -/
theorem not_frames_bound : ¬ ∀ P pair table h s, VideoRun P pair table h s → FramesBound P s := by
  intro hclaim
  have hexec : (exec (videoStep .toy) (.init verified fun _ => none) strayKey).map (fun r =>
      decide (r.2.frames.map Prod.fst = [some 0] ∧ (r.2.streams 0).bind ScreenStream.connId = none)) = some true := by
    decide +kernel
  obtain ⟨r, hr, hend⟩ := Option.map_eq_some_iff.mp hexec
  obtain ⟨hframes, hid⟩ := of_decide_eq_true hend
  obtain ⟨f, hf, hstream⟩ := List.map_eq_singleton_iff.mp hframes
  obtain ⟨k, hk, stream, hstream', hkey⟩ := hclaim .toy verified (fun _ => none) r.1 r.2 (Run.exec hr) f (by simp [hf])
  obtain rfl : 0 = k := Option.some.inj (hstream.symm.trans hk)
  rw [hstream', Option.bind_some] at hid
  rw [ScreenStream.key, hid] at hkey
  obtain ⟨ctx, _, hno⟩ := Option.bind_eq_some_iff.mp hkey
  cases hno

end Showcase
