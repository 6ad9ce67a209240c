import Mathlib.Tactic.Common
import Showcase.Lib.Parts
import Showcase.Lib.Bytes

/-!
# `Services.BaaCache` — the certificate cache

`baa_write_file`, `baa_read_file`, `baa_save_key_to_keychain`, `baa_load_key_from_keychain`, `load_cached_baa` and
`save_baa_cache`, which `carplay_bt.m` and `carplay_services.m` share word for word, and which both programs run on
the same two files and the same keychain item. Each step is one access to them; between two steps of one program
another one can take any of its own, a program can die, and an access can fail.

* `baaStep` — one step of one program.
* `Orderly` — saves do not overlap with anything, and one that has begun to write is not cut short while the cache
  can be loaded.
* `loaded_whole` — in an orderly run whatever is loaded is one issuance.
* `loaded_mixed` — without order it need not be.
-/

namespace Showcase

open Lib

/-! ## The cache -/

/-- `leaf.der` and `inter.der`. -/
inductive BaaFile where
  | leaf
  | inter
deriving DecidableEq

/-- What one issuance of a certificate gives; `K` are the private keys. -/
structure Issuance (K : Type) where
  leaf : Bytes
  inter : Bytes
  key : K
deriving DecidableEq

/-- What goes into each file. -/
def Issuance.cert {K : Type} (i : Issuance K) : BaaFile → Bytes
  | .leaf => i.leaf
  | .inter => i.inter

/-- The two files, where there are any, and the keychain item. -/
structure BaaCache (K : Type) where
  file : BaaFile → Option Bytes
  key : Option K

/-- Nothing is cached. -/
def BaaCache.empty {K : Type} : BaaCache K := ⟨fun _ => none, none⟩

variable {K : Type}

def BaaCache.content (c : BaaCache K) (f : BaaFile) : Bytes := (c.file f).getD []

def BaaCache.put (c : BaaCache K) (f : BaaFile) (b : Bytes) : BaaCache K :=
  { c with file := Function.update c.file f (some b) }

/-- A `write` at an offset; behind the end of the file there are zeros up to it. -/
def writeAt (file : Bytes) (pos : Nat) (d : Bytes) : Bytes :=
  file.take pos ++ List.replicate (pos - file.length) 0 ++ d ++ file.drop (pos + d.length)

/-! ## The programs -/

/-- Where a program is. -/
inductive BaaPc (K : Type) where
  | idle
  /-- `save_baa_cache`: in front of `fopen(path, "wb")`. -/
  | saveOpen (f : BaaFile) (i : Issuance K)
  /-- The file is open, `pos` bytes of it are written. -/
  | saveWrite (f : BaaFile) (i : Issuance K) (pos : Nat)
  /-- In front of `SecItemDelete`. -/
  | saveDelete (i : Issuance K)
  /-- In front of `SecItemAdd`. -/
  | saveAdd (i : Issuance K)
  /-- `load_cached_baa`: in front of `fopen(path, "rb")`; `leaf` is what was read of the first file. -/
  | loadOpen (f : BaaFile) (leaf : Option Bytes)
  /-- In front of `fseek` and `ftell`. -/
  | loadSize (f : BaaFile) (leaf : Option Bytes)
  /-- `sz` bytes are to be read, `got` have been. -/
  | loadRead (f : BaaFile) (leaf : Option Bytes) (sz : Nat) (got : Bytes)
  /-- In front of `SecItemCopyMatching`. -/
  | loadKey (leaf inter : Bytes)
  /-- `load_cached_baa` has returned true. -/
  | loaded (leaf inter : Bytes) (key : K)
deriving DecidableEq

/-- What happens next to a program. -/
inductive BaaEvent (K : Type) where
  /-- `save_baa_cache` is called with this identity. -/
  | save (i : Issuance K)
  /-- `load_cached_baa` is called. -/
  | load
  /-- The next access succeeds, or the file is closed. -/
  | step
  /-- The next bytes are written or read. -/
  | chunk (n : Nat)
  /-- The next access fails. -/
  | fail
  /-- `fclose` cannot write what `fwrite` has taken, which nobody notices. -/
  | lost
  /-- The program ends. -/
  | crash

/-- Behind `baa_write_file`. -/
def BaaPc.afterWrite (f : BaaFile) (i : Issuance K) : BaaPc K :=
  match f with
  | .leaf => .saveOpen .inter i
  | .inter => .saveDelete i

/-- Behind a `baa_read_file` that returned `got` (nothing is `NULL`). -/
def BaaPc.afterRead (f : BaaFile) (leaf got : Option Bytes) : BaaPc K :=
  match f with
  | .leaf => .loadOpen .inter got
  | .inter =>
      match leaf, got with
      | some leaf, some inter => .loadKey leaf inter
      | _, _ => .idle

/-- One step of a program on the cache. -/
def baaStep (c : BaaCache K) (e : BaaEvent K) (pc : BaaPc K) : Option (BaaCache K × Unit × BaaPc K) :=
  match pc, e with
  | _, .crash => some (c, (), .idle)
  | .idle, .save i => some (c, (), .saveOpen .leaf i)
  | .idle, .load => some (c, (), .loadOpen .leaf none)
  | .saveOpen f i, .step => some (c.put f [], (), .saveWrite f i 0)
  | .saveOpen _ _, .fail => some (c, (), .idle)
  | .saveWrite f i pos, .chunk n =>
      if 0 < n ∧ pos + n ≤ (i.cert f).length then
        some (c.put f (writeAt (c.content f) pos (((i.cert f).drop pos).take n)), (), .saveWrite f i (pos + n))
      else none
  | .saveWrite f i pos, .step => if pos = (i.cert f).length then some (c, (), .afterWrite f i) else none
  | .saveWrite _ _ _, .fail => some (c, (), .idle)
  | .saveWrite f i pos, .lost => if pos < (i.cert f).length then some (c, (), .afterWrite f i) else none
  | .saveDelete i, .step => some ({ c with key := none }, (), .saveAdd i)
  | .saveDelete i, .fail => some (c, (), .saveAdd i)
  | .saveAdd i, .step =>
      match c.key with
      | none => some ({ c with key := some i.key }, (), .idle)
      -- `errSecDuplicateItem`
      | some _ => some (c, (), .idle)
  | .saveAdd _, .fail => some (c, (), .idle)
  | .loadOpen f leaf, .step =>
      match c.file f with
      | none => some (c, (), .afterRead f leaf none)
      | some _ => some (c, (), .loadSize f leaf)
  | .loadOpen f leaf, .fail => some (c, (), .afterRead f leaf none)
  | .loadSize f leaf, .step =>
      if (c.content f).length = 0 then some (c, (), .afterRead f leaf none)
      else some (c, (), .loadRead f leaf (c.content f).length [])
  | .loadSize f leaf, .fail => some (c, (), .afterRead f leaf none)
  | .loadRead f leaf sz got, .chunk n =>
      if 0 < n ∧ got.length + n ≤ sz ∧ got.length + n ≤ (c.content f).length then
        some (c, (), .loadRead f leaf sz (got ++ ((c.content f).drop got.length).take n))
      else none
  | .loadRead f leaf sz got, .step =>
      if got.length = sz then some (c, (), .afterRead f leaf (some got))
      -- the file has become shorter
      else if (c.content f).length ≤ got.length then some (c, (), .afterRead f leaf none)
      else none
  | .loadRead f leaf _ _, .fail => some (c, (), .afterRead f leaf none)
  | .loadKey leaf inter, .step =>
      match c.key with
      | some key => some (c, (), .loaded leaf inter key)
      | none => some (c, (), .idle)
  | .loadKey _ _, .fail => some (c, (), .idle)
  | .loaded _ _ _, .step => some (c, (), .idle)
  | _, _ => none

/-- Nothing is cached and nothing runs. -/
def BaaSystem.initial {ι : Type} : Parts ι (BaaCache K) (BaaPc K) := ⟨.empty, fun _ => .idle⟩

/-! ## Order -/

/-- In `save_baa_cache`. -/
def BaaPc.Saving : BaaPc K → Prop
  | .saveOpen _ _ | .saveWrite _ _ _ | .saveDelete _ | .saveAdd _ => True
  | _ => False

/-- In `save_baa_cache`, behind the first `fopen`. -/
def BaaPc.Dirty : BaaPc K → Prop
  | .saveOpen .leaf _ => False
  | pc => pc.Saving

/-- In `load_cached_baa`. -/
def BaaPc.Loading : BaaPc K → Prop
  | .loadOpen _ _ | .loadSize _ _ | .loadRead _ _ _ _ | .loadKey _ _ => True
  | _ => False

/-- Every part that `load_cached_baa` asks for is there, and no file is empty. -/
def BaaCache.Loadable (c : BaaCache K) : Prop := c.content .leaf ≠ [] ∧ c.content .inter ≠ [] ∧ c.key ≠ none

/-- **What an orderly step is.** A save begins while no program is in `save_baa_cache` or `load_cached_baa`, and a
load while none is in `save_baa_cache`. A save that has opened the first file dies or fails only while the cache
cannot be loaded, and bytes are lost at `fclose` only if none of the file are written. -/
def Orderly {ι : Type} (x : Step (Parts ι (BaaCache K) (BaaPc K)) (PartInput ι (BaaEvent K))) : Prop :=
  match x.input.event with
  | .save _ => ∀ q, ¬ (x.pre.part q).Saving ∧ ¬ (x.pre.part q).Loading
  | .load => ∀ q, ¬ (x.pre.part q).Saving
  | .crash | .fail => (x.pre.part x.input.part).Dirty → ¬ x.pre.globals.Loadable
  | .lost => ∀ f i pos, x.pre.part x.input.part = .saveWrite f i pos → pos = 0
  | _ => True

/-! ## One step -/

/-- The cache is the identity, all of it. -/
def BaaCache.Holds (c : BaaCache K) (i : Issuance K) : Prop :=
  c.file .leaf = some i.leaf ∧ c.file .inter = some i.inter ∧ c.key = some i.key

/-- If the cache can be loaded, it is one of the identities `saved`. -/
def BaaCache.Whole (saved : Issuance K → Prop) (c : BaaCache K) : Prop := c.Loadable → ∃ i, saved i ∧ c.Holds i

/-- The file is finished: it is complete, or nothing reached it. -/
def BaaCache.Done (c : BaaCache K) (f : BaaFile) (i : Issuance K) : Prop :=
  c.file f = some (i.cert f) ∨ c.file f = some []

/-- What is read of the first file is what is in it. -/
def LeafRead (c : BaaCache K) (leaf : Option Bytes) : Prop := ∀ l, leaf = some l → c.file .leaf = some l ∧ l ≠ []

/-- What a program that is at `pc` knows of the cache. -/
def PcOk (saved : Issuance K → Prop) (c : BaaCache K) : BaaPc K → Prop
  | .idle => True
  | .saveOpen .leaf i => saved i ∧ c.Whole saved
  | .saveOpen .inter i => saved i ∧ c.Done .leaf i
  | .saveWrite .leaf i pos => saved i ∧ pos ≤ i.leaf.length ∧ c.file .leaf = some (i.leaf.take pos)
  | .saveWrite .inter i pos =>
      saved i ∧ pos ≤ i.inter.length ∧ c.Done .leaf i ∧ c.file .inter = some (i.inter.take pos)
  | .saveDelete i => saved i ∧ c.Done .leaf i ∧ c.Done .inter i
  | .saveAdd i => saved i ∧ c.Done .leaf i ∧ c.Done .inter i ∧ ¬ c.Loadable
  | .loadOpen f leaf | .loadSize f leaf => LeafRead c leaf ∧ (f = .leaf → leaf = none)
  | .loadRead f leaf sz got =>
      LeafRead c leaf ∧ (f = .leaf → leaf = none) ∧ 0 < sz ∧ sz = (c.content f).length ∧
        got = (c.content f).take got.length
  | .loadKey leaf inter => c.file .leaf = some leaf ∧ leaf ≠ [] ∧ c.file .inter = some inter ∧ inter ≠ []
  | .loaded leaf inter key => ∃ i, saved i ∧ leaf = i.leaf ∧ inter = i.inter ∧ key = i.key

theorem content_of_file {c : BaaCache K} {f : BaaFile} {b : Bytes} (h : c.file f = some b) : c.content f = b := by
  rw [BaaCache.content, h]
  rfl

@[simp] theorem put_self (c : BaaCache K) (f : BaaFile) (b : Bytes) : (c.put f b).file f = some b :=
  Function.update_self ..

theorem put_other {f g : BaaFile} (c : BaaCache K) (b : Bytes) (h : g ≠ f) : (c.put f b).file g = c.file g :=
  Function.update_of_ne h ..

/-- Writing on where the file ends. -/
theorem writeAt_end (b d : Bytes) : writeAt b b.length d = b ++ d := by
  simp [writeAt]

/-- A cache whose two files are finished is the identity once its key is there. -/
theorem whole_of_done {saved : Issuance K → Prop} {c : BaaCache K} {i : Issuance K} (hi : saved i)
    (hleaf : c.Done .leaf i) (hinter : c.Done .inter i) (hkey : c.key = some i.key) : c.Whole saved := by
  rintro ⟨hl, hn, -⟩
  refine ⟨i, hi, ?_, ?_, hkey⟩
  · exact hleaf.resolve_right fun h => hl (content_of_file h)
  · exact hinter.resolve_right fun h => hn (content_of_file h)

/-- What a step can be. -/
inductive BaaMove (c : BaaCache K) : BaaEvent K → BaaPc K → BaaCache K → BaaPc K → Prop where
  | crash {pc} : BaaMove c .crash pc c .idle
  | save {i} : BaaMove c (.save i) .idle c (.saveOpen .leaf i)
  | load : BaaMove c .load .idle c (.loadOpen .leaf none)
  | openFile {f i} : BaaMove c .step (.saveOpen f i) (c.put f []) (.saveWrite f i 0)
  | openFail {f i} : BaaMove c .fail (.saveOpen f i) c .idle
  | write {f i pos n} : pos + n ≤ (i.cert f).length → BaaMove c (.chunk n) (.saveWrite f i pos)
      (c.put f (writeAt (c.content f) pos (((i.cert f).drop pos).take n))) (.saveWrite f i (pos + n))
  | close {f i} : BaaMove c .step (.saveWrite f i (i.cert f).length) c (.afterWrite f i)
  | writeFail {f i pos} : BaaMove c .fail (.saveWrite f i pos) c .idle
  | lost {f i pos} : BaaMove c .lost (.saveWrite f i pos) c (.afterWrite f i)
  | delete {i} : BaaMove c .step (.saveDelete i) { c with key := none } (.saveAdd i)
  | deleteFail {i} : BaaMove c .fail (.saveDelete i) c (.saveAdd i)
  | add {i} : c.key = none → BaaMove c .step (.saveAdd i) { c with key := some i.key } .idle
  | addFail {e i} : BaaMove c e (.saveAdd i) c .idle
  | openNone {e f leaf} : BaaMove c e (.loadOpen f leaf) c (.afterRead f leaf none)
  | found {f leaf} : BaaMove c .step (.loadOpen f leaf) c (.loadSize f leaf)
  | sizeNone {e f leaf} : BaaMove c e (.loadSize f leaf) c (.afterRead f leaf none)
  | sized {f leaf} : c.content f ≠ [] →
      BaaMove c .step (.loadSize f leaf) c (.loadRead f leaf (c.content f).length [])
  | read {f leaf sz got n} : BaaMove c (.chunk n) (.loadRead f leaf sz got) c
      (.loadRead f leaf sz (got ++ ((c.content f).drop got.length).take n))
  | readNone {e f leaf sz got} : BaaMove c e (.loadRead f leaf sz got) c (.afterRead f leaf none)
  | readAll {f leaf got} : BaaMove c .step (.loadRead f leaf got.length got) c (.afterRead f leaf (some got))
  | keyFound {leaf inter key} : c.key = some key → BaaMove c .step (.loadKey leaf inter) c (.loaded leaf inter key)
  | keyNone {e leaf inter} : BaaMove c e (.loadKey leaf inter) c .idle
  | done {leaf inter key} : BaaMove c .step (.loaded leaf inter key) c .idle

theorem baaMove_of_step {c c' : BaaCache K} {e : BaaEvent K} {pc pc' : BaaPc K} {u : Unit}
    (h : baaStep c e pc = some (c', u, pc')) : BaaMove c e pc c' pc' := by
  have hmk : ∀ {c₁ : BaaCache K} {pc₁ : BaaPc K}, some (c₁, (), pc₁) = some (c', u, pc') →
      BaaMove c e pc c₁ pc₁ → BaaMove c e pc c' pc' := by
    intro c₁ pc₁ heq hmove
    obtain ⟨rfl, -, rfl⟩ : c₁ = c' ∧ () = u ∧ pc₁ = pc' := by simpa using heq
    exact hmove
  unfold baaStep at h
  split at h
  case h_1 => exact hmk h .crash
  case h_2 => exact hmk h .save
  case h_3 => exact hmk h .load
  case h_4 => exact hmk h .openFile
  case h_5 => exact hmk h .openFail
  case h_6 f i pos n =>
      split at h
      · rename_i hn
        exact hmk h (.write hn.2)
      · cases h
  case h_7 f i pos =>
      split at h
      · rename_i hpos
        subst hpos
        exact hmk h .close
      · cases h
  case h_8 => exact hmk h .writeFail
  case h_9 =>
      split at h
      · exact hmk h .lost
      · cases h
  case h_10 => exact hmk h .delete
  case h_11 => exact hmk h .deleteFail
  case h_12 =>
      split at h
      · rename_i hkey
        exact hmk h (.add hkey)
      · exact hmk h .addFail
  case h_13 => exact hmk h .addFail
  case h_14 =>
      split at h
      · exact hmk h .openNone
      · exact hmk h .found
  case h_15 => exact hmk h .openNone
  case h_16 =>
      split at h
      · exact hmk h .sizeNone
      · rename_i hlen
        exact hmk h (.sized fun hnil => hlen (by rw [hnil]; rfl))
  case h_17 => exact hmk h .sizeNone
  case h_18 =>
      split at h
      · exact hmk h .read
      · cases h
  case h_19 =>
      split at h
      · rename_i hgot
        subst hgot
        exact hmk h .readAll
      · split at h
        · exact hmk h .readNone
        · cases h
  case h_20 => exact hmk h .readNone
  case h_21 =>
      split at h
      · rename_i hkey
        exact hmk h (.keyFound hkey)
      · exact hmk h .keyNone
  case h_22 => exact hmk h .keyNone
  case h_23 => exact hmk h .done
  case h_24 => cases h

/-! ## What a step keeps

What a program knows of the cache depends on its place (`PcOk`). Its own steps are followed access by access; and
while it is in one of the two functions, no other program changes the cache in an orderly run. -/

section

variable {c c' : BaaCache K} {e : BaaEvent K} {pc pc' : BaaPc K} {saved saved' : Issuance K → Prop}

/-- Only `save_baa_cache` changes the cache. -/
theorem BaaMove.frame (h : BaaMove c e pc c' pc') : c' = c ∨ pc.Saving := by
  cases h with
  | openFile | write | delete | add => exact .inr trivial
  | _ => exact .inl rfl

theorem afterRead_not_saving (f : BaaFile) (leaf got : Option Bytes) :
    ¬ (BaaPc.afterRead f leaf got : BaaPc K).Saving := by
  unfold BaaPc.afterRead
  split
  · exact not_false
  · split <;> exact not_false

/-- How a program comes to be in `save_baa_cache`. -/
theorem BaaMove.saving (h : BaaMove c e pc c' pc') (hs : pc'.Saving) : pc.Saving ∨ ∃ i, e = .save i := by
  cases h with
  | save => exact .inr ⟨_, rfl⟩
  | openFile | write | close | lost | delete | deleteFail => exact .inl trivial
  | openNone | sizeNone | readNone | readAll => exact (afterRead_not_saving _ _ _ hs).elim
  | _ => exact hs.elim

/-- How it comes to be in `load_cached_baa`. -/
theorem BaaMove.loading (h : BaaMove c e pc c' pc') (hl : pc'.Loading) : pc.Loading ∨ e = .load := by
  cases h with
  | load => exact .inr rfl
  | found | sized | read | openNone | sizeNone | readNone | readAll => exact .inl trivial
  | @close f i | @lost f i => cases f <;> exact hl.elim
  | _ => exact hl.elim

theorem BaaCache.Whole.mono (hmono : ∀ i, saved i → saved' i) (h : c.Whole saved) : c.Whole saved' := by
  intro hload
  obtain ⟨i, hi, hholds⟩ := h hload
  exact ⟨i, hmono i hi, hholds⟩

theorem PcOk.mono (hmono : ∀ i, saved i → saved' i) (h : PcOk saved c pc) : PcOk saved' c pc := by
  cases pc with
  | saveOpen f i =>
      cases f with
      | leaf => exact ⟨hmono i h.1, h.2.mono hmono⟩
      | inter => exact ⟨hmono i h.1, h.2⟩
  | saveWrite f i pos =>
      cases f with
      | leaf => exact ⟨hmono i h.1, h.2⟩
      | inter => exact ⟨hmono i h.1, h.2⟩
  | saveDelete i | saveAdd i => exact ⟨hmono i h.1, h.2⟩
  | loaded leaf inter key =>
      obtain ⟨i, hi, heq⟩ := h
      exact ⟨i, hmono i hi, heq⟩
  | idle | loadOpen f leaf | loadSize f leaf | loadRead f leaf sz got | loadKey leaf inter => exact h

/-- A program in neither function knows nothing of the cache. -/
theorem PcOk.of_outside (hs : ¬ pc.Saving) (hl : ¬ pc.Loading) (h : PcOk saved c pc) : PcOk saved c' pc := by
  cases pc with
  | idle => trivial
  | loaded leaf inter key => exact h
  | saveOpen | saveWrite | saveDelete | saveAdd => exact absurd trivial hs
  | loadOpen | loadSize | loadRead | loadKey => exact absurd trivial hl

/-- Behind a read that returned `NULL`, or all of the file. -/
theorem pcOk_afterRead {f : BaaFile} {leaf got : Option Bytes} (hleaf : LeafRead c leaf)
    (hfirst : f = .leaf → leaf = none)
    (hgot : ∀ b, got = some b → c.file f = some b ∧ b ≠ []) : PcOk saved c (.afterRead f leaf got) := by
  cases f with
  | leaf => exact ⟨hgot, fun h => by cases h⟩
  | inter =>
      cases leaf with
      | none => trivial
      | some l =>
          cases got with
          | none => trivial
          | some b =>
              obtain ⟨hl, hlne⟩ := hleaf l rfl
              obtain ⟨hb, hbne⟩ := hgot b rfl
              exact ⟨hl, hlne, hb, hbne⟩

/-- Behind a write that returned true: the file is complete, or empty. -/
theorem pcOk_afterWrite {f : BaaFile} {i : Issuance K} {pos : Nat} (h : PcOk saved c (.saveWrite f i pos))
    (hpos : pos = (i.cert f).length ∨ pos = 0) : PcOk saved c (.afterWrite f i) := by
  have hdone : ∀ b : Bytes, pos ≤ b.length → pos = b.length ∨ pos = 0 →
      some (b.take pos) = some b ∨ some (b.take pos) = some [] := by
    rintro b - (rfl | rfl)
    · exact .inl (by rw [List.take_length])
    · exact .inr (by rw [List.take_zero])
  cases f with
  | leaf =>
      obtain ⟨hi, hle, hfile⟩ := h
      refine ⟨hi, ?_⟩
      rw [BaaCache.Done, hfile]
      exact hdone i.leaf hle hpos
  | inter =>
      obtain ⟨hi, hle, hleaf, hfile⟩ := h
      refine ⟨hi, hleaf, ?_⟩
      rw [BaaCache.Done, hfile]
      exact hdone i.inter hle hpos

/-- The next bytes of a file. -/
theorem pcOk_write {f : BaaFile} {i : Issuance K} {pos n : Nat} (h : PcOk saved c (.saveWrite f i pos))
    (hn : pos + n ≤ (i.cert f).length) :
    PcOk saved (c.put f (writeAt (c.content f) pos (((i.cert f).drop pos).take n))) (.saveWrite f i (pos + n)) := by
  have hnext : ∀ b : Bytes, pos ≤ b.length → c.file f = some (b.take pos) →
      writeAt (c.content f) pos ((b.drop pos).take n) = b.take (pos + n) := by
    intro b hle hfile
    have hlen : pos = (b.take pos).length := by
      rw [List.length_take]
      omega
    rw [content_of_file hfile, List.take_add]
    conv => lhs; arg 2; rw [hlen]
    exact writeAt_end _ _
  cases f with
  | leaf =>
      obtain ⟨hi, hle, hfile⟩ := h
      refine ⟨hi, hn, ?_⟩
      rw [put_self]
      exact congrArg some (hnext i.leaf hle hfile)
  | inter =>
      obtain ⟨hi, hle, hleaf, hfile⟩ := h
      refine ⟨hi, hn, ?_, ?_⟩
      · rw [BaaCache.Done, put_other _ _ (by decide)]
        exact hleaf
      · rw [put_self]
        exact congrArg some (hnext i.inter hle hfile)

/-- The next bytes of a file that is read. -/
theorem take_append_drop_take (b : Bytes) {got : Bytes} {n : Nat} (h : got = b.take got.length) :
    got ++ (b.drop got.length).take n = b.take (got ++ (b.drop got.length).take n).length := by
  rcases Nat.le_total b.length got.length with hle | hle
  · rw [List.drop_eq_nil_of_le hle, List.take_nil, List.append_nil]
    exact h
  · have hlen : (got ++ (b.drop got.length).take n).length = got.length + min n (b.length - got.length) := by
      rw [List.length_append, List.length_take, List.length_drop]
    rw [hlen, List.take_add, ← h]
    rcases Nat.le_total n (b.length - got.length) with hn | hn
    · rw [Nat.min_eq_left hn]
    · rw [Nat.min_eq_right hn, List.take_of_length_le (by rw [List.length_drop]; exact hn),
        List.take_of_length_le (by rw [List.length_drop])]

/-- An orderly step keeps what its program knows. -/
theorem PcOk.step (h : BaaMove c e pc c' pc') (hok : PcOk saved c pc)
    (hsave : ∀ i, e = .save i → saved i ∧ c.Whole saved) (hrest : pc.Loading → c.Whole saved)
    (hcalm : e = .fail → pc.Dirty → ¬ c.Loadable)
    (hlost : e = .lost → ∀ f i pos, pc = .saveWrite f i pos → pos = 0) : PcOk saved c' pc' := by
  cases h with
  | crash | openFail | writeFail | add | addFail | keyNone | done => trivial
  | @save i => exact hsave i rfl
  | load => exact ⟨fun l hl => (by cases hl), fun _ => rfl⟩
  | @openFile f i =>
      cases f with
      | leaf => exact ⟨hok.1, Nat.zero_le _, put_self c .leaf []⟩
      | inter =>
          refine ⟨hok.1, Nat.zero_le _, ?_, put_self c .inter []⟩
          rw [BaaCache.Done, put_other _ _ (by decide)]
          exact hok.2
  | write hn => exact pcOk_write hok hn
  | close => exact pcOk_afterWrite hok (.inl rfl)
  | lost => exact pcOk_afterWrite hok (.inr (hlost rfl _ _ _ rfl))
  | delete => exact ⟨hok.1, hok.2.1, hok.2.2, fun hload => hload.2.2 rfl⟩
  | deleteFail => exact ⟨hok.1, hok.2.1, hok.2.2, hcalm rfl trivial⟩
  | openNone | sizeNone => exact pcOk_afterRead hok.1 hok.2 (fun b hb => by cases hb)
  | readNone => exact pcOk_afterRead hok.1 hok.2.1 (fun b hb => by cases hb)
  | found => exact hok
  | sized hne => exact ⟨hok.1, hok.2, List.length_pos_iff.mpr hne, rfl, by rw [List.length_nil, List.take_zero]⟩
  | read =>
      obtain ⟨hleaf, hfirst, hpos, hsz, hgot⟩ := hok
      exact ⟨hleaf, hfirst, hpos, hsz, take_append_drop_take _ hgot⟩
  | @readAll f leaf got =>
      obtain ⟨hleaf, hfirst, hpos, hsz, hgot⟩ := hok
      refine pcOk_afterRead hleaf hfirst fun b hb => ?_
      obtain rfl := Option.some.inj hb
      rw [hsz, List.take_length] at hgot
      cases hfile : c.file f with
      | none =>
          rw [hgot, BaaCache.content, hfile] at hpos
          exact absurd hpos (Nat.lt_irrefl 0)
      | some b =>
          rw [hgot, content_of_file hfile] at hpos
          rw [hgot, content_of_file hfile]
          exact ⟨rfl, List.length_pos_iff.mp hpos⟩
  | @keyFound leaf inter key hkey =>
      obtain ⟨hleaf, hlne, hinter, hine⟩ := hok
      have hload : c.Loadable := by
        refine ⟨?_, ?_, ?_⟩
        · rwa [content_of_file hleaf]
        · rwa [content_of_file hinter]
        · rw [hkey]
          exact Option.some_ne_none key
      obtain ⟨i, hi, hl, hn, hk⟩ := hrest trivial hload
      rw [hleaf] at hl
      rw [hinter] at hn
      rw [hkey] at hk
      exact ⟨i, hi, Option.some.inj hl, Option.some.inj hn, Option.some.inj hk⟩

/-- A save that ends leaves a cache that is one identity if it can be loaded. -/
theorem whole_of_saved (h : BaaMove c e pc c' pc') (hok : PcOk saved c pc)
    (hcalm : e = .crash ∨ e = .fail → pc.Dirty → ¬ c.Loadable) (hs : pc.Saving) (hs' : ¬ pc'.Saving) :
    c'.Whole saved := by
  have hquit : ∀ f i, pc = .saveOpen f i → e = .crash ∨ e = .fail → c.Whole saved := by
    rintro f i rfl he
    cases f with
    | leaf => exact hok.2
    | inter => exact fun hload => absurd hload (hcalm he trivial)
  cases h with
  | crash =>
      cases pc with
      | saveOpen f i => exact hquit f i rfl (.inl rfl)
      | saveWrite | saveDelete | saveAdd => exact fun hload => absurd hload (hcalm (.inl rfl) trivial)
      | idle | loadOpen | loadSize | loadRead | loadKey | loaded => exact hs.elim
  | openFail => exact hquit _ _ rfl (.inr rfl)
  | writeFail => exact fun hload => absurd hload (hcalm (.inr rfl) trivial)
  | add hkey => exact whole_of_done hok.1 hok.2.1 hok.2.2.1 rfl
  | addFail => exact fun hload => absurd hload hok.2.2.2
  | openFile | write | delete | deleteFail => exact absurd trivial hs'
  | @close f i | @lost f i => cases f <;> exact absurd trivial hs'
  | _ => exact hs.elim

end

/-! ## Runs -/

section

variable {ι : Type} [DecidableEq ι]

/-- The runs of any number of programs on the cache. -/
abbrev BaaRun : List (Step (Parts ι (BaaCache K) (BaaPc K)) (PartInput ι (BaaEvent K))) →
    Parts ι (BaaCache K) (BaaPc K) → Prop :=
  Parts.PartsRun baaStep BaaSystem.initial

/-- The identities that have been saved so far. -/
def Saved (h : List (Step (Parts ι (BaaCache K) (BaaPc K)) (PartInput ι (BaaEvent K)))) (i : Issuance K) : Prop :=
  ∃ x ∈ h, x.input.event = .save i

/-- What holds of every state of an orderly run. -/
structure BaaInv (saved : Issuance K → Prop) (s : Parts ι (BaaCache K) (BaaPc K)) : Prop where
  /-- A program in `save_baa_cache` is the only one in either function. -/
  alone : ∀ p q, (s.part p).Saving → q ≠ p → ¬ (s.part q).Saving ∧ ¬ (s.part q).Loading
  ok : ∀ p, PcOk saved s.globals (s.part p)
  /-- Between saves the cache is one identity, if it can be loaded. -/
  rest : (∀ p, ¬ (s.part p).Saving) → s.globals.Whole saved

omit [DecidableEq ι] in
theorem baaInv_initial : BaaInv (ι := ι) (fun _ : Issuance K => False) BaaSystem.initial where
  alone _ _ h := h.elim
  ok _ := trivial
  rest _ h := absurd rfl h.1

/-- **An orderly step keeps the invariant.** -/
theorem baaInv_step {saved saved' : Issuance K → Prop} {s s' : Parts ι (BaaCache K) (BaaPc K)}
    {x : PartInput ι (BaaEvent K)} {u : Unit} (hi : BaaInv saved s) (hmono : ∀ i, saved i → saved' i)
    (hsaved : ∀ i, x.event = .save i → saved' i) (hstep : Parts.step baaStep s x = some (s', u))
    (hC : Orderly ⟨s, x, s'⟩) : BaaInv saved' s' := by
  have hmove := baaMove_of_step (Parts.step_part hstep)
  have hother : ∀ q, q ≠ x.part → s'.part q = s.part q := fun q hq => Parts.step_other hstep hq
  have hok := (hi.ok x.part).mono hmono
  have hcalm : x.event = .crash ∨ x.event = .fail → (s.part x.part).Dirty → ¬ s.globals.Loadable := by
    rintro (he | he)
    · simpa [Orderly, he] using hC
    · simpa [Orderly, he] using hC
  have hlost : x.event = .lost → ∀ f i pos, s.part x.part = .saveWrite f i pos → pos = 0 := by
    intro he
    simpa [Orderly, he] using hC
  have hfree : ∀ i, x.event = .save i → ∀ q, ¬ (s.part q).Saving ∧ ¬ (s.part q).Loading := by
    intro i he
    simpa [Orderly, he] using hC
  have hnoSave : x.event = .load → ∀ q, ¬ (s.part q).Saving := by
    intro he
    simpa [Orderly, he] using hC
  have hrest : (s.part x.part).Loading → s.globals.Whole saved' := by
    intro hload
    refine (hi.rest fun q hq => ?_).mono hmono
    by_cases hqx : x.part = q
    · rw [hqx] at hload
      cases hpc : s.part q with
      | saveOpen | saveWrite | saveDelete | saveAdd => simp [hpc, BaaPc.Loading] at hload
      | _ => simp [hpc, BaaPc.Saving] at hq
    · exact (hi.alone q x.part hq hqx).2 hload
  refine ⟨?_, ?_, ?_⟩
  · intro p q hp hqp
    by_cases hpx : p = x.part
    · subst hpx
      rw [hother q hqp]
      rcases hmove.saving hp with hs | ⟨i, he⟩
      · exact hi.alone _ q hs hqp
      · exact hfree i he q
    · rw [hother p hpx] at hp
      by_cases hqx : q = x.part
      · subst hqx
        have hquiet := hi.alone p x.part hp hqp
        refine ⟨fun hs => ?_, fun hl => ?_⟩
        · rcases hmove.saving hs with h | ⟨i, he⟩
          · exact hquiet.1 h
          · exact (hfree i he p).1 hp
        · rcases hmove.loading hl with h | he
          · exact hquiet.2 h
          · exact hnoSave he p hp
      · rw [hother q hqx]
        exact hi.alone p q hp hqp
  · intro p
    by_cases hpx : p = x.part
    · subst hpx
      refine PcOk.step hmove hok (fun i he => ⟨hsaved i he, ?_⟩) hrest (fun he => hcalm (.inr he)) hlost
      exact (hi.rest fun q => (hfree i he q).1).mono hmono
    · rw [hother p hpx]
      rcases hmove.frame with hc | hs
      · rw [hc]
        exact (hi.ok p).mono hmono
      · obtain ⟨hnoSave, hnoLoad⟩ := hi.alone x.part p hs hpx
        exact ((hi.ok p).mono hmono).of_outside hnoSave hnoLoad
  · intro hno
    by_cases hs : (s.part x.part).Saving
    · exact whole_of_saved hmove hok hcalm hs (hno x.part)
    · have hc : s'.globals = s.globals := hmove.frame.resolve_right hs
      rw [hc]
      refine (hi.rest fun q => ?_).mono hmono
      by_cases hqx : q = x.part
      · rw [hqx]
        exact hs
      · rw [← hother q hqx]
        exact hno q

theorem baaInv_run {h : List (Step (Parts ι (BaaCache K) (BaaPc K)) (PartInput ι (BaaEvent K)))}
    {s : Parts ι (BaaCache K) (BaaPc K)} (hr : BaaRun h s) (hC : ∀ x ∈ h, Orderly x) : BaaInv (Saved h) s := by
  refine hr.induction Orderly (fun h s => BaaInv (Saved h) s) ?_ ?_ hC
  · have hnone : Saved (ι := ι) (K := K) [] = fun _ => False := by
      funext i
      simp [Saved]
    rw [hnone]
    exact baaInv_initial
  · rintro h s x s' - hi ⟨u, hstep⟩ hx
    refine baaInv_step hi ?_ ?_ hstep hx
    · rintro i ⟨y, hy, he⟩
      exact ⟨y, List.mem_append_left _ hy, he⟩
    · intro i he
      exact ⟨_, List.mem_append_right _ (List.mem_singleton.mpr rfl), he⟩

/-- **Whatever is loaded in an orderly run is the whole of one issuance.** -/
theorem loaded_whole {h : List (Step (Parts ι (BaaCache K) (BaaPc K)) (PartInput ι (BaaEvent K)))}
    {s : Parts ι (BaaCache K) (BaaPc K)} (hr : BaaRun h s) (hC : ∀ x ∈ h, Orderly x) {p : ι} {leaf inter : Bytes}
    {key : K} (hp : s.part p = .loaded leaf inter key) :
    ∃ i, Saved h i ∧ leaf = i.leaf ∧ inter = i.inter ∧ key = i.key := by
  have hok := (baaInv_run hr hC).ok p
  rwa [hp] at hok

end

/-! ## A save and a load, and two saves of which one is cut short -/

/-- The two programs. -/
inductive BaaProgram where
  | carplayBt
  | carplayServices
deriving DecidableEq

/-- Two issuances with certificates of one byte. -/
def issuance₁ : Issuance Nat := ⟨[1], [11], 21⟩
def issuance₂ : Issuance Nat := ⟨[2], [12], 22⟩

/-- A whole save, and a whole load. -/
def saveEvents (i : Issuance Nat) : List (BaaEvent Nat) :=
  [.save i, .step, .chunk 1, .step, .step, .chunk 1, .step, .step, .step]
def loadEvents : List (BaaEvent Nat) :=
  [.load, .step, .step, .chunk 1, .step, .step, .step, .chunk 1, .step, .step]

/-- What `carplay_bt` saves `carplay_services` loads. -/
def savedAndLoaded : List (PartInput BaaProgram (BaaEvent Nat)) :=
  (saveEvents issuance₁).map (⟨.carplayBt, ·⟩) ++ loadEvents.map (⟨.carplayServices, ·⟩)

/-- `carplay_services` dies when it has written the first file of a second certificate. -/
def cutShort : List (PartInput BaaProgram (BaaEvent Nat)) :=
  (saveEvents issuance₁).map (⟨.carplayBt, ·⟩) ++
    [.save issuance₂, .step, .chunk 1, .step, .crash].map (⟨.carplayServices, ·⟩) ++
    loadEvents.map (⟨.carplayBt, ·⟩)

/-- A call while both programs are outside, or a step of one of them. -/
def calmStep (x : Step (Parts BaaProgram (BaaCache Nat) (BaaPc Nat)) (PartInput BaaProgram (BaaEvent Nat))) : Bool :=
  match x.input.event with
  | .save _ | .load => decide (x.pre.part .carplayBt = .idle ∧ x.pre.part .carplayServices = .idle)
  | .step | .chunk _ => true
  | _ => false

theorem orderly_of_calm
    {x : Step (Parts BaaProgram (BaaCache Nat) (BaaPc Nat)) (PartInput BaaProgram (BaaEvent Nat))}
    (h : calmStep x = true) : Orderly x := by
  have hidle : x.pre.part .carplayBt = .idle ∧ x.pre.part .carplayServices = .idle → ∀ q, x.pre.part q = .idle := by
    rintro ⟨hbt, hservices⟩ q
    cases q with
    | carplayBt => exact hbt
    | carplayServices => exact hservices
  unfold calmStep at h
  unfold Orderly
  split at h
  · rename_i he
    rw [he]
    intro q
    rw [hidle (of_decide_eq_true h) q]
    exact ⟨not_false, not_false⟩
  · rename_i he
    rw [he]
    intro q
    rw [hidle (of_decide_eq_true h) q]
    exact not_false
  · rename_i he
    rw [he]
    trivial
  · rename_i he
    rw [he]
    trivial
  · cases h

theorem loaded_saved :
    ∃ h s, BaaRun h s ∧ s.part BaaProgram.carplayServices = .loaded [1] [11] 21 ∧
      ∃ i : Issuance Nat, Saved h i ∧ [1] = i.leaf ∧ [11] = i.inter ∧ 21 = i.key := by
  have hexec : (exec (Parts.next baaStep) BaaSystem.initial savedAndLoaded).map
      (fun r => r.2.part .carplayServices) = some (.loaded [1] [11] 21) := by decide
  obtain ⟨r, hr, hloaded⟩ := Option.map_eq_some_iff.mp hexec
  have hrun := Parts.run_exec hr
  have hcalm : (exec (Parts.next baaStep) BaaSystem.initial savedAndLoaded).map
      (fun r => r.1.all calmStep) = some true := by decide
  rw [hr, Option.map_some, Option.some.injEq] at hcalm
  exact ⟨_, _, hrun, hloaded,
    loaded_whole hrun (fun x hx => orderly_of_calm (List.all_eq_true.mp hcalm x hx)) hloaded⟩

/-- A cache that was cut short is loaded as a leaf of one issuance with the intermediate and the key of another. -/
theorem loaded_mixed :
    ¬ ∀ h s, BaaRun (ι := BaaProgram) h s → ∀ p leaf inter (key : Nat), s.part p = .loaded leaf inter key →
      ∃ i, Saved h i ∧ leaf = i.leaf ∧ inter = i.inter ∧ key = i.key := by
  intro hall
  have hexec : (exec (Parts.next baaStep) BaaSystem.initial cutShort).map
      (fun r => r.2.part .carplayBt) = some (.loaded [2] [11] 21) := by decide
  obtain ⟨r, hr, hloaded⟩ := Option.map_eq_some_iff.mp hexec
  obtain ⟨i, ⟨x, hx, hsave⟩, hleaf, hinter, -⟩ := hall r.1 r.2 (Parts.run_exec hr) .carplayBt [2] [11] 21 hloaded
  have hmem : x.input ∈ cutShort := by
    rw [← exec_inputs hr]
    exact List.mem_map_of_mem hx
  have hone : i = issuance₁ ∨ i = issuance₂ := by
    have hevent : BaaEvent.save i ∈ cutShort.map PartInput.event := hsave ▸ List.mem_map_of_mem hmem
    simpa [cutShort, saveEvents, loadEvents] using hevent
  rcases hone with rfl | rfl
  · exact absurd hleaf (by decide)
  · exact absurd hinter (by decide)

end Showcase
