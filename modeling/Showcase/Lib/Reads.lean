import Mathlib.Tactic.Common
import Showcase.Lib.Bytes

/-!
# `Lib.Reads` — programs that read a memory

A memory has a byte at every address, also at those a program has no business with. A `ReadProg` asks for bytes
one address after the other; `run` is its result on a memory and `reads` the addresses it asks for, in order.
`fault` stands for an operation without meaning, such as a sum that overflows.

* `run_congr` — the result depends on the bytes read only.
* `Safe` — where a program may read and what holds of its result, with a rule for each way programs are put
  together.
* `Inside` — that it reads in a range, with an equivalence for each way; what it returns is then decided by the
  bytes of the range (`Inside.run_eq`). `Does` has the result beside it.
-/

namespace Lib

/-- A byte at every address. -/
abbrev Mem := Int → UInt8

/-- A program that reads bytes and returns a value. -/
inductive ReadProg (α : Type) where
  | ret (a : α)
  | fault
  | read (i : Int) (k : UInt8 → ReadProg α)

namespace ReadProg

variable {α β : Type}

def bind : ReadProg α → (α → ReadProg β) → ReadProg β
  | .ret a, f => f a
  | .fault, _ => .fault
  | .read i k, f => .read i fun b => (k b).bind f

instance : Monad ReadProg where
  pure := ret
  bind := bind

/-- One byte. -/
def byte (i : Int) : ReadProg UInt8 := .read i .ret

/-- The `n` bytes from `i` on. -/
def bytes (i : Int) : Nat → ReadProg Bytes
  | 0 => .ret []
  | n + 1 => do
      let b ← byte i
      let bs ← bytes (i + 1) n
      return b :: bs

/-- The `n` bytes from `i` on, only looked at. -/
def look (i : Int) (n : Nat) : ReadProg Unit := do
  let _ ← bytes i n
  return ()

/-- `if (c) p`. -/
def whenever (c : Prop) [Decidable c] (p : ReadProg Unit) : ReadProg Unit := if c then p else .ret ()

/-- Two bytes as a number, most significant byte first. -/
def be16 (i : Int) : ReadProg Nat := do
  let hi ← byte i
  let lo ← byte (i + 1)
  return hi.toNat <<< 8 ||| lo.toNat

/-- Only when `x` is a value of a 64-bit `long` is there a program to go on with. -/
def long (x : Int) (p : ReadProg α) : ReadProg α := if x < 2 ^ 63 then p else .fault

/-- The result; none when the program comes to an operation without meaning. -/
def run (m : Mem) : ReadProg α → Option α
  | .ret a => some a
  | .fault => none
  | .read i k => run m (k (m i))

/-- The addresses read, in order. -/
def reads (m : Mem) : ReadProg α → List Int
  | .ret _ => []
  | .fault => []
  | .read i k => i :: reads m (k (m i))

/-! ## Runs -/

section

variable {m m' : Mem} {p q : ReadProg α} {f : α → ReadProg β} {a : α} {b : β} {i : Int} {n : Nat}

@[simp] theorem run_ret (m : Mem) (a : α) : run m (.ret a) = some a := rfl

@[simp] theorem run_pure (m : Mem) (a : α) : run m (Pure.pure a : ReadProg α) = some a := rfl

@[simp] theorem run_byte (m : Mem) (i : Int) : run m (byte i) = some (m i) := rfl

theorem run_bind (m : Mem) (p : ReadProg α) (f : α → ReadProg β) :
    run m (p >>= f) = (run m p).bind fun a => run m (f a) := by
  show run m (p.bind f) = _
  induction p with
  | ret a => rfl
  | fault => rfl
  | read i k ih =>
      show run m ((k (m i)).bind f) = _
      rw [ih]
      rfl

theorem run_byte_bind (m : Mem) (i : Int) (f : UInt8 → ReadProg β) :
    run m (byte i >>= f) = run m (f (m i)) := rfl

/-- A program that returns is followed by what is made of its value. -/
theorem run_bind_of (h : run m p = some a) (f : α → ReadProg β) : run m (p >>= f) = run m (f a) := by
  rw [run_bind, h]
  rfl

theorem run_bytes (m : Mem) (i : Int) (n : Nat) :
    run m (bytes i n) = some ((List.range n).map fun j : Nat => m (i + j)) := by
  induction n generalizing i with
  | zero => rfl
  | succ n ih =>
      rw [bytes, run_byte_bind, run_bind_of (ih (i + 1)), List.range_succ_eq_map, List.map_cons, List.map_map]
      show some _ = some _
      congr 2
      · simp
      · apply List.map_congr_left
        intro j _
        show m (i + 1 + j) = m (i + ((j + 1 : Nat) : Int))
        congr 1
        push_cast
        ring

/-- A byte behind a number shifted by eight bits. -/
theorem shiftLeft_or_byte (n : Nat) (b : UInt8) : n <<< 8 ||| b.toNat = n * 256 + b.toNat := by
  rw [← Nat.shiftLeft_add_eq_or_of_lt b.toNat_lt, Nat.shiftLeft_eq]

theorem run_be16 (m : Mem) (i : Int) : run m (be16 i) = some ((m i).toNat * 256 + (m (i + 1)).toNat) :=
  congrArg some (shiftLeft_or_byte ..)

theorem run_long {x : Int} (h : x < 2 ^ 63) (p : ReadProg α) : run m (long x p) = run m p := by
  rw [long, if_pos h]

theorem reads_bind (m : Mem) (p : ReadProg α) (f : α → ReadProg β) :
    reads m (p >>= f) = reads m p ++ ((run m p).elim [] fun a => reads m (f a)) := by
  show reads m (p.bind f) = _
  induction p with
  | ret a => rfl
  | fault => rfl
  | read i k ih =>
      show i :: reads m ((k (m i)).bind f) = i :: (reads m (k (m i)) ++ _)
      rw [ih]
      rfl

/-- Two memories that agree on what is read give the same run. -/
theorem run_congr (h : ∀ i ∈ reads m p, m i = m' i) : run m p = run m' p ∧ reads m p = reads m' p := by
  induction p with
  | ret a => exact ⟨rfl, rfl⟩
  | fault => exact ⟨rfl, rfl⟩
  | read i k ih =>
      have hi : m i = m' i := h i (List.mem_cons_self ..)
      obtain ⟨hrun, hreads⟩ := ih (m i) fun j hj => h j (List.mem_cons_of_mem _ hj)
      constructor
      · show run m (k (m i)) = run m' (k (m' i))
        rw [hrun, hi]
      · show i :: reads m (k (m i)) = i :: reads m' (k (m' i))
        rw [hreads, hi]

end

/-! ## Where a program reads, and what it returns

For programs of which only a bound is wanted. A read has to be at an allowed place, and what the first part returns is
all that the rule for `bind` hands to the second. -/

/-- Every address read is allowed, and whatever is returned satisfies `post`. -/
def Safe (m : Mem) (ok : Int → Prop) (p : ReadProg α) (post : α → Prop) : Prop :=
  (∀ i ∈ reads m p, ok i) ∧ ∀ a, run m p = some a → post a

section

variable {m : Mem} {ok ok' : Int → Prop} {p q : ReadProg α} {f : α → ReadProg β} {a : α} {i : Int}
  {post post' : α → Prop} {goal : β → Prop}

theorem Safe.ret (h : post a) : Safe m ok (.ret a) post :=
  ⟨fun _ hi => (List.not_mem_nil hi).elim, fun _ ha => Option.some.inj ha ▸ h⟩

theorem Safe.pure (h : post a) : Safe m ok (Pure.pure a) post := Safe.ret h

theorem Safe.fault : Safe m ok .fault post :=
  ⟨fun _ hi => (List.not_mem_nil hi).elim, fun _ ha => nomatch ha⟩

theorem Safe.byte (h : ok i) {post : UInt8 → Prop} (hpost : post (m i)) : Safe m ok (byte i) post := by
  constructor
  · intro j hj
    rw [List.mem_singleton.mp hj]
    exact h
  · intro b hb
    exact Option.some.inj hb ▸ hpost

theorem Safe.bind (h : Safe m ok p post) (h' : ∀ a, run m p = some a → post a → Safe m ok (f a) goal) :
    Safe m ok (p >>= f) goal := by
  cases hr : run m p with
  | none =>
      constructor
      · intro i hi
        rw [reads_bind, hr] at hi
        exact h.1 i (by simpa using hi)
      · intro b hb
        rw [run_bind, hr] at hb
        exact nomatch hb
  | some a =>
      have hnext : Safe m ok (f a) goal := h' a hr (h.2 a hr)
      constructor
      · intro i hi
        rw [reads_bind, hr] at hi
        rcases List.mem_append.mp hi with hfirst | hrest
        · exact h.1 i hfirst
        · exact hnext.1 i hrest
      · intro b hb
        rw [run_bind_of hr] at hb
        exact hnext.2 b hb

theorem Safe.byte_bind {f : UInt8 → ReadProg β} (h : ok i) (h' : Safe m ok (f (m i)) goal) :
    Safe m ok (ReadProg.byte i >>= f) goal := by
  have hbyte : Safe m ok (ReadProg.byte i) fun _ => True := Safe.byte h trivial
  apply Safe.bind hbyte
  intro b hb _
  rw [← Option.some.inj hb]
  exact h'

theorem Safe.be16_bind {f : Nat → ReadProg β} (h : ok i) (h' : ok (i + 1))
    (hrest : Safe m ok (f ((m i).toNat * 256 + (m (i + 1)).toNat)) goal) :
    Safe m ok (ReadProg.be16 i >>= f) goal := by
  have hread : Safe m ok (ReadProg.be16 i) fun _ => True :=
    Safe.byte_bind h (Safe.byte_bind h' (Safe.pure trivial))
  apply Safe.bind hread
  intro n hn _
  rw [run_be16] at hn
  rw [← Option.some.inj hn]
  exact hrest

theorem Safe.mono (h : Safe m ok p post) (hok : ∀ i, ok i → ok' i) (hpost : ∀ a, post a → post' a) :
    Safe m ok' p post' :=
  ⟨fun i hi => hok i (h.1 i hi), fun a ha => hpost a (h.2 a ha)⟩

theorem Safe.long {x : Int} (h : x < 2 ^ 63 → Safe m ok p post) : Safe m ok (long x p) post := by
  by_cases hx : x < 2 ^ 63
  · rw [ReadProg.long, if_pos hx]
    exact h hx
  · rw [ReadProg.long, if_neg hx]
    exact Safe.fault

theorem Safe.bytes {n : Nat} (h : ∀ j, i ≤ j → j < i + n → ok j) : Safe m ok (bytes i n) (·.length = n) := by
  induction n generalizing i with
  | zero => exact Safe.ret rfl
  | succ n ih =>
      apply Safe.byte_bind (h i (Int.le_refl i) (by omega))
      apply Safe.bind (ih fun j hj hj' => h j (by omega) (by push_cast at hj' ⊢; omega))
      intro bs _ hbs
      exact Safe.pure (congrArg (· + 1) hbs)

end

/-! ## Programs that stay in a range

Where the bound has to be exact, the rules are equivalences: a program stays in the range exactly when its first read
does, and the rest does on what was read. -/

/-- Every address read lies in the range. -/
def Inside (m : Mem) (lo hi : Int) (p : ReadProg α) : Prop := ∀ i ∈ reads m p, lo ≤ i ∧ i < hi

section

variable {m m' : Mem} {lo hi i : Int} {n : Nat} {p : ReadProg α} {f : α → ReadProg β} {a : α}

@[simp] theorem inside_ret : Inside m lo hi (.ret a) :=
  fun _ hi => (List.not_mem_nil hi).elim

@[simp] theorem inside_pure : Inside m lo hi (Pure.pure a : ReadProg α) := inside_ret

theorem inside_bind_of (h : run m p = some a) :
    Inside m lo hi (p >>= f) ↔ Inside m lo hi p ∧ Inside m lo hi (f a) := by
  unfold Inside
  rw [reads_bind, h]
  exact List.forall_mem_append

theorem inside_byte_bind {f : UInt8 → ReadProg β} :
    Inside m lo hi (byte i >>= f) ↔ (lo ≤ i ∧ i < hi) ∧ Inside m lo hi (f (m i)) :=
  List.forall_mem_cons

theorem inside_bytes : Inside m lo hi (bytes i n) ↔ n = 0 ∨ (lo ≤ i ∧ i + n ≤ hi) := by
  induction n generalizing i with
  | zero => exact iff_of_true inside_ret (.inl rfl)
  | succ n ih =>
      rw [bytes, inside_byte_bind, inside_bind_of (run_bytes ..), ih]
      simp only [inside_pure, and_true]
      omega

theorem run_look (m : Mem) (i : Int) (n : Nat) : run m (look i n) = some () :=
  (run_bind_of (run_bytes ..) _).trans rfl

theorem inside_look : Inside m lo hi (look i n) ↔ n = 0 ∨ (lo ≤ i ∧ i + n ≤ hi) := by
  rw [look, inside_bind_of (run_bytes ..), inside_bytes]
  exact and_iff_left inside_pure

theorem run_whenever {c : Prop} [Decidable c] {p : ReadProg Unit} (h : run m p = some ()) :
    run m (whenever c p) = some () := by
  unfold whenever
  split
  · exact h
  · rfl

theorem inside_whenever {c : Prop} [Decidable c] {p : ReadProg Unit} :
    Inside m lo hi (whenever c p) ↔ (c → Inside m lo hi p) := by
  unfold whenever
  split
  next hc => exact ⟨fun h _ => h, fun h => h hc⟩
  next hc => exact iff_of_true inside_ret fun h => absurd h hc

theorem inside_be16 : Inside m lo hi (be16 i) ↔ lo ≤ i ∧ i + 2 ≤ hi := by
  rw [be16, inside_byte_bind, inside_byte_bind]
  simp only [inside_pure, and_true]
  omega

/-- A program that stays in a range does not see the bytes outside. -/
theorem Inside.run_eq (h : Inside m lo hi p) (hagree : ∀ i, lo ≤ i → i < hi → m i = m' i) :
    run m p = run m' p :=
  (run_congr fun i hi => hagree i (h i hi).1 (h i hi).2).1

end

/-! ## Result and range together -/

/-- What a program returns, and when it stays in a range. -/
structure Does (m : Mem) (lo hi : Int) (p : ReadProg α) (a : α) (c : Prop) : Prop where
  run : run m p = some a
  inside : Inside m lo hi p ↔ c

section

variable {m : Mem} {lo hi i : Int} {n : Nat} {p q : ReadProg α} {f : α → ReadProg β} {a : α} {b : β}
  {c d : Prop}

theorem Does.pure (a : α) : Does m lo hi (Pure.pure a) a True := ⟨rfl, iff_of_true inside_pure trivial⟩

theorem Does.bind (h : Does m lo hi p a c) (h' : Does m lo hi (f a) b d) : Does m lo hi (p >>= f) b (c ∧ d) :=
  ⟨(run_bind_of h.run f).trans h'.run, (inside_bind_of h.run).trans (and_congr h.inside h'.inside)⟩

/-- A read that lies in the range anyway. -/
theorem Does.step (h : Does m lo hi p a c) (hc : c) (h' : Does m lo hi (f a) b d) : Does m lo hi (p >>= f) b d :=
  ⟨(h.bind h').run, (h.bind h').inside.trans (and_iff_right hc)⟩

theorem Does.congr (h : Does m lo hi p a c) (hc : c ↔ d) : Does m lo hi p a d := ⟨h.run, h.inside.trans hc⟩

theorem Does.ite {x : Prop} [Decidable x] (h : x → Does m lo hi p a c) (h' : ¬x → Does m lo hi q a c) :
    Does m lo hi (if x then p else q) a c := by
  split
  next hx => exact h hx
  next hx => exact h' hx

theorem Does.byte : Does m lo hi (byte i) (m i) (lo ≤ i ∧ i < hi) :=
  ⟨rfl, inside_byte_bind.trans (and_iff_left inside_ret)⟩

theorem Does.look : Does m lo hi (look i n) () (n = 0 ∨ (lo ≤ i ∧ i + n ≤ hi)) := ⟨run_look .., inside_look⟩

theorem Does.whenever {x : Prop} [Decidable x] {p : ReadProg Unit} (h : Does m lo hi p () c) :
    Does m lo hi (whenever x p) () (x → c) :=
  ⟨run_whenever h.run, inside_whenever.trans (imp_congr_right fun _ => h.inside)⟩

end

end ReadProg

/-! ## A byte string in memory -/

/-- The memory holds a byte string at an address. -/
def HoldsAt (m : Mem) (i : Int) (b : Bytes) : Prop := ∀ (j : Nat) (h : j < b.length), m (i + j) = b[j]

section

variable {m : Mem} {i : Int} {x : UInt8} {b c : Bytes}

theorem HoldsAt.append_iff : HoldsAt m i (b ++ c) ↔ HoldsAt m i b ∧ HoldsAt m (i + b.length) c := by
  constructor
  · intro h
    constructor
    · intro j hj
      rw [h j (by rw [List.length_append]; omega), List.getElem_append_left hj]
    · intro j hj
      have hget := h (b.length + j) (by rw [List.length_append]; omega)
      rw [List.getElem_append_right (by omega)] at hget
      simp only [Nat.add_sub_cancel_left] at hget
      rw [← hget]
      congr 1
      push_cast
      ring
  · rintro ⟨hb, hc⟩ j hj
    by_cases hlt : j < b.length
    · rw [hb j hlt, List.getElem_append_left hlt]
    · rw [List.getElem_append_right (by omega)]
      rw [List.length_append] at hj
      rw [← hc (j - b.length) (by omega)]
      congr 1
      omega

theorem HoldsAt.cons_iff : HoldsAt m i (x :: b) ↔ m i = x ∧ HoldsAt m (i + 1) b := by
  rw [show x :: b = [x] ++ b from rfl, HoldsAt.append_iff]
  constructor
  · rintro ⟨hx, hb⟩
    exact ⟨by simpa using hx 0 (by simp), hb⟩
  · rintro ⟨hx, hb⟩
    refine ⟨fun j hj => ?_, hb⟩
    obtain rfl : j = 0 := by simpa using hj
    simpa using hx

theorem HoldsAt.getD (h : HoldsAt m i b) {j : Nat} (hj : j < b.length) : m (i + j) = b.getD j 0 := by
  rw [h j hj, List.getD, List.getElem?_eq_getElem hj, Option.getD_some]

/-- A part of the byte string. -/
theorem HoldsAt.slice (h : HoldsAt m i b) {j n : Nat} (hj : j + n ≤ b.length) :
    HoldsAt m (i + j) ((b.drop j).take n) := by
  intro k hk
  rw [List.length_take, List.length_drop] at hk
  rw [List.getElem_take, List.getElem_drop, ← h (j + k) (by omega)]
  congr 1
  push_cast
  ring

theorem HoldsAt.run_bytes (h : HoldsAt m i b) : ReadProg.run m (ReadProg.bytes i b.length) = some b := by
  rw [ReadProg.run_bytes]
  congr 1
  apply List.ext_getElem
  · simp
  · intro j hj hj'
    simpa using h j hj'

end

theorem HoldsAt.run_slice (h : HoldsAt m i b) {j n : Nat} (hj : j + n ≤ b.length) :
    ReadProg.run m (ReadProg.bytes (i + j) n) = some ((b.drop j).take n) := by
  have hrun := (h.slice hj).run_bytes
  rwa [List.length_take, List.length_drop, Nat.min_eq_left (by omega)] at hrun

theorem HoldsAt.run_be16 {n : Nat} (hn : n < 65536) (h : HoldsAt m i (toBE 2 n)) :
    ReadProg.run m (ReadProg.be16 i) = some n := by
  obtain ⟨hhi, hrest⟩ := HoldsAt.cons_iff.mp (show HoldsAt m i (UInt8.ofNat (n / 256) :: [UInt8.ofNat n]) from h)
  obtain ⟨hlo, -⟩ := HoldsAt.cons_iff.mp hrest
  rw [ReadProg.run_be16, hhi, hlo, UInt8.toNat_ofNat', UInt8.toNat_ofNat']
  congr 1
  omega

/-- A memory that has a byte string at 0, and zeros everywhere else. -/
def memoryOf (b : Bytes) : Mem := fun i => if 0 ≤ i then b.getD i.toNat 0 else 0

theorem holds_memoryOf (b : Bytes) : HoldsAt (memoryOf b) 0 b := by
  intro j hj
  rw [memoryOf, if_pos (by omega), show (0 + (j : Int)).toNat = j by omega, List.getD,
    List.getElem?_eq_getElem hj, Option.getD_some]

end Lib
