import Showcase.Bt.Process
import Showcase.Services.Mdns

/-!
# `Services.Args` — the options of the two helpers

`parse_args` steps through the arguments in pairs. Every option of `carplay_bt` is a pair; `--hk` of
`carplay_services` is not, and moves the pairs behind it by one word.

## Contents
- `Arg`, `ServiceArg` — the options, and the words they are written with.
- `useHK` — the loop of `main` over all words.
- `BtParsed`, `ServicesParsed` — every option has its effect, and nothing else has one.
- `parseArgs_argv` — what `carplay_services` reads as a name.
- **`args_parsed`** — the options of `carplay_bt` in any order, and those of `carplay_services` as long as the pairs
  are kept together.
-/

namespace Showcase

open Lib

/-! ## Options -/

/-- The options with a value. -/
inductive ArgKind where
  | name
  | ssid
  | pass
deriving DecidableEq

/-- The names of an option, a long and a short one. -/
def ArgKind.flag : ArgKind → Bool → Bytes
  | .name, short => if short then ascii "-n" else ascii "--name"
  | .ssid, short => if short then ascii "-s" else ascii "--ssid"
  | .pass, short => if short then ascii "-p" else ascii "--pass"

structure Arg where
  kind : ArgKind
  short : Bool
  value : Bytes
deriving DecidableEq

def Arg.flag (a : Arg) : Bytes := a.kind.flag a.short

def Arg.words (a : Arg) : List Bytes := [a.flag, a.value]

/-- An option of `carplay_services`. -/
inductive ServiceArg where
  | arg (a : Arg)
  | hk
deriving DecidableEq

def ServiceArg.words : ServiceArg → List Bytes
  | .arg a => a.words
  | .hk => [ascii "--hk"]

def ServiceArg.arg? : ServiceArg → Option Arg
  | .arg a => some a
  | .hk => none

/-- The loop of `main` over `argv`, with the initial value of `g_useHK`. -/
def useHK (argv : List Bytes) : Bool := argv.foldl (fun on word => if word = ascii "--hk" then true else on) true

/-- The values of the options of a kind. -/
def valuesGiven (k : ArgKind) (args : List Arg) : List Bytes := (args.filter fun a => a.kind = k).map Arg.value

/-- **`carplay_bt`** has the last value of each option, or the default. -/
def BtParsed (args : List Arg) : Prop :=
  Bt.parseArgs .initial (args.flatMap Arg.words) =
    { kDeviceName := ((valuesGiven .name args).getLast?.map (List.take 31)).getD Bt.Options.initial.kDeviceName
      kWifiSSID := ((valuesGiven .ssid args).getLast?.map (List.take 63)).getD Bt.Options.initial.kWifiSSID
      kWifiPassword := ((valuesGiven .pass args).getLast?.map (List.take 63)).getD Bt.Options.initial.kWifiPassword }

/-- `carplay_services` has the last value of `--name`, or the default. -/
def NameParsed (opts : List ServiceArg) : Prop :=
  parseArgs (opts.flatMap ServiceArg.words) .initial =
    (valuesGiven .name (opts.filterMap ServiceArg.arg?)).getLast?.elim Names.initial Names.ofArg

/-- **`carplay_services`** has its name, and HomeKit mode as it is asked for. -/
structure ServicesParsed (opts : List ServiceArg) : Prop where
  name : NameParsed opts
  hk : useHK (opts.flatMap ServiceArg.words) = true ↔ ServiceArg.hk ∈ opts

/-- Each option with a value has an even number of `--hk` in front of it. -/
def Paired (opts : List ServiceArg) : Prop :=
  ∀ front a behind, opts = front ++ .arg a :: behind → front.count .hk % 2 = 0

/-! ## `carplay_bt` -/

theorem valuesGiven_concat (k : ArgKind) (args : List Arg) (a : Arg) :
    valuesGiven k (args ++ [a]) = if a.kind = k then valuesGiven k args ++ [a.value] else valuesGiven k args := by
  unfold valuesGiven
  rw [List.filter_append, List.map_append]
  by_cases hk : a.kind = k
  · simp [hk]
  · simp [hk]

theorem flag_isName (k : ArgKind) (short : Bool) :
    (k.flag short = ascii "--name" ∨ k.flag short = ascii "-n") ↔ k = .name := by
  cases k <;> cases short <;> decide

theorem flag_isSsid (k : ArgKind) (short : Bool) :
    (k.flag short = ascii "--ssid" ∨ k.flag short = ascii "-s") ↔ k = .ssid := by
  cases k <;> cases short <;> decide

theorem flag_isPass (k : ArgKind) (short : Bool) :
    (k.flag short = ascii "--pass" ∨ k.flag short = ascii "-p") ↔ k = .pass := by
  cases k <;> cases short <;> decide

/-- What one option does. -/
theorem set_flag (o : Bt.Options) (a : Arg) :
    o.set a.flag a.value =
      match a.kind with
      | .name => { o with kDeviceName := a.value.take 31 }
      | .ssid => { o with kWifiSSID := a.value.take 63 }
      | .pass => { o with kWifiPassword := a.value.take 63 } := by
  unfold Bt.Options.set Arg.flag
  simp only [flag_isName, flag_isSsid, flag_isPass]
  cases a.kind with
  | name => rfl
  | ssid => rfl
  | pass => rfl

theorem btParseArgs_words (args : List Arg) (o : Bt.Options) :
    Bt.parseArgs o (args.flatMap Arg.words) = args.foldl (fun o a => o.set a.flag a.value) o := by
  induction args generalizing o with
  | nil => rfl
  | cons a args ih => exact ih (o.set a.flag a.value)

/-- The pairs stay together, whatever the values are. -/
theorem btParsed (args : List Arg) : BtParsed args := by
  unfold BtParsed
  rw [btParseArgs_words]
  induction args using List.reverseRecOn with
  | nil => rfl
  | append_singleton args a ih =>
      rw [List.foldl_append, List.foldl_cons, List.foldl_nil, ih, set_flag]
      simp only [valuesGiven_concat]
      obtain ⟨kind, short, value⟩ := a
      cases kind with
      | name => simp
      | ssid => simp
      | pass => simp

/-! ## `carplay_services` -/

/-- The words that are read as names; `pending` is one that waits for its value. -/
def namesRead : Option Bytes → List ServiceArg → List Bytes
  | _, [] => []
  | none, .hk :: rest => namesRead (some (ascii "--hk")) rest
  | none, .arg a :: rest => (if a.kind = .name then [a.value] else []) ++ namesRead none rest
  | some w, .hk :: rest =>
      (if w = ascii "--name" ∨ w = ascii "-n" then [ascii "--hk"] else []) ++ namesRead none rest
  | some w, .arg a :: rest =>
      (if w = ascii "--name" ∨ w = ascii "-n" then [a.flag] else []) ++ namesRead (some a.value) rest

/-- A word that is read as a name, or not. -/
theorem parseArgs_pair (flag value : Bytes) (rest : List Bytes) (g : Names) :
    parseArgs (flag :: value :: rest) g =
      parseArgs rest ((if flag = ascii "--name" ∨ flag = ascii "-n" then [value] else []).foldl
        (fun _ v => Names.ofArg v) g) := by
  rw [parseArgs]
  split
  · rfl
  · rfl

/-- **What `parse_args` reads.** A `--hk` takes the next word for its value, and from there on the values are taken
for flags. -/
theorem parseArgs_argv (pending : Option Bytes) (opts : List ServiceArg) (g : Names) :
    parseArgs (pending.toList ++ opts.flatMap ServiceArg.words) g =
      (namesRead pending opts).foldl (fun _ v => Names.ofArg v) g := by
  induction opts generalizing pending g with
  | nil =>
      cases pending with
      | none => rfl
      | some w => rfl
  | cons o opts ih =>
      rw [List.flatMap_cons]
      cases pending with
      | none =>
          cases o with
          | hk => exact ih (some (ascii "--hk")) g
          | arg a =>
              rw [namesRead, List.foldl_append, ← ih none]
              refine (parseArgs_pair a.flag a.value _ g).trans ?_
              simp only [Arg.flag, flag_isName]
              rfl
      | some w =>
          cases o with
          | hk =>
              rw [namesRead, List.foldl_append, ← ih none]
              exact parseArgs_pair w (ascii "--hk") _ g
          | arg a =>
              rw [namesRead, List.foldl_append, ← ih (some a.value)]
              exact parseArgs_pair w a.flag _ g

theorem foldl_last {α β : Type} (f : α → β) (l : List α) (b : β) :
    l.foldl (fun _ a => f a) b = l.getLast?.elim b f := by
  induction l using List.reverseRecOn with
  | nil => rfl
  | append_singleton l a ih => simp

/-- As long as the pairs are kept together, the names read are the values of `--name`. -/
theorem namesRead_of_paired {opts : List ServiceArg} (odd : Bool)
    (h : ∀ front a behind, opts = front ++ .arg a :: behind → (front.count .hk + odd.toNat) % 2 = 0) :
    namesRead (if odd then some (ascii "--hk") else none) opts =
      valuesGiven .name (opts.filterMap ServiceArg.arg?) := by
  induction opts generalizing odd with
  | nil => cases odd <;> rfl
  | cons o opts ih =>
      cases o with
      | hk =>
          -- the parity changes
          have hrest : ∀ front a behind, opts = front ++ .arg a :: behind →
              (front.count .hk + (!odd).toNat) % 2 = 0 := by
            intro front a behind hopts
            have := h (.hk :: front) a behind (by rw [hopts]; rfl)
            rw [List.count_cons_self] at this
            cases odd with
            | false => simpa using this
            | true =>
                simp only [Bool.toNat_true, Bool.not_true, Bool.toNat_false] at this ⊢
                omega
          have hread := ih (!odd) hrest
          cases odd with
          | false => exact hread
          | true =>
              rw [if_pos rfl, namesRead, if_neg (by decide), List.nil_append]
              exact hread
      | arg a =>
          have heven := h [] a opts rfl
          obtain rfl : odd = false := by
            cases odd with
            | false => rfl
            | true => exact absurd heven (by decide)
          have hrest : ∀ front b behind, opts = front ++ .arg b :: behind →
              (front.count .hk + false.toNat) % 2 = 0 := by
            intro front b behind hopts
            have := h (.arg a :: front) b behind (by rw [hopts]; rfl)
            rwa [List.count_cons_of_ne (by simp)] at this
          have hread := ih false hrest
          rw [if_neg (by decide)] at hread ⊢
          rw [namesRead, hread]
          have hfirst : (ServiceArg.arg a :: opts).filterMap ServiceArg.arg? =
              a :: opts.filterMap ServiceArg.arg? := rfl
          unfold valuesGiven
          rw [hfirst, List.filter_cons]
          by_cases hname : a.kind = .name
          · simp [hname]
          · simp [hname]

theorem nameParsed_of_paired {opts : List ServiceArg} (h : Paired opts) : NameParsed opts := by
  have hread := namesRead_of_paired false h
  unfold NameParsed
  rw [← foldl_last, ← hread]
  exact parseArgs_argv none opts .initial

/-- HomeKit mode is on from the beginning, and nothing turns it off. -/
theorem useHK_eq_true (argv : List Bytes) : useHK argv = true := by
  unfold useHK
  induction argv with
  | nil => rfl
  | cons word argv ih =>
      rw [List.foldl_cons, ite_id]
      exact ih

/-- **The options.** `carplay_bt` has the value of each of its options, in any order and with any values; so has
`carplay_services` its name where the pairs are kept together, and HomeKit mode is always enabled. -/
theorem args_parsed (args : List Arg) (opts : List ServiceArg) :
    BtParsed args ∧ useHK (opts.flatMap ServiceArg.words) = true ∧ (Paired opts → NameParsed opts) :=
  ⟨btParsed args, useHK_eq_true _, nameParsed_of_paired⟩

/-- `-n --hk --hk`: the value of the name looks like an option. -/
theorem args_parsed_hkValue : NameParsed [.arg ⟨.name, true, ascii "--hk"⟩, .hk] := by
  refine (args_parsed [] _).2.2 ?_
  intro front a behind hopts
  cases front with
  | nil => rfl
  | cons o front =>
      -- nothing but `--hk` is behind the first option
      obtain ⟨-, hrest⟩ := List.cons.inj hopts
      cases front with
      | nil => cases (List.cons.inj hrest).1
      | cons o front => exact absurd (List.cons.inj hrest).2 (by simp)

/-- **Two lists of options that are not parsed as they should**: HomeKit mode is enabled without `--hk`, and behind a
`--hk` the name is not read. -/
theorem not_servicesParsed :
    ¬ ServicesParsed [.arg ⟨.name, false, ascii "Miata"⟩] ∧
      ¬ NameParsed [.hk, .arg ⟨.name, false, ascii "Miata"⟩] := by
  constructor
  · intro h
    exact absurd (h.hk.mp (useHK_eq_true _)) (by decide)
  · intro h
    exact absurd (congrArg Names.instanceName h) (by decide)

end Showcase
