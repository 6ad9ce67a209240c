import Mathlib.Logic.Function.Basic

/-!
# `Lib.Children` — the child processes of a program

What stands behind every process number, as the program that forks sees it. A child that has exited keeps its number
until the program waits for it. Up to then `kill` finds it; behind that the number is free, and another process may
get it.

## Contents
- `Proc`, `ProcTable` — what a number stands for.
- `ProcTable.among` — where it has none of its own.
- `ProcTable.found`, `ProcTable.waitNoHang` — `kill(pid, 0)`, and `waitpid` with `WNOHANG`.
- `ProcEvent`, `ProcTable.next` — what happens to processes on its own.
- `next_isChild`, `next_running` — a child stays one until it is waited for, and runs until it exits.
- `next_ne_other` — a number is not another process's unless it is given to one.
-/

namespace Lib

/-- What a process number stands for. -/
inductive Proc where
  | free
  /-- A child of the program that has not exited. -/
  | running
  /-- A child that has exited and has not been waited for. -/
  | exited
  /-- Another process. -/
  | other
deriving DecidableEq

/-- A child that has not been waited for. -/
def Proc.isChild (p : Proc) : Prop := p = .running ∨ p = .exited

instance (p : Proc) : Decidable p.isChild := inferInstanceAs (Decidable (_ ∨ _))

abbrev ProcTable (π : Type) := π → Proc

namespace ProcTable

section Found

variable {π : Type} {t : ProcTable π} {pid : π}

/-- A program without a child, among other processes. -/
def among (others : π → Bool) : ProcTable π := fun pid => if others pid then .other else .free

/-- `kill(pid, 0) == 0`, by a program that may signal every process. -/
def found (t : ProcTable π) (pid : π) : Bool := t pid ≠ .free

/-- What is found, and is not another process, is a child. -/
theorem isChild_of_found (hfound : t.found pid = true) (hne : t pid ≠ .other) : (t pid).isChild := by
  have hfree : t pid ≠ .free := of_decide_eq_true hfound
  cases hp : t pid with
  | free => exact absurd hp hfree
  | running => exact .inl rfl
  | exited => exact .inr rfl
  | other => exact absurd hp hne

end Found

variable {π : Type} [DecidableEq π]

/-- `waitpid(pid, _, WNOHANG)`: whether it returns `pid`, 0, or -1 with `ECHILD`, and what it leaves. -/
inductive Waited where
  | collected
  | stillRunning
  | noChild
deriving DecidableEq

def waitNoHang (t : ProcTable π) (pid : π) : Waited × ProcTable π :=
  match t pid with
  | .exited => (.collected, Function.update t pid .free)
  | .running => (.stillRunning, t)
  | .free | .other => (.noChild, t)

/-- `waitpid` frees a number, or leaves all as it is. -/
theorem waitNoHang_apply (t : ProcTable π) (pid q : π) :
    (t.waitNoHang pid).2 q = t q ∨ (t.waitNoHang pid).2 q = .free := by
  unfold waitNoHang
  split
  · by_cases hq : q = pid
    · rw [hq]
      exact .inr (Function.update_self ..)
    · exact .inl (Function.update_of_ne hq ..)
  all_goals exact .inl rfl

end ProcTable

/-- What happens to processes while the program does something else. -/
inductive ProcEvent (π : Type) where
  /-- A child exits. -/
  | exit (pid : π)
  /-- A number is given to another process. -/
  | born (pid : π)
  /-- The other process with this number is gone. -/
  | gone (pid : π)
deriving DecidableEq

namespace ProcTable

variable {π : Type} [DecidableEq π]

def next (t : ProcTable π) : ProcEvent π → Option (ProcTable π)
  | .exit pid => if t pid = .running then some (Function.update t pid .exited) else none
  | .born pid => if t pid = .free then some (Function.update t pid .other) else none
  | .gone pid => if t pid = .other then some (Function.update t pid .free) else none

variable {t t' : ProcTable π} {e : ProcEvent π} {pid : π}

/-- What a number stands for behind an event. -/
theorem next_apply (h : t.next e = some t') (pid : π) :
    t' pid = t pid ∨ (e = .exit pid ∧ t pid = .running ∧ t' pid = .exited) ∨
      (e = .born pid ∧ t pid = .free ∧ t' pid = .other) ∨ (e = .gone pid ∧ t pid = .other ∧ t' pid = .free) := by
  cases e with
  | exit q =>
      obtain ⟨hq, h⟩ := Option.ite_none_right_eq_some.mp h
      obtain rfl := Option.some.inj h
      by_cases hpq : pid = q
      · subst hpq
        exact .inr (.inl ⟨rfl, hq, Function.update_self ..⟩)
      · exact .inl (Function.update_of_ne hpq ..)
  | born q =>
      obtain ⟨hq, h⟩ := Option.ite_none_right_eq_some.mp h
      obtain rfl := Option.some.inj h
      by_cases hpq : pid = q
      · subst hpq
        exact .inr (.inr (.inl ⟨rfl, hq, Function.update_self ..⟩))
      · exact .inl (Function.update_of_ne hpq ..)
  | gone q =>
      obtain ⟨hq, h⟩ := Option.ite_none_right_eq_some.mp h
      obtain rfl := Option.some.inj h
      by_cases hpq : pid = q
      · subst hpq
        exact .inr (.inr (.inr ⟨rfl, hq, Function.update_self ..⟩))
      · exact .inl (Function.update_of_ne hpq ..)

/-- **A child stays one** until it is waited for. -/
theorem next_isChild (h : t.next e = some t') (hchild : (t pid).isChild) : (t' pid).isChild := by
  rcases next_apply h pid with heq | ⟨-, -, heq⟩ | ⟨-, hfree, -⟩ | ⟨-, hother, -⟩
  · rw [heq]
    exact hchild
  · exact .inr heq
  · rw [hfree] at hchild
    exact absurd hchild (by decide)
  · rw [hother] at hchild
    exact absurd hchild (by decide)

/-- A child runs until it exits. -/
theorem next_running (h : t.next e = some t') (hrunning : t pid = .running) (hexit : e ≠ .exit pid) :
    t' pid = .running := by
  rcases next_apply h pid with heq | ⟨he, -, -⟩ | ⟨-, hfree, -⟩ | ⟨-, hother, -⟩
  · rw [heq, hrunning]
  · exact absurd he hexit
  · exact nomatch hrunning.symm.trans hfree
  · exact nomatch hrunning.symm.trans hother

/-- A number is not another process's unless it is given to one. -/
theorem next_ne_other (h : t.next e = some t') (hne : t pid ≠ .other) (hborn : e ≠ .born pid) : t' pid ≠ .other := by
  rcases next_apply h pid with heq | ⟨-, -, heq⟩ | ⟨he, -, -⟩ | ⟨-, hother, -⟩
  · rw [heq]
    exact hne
  · rw [heq]
    decide
  · exact absurd he hborn
  · exact absurd hother hne

end ProcTable

end Lib
