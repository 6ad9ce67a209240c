import Showcase.Lib.CString
import Showcase.Services.Mdns

/-!
# `Services.HostName` — the name of the host in the announcement

`local_mdns_target_name` cuts the name of the host where `.local` comes first, and appends `.local`.

## Contents
- `hostName` — what `gethostname` returns; `stripLocal` — a name without the `.local` at its end.
- `Normalised` — what is announced is the name with one `.local`, also when it is the name of the host itself.
- `targetName_eq` — the target is the name up to its first `.local`, and `.local`.
- `once_iff`, `again_iff` — when nothing else is removed, and when the target is a fixed point.
- **`normalised_iff`** — both, for every name.
-/

namespace Showcase

open Lib

/-! ## Names -/

/-- `".local"`. -/
def dotLocal : Bytes := ascii ".local"

/-- `gethostname(host, 127)`. A name that does not fit is cut; POSIX leaves open whether a NUL ends it, so that `room`
is 126 or 127. -/
def gethostname (room : Nat) (name : Bytes) : Bytes := name.take room

/-- The name to be announced: what `gethostname` returns, or the default. -/
def hostName (room : Nat) (name : Bytes) : Bytes :=
  if gethostname room name = [] then ascii "Carplay-Receiver" else gethostname room name

/-- What `local_mdns_target_name` makes of the name of the host. -/
def targetName (room : Nat) (name : Bytes) : Bytes := localMdnsTargetName (some (gethostname room name))

/-- A name without the `.local` at its end. -/
def stripLocal (name : Bytes) : Bytes := if dotLocal <:+ name then name.take (name.length - dotLocal.length) else name

/-- **Normalisation.** -/
structure Normalised (room : Nat) (name : Bytes) : Prop where
  /-- The target is the name without the `.local` at its end, and one `.local` behind it. -/
  once : targetName room name = stripLocal (hostName room name) ++ dotLocal
  /-- Nothing of the name is missing in the target. -/
  whole : hostName room name <+: targetName room name
  /-- The target is its own target. -/
  again : targetName room (targetName room name) = targetName room name

/-- There is no `.local` in the name but at its end. -/
def LocalAtEnd (name : Bytes) : Prop := ∀ a c, name = a ++ dotLocal ++ c → c = []

/-- The name has its `.local`, or there is room for one, or for nothing of it. -/
def FitsRoom (room : Nat) (name : Bytes) : Prop :=
  dotLocal <:+ name ∨ name.length + dotLocal.length ≤ room ∨ name.length = room

/-! ## The first `.local` -/

/-- The name up to its first `.local`. -/
def upToLocal (name : Bytes) : Bytes :=
  match strstr dotLocal (name ++ [0]) with
  | .found i => name.take i
  | _ => name

section

variable {name a c : Bytes} {room : Nat}

theorem dotLocal_ne_nil : dotLocal ≠ [] := by decide

theorem zero_not_mem_dotLocal : 0 ∉ dotLocal := by decide

theorem upToLocal_length_le (name : Bytes) : (upToLocal name).length ≤ name.length := by
  unfold upToLocal
  split
  · exact List.length_take_le' _ _
  · exact Nat.le_refl _

/-- Without a `.local` the name is left alone. -/
theorem upToLocal_of_absent (h0 : 0 ∉ name) (hno : ¬ dotLocal <:+: name) : upToLocal name = name := by
  unfold upToLocal
  rw [strstr_noMatch zero_not_mem_dotLocal dotLocal_ne_nil h0 hno]

/-- With a `.local` in it, the name ends in front of the first. -/
theorem upToLocal_of_infix (h0 : 0 ∉ name) (hin : dotLocal <:+: name) :
    ∃ c, name = upToLocal name ++ dotLocal ++ c ∧
      ∀ a c', name = a ++ dotLocal ++ c' → (upToLocal name).length ≤ a.length := by
  -- a match that begins in front of all others is found
  have hmatch : ∀ {a c : Bytes}, name = a ++ dotLocal ++ c → dotLocal <+: (name ++ [0]).drop a.length := by
    rintro a c rfl
    rw [List.append_assoc, List.append_assoc, List.drop_left]
    exact List.prefix_append _ _
  unfold upToLocal
  cases h : strstr dotLocal (name ++ [0]) with
  | fault => exact absurd (by simp) ((strstr_fault_iff dotLocal_ne_nil).mp h).1
  | absent i =>
      obtain ⟨a, c, heq, rfl, -, hno⟩ := strstr_absent h
      obtain ⟨u, v, huv⟩ := hin
      have hu : 0 ∉ u := fun hmem => h0 (by rw [← huv]; simp [hmem])
      have hle : u.length ≤ a.length := by
        rw [← huv, List.append_assoc, List.append_assoc] at heq
        exact length_le_of_noNul heq.symm hu
      exact absurd (hmatch huv.symm) (hno u.length hle)
  | found i =>
      obtain ⟨a, c, heq, rfl, -, hfirst⟩ := strstr_found h
      -- the NUL at the end is not part of the match
      obtain ⟨c, rfl⟩ : ∃ c', c = c' ++ [0] := by
        rcases List.eq_nil_or_concat' c with rfl | ⟨c', x, rfl⟩
        · rw [List.append_nil] at heq
          have hlast := congrArg List.getLast? heq
          rw [List.getLast?_append_of_ne_nil _ dotLocal_ne_nil] at hlast
          exact absurd hlast (by simp [dotLocal, ascii])
        · rw [← List.append_assoc] at heq
          have hx := (List.append_inj' heq rfl).2
          exact ⟨c', by rw [hx]⟩
      have hname : name = a ++ dotLocal ++ c := by
        rw [← List.append_assoc] at heq
        exact (List.append_inj' heq rfl).1
      have htake : name.take a.length = a := by rw [hname, List.append_assoc, List.take_left]
      refine ⟨c, ?_, ?_⟩
      · simp only [htake]
        exact hname
      · intro a' c' hname'
        simp only [htake]
        exact Nat.not_lt.mp fun hlt => hfirst a'.length hlt (hmatch hname')

/-! ## A name with one `.local` -/

theorem stripLocal_append (name : Bytes) : stripLocal (name ++ dotLocal) = name := by
  rw [stripLocal, if_pos (List.suffix_append _ _), List.length_append, Nat.add_sub_cancel, List.take_left]

theorem stripLocal_of_not_suffix (h : ¬ dotLocal <:+ name) : stripLocal name = name := if_neg h

/-- A name is cut where its own `.local` begins, if there is none in front of it. -/
theorem upToLocal_eq_stripLocal_iff (h0 : 0 ∉ name) : upToLocal name = stripLocal name ↔ LocalAtEnd name := by
  by_cases hin : dotLocal <:+: name
  · obtain ⟨c, hname, hfirst⟩ := upToLocal_of_infix h0 hin
    have hlen := congrArg List.length hname
    simp only [List.length_append] at hlen
    constructor
    · intro heq a c' hac
      by_cases hsuffix : dotLocal <:+ name
      · -- the first match is the one at the end, and no match begins in front of it
        obtain ⟨stem, hstem⟩ := hsuffix
        have hcut : upToLocal name = stem := by rw [heq, ← hstem, stripLocal_append]
        have hle := hfirst a c' hac
        have ha := congrArg List.length hac
        have hs := congrArg List.length hstem
        rw [hcut] at hle
        simp only [List.length_append] at ha hs
        exact List.eq_nil_of_length_eq_zero (by omega)
      · rw [heq, stripLocal_of_not_suffix hsuffix] at hlen
        have hpos := List.length_pos_iff.mpr dotLocal_ne_nil
        omega
    · intro hend
      rw [hend _ _ hname, List.append_nil] at hname
      conv_rhs => rw [hname, stripLocal_append]
  · rw [upToLocal_of_absent h0 hin, stripLocal_of_not_suffix fun h => hin h.isInfix]
    exact ⟨fun _ a c hac => absurd ⟨a, c, hac.symm⟩ hin, fun _ => rfl⟩

theorem infix_of_localAtEnd (hend : LocalAtEnd name) (hin : dotLocal <:+: name) : dotLocal <:+ name := by
  obtain ⟨a, c, hac⟩ := hin
  rw [hend a c hac.symm, List.append_nil] at hac
  exact ⟨a, hac⟩

/-- A beginning of `.local` behind a name without one. -/
theorem match_behind {p : Bytes} (hno : ¬ dotLocal <:+: name) (hp : p <+: dotLocal)
    (h : name ++ p = a ++ dotLocal ++ c) : p = dotLocal ∧ c = [] := by
  have hb : (46 : UInt8) ∉ ascii "local" := by decide
  rcases match_append hb hp h with ⟨t, ht⟩ | ⟨-, hdot, hc⟩
  · exact absurd ⟨a, t, ht.symm⟩ hno
  · exact ⟨hdot, hc⟩

theorem localAtEnd_append (hno : ¬ dotLocal <:+: name) : LocalAtEnd (name ++ dotLocal) :=
  fun _ _ h => (match_behind hno (List.prefix_refl _) h).2

/-! ## The target

The target ends where the first `.local` begins. The name without the one at its end is the same string exactly when
no other begins earlier, and this is what both halves of the theorem come to. -/

theorem hostName_length (hroom : room = 126 ∨ room = 127) (name : Bytes) : (hostName room name).length ≤ room := by
  unfold hostName
  split
  · have hdefault : (ascii "Carplay-Receiver").length = 16 := by decide
    omega
  · exact List.length_take_le _ _

theorem zero_not_mem_hostName (h0 : 0 ∉ name) (room : Nat) : 0 ∉ hostName room name := by
  unfold hostName
  split
  · decide
  · exact fun hmem => h0 (List.mem_of_mem_take hmem)

/-- **The target** is the name of the host up to its first `.local`, and `.local`. -/
theorem targetName_eq (hroom : room = 126 ∨ room = 127) (name : Bytes) :
    targetName room name = upToLocal (hostName room name) ++ dotLocal := by
  have hhost : mdnsHost (some (gethostname room name)) = upToLocal (hostName room name) := by
    have htake : (gethostname room name).take 127 = gethostname room name := by
      refine List.take_of_length_le ((List.length_take_le _ _).trans ?_)
      omega
    rw [mdnsHost, Option.getD_some, htake]
    rfl
  have hlen := (upToLocal_length_le (hostName room name)).trans (hostName_length hroom name)
  have hdot : dotLocal.length = 6 := by decide
  rw [targetName, localMdnsTargetName, hhost, snprintf]
  refine List.take_of_length_le ?_
  show (upToLocal (hostName room name) ++ dotLocal).length ≤ 159
  rw [List.length_append]
  omega

/-- The name of a host that has a name. -/
theorem hostName_of_ne_nil (hroom : room = 126 ∨ room = 127) (hne : name ≠ []) :
    hostName room name = name.take room := by
  refine if_neg fun hnil => ?_
  rcases List.take_eq_nil_iff.mp hnil with hz | hnil
  · omega
  · exact hne hnil

/-- The target is the name without its `.local` and one `.local` exactly where no other one is in the name. -/
theorem once_iff (hroom : room = 126 ∨ room = 127) (h0 : 0 ∉ name) :
    targetName room name = stripLocal (hostName room name) ++ dotLocal ↔ LocalAtEnd (hostName room name) := by
  rw [targetName_eq hroom, List.append_left_inj]
  exact upToLocal_eq_stripLocal_iff (zero_not_mem_hostName h0 room)

/-- Nothing of the name is missing in the name with one `.local`. -/
theorem prefix_stripLocal (name : Bytes) : name <+: stripLocal name ++ dotLocal := by
  by_cases hsuffix : dotLocal <:+ name
  · obtain ⟨stem, rfl⟩ := hsuffix
    rw [stripLocal_append]
  · rw [stripLocal_of_not_suffix hsuffix]
    exact List.prefix_append _ _

/-- **A fixed point.** The target of a name that has a `.local` at most at its end is its own target exactly where it
fits, or nothing of its `.local` does. -/
theorem again_iff (hroom : room = 126 ∨ room = 127) (h0 : 0 ∉ name) (hend : LocalAtEnd (hostName room name)) :
    targetName room (targetName room name) = targetName room name ↔ FitsRoom room (hostName room name) := by
  have hdot : dotLocal.length = 6 := by decide
  have hlen := hostName_length hroom name
  have h0' := zero_not_mem_hostName h0 room
  have honce := (once_iff hroom h0).mpr hend
  have hne : targetName room name ≠ [] := by
    rw [honce]
    exact List.append_ne_nil_of_right_ne_nil _ dotLocal_ne_nil
  rw [targetName_eq hroom (targetName room name), hostName_of_ne_nil hroom hne, honce, List.append_left_inj]
  generalize hostName room name = host at *
  by_cases hsuffix : dotLocal <:+ host
  · -- the target is the name
    obtain ⟨stem, rfl⟩ := id hsuffix
    have hcut : upToLocal (stem ++ dotLocal) = stem := by
      rw [(upToLocal_eq_stripLocal_iff h0').mpr hend, stripLocal_append]
    rw [stripLocal_append, List.take_of_length_le hlen, hcut]
    exact ⟨fun _ => .inl hsuffix, fun _ => rfl⟩
  have hno : ¬ dotLocal <:+: host := fun hin => hsuffix (infix_of_localAtEnd hend hin)
  rw [stripLocal_of_not_suffix hsuffix]
  have h0'' : 0 ∉ host ++ dotLocal := by
    rw [List.mem_append, not_or]
    exact ⟨h0', zero_not_mem_dotLocal⟩
  by_cases hfit : host.length + dotLocal.length ≤ room
  · rw [List.take_of_length_le (by rw [List.length_append]; exact hfit),
      (upToLocal_eq_stripLocal_iff h0'').mpr (localAtEnd_append hno), stripLocal_append]
    exact ⟨fun _ => .inr (.inl hfit), fun _ => rfl⟩
  rw [List.take_append, List.take_of_length_le hlen]
  constructor
  · intro heq
    -- a part of `.local` would stay behind the name
    have hpart : ¬ dotLocal <:+: host ++ dotLocal.take (room - host.length) := by
      rintro ⟨a, c, hac⟩
      have hall := (match_behind hno (List.take_prefix _ _) hac.symm).1
      have hshort := congrArg List.length hall
      rw [List.length_take] at hshort
      omega
    have h0p : 0 ∉ host ++ dotLocal.take (room - host.length) := fun hmem =>
      h0'' (List.mem_append.mpr ((List.mem_append.mp hmem).imp_right List.mem_of_mem_take))
    rw [upToLocal_of_absent h0p hpart] at heq
    have hcut := congrArg List.length heq
    rw [List.length_append, List.length_take] at hcut
    exact .inr (.inr (by omega))
  · rintro (hs | hf | hfull)
    · exact absurd hs hsuffix
    · exact absurd hf hfit
    · rw [hfull, Nat.sub_self, List.take_zero, List.append_nil]
      exact upToLocal_of_absent h0' hno

/-- **Normalisation.** The name of a host is normalised exactly when there is no `.local` in it but at its end, and
its target fits where it is returned as the name of the host again, or nothing of its `.local` does. -/
theorem normalised_iff (hroom : room = 126 ∨ room = 127) (h0 : 0 ∉ name) :
    Normalised room name ↔ LocalAtEnd (hostName room name) ∧ FitsRoom room (hostName room name) := by
  constructor
  · intro h
    have hend := (once_iff hroom h0).mp h.once
    exact ⟨hend, (again_iff hroom h0 hend).mp h.again⟩
  · rintro ⟨hend, hfits⟩
    have honce := (once_iff hroom h0).mpr hend
    refine ⟨honce, ?_, (again_iff hroom h0 hend).mpr hfits⟩
    rw [honce]
    exact prefix_stripLocal _

/-- `iPad.local` is announced as it is. -/
theorem normalised_iPad : Normalised 126 (ascii "iPad.local") := by
  refine (normalised_iff (.inl rfl) (by decide)).mpr ⟨?_, .inl (by decide)⟩
  have hhost : hostName 126 (ascii "iPad.local") = ascii "iPad" ++ dotLocal := by decide
  rw [hhost]
  refine localAtEnd_append ?_
  decide

/-- **A `.local` inside the name**: `my.localnet` is announced as `my.local`. -/
theorem not_normalised_localnet :
    targetName 126 (ascii "my.localnet") = ascii "my.local" ∧ ¬ Normalised 126 (ascii "my.localnet") := by
  have htarget : targetName 126 (ascii "my.localnet") = ascii "my.local" := by decide +kernel
  refine ⟨htarget, fun h => ?_⟩
  have honce := h.once
  rw [htarget] at honce
  exact absurd honce (by decide +kernel)

end

end Showcase
