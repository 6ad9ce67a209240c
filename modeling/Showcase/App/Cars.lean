import Showcase.App.Credentials
import Showcase.Lib.History

/-!
# `App.Cars` — the list of cars and the user defaults

`CarStore` holds the selected car as an object, and saves its name. `load` takes the first car with that name.

## Contents
- `Store`, `Defaults`, `load`, `Store.save` — the list in memory, and what is left of it.
- `storeStep` — the operations on the list, each of which saves it.
- `Saved` — what has been saved is the list, and the selected car is in it.
- `load_save`, `load_again` — what comes back, and that it comes back again.
- **`cars_persistent_iff`** — the list comes back as it was exactly when no car in front of the selected one has its
  name.
-/

namespace Showcase.App

open Lib

/-! ## The list -/

/-- A `Car`; two objects are the same when their addresses are. -/
structure Car where
  address : Nat
  name : String
deriving DecidableEq

/-- A dictionary in `"cars"`. -/
structure CarDict where
  name : Option String
  ssid : Option String
  password : Option String
deriving DecidableEq

/-- The keys in the user defaults. -/
structure Defaults where
  cars : Option (List CarDict)
  selectedCarName : Option String
  apSSID : Option String
  apPassword : Option String
deriving DecidableEq

/-- `CarStore`. -/
@[ext]
structure Store extends CarStore where
  cars : List Car
  selected : Option Car

/-- The store and the user defaults. -/
@[ext]
structure Settings where
  store : Store
  defaults : Defaults

/-- `toDict`. -/
def Car.toDict (c : Car) : CarDict := ⟨some c.name, none, none⟩

/-- `save`. -/
def Store.save (s : Store) : Defaults where
  cars := some (s.cars.map Car.toDict)
  selectedCarName := some ((s.selected.map Car.name).getD "")
  apSSID := some s.apSSID
  apPassword := some s.apPassword

/-- The store has been saved. -/
def Store.saved (s : Store) : Settings := ⟨s, s.save⟩

/-- `legacySSID` and `legacyPass`. -/
def legacyCreds (raw : List CarDict) : Option (String × String) :=
  raw.findSome? fun d =>
    match d.ssid, d.password with
    | some s, some p => if 0 < nsLength s ∧ 0 < nsLength p then some (s, p) else none
    | _, _ => none

/-- The legacy pair takes the place of an empty access point. -/
def promote (legacy : Option (String × String)) (creds : CarStore) : CarStore :=
  match legacy with
  | some (ssid, password) => if nsLength creds.apSSID = 0 ∧ 0 < nsLength ssid then ⟨ssid, password⟩ else creds
  | none => creds

/-- New objects for these names. -/
def newCars (names : List String) : List Car := names.mapIdx Car.mk

/-- The names in the dictionaries, or the one of the first run. -/
def namesOf (raw : List CarDict) : List String :=
  if raw = [] then ["Miata"] else raw.map fun d => d.name.getD ""

/-- `load`. -/
def load (d : Defaults) : Settings :=
  let raw := d.cars.getD []
  let cars := newCars (namesOf raw)
  let creds := promote (legacyCreds raw) ⟨d.apSSID.getD "", d.apPassword.getD ""⟩
  let selected := (cars.find? fun c => some c.name = d.selectedCarName).or cars.head?
  Store.saved { creds with cars := cars, selected := selected }

/-- What the app does with the list. -/
inductive StoreOp where
  | addCar (car : Car)
  | deleteCarAtIndex (idx : Int)
  | selectCar (car : Car)
  | setAPSSID (ssid password : Option String)

/-- `deleteCarAtIndex:` -/
def deleteCarAtIndex (s : Settings) (idx : Int) : Settings :=
  if idx < 0 ∨ s.store.cars.length ≤ idx then s
  else
    let cars := s.store.cars.eraseIdx idx.toNat
    Store.saved { s.store with
      cars := cars
      selected := if s.store.selected = s.store.cars[idx.toNat]? then cars.head? else s.store.selected }

/-- One operation. A car that is selected is one of the list. -/
def storeStep (s : Settings) : StoreOp → Option Settings
  | .addCar car =>
      some (Store.saved { s.store with
        cars := s.store.cars ++ [car]
        selected := s.store.selected.or (some car) })
  | .deleteCarAtIndex idx => some (deleteCarAtIndex s idx)
  | .selectCar car => if car ∈ s.store.cars then some (Store.saved { s.store with selected := some car }) else none
  | .setAPSSID ssid password =>
      some (Store.saved { s.store with apSSID := ssid.getD "", apPassword := password.getD "" })

/-- Runs that begin with a `load`. -/
abbrev StoreRun (d : Defaults) : List (Step Settings StoreOp) → Settings → Prop :=
  Lib.Run (fun s op s' => storeStep s op = some s') (load d)

/-! ## The property -/

/-- Where the selected car is in the list. -/
def Store.position (s : Store) : Option Nat := s.selected.map s.cars.idxOf

/-- The selected car is one of the list; there is none only when the list is empty. -/
structure Store.Selects (s : Store) : Prop where
  member : ∀ c, s.selected = some c → c ∈ s.cars
  none : s.selected = none → s.cars = []

/-- **The list comes back**: the names in their order, the position and the access point. For an empty list there is
the seed. -/
structure ComesBack (s : Store) (d : Defaults) : Prop where
  names : (load d).store.cars.map Car.name = if s.cars = [] then ["Miata"] else s.cars.map Car.name
  position : (load d).store.position = if s.cars = [] then some 0 else s.position
  creds : (load d).store.toCarStore = s.toCarStore

/-- No car in front of the selected one has its name. -/
def Store.FirstOfName (s : Store) : Prop :=
  ∀ c front behind, s.selected = some c → s.cars = front ++ c :: behind → c ∉ front → ∀ x ∈ front, x.name ≠ c.name

/-! ## One operation -/

/-- The list as it was saved, and its selected car. -/
structure Saved (s : Settings) : Prop where
  saved : s.defaults = s.store.save
  selects : s.store.Selects

section Operations

variable {s s' : Settings} {op : StoreOp}

theorem newCars_names (names : List String) : (newCars names).map Car.name = names := by
  refine List.ext_getElem (by simp [newCars]) fun i h₁ h₂ => ?_
  simp [newCars]

theorem newCars_ne_nil (raw : List CarDict) : newCars (namesOf raw) ≠ [] := by
  unfold newCars namesOf
  split
  · simp
  · simpa using by assumption

/-- What is found, or else the first car, is one of the list. -/
theorem selects_or_head (cars : List Car) (p : Car → Bool) :
    (∀ c, (cars.find? p).or cars.head? = some c → c ∈ cars) ∧
      ((cars.find? p).or cars.head? = none → cars = []) := by
  constructor
  · intro c hc
    rcases Option.or_eq_some_iff.mp hc with hc | ⟨-, hc⟩
    · exact List.mem_of_find?_eq_some hc
    · exact List.mem_of_head? hc
  · intro hnone
    exact List.head?_eq_none_iff.mp (Option.or_eq_none_iff.mp hnone).2

theorem Saved.load (d : Defaults) : Saved (load d) := by
  refine ⟨rfl, ?_⟩
  obtain ⟨hmember, hnone⟩ := selects_or_head (newCars (namesOf (d.cars.getD [])))
    (fun c => some c.name = d.selectedCarName)
  exact ⟨hmember, hnone⟩

theorem Saved.deleteCarAtIndex (h : Saved s) (idx : Int) : Saved (deleteCarAtIndex s idx) := by
  unfold App.deleteCarAtIndex
  by_cases hidx : idx < 0 ∨ s.store.cars.length ≤ idx
  · rw [if_pos hidx]
    exact h
  rw [if_neg hidx]
  refine ⟨rfl, ?_, ?_⟩
  · intro c hc
    change (if s.store.selected = s.store.cars[idx.toNat]? then _ else _) = some c at hc
    split at hc
    · exact List.mem_of_head? hc
    · -- the selected car is another one
      rename_i hother
      obtain ⟨i, hi⟩ := List.mem_iff_getElem?.mp (h.selects.member c hc)
      refine List.mem_eraseIdx_iff_getElem?.mpr ⟨i, ?_, hi⟩
      rintro rfl
      exact hother (hc.trans hi.symm)
  · intro hc
    change (if s.store.selected = s.store.cars[idx.toNat]? then _ else _) = none at hc
    split at hc
    · exact List.head?_eq_none_iff.mp hc
    · have hempty := h.selects.none hc
      rw [hempty] at hidx
      simp only [List.length_nil] at hidx
      omega

/-- **Every operation saves the list**, and keeps a car selected. -/
theorem Saved.step (h : Saved s) (hstep : storeStep s op = some s') : Saved s' := by
  cases op with
  | addCar car =>
      obtain rfl := Option.some.inj hstep
      refine ⟨rfl, ?_, ?_⟩
      · intro c hc
        change s.store.selected.or (some car) = some c at hc
        show c ∈ s.store.cars ++ [car]
        rcases Option.or_eq_some_iff.mp hc with hc | ⟨-, hc⟩
        · exact List.mem_append_left _ (h.selects.member c hc)
        · rw [← Option.some.inj hc]
          simp
      · intro hc
        exact absurd (Option.or_eq_none_iff.mp hc).2 (by simp)
  | deleteCarAtIndex idx =>
      obtain rfl := Option.some.inj hstep
      exact h.deleteCarAtIndex idx
  | selectCar car =>
      obtain ⟨hmem, hs'⟩ := Option.ite_none_right_eq_some.mp hstep
      obtain rfl := Option.some.inj hs'
      refine ⟨rfl, ?_, fun hc => nomatch hc⟩
      intro c hc
      rw [← Option.some.inj hc]
      exact hmem
  | setAPSSID ssid password =>
      obtain rfl := Option.some.inj hstep
      exact ⟨rfl, h.selects.member, h.selects.none⟩

theorem saved_run {d : Defaults} {h : List (Step Settings StoreOp)} (hr : StoreRun d h s) : Saved s :=
  hr.invariant Saved (Saved.load d) fun _ _ _ hs hstep => hs.step hstep

end Operations

/-! ## What comes back

`load` is applied to what `save` has left. The names and the access point come back without a condition; of the
selected car only the name was saved, so its position comes back where no car in front of it has the same. -/

section

variable {s : Store} {c : Car}

theorem legacyCreds_save (cars : List Car) : legacyCreds (cars.map Car.toDict) = none := by
  unfold legacyCreds
  rw [List.findSome?_map]
  exact List.findSome?_eq_none_iff.mpr fun _ _ => rfl

theorem namesOf_save (cars : List Car) :
    namesOf (cars.map Car.toDict) = if cars = [] then ["Miata"] else cars.map Car.name := by
  cases cars with
  | nil => rfl
  | cons c cars => simp [namesOf, Car.toDict]

/-- The names and the access point come back; the selected car is looked for by its name. -/
theorem load_save (s : Store) :
    (load s.save).store.toCarStore = s.toCarStore ∧
      (load s.save).store.cars = newCars (if s.cars = [] then ["Miata"] else s.cars.map Car.name) ∧
      (load s.save).store.selected =
        ((load s.save).store.cars.find? fun c => c.name = (s.selected.map Car.name).getD "").or
          (load s.save).store.cars.head? := by
  refine ⟨?_, congrArg newCars (namesOf_save s.cars), ?_⟩
  · show promote (legacyCreds (s.cars.map Car.toDict)) ⟨s.apSSID, s.apPassword⟩ = s.toCarStore
    rw [legacyCreds_save]
    rfl
  · have hname : (fun c : Car => decide (some c.name = s.save.selectedCarName)) =
        fun c => decide (c.name = (s.selected.map Car.name).getD "") := by
      funext c
      simp [Store.save]
    rw [← hname]
    rfl

/-- What has been found by its name, or else is the first, is found by its name again. -/
theorem find?_again {cars : List Car} {p : String → Bool}
    (h : (cars.find? fun x => p x.name).or cars.head? = some c) : cars.find? (fun x => x.name = c.name) = some c := by
  rcases Option.or_eq_some_iff.mp h with hfind | ⟨-, hhead⟩
  · obtain ⟨hc, front, behind, rfl, hfront⟩ := List.find?_eq_some_iff_append.mp hfind
    refine List.find?_eq_some_iff_append.mpr ⟨by simp, front, behind, rfl, ?_⟩
    intro x hx
    have hpx := hfront x hx
    by_cases hname : x.name = c.name
    · rw [hname, hc] at hpx
      cases hpx
    · simp [hname]
  · obtain ⟨rest, rfl⟩ : ∃ rest, cars = c :: rest := by
      cases cars with
      | nil => cases hhead
      | cons x rest => exact ⟨rest, by rw [Option.some.inj hhead]⟩
    simp

/-- **What is loaded comes back again**, whatever the user defaults were. -/
theorem load_again (d : Defaults) : load (load d).defaults = load d := by
  have hsaved := Saved.load d
  obtain ⟨hcreds, hcars, hselected⟩ := load_save (load d).store
  rw [← hsaved.saved] at hcreds hcars hselected
  have hne : (load d).store.cars ≠ [] := newCars_ne_nil _
  have hcars' : (load (load d).defaults).store.cars = (load d).store.cars := by
    rw [hcars, if_neg hne]
    show newCars ((newCars (namesOf (d.cars.getD []))).map Car.name) = _
    rw [newCars_names]
    rfl
  have hselected' : (load (load d).defaults).store.selected = (load d).store.selected := by
    cases hc : (load d).store.selected with
    | none => exact absurd (hsaved.selects.none hc) hne
    | some c =>
        have hagain : (load d).store.cars.find? (fun x => x.name = c.name) = some c :=
          find?_again (p := fun name => some name = d.selectedCarName) hc
        rw [hselected, hcars', hc]
        exact congrArg (Option.or · _) hagain
  have hstore : (load (load d).defaults).store = (load d).store :=
    Store.ext (congrArg CarStore.apSSID hcreds) (congrArg CarStore.apPassword hcreds) hcars' hselected'
  refine Settings.ext hstore ?_
  rw [(Saved.load (load d).defaults).saved, hstore, ← hsaved.saved]

theorem idxOf_append_cons {α : Type} [DecidableEq α] {front : List α} {a : α} (h : a ∉ front) (behind : List α) :
    (front ++ a :: behind).idxOf a = front.length := by
  rw [List.idxOf_append_of_notMem h, List.idxOf_cons_self, Nat.add_zero]

/-- The selected car is the first with its name, when no name in front of it is the same. -/
theorem firstOfName_iff {front behind : List Car} (hsel : s.selected = some c) (hcars : s.cars = front ++ c :: behind)
    (hfront : c ∉ front) : s.FirstOfName ↔ c.name ∉ front.map Car.name := by
  constructor
  · intro h hmem
    obtain ⟨x, hx, hname⟩ := List.mem_map.mp hmem
    exact h c front behind hsel hcars hfront x hx hname
  · intro h c' front' behind' hsel' hcars' hfront' x hx hname
    obtain rfl := Option.some.inj (hsel.symm.trans hsel')
    -- there is one way to cut the list at its first `c`
    have hlen : front.length = front'.length := by
      rw [← idxOf_append_cons hfront behind, ← idxOf_append_cons hfront' behind', ← hcars, hcars']
    obtain ⟨rfl, -⟩ := List.append_inj (hcars.symm.trans hcars') hlen
    exact h (List.mem_map.mpr ⟨x, hx, hname⟩)

/-- **The position** of the selected car comes back when no car in front of it has its name, and only then. -/
theorem position_iff (hsel : s.selected = some c) (hmem : c ∈ s.cars) :
    (load s.save).store.position = s.position ↔ s.FirstOfName := by
  obtain ⟨-, hcars, hselected⟩ := load_save s
  have hne : s.cars ≠ [] := List.ne_nil_of_mem hmem
  rw [if_neg hne] at hcars
  obtain ⟨front, behind, hsplit, hfront⟩ := List.eq_append_cons_of_mem hmem
  -- the car that is found
  obtain ⟨c', hfind⟩ : ∃ c', (load s.save).store.cars.find? (fun x => x.name = c.name) = some c' := by
    refine Option.isSome_iff_exists.mp (List.find?_isSome.mpr ?_)
    have hname : c.name ∈ (load s.save).store.cars.map Car.name := by
      rw [hcars, newCars_names]
      exact List.mem_map_of_mem hmem
    obtain ⟨x, hx, hxc⟩ := List.mem_map.mp hname
    exact ⟨x, hx, by simp [hxc]⟩
  rw [hsel] at hselected
  have hsel' : (load s.save).store.selected = some c' := by
    rw [hselected]
    exact congrArg (Option.or · _) hfind
  obtain ⟨hc', front', behind', hsplit', hfront'⟩ := List.find?_eq_some_iff_append.mp hfind
  have hname : c'.name = c.name := of_decide_eq_true hc'
  have hnot : c.name ∉ front'.map Car.name := by
    intro hin
    obtain ⟨x, hx, hxc⟩ := List.mem_map.mp hin
    exact absurd (hfront' x hx) (by simp [hxc])
  have hnot' : c' ∉ front' := fun hin => hnot (List.mem_map.mpr ⟨c', hin, hname⟩)
  -- both lists have the same names
  have hnames : front'.map Car.name ++ c.name :: behind'.map Car.name =
      front.map Car.name ++ c.name :: behind.map Car.name := by
    have hmap := congrArg (List.map Car.name) hcars
    rw [newCars_names, hsplit', hsplit] at hmap
    rw [List.map_append, List.map_append, List.map_cons, List.map_cons, hname] at hmap
    exact hmap
  rw [firstOfName_iff hsel hsplit hfront, Store.position, Store.position, hsel', hsel, hsplit', hsplit,
    Option.map_some, Option.map_some, idxOf_append_cons hnot', idxOf_append_cons hfront, Option.some.injEq]
  constructor
  · intro hlen
    have hsame := (List.append_inj hnames (by rw [List.length_map, List.length_map, hlen])).1
    rwa [← hsame]
  · intro hno
    have hlen := congrArg (List.idxOf c.name) hnames
    rw [idxOf_append_cons hnot, idxOf_append_cons hno, List.length_map, List.length_map] at hlen
    exact hlen

end

/-! ## Every run

Every operation ends with `save`, so `Saved` holds behind each of them, and a run comes down to one `load` of what its
last state has left. -/

/-- **Persistence.** In every run the selected car is one of the list; what is loaded comes back again; and the list
comes back from the user defaults if and only if no car in front of the selected one has its name. -/
theorem cars_persistent_iff (d : Defaults) {h : List (Step Settings StoreOp)} {s : Settings} (hr : StoreRun d h s) :
    (s.store.Selects ∧ ComesBack s.store s.defaults ∧ load (load d).defaults = load d) ↔ s.store.FirstOfName := by
  have hsaved := saved_run hr
  obtain ⟨hcreds, hcars, hselected⟩ := load_save s.store
  rw [← hsaved.saved] at hcreds hcars hselected
  have hnames : (load s.defaults).store.cars.map Car.name =
      if s.store.cars = [] then ["Miata"] else s.store.cars.map Car.name := by
    rw [hcars, newCars_names]
  constructor
  · rintro ⟨hselects, hback, -⟩
    cases hsel : s.store.selected with
    | none =>
        intro c front behind hc
        cases hsel.symm.trans hc
    | some c =>
        have hmem := hselects.member c hsel
        have hposition := hback.position
        rw [if_neg (List.ne_nil_of_mem hmem), hsaved.saved] at hposition
        exact (position_iff hsel hmem).mp hposition
  · intro hfirst
    refine ⟨hsaved.selects, ⟨hnames, ?_, hcreds⟩, load_again d⟩
    cases hsel : s.store.selected with
    | none =>
        -- the seed
        have hnil := hsaved.selects.none hsel
        rw [if_pos hnil] at hcars
        rw [if_pos hnil, Store.position, hselected, hcars, hsel]
        rfl
    | some c =>
        have hmem := hsaved.selects.member c hsel
        rw [if_neg (List.ne_nil_of_mem hmem), hsaved.saved]
        exact (position_iff hsel hmem).mpr hfirst

/-- The settings of a first run. -/
def firstRun : Defaults := ⟨none, none, none, none⟩

/-- A second car is added and selected. -/
theorem secondCar_run (name : String) :
    ∃ h s, StoreRun firstRun h s ∧ s.store.cars = [⟨0, "Miata"⟩, ⟨7, name⟩] ∧ s.store.selected = some ⟨7, name⟩ := by
  have hadd : storeStep (load firstRun) (.addCar ⟨7, name⟩) =
      some (Store.saved ⟨⟨"", ""⟩, [⟨0, "Miata"⟩, ⟨7, name⟩], some ⟨0, "Miata"⟩⟩) := rfl
  have hselect : storeStep (Store.saved ⟨⟨"", ""⟩, [⟨0, "Miata"⟩, ⟨7, name⟩], some ⟨0, "Miata"⟩⟩)
      (.selectCar ⟨7, name⟩) =
        some (Store.saved ⟨⟨"", ""⟩, [⟨0, "Miata"⟩, ⟨7, name⟩], some ⟨7, name⟩⟩) :=
    if_pos (List.mem_cons_of_mem _ List.mem_cons_self)
  exact ⟨_, _, .snoc (.snoc .nil hadd) hselect, rfl, rfl⟩

/-- Of two cars with different names the second one comes back. -/
theorem cars_persistent_roadster :
    ∃ h s, StoreRun firstRun h s ∧ s.store.position = some 1 ∧ ComesBack s.store s.defaults := by
  obtain ⟨h, s, hr, hcars, hsel⟩ := secondCar_run "Roadster"
  have hfront : (⟨7, "Roadster"⟩ : Car) ∉ [⟨0, "Miata"⟩] := by decide
  have hfirst : s.store.FirstOfName := (firstOfName_iff hsel hcars hfront).mpr (by decide)
  refine ⟨h, s, hr, ?_, ((cars_persistent_iff firstRun hr).mpr hfirst).2.1⟩
  rw [Store.position, hsel, hcars]
  rfl

/-- **Of two cars with one name** the second one is selected, and the first one comes back. -/
theorem not_cars_persistent :
    ∃ h s, StoreRun firstRun h s ∧ s.store.position = some 1 ∧ ¬ ComesBack s.store s.defaults := by
  obtain ⟨h, s, hr, hcars, hsel⟩ := secondCar_run "Miata"
  refine ⟨h, s, hr, by rw [Store.position, hsel, hcars]; rfl, fun hback => ?_⟩
  have hposition := hback.position
  have hmem : (⟨7, "Miata"⟩ : Car) ∈ s.store.cars := by
    rw [hcars]
    exact List.mem_cons_of_mem _ List.mem_cons_self
  rw [if_neg (List.ne_nil_of_mem hmem), (saved_run hr).saved] at hposition
  have hfront : (⟨7, "Miata"⟩ : Car) ∉ [⟨0, "Miata"⟩] := by decide
  exact (firstOfName_iff hsel hcars hfront).mp ((position_iff hsel hmem).mp hposition) (by decide)

end Showcase.App
