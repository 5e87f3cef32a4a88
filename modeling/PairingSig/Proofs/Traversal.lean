import Mathlib.Data.List.Forall2
import PairingSig.Fault

/-!
# Reading the elements of a list

Lists of written keys and signatures are read element by element, and the first fault ends the
reading. A reading succeeds when every element does, each with the value at its place.

- **Values**: `mapM_eq_ok` and `map_eq_of_mapM_eq_ok`;
- **Faults**: `FirstFault`, and `mapM_eq_error_iff`, the fault of a list is the one that stands
  first in it.
-/

namespace PairingSig

variable {α β γ : Type}

theorem map_eq_error_iff {g : α → β} {r : Except Fault α} {e : Fault} :
    r.map g = .error e ↔ r = .error e := by
  cases r with
  | error f => simp only [Except.map, Except.error.injEq]
  | ok a => simp only [Except.map, reduceCtorEq]

theorem mapM_cons_ok {f : α → Except Fault β} {a : α} {b : β} (h : f a = .ok b) (as : List α) :
    (a :: as).mapM f = (as.mapM f).map (b :: ·) := by
  rw [List.mapM_cons, h]
  cases as.mapM f <;> rfl

theorem mapM_cons_error {f : α → Except Fault β} {a : α} {e : Fault} (h : f a = .error e)
    (as : List α) : (a :: as).mapM f = .error e := by
  rw [List.mapM_cons, h]
  rfl

/-- What is read may be changed afterwards. -/
theorem mapM_map {f : α → Except Fault β} {g : β → γ} (as : List α) :
    (as.mapM fun a => (f a).map g) = (as.mapM f).map (List.map g) := by
  induction as with
  | nil => rfl
  | cons a as ih =>
    rw [List.mapM_cons, List.mapM_cons, ih]
    cases f a with
    | error e => rfl
    | ok b => cases as.mapM f <;> rfl

/-- A list is read when every element is. -/
theorem mapM_eq_ok {f : α → Except Fault β} {as : List α} {bs : List β}
    (h : List.Forall₂ (fun a b => f a = .ok b) as bs) : as.mapM f = .ok bs := by
  induction h with
  | nil => rfl
  | cons hab _ ih =>
    rw [mapM_cons_ok hab, ih]
    rfl

/-- What was read are the values of the elements, in their places. -/
theorem map_eq_of_mapM_eq_ok {f : α → Except Fault β} {as : List α} {bs : List β}
    (h : as.mapM f = .ok bs) : as.map f = bs.map .ok := by
  induction as generalizing bs with
  | nil =>
    cases h
    rfl
  | cons a as ih =>
    -- A fault of the first element or of a later one would be the result.
    cases hf : f a with
    | error e =>
      rw [mapM_cons_error hf] at h
      cases h
    | ok b =>
      rw [mapM_cons_ok hf] at h
      cases has : as.mapM f with
      | error e =>
        rw [has] at h
        cases h
      | ok bs' =>
        rw [has] at h
        cases h
        rw [List.map_cons, List.map_cons, hf, ih has]

/-- Every element that was read has a value among those that were read. -/
theorem exists_value_of_map_eq {f : α → Except Fault β} {as : List α} {bs : List β}
    (h : as.map f = bs.map .ok) {a : α} (ha : a ∈ as) : ∃ b ∈ bs, f a = .ok b := by
  have hmem : f a ∈ bs.map .ok := h ▸ List.mem_map_of_mem ha
  obtain ⟨b, hb, hfa⟩ := List.mem_map.1 hmem
  exact ⟨b, hb, hfa.symm⟩

/-- Every value that was read is that of an element. -/
theorem exists_element_of_map_eq {f : α → Except Fault β} {as : List α} {bs : List β}
    (h : as.map f = bs.map .ok) {b : β} (hb : b ∈ bs) : ∃ a ∈ as, f a = .ok b := by
  have hmem : .ok b ∈ as.map f := h ▸ List.mem_map_of_mem hb
  exact List.mem_map.1 hmem

theorem length_eq_of_mapM_eq_ok {f : α → Except Fault β} {as : List α} {bs : List β}
    (h : as.mapM f = .ok bs) : bs.length = as.length := by
  have hlength := congrArg List.length (map_eq_of_mapM_eq_ok h)
  simpa using hlength.symm

/-- The element at a place has a fault, and those before it can be read. -/
structure FirstFault (f : α → Except Fault β) (as : List α) (place : Nat) (e : Fault) : Prop where
  fault : (as.map f)[place]? = some (.error e)
  before : ∀ j < place, ∃ b, (as.map f)[j]? = some (.ok b)

/-- An element that can be read puts a fault off by one place. -/
theorem firstFault_cons_ok {f : α → Except Fault β} {a : α} {b : β} (h : f a = .ok b)
    {as : List α} {e : Fault} :
    (∃ i, FirstFault f (a :: as) i e) ↔ ∃ i, FirstFault f as i e := by
  constructor
  · -- The first element has no fault, so places move up by one.
    rintro ⟨_ | i, hfault, hbefore⟩
    · simp [h] at hfault
    · exact ⟨i, hfault, fun j hj => hbefore (j + 1) (Nat.succ_lt_succ hj)⟩
  · rintro ⟨i, hfault, hbefore⟩
    refine ⟨i + 1, hfault, fun j hj => ?_⟩
    cases j with
    | zero => exact ⟨b, by simp [h]⟩
    | succ j => exact hbefore j (Nat.lt_of_succ_lt_succ hj)

/-- **Reading a list ends with the fault that stands first in it.** -/
theorem mapM_eq_error_iff {f : α → Except Fault β} {as : List α} {e : Fault} :
    as.mapM f = .error e ↔ ∃ i, FirstFault f as i e := by
  induction as with
  | nil =>
    refine iff_of_false (fun h => by cases h) ?_
    rintro ⟨i, hfault, -⟩
    simp at hfault
  | cons a as ih =>
    cases hf : f a with
    | ok b => rw [mapM_cons_ok hf, map_eq_error_iff, ih, firstFault_cons_ok hf]
    | error e' =>
      rw [mapM_cons_error hf]
      constructor
      · -- The traversal stops here, with nothing before this element.
        intro h
        cases h
        exact ⟨0, by simp [hf], fun j hj => absurd hj (Nat.not_lt_zero j)⟩
      · -- A later fault would have this element before it.
        rintro ⟨_ | i, hfault, hbefore⟩
        · simpa [hf] using hfault
        · obtain ⟨b, hb⟩ := hbefore 0 (Nat.succ_pos i)
          simp [hf] at hb

/-- The fault of a list is the fault of one of its elements. -/
theorem exists_of_mapM_eq_error {f : α → Except Fault β} {as : List α} {e : Fault}
    (h : as.mapM f = .error e) : ∃ a ∈ as, f a = .error e := by
  obtain ⟨i, hfirst⟩ := mapM_eq_error_iff.1 h
  exact List.mem_map.1 (List.mem_of_getElem? hfirst.fault)

theorem mapM_eq_ok_of_map_eq {f : α → Except Fault β} {as : List α} {bs : List β}
    (h : as.map f = bs.map .ok) : as.mapM f = .ok bs := by
  have hall : List.Forall₂ (fun r b => r = .ok b) (as.map f) bs := by
    rw [h, List.forall₂_map_left_iff]
    exact List.forall₂_same.2 fun _ _ => rfl
  exact mapM_eq_ok (List.forall₂_map_left_iff.1 hall)

/-- If every element is related to something, the list is related to a list. -/
theorem exists_forall₂ {R : α → β → Prop} {as : List α} (h : ∀ a ∈ as, ∃ b, R a b) :
    ∃ bs, List.Forall₂ R as bs := by
  induction as with
  | nil => exact ⟨[], .nil⟩
  | cons a as ih =>
    obtain ⟨b, hb⟩ := h a List.mem_cons_self
    obtain ⟨bs, hbs⟩ := ih fun a' ha' => h a' (List.mem_cons_of_mem a ha')
    exact ⟨b :: bs, .cons hb hbs⟩

theorem ne_nil_iff_of_forall₂ {R : α → β → Prop} {as : List α} {bs : List β}
    (h : List.Forall₂ R as bs) : as ≠ [] ↔ bs ≠ [] := by
  cases h with
  | nil => exact iff_of_false (fun h => h rfl) (fun h => h rfl)
  | cons _ _ => exact iff_of_true (List.cons_ne_nil _ _) (List.cons_ne_nil _ _)

end PairingSig
