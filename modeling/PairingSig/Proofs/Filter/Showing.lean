import Mathlib.Data.List.Induction
import Mathlib.Data.List.Nodup
import PairingSig.Filter

/-!
# What a filter shows

A filter decides on an event by the directive with the longest target of those that apply to it.
Where directives have the same target, only the last of them counts. This module says so without
the list that a filter keeps, for directives that are about all events of their targets.

- **Specificity**: `longest_of_mostSpecific?`, of several directives one with the longest target is
  taken;
- **Replacement**: `Latest`, and `mem_foldl_add_iff`, a filter keeps the directives that are the
  last ones for their targets;
- **Decision**: `Decides`, and `deciding?_eq_some_iff`, the one directive that decides is the one
  with the longest target;
- **Showing**: `Passes`, `shows_iff_passes`, and `passes_perm` for directives in another order.
-/

namespace PairingSig

namespace Directive

variable {ds : List Directive} {d d' : Directive}

/-! ## Specificity -/

/-- A directive applies to the events whose target begins with its own. -/
def Applies (d : Directive) (e : Event) : Prop :=
  d.target <+: e.target.toList

theorem appliesTo_iff (h : d.scope = .all) (e : Event) : d.appliesTo e = true ↔ d.Applies e := by
  simp [appliesTo, h, Scope.covers, Applies]

theorem atLeast_iff (h : d.scope = .all) (h' : d'.scope = .all) :
    d.atLeast d' = true ↔ d'.target.length ≤ d.target.length := by
  simp [atLeast, h, h', Scope.atLeast]
  omega

theorem mostSpecific?_eq_none_iff : mostSpecific? ds = none ↔ ds = [] := by
  cases ds with
  | nil => simp [mostSpecific?]
  | cons d rest =>
    simp only [mostSpecific?, reduceCtorEq, iff_false]
    split
    · simp
    · split <;> simp

/-- The most specific directive of a list is in the list and has the longest target. -/
theorem longest_of_mostSpecific? (hscope : ∀ d ∈ ds, d.scope = .all)
    (h : mostSpecific? ds = some d) :
    d ∈ ds ∧ ∀ d' ∈ ds, d'.target.length ≤ d.target.length := by
  induction ds generalizing d with
  | nil => cases h
  | cons first rest ih =>
    rw [List.forall_mem_cons] at hscope ⊢
    rw [mostSpecific?] at h
    split at h
    · -- There is no other directive.
      rename_i hnone
      cases h
      obtain rfl := mostSpecific?_eq_none_iff.1 hnone
      simp
    · -- The first directive is compared with the best of the others.
      rename_i best hbest
      obtain ⟨hmem, hlongest⟩ := ih hscope.2 hbest
      have hle := atLeast_iff hscope.1 (hscope.2 best hmem)
      split at h
      · rename_i hfirst
        cases h
        refine ⟨List.mem_cons_self, Nat.le_refl _, fun d' hd' => ?_⟩
        exact Nat.le_trans (hlongest d' hd') (hle.1 hfirst)
      · rename_i hfirst
        cases h
        rw [hle] at hfirst
        exact ⟨List.mem_cons_of_mem _ hmem, Nat.le_of_not_le hfirst, hlongest⟩

end Directive

namespace Filter

variable {ds ds' : List Directive} {d d' : Directive} {e : Event}

/-! ## Replacement -/

/-- A directive that is not replaced: none that comes later has its target. -/
def Latest (ds : List Directive) (d : Directive) : Prop :=
  ∃ before after, ds = before ++ d :: after ∧ ∀ d' ∈ after, d'.target ≠ d.target

theorem Latest.mem (h : Latest ds d) : d ∈ ds := by
  obtain ⟨before, after, rfl, -⟩ := h
  simp

theorem not_latest_nil (d : Directive) : ¬ Latest [] d := by
  intro h
  simpa using h.mem

/-- One more directive replaces those with its target. -/
theorem latest_concat_iff {last : Directive} :
    Latest (ds ++ [last]) d ↔ d = last ∨ (Latest ds d ∧ d.target ≠ last.target) := by
  constructor
  · -- Either the directive stands last, or what stands behind it ends with the last one.
    rintro ⟨before, after, hds, hafter⟩
    rcases List.eq_nil_or_concat after with rfl | ⟨front, x, rfl⟩
    · left
      simpa using (List.append_inj' hds rfl).2.symm
    · right
      have hsplit : ds ++ [last] = (before ++ d :: front) ++ [x] := by simp [hds]
      obtain ⟨rfl, hx⟩ := List.append_inj' hsplit rfl
      obtain rfl : last = x := by simpa using hx
      refine ⟨⟨before, front, rfl, fun d' hd' => hafter d' (by simp [hd'])⟩, ?_⟩
      exact (hafter last (by simp)).symm
  · rintro (rfl | ⟨⟨before, after, rfl, hafter⟩, hne⟩)
    · exact ⟨ds, [], rfl, by simp⟩
    · refine ⟨before, after ++ [last], by simp, ?_⟩
      intro d' hd'
      rcases List.mem_append.1 hd' with hd' | hd'
      · exact hafter d' hd'
      · rw [List.mem_singleton.1 hd']
        exact hne.symm

theorem exists_latest (h : d ∈ ds) : ∃ d', Latest ds d' ∧ d'.target = d.target := by
  induction ds using List.reverseRecOn with
  | nil => simp at h
  | append_singleton ds last ih =>
    simp only [latest_concat_iff]
    by_cases htarget : d.target = last.target
    · exact ⟨last, .inl rfl, htarget.symm⟩
    · -- The last directive has another target, so the question is about those before it.
      have hmem : d ∈ ds := by
        rcases List.mem_append.1 h with h | h
        · exact h
        · exact absurd (congrArg Directive.target (List.mem_singleton.1 h)) htarget
      obtain ⟨d', hd', heq⟩ := ih hmem
      exact ⟨d', .inr ⟨hd', by rwa [heq]⟩, heq⟩

theorem Latest.unique (h : Latest ds d) (h' : Latest ds d') (htarget : d.target = d'.target) :
    d = d' := by
  induction ds using List.reverseRecOn with
  | nil => exact absurd h (not_latest_nil d)
  | append_singleton ds last ih =>
    rw [latest_concat_iff] at h h'
    -- Either both are the last directive, or neither is.
    rcases h with rfl | ⟨h, hne⟩
    · rcases h' with rfl | ⟨-, hne'⟩
      · rfl
      · exact absurd htarget.symm hne'
    · rcases h' with rfl | ⟨h', -⟩
      · exact absurd htarget hne
      · exact ih h h'

/-- Where targets are pairwise distinct, nothing is replaced. -/
theorem latest_iff_mem (h : (ds.map Directive.target).Nodup) : Latest ds d ↔ d ∈ ds := by
  refine ⟨Latest.mem, fun hd => ?_⟩
  obtain ⟨d', hd', htarget⟩ := exists_latest hd
  rwa [← List.inj_on_of_nodup_map h hd'.mem hd htarget]

theorem mem_add_iff {f : Filter} (h : ∀ d ∈ f.directives, d.scope = .all) {last : Directive}
    (hlast : last.scope = .all) :
    d ∈ (f.add last).directives ↔ d = last ∨ (d ∈ f.directives ∧ d.target ≠ last.target) := by
  simp only [add, List.mem_append, List.mem_filter, List.mem_singleton]
  rw [or_comm]
  apply or_congr_right
  apply and_congr_right
  intro hd
  simp [h d hd, hlast]

/-- What a filter keeps when directives are added one after the other. -/
theorem mem_foldl_add_iff (h : ∀ d ∈ ds, d.scope = .all) :
    d ∈ (ds.foldl add ⟨[]⟩).directives ↔ Latest ds d := by
  induction ds using List.reverseRecOn generalizing d with
  | nil => simp [not_latest_nil]
  | append_singleton ds last ih =>
    rw [List.forall_mem_append, List.forall_mem_singleton] at h
    have hkept : ∀ d ∈ (ds.foldl add ⟨[]⟩).directives, d.scope = .all :=
      fun d hd => h.1 d ((ih h.1).1 hd).mem
    rw [List.foldl_append, List.foldl_cons, List.foldl_nil, mem_add_iff hkept h.2, ih h.1,
      latest_concat_iff]

/-! ## Decision -/

/-- Which directive decides on an event: of those that apply the one with the longest target, and of
those with this target the last one. -/
structure Decides (ds : List Directive) (e : Event) (d : Directive) : Prop where
  latest : Latest ds d
  applies : d.Applies e
  longest : ∀ d' ∈ ds, d'.Applies e → d'.target.length ≤ d.target.length

theorem Decides.unique (h : Decides ds e d) (h' : Decides ds e d') : d = d' := by
  apply h.latest.unique h'.latest
  -- Targets of one length that begin the same text are the same.
  have hlength : d.target.length = d'.target.length :=
    Nat.le_antisymm (h'.longest d h.latest.mem h.applies) (h.longest d' h'.latest.mem h'.applies)
  exact (List.prefix_of_prefix_length_le h.applies h'.applies (Nat.le_of_eq hlength)).eq_of_length
    hlength

theorem ofDirectives_eq (hne : ds ≠ []) : ofDirectives ds = ds.foldl add ⟨[]⟩ := by
  simp [ofDirectives, hne]

/-- The directives of a filter that apply to an event. -/
theorem mem_applicable_iff (hne : ds ≠ []) (hscope : ∀ d ∈ ds, d.scope = .all) :
    d ∈ (ofDirectives ds).applicable e ↔ Latest ds d ∧ d.Applies e := by
  rw [applicable, List.mem_filter, ofDirectives_eq hne, mem_foldl_add_iff hscope]
  apply and_congr_right
  intro hd
  exact Directive.appliesTo_iff (hscope d hd.mem) e

theorem decides_of_deciding? (hne : ds ≠ []) (hscope : ∀ d ∈ ds, d.scope = .all)
    (h : (ofDirectives ds).deciding? e = some d) : Decides ds e d := by
  have hall : ∀ d ∈ (ofDirectives ds).applicable e, d.scope = .all :=
    fun d hd => hscope d ((mem_applicable_iff hne hscope).1 hd).1.mem
  obtain ⟨hmem, hlongest⟩ := Directive.longest_of_mostSpecific? hall h
  obtain ⟨hlatest, happlies⟩ := (mem_applicable_iff hne hscope).1 hmem
  refine ⟨hlatest, happlies, fun d' hd' hd'e => ?_⟩
  -- A directive that was replaced is no longer than the one in its place.
  obtain ⟨d'', hd'', htarget⟩ := exists_latest hd'
  have hd''e : d''.Applies e := by rwa [Directive.Applies, htarget]
  rw [← htarget]
  exact hlongest d'' ((mem_applicable_iff hne hscope).2 ⟨hd'', hd''e⟩)

/-- If any directive applies to an event, one decides on it. -/
theorem exists_deciding? (hne : ds ≠ []) (hscope : ∀ d ∈ ds, d.scope = .all) (hd : d ∈ ds)
    (happlies : d.Applies e) : ∃ d', (ofDirectives ds).deciding? e = some d' := by
  obtain ⟨d', hd', htarget⟩ := exists_latest hd
  have hd'e : d'.Applies e := by rwa [Directive.Applies, htarget]
  have hmem := (mem_applicable_iff hne hscope).2 ⟨hd', hd'e⟩
  rw [← Option.ne_none_iff_exists', deciding?, Ne, Directive.mostSpecific?_eq_none_iff]
  exact List.ne_nil_of_mem hmem

theorem deciding?_eq_some_iff (hne : ds ≠ []) (hscope : ∀ d ∈ ds, d.scope = .all) :
    (ofDirectives ds).deciding? e = some d ↔ Decides ds e d := by
  refine ⟨decides_of_deciding? hne hscope, fun h => ?_⟩
  obtain ⟨d', hd'⟩ := exists_deciding? hne hscope h.latest.mem h.applies
  rw [hd', h.unique (decides_of_deciding? hne hscope hd')]

/-! ## Showing -/

/-- The directive that decides on an event lets it be. -/
def Passes (ds : List Directive) (e : Event) : Prop :=
  ∃ d, Decides ds e d ∧ e.level.rank ≤ d.level.rank

theorem shows_iff_passes_of_ne_nil (hne : ds ≠ []) (hscope : ∀ d ∈ ds, d.scope = .all) :
    (ofDirectives ds).shows e = true ↔ Passes ds e := by
  rw [shows, Passes]
  cases h : (ofDirectives ds).deciding? e with
  | none =>
    -- Without a directive that applies nothing is shown, and nothing decides.
    constructor
    · simp
    · rintro ⟨d, hd, -⟩
      rw [(deciding?_eq_some_iff hne hscope).2 hd] at h
      cases h
  | some d =>
    have hd := (deciding?_eq_some_iff hne hscope).1 h
    constructor
    · intro hrank
      exact ⟨d, hd, by simpa using hrank⟩
    · rintro ⟨d', hd', hrank⟩
      simpa [hd.unique hd'] using hrank

theorem upTo_eq_ofDirectives (l : Level) : upTo l = ofDirectives [⟨[], .all, l⟩] := rfl

theorem passes_level_iff (l : Level) : Passes [⟨[], .all, l⟩] e ↔ e.level.rank ≤ l.rank := by
  constructor
  · rintro ⟨d, hd, hrank⟩
    rwa [List.mem_singleton.1 hd.latest.mem] at hrank
  · intro hrank
    exact ⟨⟨[], .all, l⟩, ⟨⟨[], [], rfl, by simp⟩, List.nil_prefix, by simp⟩, hrank⟩

/-- No event is an error. -/
theorem error_lt_level (e : Event) : Level.error.rank < e.level.rank := by
  cases e <;> simp [Event.level, Level.rank]

/-- **A filter shows the events that pass its directives.** Without any directive it shows errors,
and so no event at all. -/
theorem shows_iff_passes (hscope : ∀ d ∈ ds, d.scope = .all) (e : Event) :
    (ofDirectives ds).shows e = true ↔ Passes ds e := by
  cases ds with
  | nil =>
    have hdefault : ofDirectives [] = ofDirectives [⟨[], .all, .error⟩] := rfl
    rw [hdefault, shows_iff_passes_of_ne_nil (List.cons_ne_nil _ _) (by simp), passes_level_iff]
    refine iff_of_false (Nat.not_le.2 (error_lt_level e)) ?_
    rintro ⟨d, hd, -⟩
    exact not_latest_nil d hd.latest
  | cons d rest => exact shows_iff_passes_of_ne_nil (List.cons_ne_nil d rest) hscope

/-- Directives with pairwise distinct targets decide in any order. -/
theorem decides_perm (h : ds.Perm ds') (hnodup : (ds.map Directive.target).Nodup) :
    Decides ds e d ↔ Decides ds' e d := by
  have hnodup' := (h.map Directive.target).nodup_iff.1 hnodup
  have hlatest : Latest ds d ↔ Latest ds' d := by
    rw [latest_iff_mem hnodup, latest_iff_mem hnodup', h.mem_iff]
  constructor
  · exact fun hd => ⟨hlatest.1 hd.latest, hd.applies, fun d' hd' => hd.longest d' (h.mem_iff.2 hd')⟩
  · exact fun hd => ⟨hlatest.2 hd.latest, hd.applies, fun d' hd' => hd.longest d' (h.mem_iff.1 hd')⟩

theorem passes_perm (h : ds.Perm ds') (hnodup : (ds.map Directive.target).Nodup) :
    Passes ds e ↔ Passes ds' e := by
  simp only [Passes, decides_perm h hnodup]

end Filter

end PairingSig
