import PairingSig.Bls12381
import PairingSig.Proofs.Verifier.Recency

/-!
# Verifiers of different capacities

A larger cache never hurts. Two verifiers that have looked up the same keys remember the same keys
in the same order, except that the smaller one gives up more of them at the end. So they answer
alike, and what the smaller one still remembers is no miss for the larger one.
-/

namespace PairingSig.Verifier

variable {G : PairingGroups}

/-! ## What is remembered -/

/-- What reading a key adds to a cache. -/
def readEntry (G : PairingGroups) (written : Bytes) : Option (Bytes × PublicKey G) :=
  (PublicKey.decode written).toOption.map (written, ·)

/-- A sound verifier remembers nothing but keys and what reading them gives. -/
theorem Sound.entries_eq {v : Verifier G} (hv : v.Sound) :
    v.cache.entries = v.cache.keys.filterMap (readEntry G) := by
  have hentry : ∀ e ∈ v.cache.entries, readEntry G e.1 = some e := by
    intro e he
    rw [readEntry, hv e he]
    rfl
  calc v.cache.entries
      = v.cache.entries.filterMap some := List.filterMap_some.symm
    _ = v.cache.entries.filterMap (readEntry G ∘ Prod.fst) := (List.filterMap_congr hentry).symm
    _ = v.cache.keys.filterMap (readEntry G) := List.filterMap_map.symm

/-- The smaller verifier remembers the first of what the larger one remembers. -/
theorem Remembers.initial_entries {c c' : Nat} (hc : c ≤ c') {history : List Bytes}
    {v w : Verifier G} (hv : Remembers c history v) (hw : Remembers c' history w) :
    v.cache.entries <+: w.cache.entries := by
  -- Both remember the beginning of one list of keys.
  have hkeys : v.cache.keys <+: w.cache.keys := by
    rw [hv.keys_eq, hw.keys_eq]
    exact List.take_prefix_take_left hc
  rw [hv.sound.entries_eq, hw.sound.entries_eq]
  exact hkeys.filterMap (readEntry G)

/-! ## Answers and misses -/

/-- Of two reports on one step, the second has the same answer and no more misses. -/
structure Report.NoWorse (small large : Report) : Prop where
  result_eq : small.outcome.result = large.outcome.result
  misses_le : large.misses ≤ small.misses

/-- The answer of a step does not depend on what is remembered. -/
theorem result_step_eq {v w : Verifier G} (hv : v.Sound) (hw : w.Sound) (s : Step) :
    (v.step s).1.result = (w.step s).1.result := by
  cases s with
  | verify k m t =>
    show (v.verify k m t).1.result.map _ = (w.verify k m t).1.result.map _
    rw [verify_eq, verify_eq, result_lookup hv, result_lookup hw]
  | aggregate sigs => rfl
  | verifyAggregate ks ms t =>
    show (v.verifyAggregate ks ms t).1.result.map _ = (w.verifyAggregate ks ms t).1.result.map _
    by_cases hne : ks = []
    · subst hne
      rfl
    -- Both read the keys, whichever of them they remember.
    · obtain ⟨_, -, hv'⟩ := verifyAggregate_eq v hne ms t
      obtain ⟨_, -, hw'⟩ := verifyAggregate_eq w hne ms t
      rw [hv', hw', lookupAll_eq hv, lookupAll_eq hw]

theorem count_missEvents_le {c c' : Nat} (hc : c ≤ c') (history keys : List Bytes) :
    (missEvents G c' history keys).count .cacheMiss ≤
      (missEvents G c history keys).count .cacheMiss := by
  induction keys generalizing history with
  | nil => exact Nat.le_refl 0
  | cons k rest ih =>
    rw [missEvents, missEvents, List.count_append, List.count_append]
    refine Nat.add_le_add ?_ (ih _)
    split
    · exact Nat.zero_le _
    -- A key that is not among more keys is not among fewer.
    · rename_i hlarge
      have hsmall : ¬ (readable G k && ((recent G history).take c).contains k) = true := by
        simp only [Bool.and_eq_true, List.contains_iff_mem] at hlarge ⊢
        exact fun h => hlarge ⟨h.1, (List.take_sublist_take_left hc).mem h.2⟩
      exact Nat.le_of_eq (by rw [if_neg hsmall])

theorem Remembers.misses_step {capacity : Nat} {history : List Bytes} {v : Verifier G}
    (h : Remembers capacity history v) (s : Step) :
    (v.step s).1.events.count .cacheMiss =
      (missEvents G capacity history (lookups G s)).count .cacheMiss := by
  rw [count_cacheMiss_step h.sound, h.lookupEvents_eq]

/-- With more capacity every step of a run answers the same and misses no more often. -/
theorem forall₂_run {c c' : Nat} (hc : c ≤ c') {history : List Bytes} {v w : Verifier G}
    (hv : Remembers c history v) (hw : Remembers c' history w) (steps : List Step) :
    List.Forall₂ Report.NoWorse (v.run steps).1 (w.run steps).1 := by
  induction steps generalizing history v w with
  | nil => exact .nil
  | cons s rest ih =>
    refine .cons ⟨result_step_eq hv.sound hw.sound s, ?_⟩ ?_
    · show (w.step s).1.events.count .cacheMiss ≤ (v.step s).1.events.count .cacheMiss
      rw [hv.misses_step, hw.misses_step]
      exact count_missEvents_le hc history (lookups G s)
    -- Both verifiers have looked up the keys of this step as well.
    · have hv' := hv.run [s]
      have hw' := hw.run [s]
      exact ih hv' hw'

/-! ## Runs -/

/-- **A larger cache never hurts.** Two new verifiers go through the same steps, the second with at
least the capacity of the first. After every part of the run the first remembers the first few of
what the second remembers, in the same order and with the same points; and in every step both answer
the same, and the second misses at most as many keys. -/
theorem run_larger_capacity {c c' : Nat} (hc : c ≤ c') (steps : List Step) :
    (∀ before, before <+: steps →
      ((fresh c : Verifier G).run before).2.cache.entries <+:
        ((fresh c' : Verifier G).run before).2.cache.entries) ∧
    List.Forall₂ Report.NoWorse
      ((fresh c : Verifier G).run steps).1 ((fresh c' : Verifier G).run steps).1 := by
  have hv := Remembers.fresh (G := G) c
  have hw := Remembers.fresh (G := G) c'
  exact ⟨fun before _ => (hv.run before).initial_entries hc (hw.run before),
    forall₂_run hc hv hw steps⟩

/-- The same key is used twice. -/
def sampleSteps : List Step :=
  let key := Compressed.encode baseGenerator
  [.verify key [] [], .verify key [] []]

theorem run_larger_capacity_sampleSteps :
    let small := (fresh 0 : Verifier standardGroups).run sampleSteps
    let large := (fresh 1 : Verifier standardGroups).run sampleSteps
    small.1.map Report.misses = [1, 1] ∧ large.1.map Report.misses = [1, 0] ∧
    0 ≤ 1 ∧ small.2.cache.entries <+: large.2.cache.entries ∧
    List.Forall₂ Report.NoWorse small.1 large.1 := by
  obtain ⟨hentries, hreports⟩ :=
    run_larger_capacity (G := standardGroups) (Nat.zero_le 1) sampleSteps
  exact ⟨by decide +kernel, by decide +kernel, Nat.zero_le 1,
    hentries sampleSteps (List.prefix_refl sampleSteps), hreports⟩

end PairingSig.Verifier
