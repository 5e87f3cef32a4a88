import PairingSig.Proofs.Verifier.Steps

/-!
# What a verifier remembers

The cache of a verifier is a function of the keys looked up so far: it holds the readable ones among
them that were looked up last, as many as its capacity allows, in the order of their last lookup. A
lookup misses exactly when its key is not among these.

The invariant is `Remembers`, which relates a verifier to the list of all keys looked up so far. One
lookup extends that list by its key (`Remembers.lookup`), and a run by the keys of its steps.
-/

namespace PairingSig.Verifier

/-! ## Histories of lookups -/

section Histories

variable (G : PairingGroups)

/-- The readable keys of a history, each once, those looked up last first. -/
def recent (history : List Bytes) : List Bytes :=
  recency (history.filter (readable G))

/-- The cache misses that looking up keys after a history causes in a cache of a capacity: a key
misses when it is not readable or not among the most recent keys before it. -/
def missEvents (capacity : Nat) (history : List Bytes) : List Bytes → List Event
  | [] => []
  | k :: rest =>
    (if readable G k && ((recent G history).take capacity).contains k then [] else [.cacheMiss]) ++
      missEvents capacity (history ++ [k]) rest

variable {G}

theorem nodup_recent (history : List Bytes) : (recent G history).Nodup :=
  nodup_recency _

@[simp] theorem mem_recent {k : Bytes} {history : List Bytes} :
    k ∈ recent G history ↔ k ∈ history ∧ readable G k = true := by
  simp [recent]

theorem recent_concat_readable (history : List Bytes) {k : Bytes} (hk : readable G k = true) :
    recent G (history ++ [k]) = toFront k (recent G history) := by
  rw [recent, List.filter_append, List.filter_cons_of_pos hk, List.filter_nil, recency_concat]
  rfl

theorem recent_concat_unreadable (history : List Bytes) {k : Bytes} (hk : readable G k = false) :
    recent G (history ++ [k]) = recent G history := by
  have hfilter : [k].filter (readable G) = [] := by simp [hk]
  rw [recent, List.filter_append, hfilter, List.append_nil]
  rfl

end Histories

/-! ## The invariant -/

variable {G : PairingGroups}

/-- A verifier of a capacity that has looked up a history of keys. -/
structure Remembers (capacity : Nat) (history : List Bytes) (v : Verifier G) : Prop where
  capacity_eq : v.cache.capacity = capacity
  keys_eq : v.cache.keys = (recent G history).take capacity
  sound : v.Sound

namespace Remembers

variable {capacity : Nat} {history : List Bytes} {v : Verifier G}

theorem fresh (capacity : Nat) : Remembers capacity [] (Verifier.fresh capacity : Verifier G) where
  capacity_eq := rfl
  keys_eq := (List.take_nil).symm
  sound := sound_fresh capacity

theorem mem_keys_iff (h : Remembers capacity history v) (k : Bytes) :
    k ∈ v.cache.keys ↔ readable G k = true ∧ k ∈ (recent G history).take capacity := by
  rw [h.keys_eq, iff_and_self]
  exact fun hk => (mem_recent.1 (List.mem_of_mem_take hk)).2

theorem verdict (h : Remembers capacity history v) {k : Bytes}
    {r : Outcome (PublicKey G) × Verifier G} (hr : LookupVerdict v k r) :
    Remembers capacity (history ++ [k]) r.2 := by
  have hsound := hr.sound h.sound
  have hnodup := nodup_recent (G := G) history
  cases hr with
  -- No key is given up, so the first keys are only put in another order.
  | @hit key c hmem huse hkey =>
    obtain ⟨-, hc⟩ := Cache.use?_eq_some huse
    refine ⟨by rw [hc, h.capacity_eq], ?_, hsound⟩
    rw [h.keys_eq] at hmem
    rw [recent_concat_readable history (readable_of_ok hkey), ← toFront_take_of_mem hnodup hmem,
      ← h.keys_eq]
    exact Cache.keys_use? huse
  -- What the cache has given up before is beyond its capacity now as well.
  | @read key _ hkey =>
    refine ⟨h.capacity_eq, ?_, hsound⟩
    rw [recent_concat_readable history (readable_of_ok hkey), ← take_toFront_take hnodup,
      ← h.keys_eq, ← h.capacity_eq]
    exact Cache.keys_insert v.cache k key
  | unreadable _ hkey =>
    refine ⟨h.capacity_eq, ?_, h.sound⟩
    rw [recent_concat_unreadable history (readable_of_error hkey)]
    exact h.keys_eq

/-- Looking up a key adds it to the history. -/
theorem lookup (h : Remembers capacity history v) (k : Bytes) :
    Remembers capacity (history ++ [k]) (v.lookup k).2 :=
  h.verdict (lookup_verdict h.sound k)

theorem lookedUp (h : Remembers capacity history v) (keys : List Bytes) :
    Remembers capacity (history ++ keys) (v.lookedUp keys) := by
  induction keys generalizing history v with
  | nil =>
    rw [List.append_nil]
    exact h
  | cons k rest ih =>
    rw [lookedUp_cons, List.append_cons]
    exact ih (h.lookup k)

theorem run (h : Remembers capacity history v) (steps : List Step) :
    Remembers capacity (history ++ steps.flatMap (lookups G)) (v.run steps).2 := by
  rw [state_run h.sound]
  exact h.lookedUp _

/-! ### Consequences -/

theorem cachedKeys_eq (h : Remembers capacity history v) :
    v.cachedKeys = min capacity (recent G history).length := by
  rw [cachedKeys, ← Cache.length_keys, h.keys_eq, List.length_take]

theorem lookup_unreadable (h : Remembers capacity history v) {k : Bytes}
    (hk : readable G k = false) : (v.lookup k).2 = v := by
  have hverdict := lookup_verdict h.sound k
  generalize v.lookup k = r at hverdict ⊢
  cases hverdict with
  -- What is remembered and what is read can be read.
  | hit _ _ hkey => cases (readable_of_ok hkey).symm.trans hk
  | read _ hkey => cases (readable_of_ok hkey).symm.trans hk
  | unreadable _ _ => rfl

theorem events_lookup (h : Remembers capacity history v) (k : Bytes) :
    (v.lookup k).1.events =
      if readable G k && ((recent G history).take capacity).contains k then []
      else [.cacheMiss] := by
  rw [Verifier.events_lookup h.sound]
  exact if_congr (by simp [h.mem_keys_iff]) rfl rfl

theorem cacheMiss_mem_lookup_iff (h : Remembers capacity history v) (k : Bytes) :
    Event.cacheMiss ∈ (v.lookup k).1.events ↔
      readable G k = false ∨ k ∉ (recent G history).take capacity := by
  rw [Verifier.events_lookup h.sound, ← Bool.not_eq_true, ← not_and_or, ← h.mem_keys_iff]
  split <;> simp [*]

theorem lookupEvents_eq (h : Remembers capacity history v) (keys : List Bytes) :
    v.lookupEvents keys = missEvents G capacity history keys := by
  induction keys generalizing history v with
  | nil => rfl
  | cons k rest ih => rw [lookupEvents, missEvents, h.events_lookup, ih (h.lookup k)]

end Remembers

/-- After any run of a verifier of any capacity, its cache holds the most recent readable keys of
the run's lookups in their order, each with what is read from it. Further lookups, on their own or
within a step, leave it alone if their key is not readable, and miss exactly if it is not readable
or not among the most recent. -/
theorem run_remembers_recent (capacity : Nat) (steps : List Step) :
    let v : Verifier G := ((fresh capacity : Verifier G).run steps).2
    let history := steps.flatMap (lookups G)
    (v.cache.keys = (recent G history).take capacity ∧
        (∀ e ∈ v.cache.entries, PublicKey.decode e.1 = .ok e.2) ∧
        v.cachedKeys = min capacity (recent G history).length) ∧
      (∀ before k,
        let w := v.lookedUp before
        (readable G k = false → (w.lookup k).2 = w) ∧
          (Event.cacheMiss ∈ (w.lookup k).1.events ↔
            readable G k = false ∨ k ∉ (recent G (history ++ before)).take capacity)) ∧
      ∀ s, ∃ rest, Event.cacheMiss ∉ rest ∧
        (v.step s).1.events = missEvents G capacity history (lookups G s) ++ rest := by
  intro v history
  have hv : Remembers capacity history v := (Remembers.fresh capacity).run steps
  refine ⟨⟨hv.keys_eq, hv.sound, hv.cachedKeys_eq⟩, fun before k => ?_, fun s => ?_⟩
  -- Lookups on their own extend the history of the run.
  · have hw := hv.lookedUp before
    exact ⟨hw.lookup_unreadable, hw.cacheMiss_mem_lookup_iff k⟩
  -- The lookups of a step follow on the history of the run.
  · obtain ⟨rest, hrest, hevents⟩ := events_step hv.sound s
    rw [hv.lookupEvents_eq] at hevents
    exact ⟨rest, hrest, hevents⟩

end PairingSig.Verifier
