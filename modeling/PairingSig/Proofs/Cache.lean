import Mathlib.Data.List.Dedup
import Mathlib.Data.List.Nodup
import PairingSig.Cache

/-!
# The keys of a cache

A cache of capacity `n` that sees a list of keys ends up with the first `n` keys of
`recency keys`, all keys ever seen, the last one seen first. This module has the facts about lists
of keys that make that so, and what the two operations of a cache do to its keys.

- **Orders**: seeing a key puts it in front (`recency_concat`).
- **Cutting off**: what lies beyond the capacity never comes back, so it makes no difference whether
  a list of keys is cut off before a key is put in front or only afterwards
  (`take_toFront_take`, `toFront_take_of_mem`).
- **Operations**: a key in use goes to the front (`keys_use?`), an inserted key goes to the front
  and the rest is cut off (`keys_insert`).
-/

namespace PairingSig

variable {κ α : Type}

namespace Cache

/-- The keys of a cache, the most recently used one first. -/
def keys (c : Cache κ α) : List κ :=
  c.entries.map Prod.fst

@[simp] theorem keys_empty (capacity : Nat) : (empty capacity : Cache κ α).keys = [] := rfl

theorem length_keys (c : Cache κ α) : c.keys.length = c.size :=
  List.length_map Prod.fst

end Cache

variable [DecidableEq κ]

/-! ## Orders of keys -/

/-- A list of keys with one key put in front. -/
def toFront (key : κ) (keys : List κ) : List κ :=
  key :: keys.filter (· ≠ key)

/-- The distinct keys of a history, those seen last first. -/
def recency (history : List κ) : List κ :=
  history.dedup.reverse

@[simp] theorem recency_nil : recency ([] : List κ) = [] := rfl

theorem nodup_recency (history : List κ) : (recency history).Nodup :=
  List.nodup_reverse.2 (List.nodup_dedup history)

@[simp] theorem mem_recency {key : κ} {history : List κ} :
    key ∈ recency history ↔ key ∈ history := by
  simp [recency]

theorem dedup_concat (history : List κ) (key : κ) :
    (history ++ [key]).dedup = history.dedup.filter (· ≠ key) ++ [key] := by
  induction history with
  | nil => rfl
  | cons k rest ih =>
    rw [List.cons_append]
    by_cases hrest : k ∈ rest
    · -- `k` is seen again anyway.
      rw [List.dedup_cons_of_mem (List.mem_append_left _ hrest), List.dedup_cons_of_mem hrest, ih]
    · rw [List.dedup_cons_of_notMem hrest]
      by_cases hk : k = key
      · -- The last key is the one that sees `k` again.
        subst hk
        rw [List.dedup_cons_of_mem (by simp), ih, List.filter_cons_of_neg (by simp)]
      · have hnot : k ∉ rest ++ [key] := by simp [hrest, hk]
        rw [List.dedup_cons_of_notMem hnot, ih, List.filter_cons_of_pos (by simp [hk])]
        rfl

/-- Seeing a key puts it in front of the others. -/
theorem recency_concat (history : List κ) (key : κ) :
    recency (history ++ [key]) = toFront key (recency history) := by
  rw [recency, dedup_concat, List.reverse_append, ← List.filter_reverse]
  rfl

example : recency [1, 2, 1, 3] = [3, 1, 2] := by decide

/-! ## Cutting off -/

theorem length_toFront_of_mem {key : κ} {keys : List κ} (hnodup : keys.Nodup)
    (hmem : key ∈ keys) : (toFront key keys).length = keys.length := by
  -- Without repeats, what is filtered out is one element.
  have herase : keys.filter (· ≠ key) = keys.erase key := by
    rw [hnodup.erase_eq_filter]
    exact List.filter_congr fun k _ => by by_cases hk : k = key <;> simp [hk]
  rw [toFront, List.length_cons, herase, List.length_erase_of_mem hmem]
  exact Nat.sub_add_cancel (List.length_pos_of_mem hmem)

/-- Leaving out one key moves the others up by one place at most. -/
theorem take_filter_ne_take {keys : List κ} (hnodup : keys.Nodup) (key : κ) (n : Nat) :
    ((keys.take (n + 1)).filter (· ≠ key)).take n = (keys.filter (· ≠ key)).take n := by
  induction keys generalizing n with
  | nil => rfl
  | cons k rest ih =>
    obtain ⟨hk, hrest⟩ := List.nodup_cons.1 hnodup
    rw [List.take_succ_cons]
    by_cases hkey : k = key
    · -- The key is this one, and no other, so nothing else is left out of either list.
      subst hkey
      have hne : ∀ k' ∈ rest, decide (k' ≠ k) = true := fun k' hk' =>
        decide_eq_true fun h => hk (h ▸ hk')
      have htake : ∀ k' ∈ rest.take n, decide (k' ≠ k) = true := fun k' hk' =>
        hne k' (List.mem_of_mem_take hk')
      rw [List.filter_cons_of_neg (by simp), List.filter_cons_of_neg (by simp),
        List.filter_eq_self.2 hne, List.filter_eq_self.2 htake, List.take_take, Nat.min_self]
    · -- The first key stays, and the question is about the rest, with one place less.
      rw [List.filter_cons_of_pos (by simp [hkey]), List.filter_cons_of_pos (by simp [hkey])]
      cases n with
      | zero => rfl
      | succ n => rw [List.take_succ_cons, List.take_succ_cons, ih hrest]

/-- A key put in front of the first `n` keys gives the same first `n` keys as one put in front of
them all. -/
theorem take_toFront_take {keys : List κ} (hnodup : keys.Nodup) (key : κ) (n : Nat) :
    (toFront key (keys.take n)).take n = (toFront key keys).take n := by
  cases n with
  | zero => rfl
  | succ n => rw [toFront, toFront, List.take_succ_cons, List.take_succ_cons,
      take_filter_ne_take hnodup]

/-- Putting one of the first `n` keys in front needs no cutting off. -/
theorem toFront_take_of_mem {key : κ} {keys : List κ} {n : Nat} (hnodup : keys.Nodup)
    (hmem : key ∈ keys.take n) : toFront key (keys.take n) = (toFront key keys).take n := by
  have hlength : (toFront key (keys.take n)).length ≤ n := by
    rw [length_toFront_of_mem (hnodup.sublist (List.take_sublist n keys)) hmem]
    exact List.length_take_le n keys
  rw [← take_toFront_take hnodup, List.take_of_length_le hlength]

/-! ## Operations -/

namespace Cache

theorem mem_others {key : κ} {entries : List (κ × α)} {e : κ × α} :
    e ∈ others key entries ↔ e ∈ entries ∧ e.1 ≠ key := by
  simp [others]

theorem map_fst_others (key : κ) (entries : List (κ × α)) :
    (others key entries).map Prod.fst = (entries.map Prod.fst).filter (· ≠ key) := by
  rw [List.filter_map]
  rfl

theorem use?_eq_none_iff {c : Cache κ α} {key : κ} : c.use? key = none ↔ key ∉ c.keys := by
  unfold use?
  split
  · rename_i h
    have hnone : ∀ e ∈ c.entries, e.1 ≠ key := by simpa using List.find?_eq_none.1 h
    simp only [keys, List.mem_map, true_iff]
    rintro ⟨e, he, hkey⟩
    exact hnone e he hkey
  · rename_i e h
    have he : e.1 = key := by simpa using List.find?_some h
    have hmem : key ∈ c.keys := he ▸ List.mem_map_of_mem (List.mem_of_find?_eq_some h)
    simp [hmem]

/-- A key in use is the key of an entry, which goes to the front. -/
theorem use?_eq_some {c d : Cache κ α} {key : κ} {value : α} (h : c.use? key = some (value, d)) :
    (key, value) ∈ c.entries ∧ d = ⟨c.capacity, (key, value) :: others key c.entries⟩ := by
  unfold use? at h
  split at h
  · cases h
  · rename_i e hfind
    have he : e.1 = key := by simpa using List.find?_some hfind
    cases h
    subst he
    exact ⟨List.mem_of_find?_eq_some hfind, rfl⟩

theorem keys_use? {c d : Cache κ α} {key : κ} {value : α} (h : c.use? key = some (value, d)) :
    d.keys = toFront key c.keys := by
  obtain ⟨-, rfl⟩ := use?_eq_some h
  rw [keys, List.map_cons, map_fst_others]
  rfl

theorem mem_use? {c d : Cache κ α} {key : κ} {value : α} (h : c.use? key = some (value, d))
    {e : κ × α} (he : e ∈ d.entries) : e ∈ c.entries := by
  obtain ⟨hmem, rfl⟩ := use?_eq_some h
  obtain rfl | he := List.mem_cons.1 he
  · exact hmem
  · exact (mem_others.1 he).1

@[simp] theorem capacity_insert (c : Cache κ α) (key : κ) (value : α) :
    (c.insert key value).capacity = c.capacity := rfl

theorem keys_insert (c : Cache κ α) (key : κ) (value : α) :
    (c.insert key value).keys = (toFront key c.keys).take c.capacity := by
  rw [keys, insert, List.map_take, List.map_cons, map_fst_others]
  rfl

theorem mem_insert {c : Cache κ α} {key : κ} {value : α} {e : κ × α}
    (he : e ∈ (c.insert key value).entries) : e = (key, value) ∨ e ∈ c.entries := by
  obtain rfl | he := List.mem_cons.1 (List.mem_of_mem_take he)
  · exact .inl rfl
  · exact .inr (mem_others.1 he).1

end Cache

end PairingSig
