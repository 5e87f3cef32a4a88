import PairingSig.Proofs.Cache
import PairingSig.Proofs.Traversal
import PairingSig.Verifier

/-!
# Looking up keys

Everything a verifier does to its cache it does by looking up keys, so what holds of its states is
shown for one lookup and carried along the list of keys that a run looks up.

- **One lookup**: `LookupVerdict` lists what it can come to; its answer and its events are read off
  the cases (`result_lookup` and `events_lookup`).
- **The invariant**: in a `Sound` verifier every remembered key is what reading its written form
  gives. Lookups preserve it.
- **Lists of keys**: `lookups` are the keys that a step looks up, and `state_run` says that a run
  leaves the verifier as looking up all of them in order does.
-/

namespace PairingSig.Verifier

variable {G : PairingGroups}

/-- Every remembered key is the one that reading its written form gives. -/
def Sound (v : Verifier G) : Prop :=
  ∀ e ∈ v.cache.entries, PublicKey.decode e.1 = .ok e.2

theorem sound_fresh (capacity : Nat) : (fresh capacity : Verifier G).Sound :=
  List.forall_mem_nil _

/-! ## One lookup -/

/-- What a lookup comes to, with the verifier that it leaves. -/
inductive LookupVerdict (v : Verifier G) (written : Bytes) :
    Outcome (PublicKey G) × Verifier G → Prop where
  /-- A remembered key goes to the front, silently. -/
  | hit {k : PublicKey G} {c : Cache Bytes (PublicKey G)} :
      written ∈ v.cache.keys → v.cache.use? written = some (k, c) →
      PublicKey.decode written = .ok k → LookupVerdict v written (.ok k [], ⟨c⟩)
  /-- Any other key is read, and then it is remembered. -/
  | read {k : PublicKey G} :
      written ∉ v.cache.keys → PublicKey.decode written = .ok k →
      LookupVerdict v written (.ok k [.cacheMiss], ⟨v.cache.insert written k⟩)
  /-- What cannot be read changes nothing. -/
  | unreadable {f : Fault} :
      written ∉ v.cache.keys →
      (PublicKey.decode written : Except Fault (PublicKey G)) = .error f →
      LookupVerdict v written (.fail f [.cacheMiss], v)

theorem lookup_verdict {v : Verifier G} (hv : v.Sound) (written : Bytes) :
    LookupVerdict v written (v.lookup written) := by
  unfold lookup
  cases huse : v.cache.use? written with
  | some found =>
    -- What is found was remembered, so reading the key would have given it too.
    obtain ⟨k, c⟩ := found
    obtain ⟨hmem, -⟩ := Cache.use?_eq_some huse
    exact .hit (List.mem_map_of_mem hmem) huse (hv _ hmem)
  | none =>
    have hnotMem := Cache.use?_eq_none_iff.1 huse
    cases hk : (PublicKey.decode written : Except Fault (PublicKey G)) with
    | error f => exact .unreadable hnotMem hk
    | ok k => exact .read hnotMem hk

namespace LookupVerdict

variable {v : Verifier G} {written : Bytes} {r : Outcome (PublicKey G) × Verifier G}

theorem result_eq (h : LookupVerdict v written r) : r.1.result = PublicKey.decode written := by
  cases h with
  | hit _ _ hk => rw [hk, Outcome.result_ok]
  | read _ hk => rw [hk, Outcome.result_ok]
  | unreadable _ hf => rw [hf, Outcome.result_fail]

theorem events_eq (h : LookupVerdict v written r) :
    r.1.events = if written ∈ v.cache.keys then [] else [.cacheMiss] := by
  cases h with
  | hit hmem _ _ => rw [if_pos hmem, Outcome.events_ok]
  | read hnotMem _ => rw [if_neg hnotMem, Outcome.events_ok]
  | unreadable hnotMem _ => rw [if_neg hnotMem, Outcome.events_fail]

theorem sound (h : LookupVerdict v written r) (hv : v.Sound) : r.2.Sound := by
  cases h with
  -- A hit only moves an entry; a key that is read is remembered with what was read.
  | hit _ huse _ => exact fun e he => hv e (Cache.mem_use? huse he)
  | read _ hk =>
    intro e he
    obtain rfl | he := Cache.mem_insert he
    · exact hk
    · exact hv e he
  | unreadable _ _ => exact hv

end LookupVerdict

/-- A lookup answers as reading the key does, whatever is remembered. -/
theorem result_lookup {v : Verifier G} (hv : v.Sound) (written : Bytes) :
    (v.lookup written).1.result = PublicKey.decode written :=
  (lookup_verdict hv written).result_eq

theorem events_lookup {v : Verifier G} (hv : v.Sound) (written : Bytes) :
    (v.lookup written).1.events = if written ∈ v.cache.keys then [] else [.cacheMiss] :=
  (lookup_verdict hv written).events_eq

theorem sound_lookup {v : Verifier G} (hv : v.Sound) (written : Bytes) :
    (v.lookup written).2.Sound :=
  (lookup_verdict hv written).sound hv

/-! ## Lists of keys -/

/-- The verifier after looking up keys, also past those that cannot be read. -/
def lookedUp (v : Verifier G) (keys : List Bytes) : Verifier G :=
  keys.foldl (fun w written => (w.lookup written).2) v

@[simp] theorem lookedUp_nil (v : Verifier G) : v.lookedUp [] = v := rfl

@[simp] theorem lookedUp_cons (v : Verifier G) (written : Bytes) (keys : List Bytes) :
    v.lookedUp (written :: keys) = (v.lookup written).2.lookedUp keys := rfl

theorem lookedUp_append (v : Verifier G) (keys keys' : List Bytes) :
    v.lookedUp (keys ++ keys') = (v.lookedUp keys).lookedUp keys' :=
  List.foldl_append

theorem sound_lookedUp {v : Verifier G} (hv : v.Sound) (keys : List Bytes) :
    (v.lookedUp keys).Sound := by
  induction keys generalizing v with
  | nil => exact hv
  | cons written rest ih => exact ih (sound_lookup hv written)

variable (G)

/-- Whether a key can be read. -/
def readable (written : Bytes) : Bool :=
  (PublicKey.decode written : Except Fault (PublicKey G)).isOk

/-- Of a list of keys to be read, those up to and including the first that cannot be read. -/
def attempted (keys : List Bytes) : List Bytes :=
  keys.takeWhile (readable G) ++ (keys.dropWhile (readable G)).take 1

/-- The keys that a step looks up. -/
def lookups : Step → List Bytes
  | .verify k _ _ => [k]
  | .aggregate _ => []
  | .verifyAggregate ks _ _ => attempted G ks

variable {G}

theorem readable_of_ok {written : Bytes} {k : PublicKey G}
    (h : PublicKey.decode written = .ok k) : readable G written = true := by
  rw [readable, h]
  rfl

theorem readable_of_error {written : Bytes} {f : Fault}
    (h : (PublicKey.decode written : Except Fault (PublicKey G)) = .error f) :
    readable G written = false := by
  rw [readable, h]
  rfl

@[simp] theorem attempted_nil : attempted G [] = [] := rfl

theorem attempted_cons (written : Bytes) (keys : List Bytes) :
    attempted G (written :: keys) =
      if readable G written then written :: attempted G keys else [written] := by
  unfold attempted
  cases h : readable G written <;> simp [h]

/-! ## Reading lists of keys -/

/-- The events of looking up keys one after the other. -/
def lookupEvents (v : Verifier G) : List Bytes → List Event
  | [] => []
  | written :: rest => (v.lookup written).1.events ++ (v.lookup written).2.lookupEvents rest

/-- All that looking up a list of keys does: it answers as reading the keys does, and it looks up
the keys up to the first that cannot be read. -/
theorem lookupAll_eq {v : Verifier G} (hv : v.Sound) (keys : List Bytes) :
    v.lookupAll keys =
      (⟨keys.mapM PublicKey.decode, v.lookupEvents (attempted G keys)⟩,
        v.lookedUp (attempted G keys)) := by
  induction keys generalizing v with
  | nil => rfl
  | cons written rest ih =>
    have hresult := result_lookup hv written
    have hsound := sound_lookup hv written
    rw [lookupAll, attempted_cons]
    rcases hlookup : v.lookup written with ⟨⟨result, events⟩, w⟩
    rw [hlookup] at hresult hsound
    cases result with
    | error f =>
      -- The list is left here, and this key is the last one looked up.
      have hf : (PublicKey.decode written : Except Fault (PublicKey G)) = .error f := hresult.symm
      simp [mapM_cons_error hf, readable_of_error hf, lookupEvents, hlookup, Outcome.fail]
    | ok k =>
      have hk : PublicKey.decode written = .ok k := hresult.symm
      simp [mapM_cons_ok hk, readable_of_ok hk, lookupEvents, hlookup, ih hsound, Outcome.map,
        Outcome.after]

end PairingSig.Verifier
