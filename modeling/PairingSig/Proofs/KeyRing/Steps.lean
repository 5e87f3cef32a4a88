import PairingSig.KeyRing

/-!
# What steps put into a ring

A step puts at most one value into a ring, in front of those that are there, and takes nothing away.

- **One step**: `newPrivateKey?`, `newPublicKey?` and `newSignature?` give the value; `ring_step`
  says that this is all that a step does to a ring.
- **Names**: under a name stands what was put there last (`lookup_new_append`).
- **Runs**: `after` is the ring that a run leaves behind; one more step is one more value
  (`after_concat`).
-/

namespace PairingSig.KeyRing

variable {G : PairingGroups}

/-! ## One step -/

/-- The private key that a step puts into a ring, with its name. -/
def newPrivateKey? (r : KeyRing G) : Step → Option (String × PrivateKey)
  | .generate seed out => (KeyGeneration.generate seed).toOption.map (out, ·)
  | .readPrivateKey written out => (PrivateKey.decode written).toOption.map (out, ·)
  | .copyPrivateKey key out => (r.privateKeys.lookup key).map (out, ·)
  | .wipe key => (r.privateKeys.lookup key).map fun _ => (key, .wiped)
  | _ => none

/-- The public key that a step puts into a ring, with its name. -/
def newPublicKey? (r : KeyRing G) : Step → Option (String × PublicKey G)
  | .derivePublicKey key out => (r.privateKeys.lookup key).map fun x => (out, x.publicKey G)
  | .readPublicKey written out => (PublicKey.decode written).toOption.map (out, ·)
  | _ => none

/-- The signature that a step puts into a ring, with its name. -/
def newSignature? (r : KeyRing G) : Step → Option (String × Signature G)
  | .sign key message out => (r.privateKeys.lookup key).map fun x => (out, x.sign G message)
  | .readSignature written out => (Signature.decode written).toOption.map (out, ·)
  | .aggregate signatures out =>
    (signatures.mapM fun name => r.signatures.lookup name).bind fun sigs =>
      (Signature.aggregate sigs).toOption.map (out, ·)
  | _ => none

theorem ring_keepPrivateKey (r : KeyRing G) (out : String) (k : Except Fault PrivateKey) :
    (r.keepPrivateKey out k).2 =
      ⟨(k.toOption.map (out, ·)).toList ++ r.privateKeys, r.publicKeys, r.signatures⟩ := by
  cases k <;> rfl

theorem ring_keepPublicKey (r : KeyRing G) (out : String) (k : Except Fault (PublicKey G)) :
    (r.keepPublicKey out k).2 =
      ⟨r.privateKeys, (k.toOption.map (out, ·)).toList ++ r.publicKeys, r.signatures⟩ := by
  cases k <;> rfl

theorem ring_keepSignature (r : KeyRing G) (out : String) (s : Except Fault (Signature G)) :
    (r.keepSignature out s).2 =
      ⟨r.privateKeys, r.publicKeys, (s.toOption.map (out, ·)).toList ++ r.signatures⟩ := by
  cases s <;> rfl

/-- **All that a step does to a ring** is to put its values in front. -/
theorem ring_step (r : KeyRing G) (s : Step) :
    (r.step s).2 =
      ⟨(r.newPrivateKey? s).toList ++ r.privateKeys, (r.newPublicKey? s).toList ++ r.publicKeys,
        (r.newSignature? s).toList ++ r.signatures⟩ := by
  cases s with
  -- Steps that put a value: what they need may be missing, and then they put none.
  | generate seed out => exact ring_keepPrivateKey r out _
  | readPrivateKey written out => exact ring_keepPrivateKey r out _
  | copyPrivateKey key out =>
    simp only [step, newPrivateKey?]
    cases r.privateKeys.lookup key <;> rfl
  | wipe key =>
    simp only [step, newPrivateKey?]
    cases r.privateKeys.lookup key <;> rfl
  | derivePublicKey key out =>
    simp only [step, newPublicKey?]
    cases r.privateKeys.lookup key <;> rfl
  | readPublicKey written out => exact ring_keepPublicKey r out _
  | sign key message out =>
    simp only [step, newSignature?]
    cases r.privateKeys.lookup key <;> rfl
  | readSignature written out => exact ring_keepSignature r out _
  | aggregate signatures out =>
    simp only [step, newSignature?]
    cases signatures.mapM fun name => r.signatures.lookup name with
    | none => rfl
    | some sigs => exact ring_keepSignature r out _
  -- Steps that answer only.
  | writePrivateKey key | describePrivateKey key =>
    simp only [step]
    cases r.privateKeys.lookup key <;> rfl
  | writePublicKey key =>
    simp only [step]
    cases r.publicKeys.lookup key <;> rfl
  | writeSignature signature =>
    simp only [step]
    cases r.signatures.lookup signature <;> rfl
  | verify key message signature =>
    simp only [step]
    cases r.publicKeys.lookup key <;> cases r.signatures.lookup signature <;> rfl
  | samePublicKey first second =>
    simp only [step]
    cases r.publicKeys.lookup first <;> cases r.publicKeys.lookup second <;> rfl
  | sameSignature first second =>
    simp only [step]
    cases r.signatures.lookup first <;> cases r.signatures.lookup second <;> rfl

/-- A value that was obtained is put under the name given for it. -/
theorem toOption_map_eq_some {α : Type} {result : Except Fault α} {out name : String} {a : α}
    (h : result.toOption.map (out, ·) = some (name, a)) : result = .ok a ∧ out = name := by
  cases result with
  | error f => cases h
  | ok b =>
    cases h
    exact ⟨rfl, rfl⟩

/-! ## Names -/

/-- Under a name stands the value that is put there now, or the one that stood there if none is. -/
theorem lookup_new_append {α : Type} (new : Option (String × α)) (values : Named α) (name : String)
    (a : α) :
    (new.toList ++ values).lookup name = some a ↔
      new = some (name, a) ∨ (∀ b, new ≠ some (name, b)) ∧ values.lookup name = some a := by
  cases new with
  | none => simp
  | some entry =>
    obtain ⟨out, b⟩ := entry
    -- A value under this name hides the old one; under another name it is passed over.
    by_cases h : name = out
    · subst h
      simp
    · have hkept : ((out, b) :: values).lookup name = values.lookup name := by
        rw [List.lookup_cons, beq_false_of_ne h]
      simp [hkept, Ne.symm h]

/-- The values found under a list of names stand under one of them each. -/
theorem exists_lookup_of_mapM {α : Type} {values : Named α} {names : List String} {as : List α}
    (h : (names.mapM fun name => values.lookup name) = some as) {a : α} (ha : a ∈ as) :
    ∃ name, values.lookup name = some a := by
  induction names generalizing as with
  | nil =>
    cases h
    cases ha
  | cons name rest ih =>
    rw [List.mapM_cons, Option.bind_eq_bind, Option.bind_eq_some_iff] at h
    obtain ⟨b, hb, h⟩ := h
    obtain ⟨bs, hbs, h⟩ := Option.bind_eq_some_iff.1 h
    cases h
    -- The value stands under the first name, or under one of the others.
    obtain rfl | ha := List.mem_cons.1 ha
    · exact ⟨name, hb⟩
    · exact ih hbs ha

/-! ## Runs -/

variable (G) in
/-- The ring that a run leaves behind, if it starts with nothing. -/
def after (steps : List Step) : KeyRing G :=
  ((empty : KeyRing G).run steps).2

theorem ring_run_concat (r : KeyRing G) (steps : List Step) (s : Step) :
    (r.run (steps ++ [s])).2 = ((r.run steps).2.step s).2 := by
  induction steps generalizing r with
  | nil => rfl
  | cons t rest ih => exact ih (r.step t).2

theorem after_concat (steps : List Step) (s : Step) :
    after G (steps ++ [s]) = ((after G steps).step s).2 :=
  ring_run_concat empty steps s

end PairingSig.KeyRing
