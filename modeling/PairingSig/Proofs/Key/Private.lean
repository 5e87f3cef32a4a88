import PairingSig.Proofs.Scheme.Results
import PairingSig.Proofs.Traversal

/-!
# Written private keys

A private key is checked on its bytes in reversed order, and computes with the residue of its bytes
in a wider buffer. Both see the number that the bytes write.

- **Verdicts**: `Verdict` says without the reader which strings are accepted and how the others are
  refused; `decode_iff`, the reader answers by it;
- **Use**: `derivePublicKey_error_iff` and `sign_error_iff`, the operations with a key fail exactly
  where reading it does;
- **Codec**: `codec_exact`.
-/

namespace PairingSig.PrivateKey

/-! ## Verdicts -/

/-- What a string is as a private key. -/
inductive Verdict (bs : Bytes) : Except Fault PrivateKey → Prop where
  | length : bs.length ≠ 32 → Verdict bs (.error (.privateKey (.length bs.length)))
  | outOfRange : bs.length = 32 → groupOrder ≤ Bytes.toNat bs →
      Verdict bs (.error (.privateKey .outOfRange))
  | zero : bs.length = 32 → Bytes.toNat bs = 0 → Verdict bs (.error (.privateKey .zero))
  | accepted {k : PrivateKey} : bs.length = 32 → 0 < Bytes.toNat bs → Bytes.toNat bs < groupOrder →
      k.encode = bs → Verdict bs (.ok k)

theorem Verdict.decode_eq {bs : Bytes} {r : Except Fault PrivateKey} (h : Verdict bs r) :
    decode bs = r := by
  cases h with
  | length hl => exact dif_neg hl
  | outOfRange hl hrange =>
    refine (dif_pos hl).trans ?_
    split
    · rfl
    · -- A scalar found in the reversed bytes would be the number itself.
      rename_i s hs
      have hs' := Scalar.val_of_ofBytes? hs
      rw [Bytes.toNatLittle_reverse] at hs'
      exact absurd s.isLt (Nat.not_lt.2 (hs' ▸ hrange))
  | zero hl hzero =>
    refine (dif_pos hl).trans ?_
    split
    · -- Zero is in range.
      rename_i hnone
      rw [Scalar.ofBytes?_eq_none_iff, Bytes.toNatLittle_reverse, hzero] at hnone
      exact absurd groupOrder_pos (Nat.not_lt.2 hnone)
    · rename_i s hs
      have hs' : s.val = 0 := by
        rw [Scalar.val_of_ofBytes? hs, Bytes.toNatLittle_reverse, hzero]
      rw [if_pos ((Scalar.isZero_iff s).2 hs')]
  | accepted _ hpos _ hk => exact (decode_eq_ok_iff _ _).2 ⟨hk, hpos⟩

theorem exists_verdict (bs : Bytes) : ∃ r, Verdict bs r := by
  by_cases hl : bs.length = 32
  · by_cases hrange : Bytes.toNat bs < groupOrder
    · obtain hzero | hpos := Nat.eq_zero_or_pos (Bytes.toNat bs)
      · exact ⟨_, .zero hl hzero⟩
      · exact ⟨_, .accepted (k := ⟨bs, hl, hrange⟩) hl hpos hrange rfl⟩
    · exact ⟨_, .outOfRange hl (Nat.not_lt.1 hrange)⟩
  · exact ⟨_, .length hl⟩

/-- **The reader answers by the verdicts**, on every string. -/
theorem decode_iff {bs : Bytes} {r : Except Fault PrivateKey} :
    decode bs = r ↔ Verdict bs r := by
  refine ⟨?_, Verdict.decode_eq⟩
  rintro rfl
  obtain ⟨r, hr⟩ := exists_verdict bs
  rwa [hr.decode_eq]

/-! ## Use -/

variable (G : PairingGroups)

theorem derivePublicKey_error_iff {bs : Bytes} {f : Fault} :
    (Scheme.derivePublicKey G bs).result = .error f ↔ decode bs = .error f := by
  rw [Scheme.result_derivePublicKey, map_eq_error_iff]

theorem sign_error_iff {bs message : Bytes} {f : Fault} :
    (Scheme.sign G bs message).result = .error f ↔ decode bs = .error f := by
  rw [Scheme.result_sign, map_eq_error_iff]

/-- What is made with a key that was read comes from the multiple by the number that it writes. -/
theorem exists_scalar {bs : Bytes} {k : PrivateKey} (hk : decode bs = .ok k) :
    ∃ n : Scalar, n.val = Bytes.toNat bs ∧
      (Scheme.derivePublicKey G bs).result = .ok (G.encode₁ (G.smul₁ n G.generator)) ∧
      ∀ message,
        (Scheme.sign G bs message).result = .ok (G.encode₂ (G.smul₂ n (G.hash message))) := by
  obtain ⟨rfl, -⟩ := (decode_eq_ok_iff bs k).1 hk
  exact ⟨k.scalar, k.val_scalar, Scheme.derivePublicKey_of_decode hk, Scheme.sign_of_decode hk⟩

/-- **The codec of private keys.** A string is read exactly when it writes a number from one below
the group order in 32 bytes, and then it is written again as it stood; otherwise the fault says what
is wrong. A key multiplies by that very number. Deriving and signing refuse the strings that are no
keys, for the fault of the reading, whatever the message is. -/
theorem codec_exact (bs : Bytes) :
    (∀ r, decode bs = r ↔ Verdict bs r) ∧
    (∀ k, decode bs = .ok k → k.encode = bs ∧ ∀ G : PairingGroups, ∃ n : Scalar,
      n.val = Bytes.toNat bs ∧
      (Scheme.derivePublicKey G bs).result = .ok (G.encode₁ (G.smul₁ n G.generator)) ∧
      ∀ message,
        (Scheme.sign G bs message).result = .ok (G.encode₂ (G.smul₂ n (G.hash message)))) ∧
    ∀ (G : PairingGroups) (f : Fault) (message : Bytes),
      ((Scheme.derivePublicKey G bs).result = .error f ↔ decode bs = .error f) ∧
      ((Scheme.sign G bs message).result = .error f ↔ decode bs = .error f) := by
  refine ⟨fun r => decode_iff, fun k hk => ⟨((decode_eq_ok_iff bs k).1 hk).1, fun G => ?_⟩, ?_⟩
  · exact exists_scalar G hk
  · exact fun G f message => ⟨derivePublicKey_error_iff G, sign_error_iff G⟩

/-- The largest key multiplies by the group order less one. -/
theorem codec_exact_largest :
    let bs := Bytes.ofNat 32 (groupOrder - 1)
    ∃ k, decode bs = .ok k ∧ k.encode = bs ∧ ∀ G : PairingGroups, ∃ n : Scalar,
      n.val = groupOrder - 1 ∧
      (Scheme.derivePublicKey G bs).result = .ok (G.encode₁ (G.smul₁ n G.generator)) ∧
      ∀ message,
        (Scheme.sign G bs message).result = .ok (G.encode₂ (G.smul₂ n (G.hash message))) := by
  intro bs
  have hnum : Bytes.toNat bs = groupOrder - 1 := by decide +kernel
  have hlt : Bytes.toNat bs < groupOrder := by decide +kernel
  have hpos : 0 < Bytes.toNat bs := by decide +kernel
  obtain ⟨hverdict, hmultiple, -⟩ := codec_exact bs
  have hk := (hverdict _).2 (.accepted (k := ⟨bs, rfl, hlt⟩) rfl hpos hlt rfl)
  obtain ⟨hwritten, hscalar⟩ := hmultiple _ hk
  rw [hnum] at hscalar
  exact ⟨_, hk, hwritten, hscalar⟩

end PairingSig.PrivateKey
