import Mathlib.Data.List.Forall2
import PairingSig.Filter.LevelText

/-!
# Spellings of levels

What a level may be written as in a filter, said without the reader: its name, each letter small or
capital, or the digit of its rank behind any number of zeros.

- **Letters and digits**: `lowerChar_eq_iff` and `isDigit_iff` for single characters, `AnyCase` for
  names;
- **Numbers**: `digitValue` and `exists_zeros_of_digitValue`, the digits of a number below ten;
- **Spellings**: `Spelling`, and `ofText?_eq_some_iff`, the reader accepts these and no other text,
  as long as there is no plus sign.
-/

namespace PairingSig

/-! ## Letters and digits -/

namespace Text

/-- The letters and digits of ASCII. -/
def IsPlain (c : Char) : Prop :=
  (48 ≤ c.toNat ∧ c.toNat ≤ 57) ∨ (65 ≤ c.toNat ∧ c.toNat ≤ 90) ∨ (97 ≤ c.toNat ∧ c.toNat ≤ 122)

theorem isDigit_iff (c : Char) : c.isDigit = true ↔ 48 ≤ c.toNat ∧ c.toNat ≤ 57 := by
  rw [Char.isDigit, Bool.and_eq_true, decide_eq_true_iff, decide_eq_true_iff, ge_iff_le,
    UInt32.le_iff_toNat_le, UInt32.le_iff_toNat_le]
  rfl

theorem le_iff_toNat_le (c d : Char) : c ≤ d ↔ c.toNat ≤ d.toNat := by
  rw [Char.le_def, UInt32.le_iff_toNat_le]
  rfl

/-- The small letters of the ASCII alphabet. -/
def IsSmall (c : Char) : Prop :=
  97 ≤ c.toNat ∧ c.toNat ≤ 122

theorem toNat_toUpper {c : Char} (h : IsSmall c) : c.toUpper.toNat + 32 = c.toNat := by
  have hrange : 'a'.val ≤ c.val ∧ c.val ≤ 'z'.val := by
    rw [← Char.le_def, ← Char.le_def, le_iff_toNat_le, le_iff_toNat_le]
    exact h
  -- The capitals come first, so the distance to them wraps around.
  have hdistance : ('A'.val - 'a'.val).toNat = 2 ^ 32 - 32 := by decide
  have hcode : c.toUpper.toNat = (c.toNat + ('A'.val - 'a'.val).toNat) % 2 ^ 32 := by
    have hupper : c.toUpper = _ := dif_pos hrange
    rw [hupper]
    exact UInt32.toNat_add c.val ('A'.val - 'a'.val)
  obtain ⟨hlow, hhigh⟩ := h
  omega

/-- A small letter is the small form of itself and of its capital. -/
theorem lowerChar_eq_iff {small : Char} (h : IsSmall small) (c : Char) :
    lowerChar c = small ↔ c = small ∨ c = small.toUpper := by
  have hcapital := toNat_toUpper h
  have hrange : 'A' ≤ c ∧ c ≤ 'Z' ↔ 65 ≤ c.toNat ∧ c.toNat ≤ 90 := by
    rw [le_iff_toNat_le, le_iff_toNat_le]
    rfl
  obtain ⟨hlow, hhigh⟩ := h
  unfold lowerChar
  -- Everything is said of codes; the small form and the capital are 32 apart.
  simp only [hrange, ← Char.toNat_inj]
  split
  · -- A capital has its small form 32 places on.
    have hvalid : (c.toNat + 32).isValidChar := by
      left
      omega
    have hcode : (Char.ofNat (c.toNat + 32)).toNat = c.toNat + 32 := by
      rw [Char.ofNat, dif_pos hvalid]
      rfl
    omega
  · omega

/-- A text may be written with its letters small or capital. -/
def AnyCase (cs smalls : List Char) : Prop :=
  List.Forall₂ (fun c small => c = small ∨ c = small.toUpper) cs smalls

theorem map_lowerChar_eq_iff {smalls : List Char} (h : ∀ c ∈ smalls, IsSmall c) (cs : List Char) :
    cs.map lowerChar = smalls ↔ AnyCase cs smalls := by
  unfold AnyCase
  induction smalls generalizing cs with
  | nil => simp
  | cons small rest ih =>
    rw [List.forall_mem_cons] at h
    cases cs with
    | nil => simp
    | cons c cs => simp [lowerChar_eq_iff h.1, ih h.2]

theorem AnyCase.isLetter {cs smalls : List Char} (h : AnyCase cs smalls)
    (hsmalls : ∀ c ∈ smalls, IsSmall c) {c : Char} (hc : c ∈ cs) :
    IsPlain c ∧ c.isDigit = false := by
  have hmap := (map_lowerChar_eq_iff hsmalls cs).2 h
  have hsmall : IsSmall (lowerChar c) := hsmalls _ (hmap ▸ List.mem_map_of_mem hc)
  have hcapital := toNat_toUpper hsmall
  obtain ⟨hlow, hhigh⟩ := hsmall
  have hcode : c.toNat = (lowerChar c).toNat ∨ c.toNat = (lowerChar c).toUpper.toNat := by
    simpa only [Char.toNat_inj] using (lowerChar_eq_iff ⟨hlow, hhigh⟩ c).1 rfl
  rw [← Bool.not_eq_true, isDigit_iff, IsPlain]
  omega

end Text

namespace Level

/-! ## Numbers -/

/-- The number of decimal digits that follow the digits of `n`. -/
def digitValue (n : Nat) (cs : List Char) : Nat :=
  cs.foldl (fun n c => 10 * n + (c.toNat - 48)) n

theorem le_digitValue (n : Nat) (cs : List Char) : n ≤ digitValue n cs := by
  induction cs generalizing n with
  | nil => exact Nat.le_refl n
  | cons c rest ih =>
    calc n ≤ 10 * n + (c.toNat - 48) := by omega
      _ ≤ digitValue n (c :: rest) := ih _

/-- A number below ten is one digit behind zeros. -/
theorem exists_zeros_of_digitValue {cs : List Char} {r : Nat} (hne : cs ≠ [])
    (hdigits : ∀ c ∈ cs, c.isDigit = true) (hvalue : digitValue 0 cs = r) (hr : r < 10) :
    ∃ zeros, cs = List.replicate zeros '0' ++ [Nat.digitChar r] := by
  induction cs with
  | nil => exact absurd rfl hne
  | cons c rest ih =>
    have hc := (Text.isDigit_iff c).1 (hdigits c List.mem_cons_self)
    cases rest with
    | nil =>
      -- The last digit is the number.
      refine ⟨0, ?_⟩
      have hcode : c.toNat = (Nat.digitChar r).toNat := by
        rw [Nat.toNat_digitChar_of_lt_ten hr, ← hvalue]
        simp only [digitValue, List.foldl_cons, List.foldl_nil]
        omega
      rw [Char.toNat_inj.1 hcode]
      rfl
    | cons c' rest =>
      -- Before another digit, anything but a zero makes the number ten at least.
      have hle : 10 * (c.toNat - 48) + (c'.toNat - 48) ≤ r := by
        simpa [← hvalue, digitValue] using
          le_digitValue (10 * (c.toNat - 48) + (c'.toNat - 48)) rest
      have hzero : c = '0' := by
        apply Char.toNat_inj.1
        show c.toNat = 48
        omega
      subst hzero
      have hrest : ∀ d ∈ c' :: rest, d.isDigit = true :=
        fun d hd => hdigits d (List.mem_cons_of_mem _ hd)
      obtain ⟨zeros, hzeros⟩ := ih (by simp) hrest hvalue
      exact ⟨zeros + 1, by rw [hzeros, List.replicate_succ, List.cons_append]⟩

theorem digitValue_zeros (zeros r : Nat) (hr : r < 10) :
    digitValue 0 (List.replicate zeros '0' ++ [Nat.digitChar r]) = r := by
  induction zeros with
  | zero => simp [digitValue, Nat.toNat_digitChar_of_lt_ten hr]
  | succ zeros ih => exact ih

theorem isDigit_of_mem_zeros {zeros r : Nat} (hr : r < 10) {c : Char}
    (hc : c ∈ List.replicate zeros '0' ++ [Nat.digitChar r]) : c.isDigit = true := by
  rcases List.mem_append.1 hc with hzero | hlast
  · rw [List.eq_of_mem_replicate hzero]
    rfl
  · rw [List.mem_singleton.1 hlast, Text.isDigit_iff, Nat.toNat_digitChar_of_lt_ten hr]
    omega

/-! ## Spellings -/

/-- The name of a level in small letters. -/
def word : Level → String
  | .off => "off"
  | .error => "error"
  | .warn => "warn"
  | .info => "info"
  | .debug => "debug"
  | .trace => "trace"

/-- The texts that a filter may give a level by. -/
inductive Spelling (l : Level) : List Char → Prop where
  /-- The name, each letter small or capital. -/
  | name {cs : List Char} : Text.AnyCase cs l.word.toList → Spelling l cs
  /-- The rank, behind any number of zeros. -/
  | rank (zeros : Nat) : Spelling l (List.replicate zeros '0' ++ [Nat.digitChar l.rank])

theorem isSmall_of_mem_word (l : Level) : ∀ c ∈ l.word.toList, Text.IsSmall c := by
  have hall : l.word.toList.all (fun c => 97 ≤ c.toNat ∧ c.toNat ≤ 122) = true := by
    cases l <;> decide
  intro c hc
  simpa [Text.IsSmall] using List.all_eq_true.1 hall c hc

theorem rank_lt_ten (l : Level) : l.rank < 10 := by
  cases l <;> decide

theorem ofName?_eq_some_iff (cs : List Char) (l : Level) :
    ofName? cs = some l ↔ Text.AnyCase cs l.word.toList := by
  have hlower : Text.lower cs = l.word ↔ Text.AnyCase cs l.word.toList := by
    rw [← Text.map_lowerChar_eq_iff (isSmall_of_mem_word l), Text.lower, ← String.toList_inj,
      String.toList_ofList]
  rw [← hlower]
  constructor
  · -- Each of the names compared with gives its own level.
    intro h
    unfold ofName? at h
    dsimp only at h
    split_ifs at h <;> cases h <;> assumption
  · intro h
    cases l <;> simp [ofName?, h, word]

theorem ofRank?_eq_some_iff (n : Nat) (l : Level) : ofRank? n = some l ↔ n = l.rank := by
  constructor
  · intro h
    unfold ofRank? at h
    split at h <;> cases h <;> rfl
  · rintro rfl
    cases l <;> rfl

/-- Digits without a sign give a level exactly when they write its rank. -/
theorem ofDigits?_eq_some_iff {cs : List Char} (hplus : cs.head? ≠ some '+') (l : Level) :
    ofDigits? cs = some l ↔
      ∃ zeros, cs = List.replicate zeros '0' ++ [Nat.digitChar l.rank] := by
  have hdigits : ofDigits? cs = if cs.isEmpty || !cs.all Char.isDigit then none
      else ofRank? (digitValue 0 cs) := by
    rw [ofDigits?, if_neg hplus]
    rfl
  rw [hdigits]
  constructor
  · intro h
    split at h
    · cases h
    · -- All characters are digits, and the number that they write has a rank.
      rename_i hcs
      simp at hcs
      exact exists_zeros_of_digitValue hcs.1 hcs.2 ((ofRank?_eq_some_iff _ _).1 h) l.rank_lt_ten
  · rintro ⟨zeros, rfl⟩
    have hall : (List.replicate zeros '0' ++ [Nat.digitChar l.rank]).all Char.isDigit = true :=
      List.all_eq_true.2 fun c => isDigit_of_mem_zeros l.rank_lt_ten
    rw [hall, digitValue_zeros zeros l.rank l.rank_lt_ten]
    simp [ofRank?_eq_some_iff]

/-- There is a letter in every name. -/
theorem exists_letter_of_anyCase {cs : List Char} {l : Level}
    (h : Text.AnyCase cs l.word.toList) : ∃ c ∈ cs, c.isDigit = false := by
  have hlength : 0 < l.word.toList.length := by
    cases l <;> decide
  rw [← List.Forall₂.length_eq h] at hlength
  obtain ⟨c, hc⟩ := List.exists_mem_of_length_pos hlength
  exact ⟨c, hc, (h.isLetter l.isSmall_of_mem_word hc).2⟩

theorem Spelling.isPlain {cs : List Char} {l : Level} (h : l.Spelling cs) {c : Char}
    (hc : c ∈ cs) : Text.IsPlain c := by
  cases h with
  | name hname => exact (hname.isLetter l.isSmall_of_mem_word hc).1
  | rank zeros => exact .inl ((Text.isDigit_iff c).1 (isDigit_of_mem_zeros l.rank_lt_ten hc))

theorem Spelling.ne_nil {cs : List Char} {l : Level} (h : l.Spelling cs) : cs ≠ [] := by
  cases h with
  | name hname =>
    obtain ⟨c, hc, -⟩ := exists_letter_of_anyCase hname
    exact List.ne_nil_of_mem hc
  | rank zeros => simp

theorem Spelling.head?_ne_plus {cs : List Char} {l : Level} (h : l.Spelling cs) :
    cs.head? ≠ some '+' := by
  intro hplus
  have hplain := h.isPlain (List.mem_of_mem_head? hplus)
  have hcode : '+'.toNat = 43 := rfl
  unfold Text.IsPlain at hplain
  omega

/-- The reader accepts the spellings of levels, and no other text without a plus sign. -/
theorem ofText?_eq_some_iff {cs : List Char} (hplus : cs.head? ≠ some '+') (l : Level) :
    ofText? cs = some l ↔ l.Spelling cs := by
  constructor
  · -- Digits are tried before names.
    intro h
    unfold ofText? at h
    split at h
    · rename_i hdigits
      cases h
      obtain ⟨zeros, rfl⟩ := (ofDigits?_eq_some_iff hplus l).1 hdigits
      exact .rank zeros
    · exact .name ((ofName?_eq_some_iff cs l).1 h)
  · rintro (hname | zeros)
    · -- A number would have no letter in it.
      have hdigits : ofDigits? cs = none := by
        rw [Option.eq_none_iff_forall_ne_some]
        intro l' hl'
        obtain ⟨zeros, rfl⟩ := (ofDigits?_eq_some_iff hplus l').1 hl'
        obtain ⟨c, hc, hletter⟩ := exists_letter_of_anyCase hname
        exact Bool.false_ne_true (hletter.symm.trans (isDigit_of_mem_zeros l'.rank_lt_ten hc))
      rw [ofText?, hdigits]
      exact (ofName?_eq_some_iff cs l).2 hname
    · rw [ofText?, (ofDigits?_eq_some_iff hplus l).2 ⟨zeros, rfl⟩]

theorem Spelling.ofText?_eq {cs : List Char} {l : Level} (h : l.Spelling cs) :
    ofText? cs = some l :=
  (ofText?_eq_some_iff h.head?_ne_plus l).2 h

end Level

end PairingSig
