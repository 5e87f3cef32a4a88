import Mathlib.Data.List.Basic
import Mathlib.Data.List.Induction
import PairingSig.Hex

/-!
# Hexadecimal text that is read

A text is read as bytes if in lower case it is what is written for these bytes. Any other text is
refused for its length or for its first byte that is no digit. The reader works on the UTF-8 form of
the text, in which a character that is not ASCII starts with a byte that is no digit.

- **UTF-8**: `ofText_ofList`, with the first byte of a character;
- **Digits**: `map_digitValue?_iff` takes values of bytes to characters in lower case;
- **Pairs**: `decodeFrom_digits` and `decodeFrom_badDigit`, what the loop does to pairs of digits
  and where it stops otherwise;
- **Verdicts**: `Verdict` says without the reader what a text is; `decode_iff`, the reader answers
  by it.
-/

namespace PairingSig

/-! ## UTF-8 -/

theorem Bytes.ofText_ofList (text : List Char) :
    ofText (String.ofList text) = text.flatMap String.utf8EncodeChar := by
  rw [ofText, String.toUTF8, String.toByteArray_ofList, List.utf8Encode,
    List.toList_data_toByteArray]

theorem utf8EncodeChar_ascii {c : Char} (h : c.toNat < 128) :
    String.utf8EncodeChar c = [UInt8.ofNat c.toNat] :=
  if_pos (Nat.le_of_lt_succ h)

/-- A character that is not ASCII starts with a byte that is not ASCII. -/
theorem utf8EncodeChar_cons {c : Char} (h : 128 ≤ c.toNat) :
    ∃ b rest, String.utf8EncodeChar c = b :: rest ∧ 128 ≤ b.toNat := by
  have hne : ¬ c.val.toNat ≤ 127 := Nat.not_le.2 h
  simp only [String.utf8EncodeChar, if_neg hne]
  -- The marks of two, three and four bytes, each with its highest bit set.
  split
  · refine ⟨_, _, rfl, ?_⟩
    rw [UInt8.toNat_ofNat']
    omega
  · split
    · refine ⟨_, _, rfl, ?_⟩
      rw [UInt8.toNat_ofNat']
      omega
    · refine ⟨_, _, rfl, ?_⟩
      rw [UInt8.toNat_ofNat']
      omega

namespace Hex

/-- The bytes of a text in UTF-8. -/
def utf8 (text : List Char) : Bytes :=
  Bytes.ofText (String.ofList text)

/-! ## Digits -/

/-- The characters that are digits. -/
def digits : List Char :=
  ['0', '1', '2', '3', '4', '5', '6', '7', '8', '9', 'a', 'b', 'c', 'd', 'e', 'f', 'A', 'B', 'C',
    'D', 'E', 'F']

/-- The values of the two digits of a byte. -/
def nibbles (b : UInt8) : List Nat :=
  [b.toNat / 16, b.toNat % 16]

theorem lt_of_mem_nibbles {b : UInt8} {v : Nat} (h : v ∈ nibbles b) : v < 16 := by
  have hb := b.toNat_lt
  simp only [nibbles, List.mem_cons, List.not_mem_nil, or_false] at h
  omega

theorem length_nibbles (bs : Bytes) : (bs.flatMap nibbles).length = 2 * bs.length := by
  induction bs with
  | nil => rfl
  | cons b bs ih =>
    rw [List.flatMap_cons, List.length_append, ih, List.length_cons, Nat.mul_succ, Nat.add_comm]
    rfl

theorem nibbles_ofNat {v w : Nat} (hv : v < 16) (hw : w < 16) :
    nibbles (UInt8.ofNat (16 * v + w)) = [v, w] := by
  have hvalue : (UInt8.ofNat (16 * v + w)).toNat = 16 * v + w := by
    rw [UInt8.toNat_ofNat']
    omega
  have hdiv : (16 * v + w) / 16 = v := by omega
  have hmod : (16 * v + w) % 16 = w := by omega
  rw [nibbles, hvalue, hdiv, hmod]

/-- Both cases of a digit have its value, and no other ASCII character has. -/
theorem digitValue?_ascii : ∀ n < 128, ∀ v < 16,
    digitValue? (UInt8.ofNat n) = some v ↔ (Char.ofNat n).toLower = digit v := by
  decide +kernel

theorem digitValue?_of_le {b : UInt8} (h : 128 ≤ b.toNat) : digitValue? b = none := by
  simp only [digitValue?]
  rw [if_neg (by omega), if_neg (by omega), if_neg (by omega)]

theorem digit_lt : ∀ v < 16, (digit v).toNat < 128 := by
  decide +kernel

theorem toLower_of_le {c : Char} (h : 128 ≤ c.toNat) : c.toLower = c := by
  unfold Char.toLower
  rw [dif_neg]
  rintro ⟨-, hle⟩
  have hle' : c.toNat ≤ 90 := hle
  omega

/-- Only ASCII characters are digits in lower case. -/
theorem toNat_lt_of_toLower {c : Char} {v : Nat} (hv : v < 16) (h : c.toLower = digit v) :
    c.toNat < 128 := by
  by_contra hc
  rw [toLower_of_le (Nat.not_lt.1 hc)] at h
  exact hc (h ▸ digit_lt v hv)

/-- The bytes of a text have the values of some digits exactly if its characters are these digits in
either case. -/
theorem map_digitValue?_iff (text : List Char) {vs : List Nat} (hvs : ∀ v ∈ vs, v < 16) :
    (text.flatMap String.utf8EncodeChar).map digitValue? = vs.map some ↔
      text.map Char.toLower = vs.map digit := by
  -- Character by character, each with the value of its place.
  induction text generalizing vs with
  | nil => cases vs <;> simp
  | cons c text ih =>
    cases vs with
    | nil =>
      -- A character has one byte at least, and no value is left for it.
      obtain hc | hc := Nat.lt_or_ge c.toNat 128
      · simp [utf8EncodeChar_ascii hc]
      · obtain ⟨b, rest, hencode, -⟩ := utf8EncodeChar_cons hc
        simp [hencode]
    | cons v vs =>
      obtain ⟨hv, hvs⟩ := List.forall_mem_cons.1 hvs
      obtain hc | hc := Nat.lt_or_ge c.toNat 128
      · have hdigit := digitValue?_ascii c.toNat hc v hv
        rw [Char.ofNat_toNat] at hdigit
        simp [utf8EncodeChar_ascii hc, hdigit, ih hvs]
      · -- Neither the first byte nor the character is a digit.
        obtain ⟨b, rest, hencode, hb⟩ := utf8EncodeChar_cons hc
        have hne : c.toLower ≠ digit v := fun h =>
          absurd (toNat_lt_of_toLower hv h) (Nat.not_lt.2 hc)
        simp [hencode, digitValue?_of_le hb, hne]

/-- Digits take one byte each. -/
theorem utf8_of_digits {text : List Char} (h : ∀ c ∈ text, c ∈ digits) :
    utf8 text = text.map fun c => UInt8.ofNat c.toNat := by
  have hascii : ∀ c ∈ digits, c.toNat < 128 := by simp [digits]
  rw [utf8, Bytes.ofText_ofList, List.map_eq_flatMap]
  exact List.flatMap_congr fun c hc => utf8EncodeChar_ascii (hascii c (h c hc))

/-- The bytes that are digits are the characters that are, each a byte of its own. -/
theorem isSome_digitValue?_iff (b : UInt8) :
    (digitValue? b).isSome = true ↔ b ∈ utf8 digits := by
  have hall : ∀ n < 256, (digitValue? (UInt8.ofNat n)).isSome = true ↔
      UInt8.ofNat n ∈ digits.map fun c => UInt8.ofNat c.toNat := by
    decide +kernel
  have h := hall b.toNat b.toNat_lt
  rw [UInt8.ofNat_toNat] at h
  rwa [utf8_of_digits fun _ => id]

theorem digitValue?_lt {b : UInt8} {v : Nat} (h : digitValue? b = some v) : v < 16 := by
  simp only [digitValue?] at h
  split at h
  · cases h
    omega
  · split at h
    · cases h
      omega
    · split at h
      · cases h
        omega
      · cases h

/-! ## Pairs of digits -/

/-- A text of digits is read to its end. -/
theorem decodeFrom_digits (position : Nat) (read : Bytes) {text bs : Bytes}
    (h : text.map digitValue? = (bs.flatMap nibbles).map some) :
    decodeFrom position read text = .ok (read.reverse ++ bs) := by
  -- Each byte to be read is a pair of digits in front of the text.
  induction bs generalizing position read text with
  | nil =>
    obtain rfl := List.map_eq_nil_iff.1 h
    simp [decodeFrom]
  | cons b bs ih =>
    obtain ⟨high, rest, rfl, hhigh, hrest⟩ := List.map_eq_cons_iff.1 h
    obtain ⟨low, rest, rfl, hlow, hrest⟩ := List.map_eq_cons_iff.1 hrest
    have hb : UInt8.ofNat (16 * (b.toNat / 16) + b.toNat % 16) = b := by
      rw [Nat.div_add_mod, UInt8.ofNat_toNat]
    rw [decodeFrom, hhigh, hlow]
    dsimp only
    rw [hb, ih _ _ hrest, List.reverse_cons, List.append_assoc]
    rfl

/-- Reading stops at the first byte that is no digit, whether it stands first or second in a
pair. -/
theorem decodeFrom_badDigit (position : Nat) (read : Bytes) {before rest : Bytes} {byte : UInt8}
    (heven : (before ++ byte :: rest).length % 2 = 0)
    (hbefore : ∀ b ∈ before, (digitValue? b).isSome = true) (hbyte : digitValue? byte = none) :
    decodeFrom position read (before ++ byte :: rest) =
      .error (.badDigit byte (position + before.length)) := by
  -- Two bytes at a time, as the loop goes.
  induction before using List.twoStepInduction generalizing position read with
  | nil =>
    cases rest with
    -- A byte alone is no text of even length.
    | nil => cases heven
    | cons low rest => simp [decodeFrom, hbyte]
  | singleton b =>
    -- The bad digit is the second of its pair.
    obtain ⟨v, hv⟩ := Option.isSome_iff_exists.1 (hbefore b List.mem_cons_self)
    simp [decodeFrom, hv, hbyte]
  | cons_cons high low before ih _ =>
    simp only [List.forall_mem_cons] at hbefore
    obtain ⟨hhigh, hlow, hbefore⟩ := hbefore
    obtain ⟨v, hv⟩ := Option.isSome_iff_exists.1 hhigh
    obtain ⟨w, hw⟩ := Option.isSome_iff_exists.1 hlow
    have heven' : (before ++ byte :: rest).length % 2 = 0 := by
      simp only [List.cons_append, List.length_cons] at heven
      omega
    rw [List.cons_append, List.cons_append, decodeFrom, hv, hw]
    dsimp only
    rw [ih _ _ heven' hbefore, List.length_cons, List.length_cons, Nat.add_assoc,
      Nat.add_comm 2]

/-- Digits in even number are the digits of bytes. -/
theorem exists_bytes {text : Bytes} (heven : text.length % 2 = 0)
    (h : ∀ b ∈ text, (digitValue? b).isSome = true) :
    ∃ bs : Bytes, text.map digitValue? = (bs.flatMap nibbles).map some := by
  induction text using List.twoStepInduction with
  | nil => exact ⟨[], rfl⟩
  | singleton b => cases heven
  | cons_cons high low text ih _ =>
    simp only [List.forall_mem_cons] at h
    obtain ⟨hhigh, hlow, h⟩ := h
    obtain ⟨v, hv⟩ := Option.isSome_iff_exists.1 hhigh
    obtain ⟨w, hw⟩ := Option.isSome_iff_exists.1 hlow
    have heven' : text.length % 2 = 0 := by
      simp only [List.length_cons] at heven
      omega
    obtain ⟨bs, hbs⟩ := ih heven' h
    -- The two values are the halves of one byte.
    refine ⟨UInt8.ofNat (16 * v + w) :: bs, ?_⟩
    rw [List.flatMap_cons, nibbles_ofNat (digitValue?_lt hv) (digitValue?_lt hw), List.map_cons,
      List.map_cons, hv, hw, hbs]
    rfl

/-! ## Verdicts -/

/-- A text writes bytes, in digits of either case. -/
def Spells (text : List Char) (bs : Bytes) : Prop :=
  text.map Char.toLower = (encode bs).toList

/-- What a text is as hexadecimal writing. -/
inductive Verdict (text : List Char) : Except Defect Bytes → Prop where
  /-- Bytes that do not come in pairs; this is seen before any bad digit. -/
  | oddLength : (utf8 text).length % 2 = 1 → Verdict text (.error .oddLength)
  /-- The first byte that is no digit, named by its place among the bytes. -/
  | badDigit {before rest : Bytes} {byte : UInt8} : (utf8 text).length % 2 = 0 →
      utf8 text = before ++ byte :: rest → (∀ b ∈ before, b ∈ utf8 digits) →
      byte ∉ utf8 digits → Verdict text (.error (.badDigit byte before.length))
  /-- A text that writes bytes. -/
  | read {bs : Bytes} : Spells text bs → Verdict text (.ok bs)

theorem toList_encode (bs : Bytes) : (encode bs).toList = (bs.flatMap nibbles).map digit := by
  rw [encode, String.toList_ofList, List.map_flatMap]
  rfl

theorem spells_iff {text : List Char} {bs : Bytes} :
    Spells text bs ↔ (utf8 text).map digitValue? = (bs.flatMap nibbles).map some := by
  have hlt : ∀ v ∈ bs.flatMap nibbles, v < 16 := by
    intro v hv
    obtain ⟨b, -, hb⟩ := List.mem_flatMap.1 hv
    exact lt_of_mem_nibbles hb
  rw [Spells, toList_encode, utf8, Bytes.ofText_ofList, map_digitValue?_iff text hlt]

/-- Verdicts are what the reader answers. -/
theorem Verdict.decode_eq {text : List Char} {r : Except Defect Bytes} (h : Verdict text r) :
    decode (utf8 text) = r := by
  cases h with
  | oddLength hodd => exact if_pos hodd
  | badDigit heven htext hbefore hbyte =>
    -- What stands before the bad digit can be read, so the loop gets there.
    rw [decode, if_neg (by omega), htext]
    rw [htext] at heven
    have hnone := Option.not_isSome_iff_eq_none.1 (mt (isSome_digitValue?_iff _).1 hbyte)
    have hsome := fun b hb => (isSome_digitValue?_iff b).2 (hbefore b hb)
    rw [decodeFrom_badDigit 0 [] heven hsome hnone, Nat.zero_add]
  | read hspells =>
    have hvalues := spells_iff.1 hspells
    -- Each byte has two digits.
    have heven : (utf8 text).length % 2 = 0 := by
      have hlength := congrArg List.length hvalues
      rw [List.length_map, List.length_map, length_nibbles] at hlength
      rw [hlength, Nat.mul_mod_right]
    rw [decode, if_neg (by omega), decodeFrom_digits 0 [] hvalues]
    rfl

/-- Every text has a verdict. -/
theorem exists_verdict (text : List Char) : ∃ r, Verdict text r := by
  obtain heven | hodd := Nat.mod_two_eq_zero_or_one (utf8 text).length
  · cases hfind : (utf8 text).find? fun b => (digitValue? b).isNone with
    | none =>
      -- All bytes are digits, and there is an even number of them.
      have hall : ∀ b ∈ utf8 text, (digitValue? b).isSome = true := by
        simpa [Option.isSome_iff_ne_none] using hfind
      obtain ⟨bs, hbs⟩ := exists_bytes heven hall
      exact ⟨_, .read (spells_iff.2 hbs)⟩
    | some byte =>
      -- The text is cut before its first byte that is no digit.
      obtain ⟨hbyte, before, rest, htext, hbefore⟩ := List.find?_eq_some_iff_append.1 hfind
      refine ⟨_, .badDigit heven htext (fun b hb => ?_) ?_⟩
      · rw [← isSome_digitValue?_iff]
        simpa using hbefore b hb
      · rw [← isSome_digitValue?_iff]
        simpa using hbyte
  · exact ⟨_, .oddLength hodd⟩

/-- **The reader answers by the verdicts**, on every text. -/
theorem decode_iff {text : List Char} {r : Except Defect Bytes} :
    decode (utf8 text) = r ↔ Verdict text r := by
  refine ⟨?_, Verdict.decode_eq⟩
  rintro rfl
  obtain ⟨r, hr⟩ := exists_verdict text
  rwa [hr.decode_eq]

/-! ## Texts of digits -/

theorem mem_digits_of_toLower {c : Char} {v : Nat} (hv : v < 16) (h : c.toLower = digit v) :
    c ∈ digits := by
  have hall : ∀ n < 128, ∀ v < 16,
      (Char.ofNat n).toLower = digit v → Char.ofNat n ∈ digits := by
    decide +kernel
  have hc := hall c.toNat (toNat_lt_of_toLower hv h) v hv
  rw [Char.ofNat_toNat] at hc
  exact hc h

/-- The texts that write bytes are those of an even number of digits. -/
theorem exists_spells_iff {text : List Char} {n : Nat} :
    (∃ bs, Spells text bs ∧ bs.length = n) ↔
      text.length = 2 * n ∧ ∀ c ∈ text, c ∈ digits := by
  constructor
  · rintro ⟨bs, hspells, rfl⟩
    rw [Spells, toList_encode] at hspells
    constructor
    · have hlength := congrArg List.length hspells
      rwa [List.length_map, List.length_map, length_nibbles] at hlength
    · -- In lower case a character is the digit of some half of a byte.
      intro c hc
      have hlower : c.toLower ∈ (bs.flatMap nibbles).map digit := hspells ▸ List.mem_map_of_mem hc
      obtain ⟨v, hv, hdigit⟩ := List.mem_map.1 hlower
      obtain ⟨b, -, hb⟩ := List.mem_flatMap.1 hv
      exact mem_digits_of_toLower (lt_of_mem_nibbles hb) hdigit.symm
  · rintro ⟨hlength, hdigits⟩
    have hvalue : ∀ c ∈ digits, (digitValue? (UInt8.ofNat c.toNat)).isSome = true := by
      simp [digits, digitValue?]
    -- Digits are single bytes, so the text and its bytes have one length.
    have hutf8 := utf8_of_digits hdigits
    have heven : (utf8 text).length % 2 = 0 := by
      rw [hutf8, List.length_map, hlength, Nat.mul_mod_right]
    have hall : ∀ b ∈ utf8 text, (digitValue? b).isSome = true := by
      rw [hutf8, List.forall_mem_map]
      exact fun c hc => hvalue c (hdigits c hc)
    obtain ⟨bs, hbs⟩ := exists_bytes heven hall
    have hbytes := congrArg List.length hbs
    rw [List.length_map, List.length_map, length_nibbles, hutf8, List.length_map, hlength] at hbytes
    exact ⟨bs, spells_iff.2 hbs, (Nat.eq_of_mul_eq_mul_left Nat.two_pos hbytes).symm⟩

end Hex
end PairingSig
