import PairingSig.Proofs.Curve.Group

/-!
# The compressed form of points

A string is read exactly when it is the form of the identity or of another point of the subgroup,
and a point has one form, whatever triple represents it.

- **The form**: `CoordinateForm` says how a coordinate is written below the flags and which of two
  roots is the larger one, `Spells` and `Form` which strings are forms, all without the reader;
- **Flags**: the bits of the first byte, put on and taken off;
- **Roots**: `lift?_eq_some_iff`, the flag selects one of the two points over a coordinate;
- **Reading and writing**: `decode?_eq_some_iff`; `encode_of_decode?` and
  `form_encode_of_represents`, the two directions of the round trip;
- **Different points**: `encode_eq_iff_exists`, also for points that no reader accepts.
-/

namespace PairingSig

/-- The form of the coordinates of points. -/
class CoordinateForm (F : Type) where
  /-- A string has the right length and its bits below the three flags write a coordinate. -/
  Writes : Bytes → F → Prop
  /-- An element comes after its negative. -/
  Larger : F → Prop

/-- Elements are written and read in their form, and square roots are found. -/
class LawfulCoordinate (F : Type) [Field F] [Coordinate F] [CoordinateForm F] : Prop where
  width_pos : 0 < Coordinate.width F
  length_encode : ∀ x : F, (Coordinate.encode x).length = Coordinate.width F
  encode_zero : Coordinate.encode (0 : F) = List.replicate (Coordinate.width F) 0
  head_lt : ∀ (x : F) (top : UInt8) (rest : Bytes),
    Coordinate.encode x = top :: rest → top.toNat < 32
  decode?_eq_some_iff : ∀ (bs : Bytes) (x : F),
    Coordinate.decode? bs = some x ↔ Coordinate.encode x = bs
  not_writes_nil : ∀ x : F, ¬ CoordinateForm.Writes [] x
  writes_cons_iff : ∀ (top : UInt8) (rest : Bytes) (x : F),
    CoordinateForm.Writes (top :: rest) x ↔
      Coordinate.encode x = Compressed.unflagged top :: rest
  isLarger_iff : ∀ y : F, Coordinate.isLarger y = true ↔ CoordinateForm.Larger y
  isLarger_neg : ∀ y : F, y ≠ 0 → Coordinate.isLarger (-y) = !Coordinate.isLarger y
  mul_self_of_sqrt? : ∀ a y : F, Coordinate.sqrt? a = some y → y * y = a
  exists_sqrt? : ∀ a : F, IsSquare a → ∃ y, Coordinate.sqrt? a = some y

theorem LawfulCoordinate.exists_encode_eq_cons {F : Type} [Field F] [Coordinate F]
    [CoordinateForm F] [LawfulCoordinate F] (x : F) :
    ∃ top rest, Coordinate.encode x = top :: rest := by
  apply List.exists_cons_of_length_pos
  rw [length_encode]
  exact width_pos

namespace Compressed

open WeierstrassCurve (Affine)

/-! ## Flags -/

theorem Flags.ofByte_eq (b : UInt8) :
    Flags.ofByte b = ⟨b.toNat.testBit 7, b.toNat.testBit 6, b.toNat.testBit 5⟩ := by
  have hb := b.toNat_lt
  simp only [Flags.ofByte, Nat.testBit_eq_decide_div_mod_eq, Flags.mk.injEq, decide_eq_decide]
  omega

theorem toNat_unflagged (b : UInt8) : (unflagged b).toNat = b.toNat % 32 := by
  rw [unflagged, UInt8.toNat_ofNat']
  omega

theorem toNat_flagged (larger : Bool) {b : UInt8} (hb : b.toNat < 32) :
    (flagged larger b).toNat = 128 + (if larger then 32 else 0) + b.toNat := by
  rw [flagged, UInt8.toNat_ofNat']
  split <;> omega

theorem unflagged_flagged (larger : Bool) {b : UInt8} (hb : b.toNat < 32) :
    unflagged (flagged larger b) = b := by
  apply UInt8.toNat_inj.1
  rw [toNat_unflagged, toNat_flagged larger hb]
  split <;> omega

theorem ofByte_flagged (larger : Bool) {b : UInt8} (hb : b.toNat < 32) :
    Flags.ofByte (flagged larger b) = ⟨true, false, larger⟩ := by
  rw [Flags.ofByte, toNat_flagged larger hb]
  cases larger <;> simp <;> omega

/-- A byte is determined by its flags and what is left without them. -/
theorem eq_of_flags {a b : UInt8} (hflags : Flags.ofByte a = Flags.ofByte b)
    (hrest : unflagged a = unflagged b) : a = b := by
  have hmod := congrArg UInt8.toNat hrest
  rw [toNat_unflagged, toNat_unflagged] at hmod
  simp only [Flags.ofByte, Flags.mk.injEq, decide_eq_decide] at hflags
  have ha := a.toNat_lt
  have hb := b.toNat_lt
  apply UInt8.toNat_inj.1
  omega

theorem flagged_unflagged {b : UInt8} {larger : Bool}
    (h : Flags.ofByte b = ⟨true, false, larger⟩) : flagged larger (unflagged b) = b := by
  have hlt : (unflagged b).toNat < 32 := by
    rw [toNat_unflagged]
    exact Nat.mod_lt _ (by decide)
  exact eq_of_flags ((ofByte_flagged larger hlt).trans h.symm) (unflagged_flagged larger hlt)

/-! ## Writing -/

section

variable {F : Type} [Field F] [DecidableEq F] [Coordinate F]

theorem encode_identity : encode (.identity : Point F) = identityBytes F := by
  rw [encode, if_pos Point.isIdentity_identity]

/-- A point is written as its coordinate with the flags put on. -/
theorem encode_affine {x y : F} {top : UInt8} {rest : Bytes}
    (h : Coordinate.encode x = top :: rest) :
    encode (.affine x y) = flagged (Coordinate.isLarger y) top :: rest := by
  have haffine : (Point.affine x y).toAffine = (x, y) := by
    simp only [Point.toAffine, Point.affine, inv_one, mul_one]
  rw [encode, Point.isIdentity_affine, if_neg Bool.false_ne_true, haffine]
  dsimp only
  rw [h]

/-- Multiples of a triple are written alike. -/
theorem encode_scale {k : F} (hk : k ≠ 0) (P : Point F) : encode (P.scale k) = encode P := by
  rw [encode, encode, Point.isIdentity_scale hk, Point.toAffine_scale hk]

variable [CurveConstant F]

/-- The reader, with its two searches as binds. -/
theorem decode?_cons (top : UInt8) (rest : Bytes) :
    (decode? (top :: rest) : Option (Point F)) =
      (Coordinate.decode? (unflagged top :: rest)).bind fun x =>
        if (Flags.ofByte top).compressed = false then none
        else if (Flags.ofByte top).identity = true then
          if (Flags.ofByte top).larger = false ∧ x = 0 then some .identity else none
        else (lift? x (Flags.ofByte top).larger).bind fun P =>
          if inSubgroup P then some P else none := by
  rw [decode?]
  cases (Coordinate.decode? (unflagged top :: rest) : Option F) with
  | none => rfl
  | some x =>
    rw [Option.bind_some]
    dsimp only
    cases lift? x (Flags.ofByte top).larger <;> rfl

end

/-! ## The identity -/

variable {F : Type} [Field F] [Coordinate F] [CoordinateForm F] [LawfulCoordinate F]

theorem encode_zero :
    Coordinate.encode (0 : F) = 0 :: List.replicate (Coordinate.width F - 1) 0 := by
  rw [LawfulCoordinate.encode_zero, ← List.replicate_succ,
    Nat.sub_add_cancel LawfulCoordinate.width_pos]

/-- A string with the flags of the identity whose coordinate is zero is its form. -/
theorem eq_identityBytes {top : UInt8} {rest : Bytes}
    (hflags : Flags.ofByte top = ⟨true, true, false⟩)
    (hx : Coordinate.encode (0 : F) = unflagged top :: rest) : top :: rest = identityBytes F := by
  rw [encode_zero, List.cons.injEq] at hx
  obtain ⟨htop, rfl⟩ := hx
  have heq : top = 0xc0 := eq_of_flags (hflags.trans (by decide)) (htop.symm.trans (by decide))
  rw [heq, identityBytes]

theorem decode?_identityBytes [CurveConstant F] [DecidableEq F] :
    decode? (identityBytes F) = some (.identity : Point F) := by
  have hzero : Coordinate.decode? (unflagged 0xc0 :: List.replicate (Coordinate.width F - 1) 0) =
      some (0 : F) :=
    (LawfulCoordinate.decode?_eq_some_iff _ _).2 encode_zero
  have hflags : Flags.ofByte 0xc0 = ⟨true, true, false⟩ := by decide
  rw [identityBytes, decode?_cons, hzero, Option.bind_some, hflags]
  dsimp only
  rw [if_neg Bool.false_ne_true.symm, if_pos rfl, if_pos ⟨rfl, rfl⟩]

/-! ## Roots -/

variable [CurveConstant F] [NoOrderTwo F]

/-- **The flag selects the root**: over a coordinate there are two points or none, and of the two
one has the larger `y`. -/
theorem lift?_eq_some_iff {x : F} {larger : Bool} {P : Point F} :
    lift? x larger = some P ↔
      ∃ y, OnCurve x y ∧ Coordinate.isLarger y = larger ∧ P = .affine x y := by
  rw [lift?]
  constructor
  · intro h
    split at h
    · cases h
    · -- A root was found, and it or its negative is the one asked for.
      rename_i y hy
      cases h
      have hcurve : OnCurve x y := LawfulCoordinate.mul_self_of_sqrt? _ _ hy
      by_cases hl : Coordinate.isLarger y = larger
      · exact ⟨y, hcurve, hl, by rw [if_pos hl]⟩
      · refine ⟨-y, hcurve.neg, ?_, by rw [if_neg hl]⟩
        rw [LawfulCoordinate.isLarger_neg y hcurve.y_ne_zero, Bool.not_eq_eq_eq_not]
        exact Bool.eq_not.2 hl
  · rintro ⟨y, hcurve, rfl, rfl⟩
    obtain ⟨y', hy'⟩ := LawfulCoordinate.exists_sqrt? _ ⟨y, hcurve.symm⟩
    have hcurve' : OnCurve x y' := LawfulCoordinate.mul_self_of_sqrt? _ _ hy'
    rw [hy']
    dsimp only
    -- The root that is found need not be `y`.
    obtain rfl | rfl := hcurve'.eq_or_eq_neg hcurve
    · rw [if_pos rfl]
    · -- The other root was found.
      rw [LawfulCoordinate.isLarger_neg y hcurve.y_ne_zero, if_neg (Bool.not_ne_self _), neg_neg]

/-! ## Forms -/

variable [DecidableEq F]

/-- A string is the form of the point of the subgroup with given coordinates. -/
structure Spells (bs : Bytes) (x y : F) : Prop where
  writes : CoordinateForm.Writes bs x
  compressed : (bs.headD 0).toNat.testBit 7 = true
  not_identity : (bs.headD 0).toNat.testBit 6 = false
  larger_iff : (bs.headD 0).toNat.testBit 5 = true ↔ CoordinateForm.Larger y
  order : ∃ h : OnCurve x y, groupOrder • h.point = 0

/-- A form in terms of its parts. -/
theorem spells_cons_iff {top : UInt8} {rest : Bytes} {x y : F} :
    Spells (top :: rest) x y ↔
      Coordinate.encode x = unflagged top :: rest ∧
        Flags.ofByte top = ⟨true, false, Coordinate.isLarger y⟩ ∧
        ∃ h : OnCurve x y, groupOrder • h.point = 0 := by
  rw [Flags.ofByte_eq, Flags.mk.injEq, ← LawfulCoordinate.writes_cons_iff,
    Bool.eq_iff_iff (a := Nat.testBit _ 5), LawfulCoordinate.isLarger_iff]
  constructor
  · rintro ⟨hwrites, hcompressed, hidentity, hlarger, horder⟩
    exact ⟨hwrites, ⟨hcompressed, hidentity, hlarger⟩, horder⟩
  · rintro ⟨hwrites, ⟨hcompressed, hidentity, hlarger⟩, horder⟩
    exact ⟨hwrites, hcompressed, hidentity, hlarger, horder⟩

theorem Spells.exists_cons {bs : Bytes} {x y : F} (h : Spells bs x y) :
    ∃ top rest, bs = top :: rest := by
  apply List.exists_cons_of_ne_nil
  rintro rfl
  exact LawfulCoordinate.not_writes_nil x h.writes

/-- A form is written for its point. -/
theorem Spells.encode_eq {bs : Bytes} {x y : F} (h : Spells bs x y) :
    encode (.affine x y) = bs := by
  obtain ⟨top, rest, rfl⟩ := h.exists_cons
  obtain ⟨hx, hflags, -⟩ := spells_cons_iff.1 h
  rw [encode_affine hx, flagged_unflagged hflags]

/-- A point of the subgroup is written as its form. -/
theorem spells_encode {x y : F} (h : OnCurve x y) (horder : groupOrder • h.point = 0) :
    Spells (encode (.affine x y)) x y := by
  obtain ⟨top, rest, hx⟩ := LawfulCoordinate.exists_encode_eq_cons x
  have htop := LawfulCoordinate.head_lt x top rest hx
  rw [encode_affine hx, spells_cons_iff, unflagged_flagged _ htop, ofByte_flagged _ htop]
  exact ⟨hx, rfl, h, horder⟩

/-- A string is the form of a point of the subgroup. -/
def Form (bs : Bytes) : (curve F).Point → Prop
  | .zero => bs = identityBytes F
  | .some x y _ => Spells bs x y

theorem Form.encode_eq {bs : Bytes} {A : (curve F).Point} (h : Form bs A) :
    encode (.normal A) = bs := by
  cases A with
  | zero => exact encode_identity.trans h.symm
  | some x y _ => exact Spells.encode_eq h

/-- A point has one form. -/
theorem Form.unique {bs bs' : Bytes} {A : (curve F).Point} (h : Form bs A) (h' : Form bs' A) :
    bs = bs' :=
  h.encode_eq.symm.trans h'.encode_eq

theorem form_encode {A : (curve F).Point} (horder : groupOrder • A = 0) :
    Form (encode (.normal A)) A := by
  cases A with
  | zero => exact encode_identity
  | some x y h => exact spells_encode (nonsingular_iff.1 h) horder

/-! ## Reading and writing -/

theorem Spells.decode?_eq {bs : Bytes} {x y : F} (h : Spells bs x y) :
    decode? bs = some (.affine x y) := by
  obtain ⟨top, rest, rfl⟩ := h.exists_cons
  obtain ⟨hx, hflags, hcurve, horder⟩ := spells_cons_iff.1 h
  have hroot : lift? x (Coordinate.isLarger y) = some (.affine x y) :=
    lift?_eq_some_iff.2 ⟨y, hcurve, rfl, rfl⟩
  have hsub : inSubgroup (.affine x y) = true :=
    (Point.represents_normal hcurve.point).inSubgroup_iff.2 horder
  -- The four tests of the reader: the coordinate, the two flags, the root, and the subgroup.
  rw [decode?_cons, (LawfulCoordinate.decode?_eq_some_iff _ _).2 hx, Option.bind_some, hflags]
  dsimp only
  rw [if_neg Bool.false_ne_true.symm, if_neg Bool.false_ne_true, hroot, Option.bind_some,
    if_pos hsub]

/-- What is read has a form, which shows in the branch that read it. -/
theorem exists_form_of_decode? {bs : Bytes} {P : Point F} (h : decode? bs = some P) :
    ∃ A, Form bs A ∧ P = .normal A := by
  cases bs with
  | nil => cases h
  | cons top rest =>
    rw [decode?_cons, Option.bind_eq_some_iff] at h
    obtain ⟨x, hx, h⟩ := h
    rw [LawfulCoordinate.decode?_eq_some_iff] at hx
    obtain ⟨⟨compressed, identity, larger⟩, hflags⟩ : ∃ f, Flags.ofByte top = f := ⟨_, rfl⟩
    rw [hflags] at h
    dsimp only at h
    split_ifs at h with hcompressed hidentity hzero
    · -- With the flag of the identity, only zero is accepted as coordinate.
      obtain rfl := Bool.eq_true_of_not_eq_false hcompressed
      obtain ⟨rfl, rfl⟩ := hzero
      subst hidentity
      cases h
      exact ⟨0, eq_identityBytes hflags hx, rfl⟩
    · -- Without it, a point over the coordinate is looked for and tested.
      obtain rfl := Bool.eq_true_of_not_eq_false hcompressed
      obtain rfl := Bool.eq_false_of_not_eq_true hidentity
      obtain ⟨Q, hQ, h⟩ := Option.bind_eq_some_iff.1 h
      obtain ⟨y, hcurve, rfl, rfl⟩ := lift?_eq_some_iff.1 hQ
      obtain ⟨hsub, hP⟩ := Option.ite_none_right_eq_some.1 h
      obtain rfl := Option.some_inj.1 hP
      have horder := (Point.represents_normal hcurve.point).inSubgroup_iff.1 hsub
      exact ⟨hcurve.point, spells_cons_iff.2 ⟨hx, hflags, hcurve, horder⟩, rfl⟩

/-- **Reading accepts the forms of the points of the subgroup** and nothing else. -/
theorem decode?_eq_some_iff {bs : Bytes} {P : Point F} :
    decode? bs = some P ↔ ∃ A, Form bs A ∧ P = .normal A := by
  refine ⟨exists_form_of_decode?, ?_⟩
  rintro ⟨A, h, rfl⟩
  cases A with
  | zero =>
    obtain rfl : bs = identityBytes F := h
    exact decode?_identityBytes
  | some x y _ => exact Spells.decode?_eq h

/-- A string is the form of one point. -/
theorem Form.point_unique {bs : Bytes} {A B : (curve F).Point} (hA : Form bs A) (hB : Form bs B) :
    A = B := by
  have hdecode := decode?_eq_some_iff.2 ⟨A, hA, rfl⟩
  rw [decode?_eq_some_iff.2 ⟨B, hB, rfl⟩, Option.some_inj] at hdecode
  exact Point.normal_injective hdecode.symm

/-- A string that is neither the identity's nor spells another point is read as none. -/
theorem decode?_eq_none {bs : Bytes} (hidentity : bs ≠ identityBytes F)
    (hspells : ∀ x y : F, ¬ Spells bs x y) : (decode? bs : Option (Point F)) = none := by
  rw [Option.eq_none_iff_forall_ne_some]
  intro P hP
  obtain ⟨A, hform, -⟩ := decode?_eq_some_iff.1 hP
  cases A with
  | zero => exact hidentity hform
  | some x y _ => exact hspells x y hform

variable (F) in
omit [LawfulCoordinate F] in
/-- What a string can be: of another length, the identity's form, that of another point, or none. -/
theorem form_cases (bs : Bytes) :
    bs.length ≠ Coordinate.width F ∨ bs = identityBytes F ∨ (∃ x y : F, Spells bs x y) ∨
      bs.length = Coordinate.width F ∧ bs ≠ identityBytes F ∧ ∀ x y : F, ¬ Spells bs x y := by
  by_cases hlength : bs.length = Coordinate.width F
  · by_cases hidentity : bs = identityBytes F
    · exact .inr (.inl hidentity)
    · by_cases hspells : ∃ x y : F, Spells bs x y
      · exact .inr (.inr (.inl hspells))
      · exact .inr (.inr (.inr ⟨hlength, hidentity, fun x y h => hspells ⟨x, y, h⟩⟩))
  · exact .inl hlength

/-- **What is read is written as it stood.** -/
theorem encode_of_decode? {bs : Bytes} {P : Point F} (h : decode? bs = some P) : encode P = bs := by
  obtain ⟨A, hform, rfl⟩ := decode?_eq_some_iff.1 h
  exact hform.encode_eq

/-- **What is written for a point of the subgroup is its form**, whatever triple represents it. -/
theorem form_encode_of_represents {P : Point F} {A : (curve F).Point} (hP : P.Represents A)
    (horder : groupOrder • A = 0) : Form (encode P) A := by
  obtain ⟨k, hk, rfl⟩ := hP
  rw [encode_scale hk]
  exact form_encode horder

/-! ## Different points -/

omit [CurveConstant F] [NoOrderTwo F] in
/-- No other point has the flags of the identity. -/
theorem encode_affine_ne_identity (x y : F) :
    encode (.affine x y) ≠ encode (.identity : Point F) := by
  obtain ⟨top, rest, hx⟩ := LawfulCoordinate.exists_encode_eq_cons x
  rw [encode_affine hx, encode_identity, identityBytes]
  intro h
  have hidentity : (Flags.ofByte 0xc0).identity = true := by decide
  rw [← (List.cons.inj h).1, ofByte_flagged _ (LawfulCoordinate.head_lt x top rest hx)] at hidentity
  cases hidentity

/-- The coordinate is what stands below the flags, and the flag tells which root was meant. -/
theorem affine_eq_of_encode_eq {x y x' y' : F} (h : OnCurve x y) (h' : OnCurve x' y')
    (heq : encode (.affine x y) = encode (.affine x' y')) :
    Point.affine x y = Point.affine x' y' := by
  obtain ⟨top, rest, hx⟩ := LawfulCoordinate.exists_encode_eq_cons x
  obtain ⟨top', rest', hx'⟩ := LawfulCoordinate.exists_encode_eq_cons x'
  have htop := LawfulCoordinate.head_lt x top rest hx
  have htop' := LawfulCoordinate.head_lt x' top' rest' hx'
  rw [encode_affine hx, encode_affine hx'] at heq
  obtain ⟨hhead, rfl⟩ := List.cons.inj heq
  -- The first byte gives the flag and the top of the coordinate; the rest stands as it is.
  have hlarger : Coordinate.isLarger y = Coordinate.isLarger y' := by
    have hflags := congrArg Flags.ofByte hhead
    rw [ofByte_flagged _ htop, ofByte_flagged _ htop'] at hflags
    exact congrArg Flags.larger hflags
  have hbyte := congrArg unflagged hhead
  rw [unflagged_flagged _ htop, unflagged_flagged _ htop'] at hbyte
  subst hbyte
  -- A coordinate is read from its own bytes, so the two are one.
  have hread := (LawfulCoordinate.decode?_eq_some_iff _ _).2 hx
  rw [(LawfulCoordinate.decode?_eq_some_iff _ _).2 hx', Option.some_inj] at hread
  subst hread
  -- Of the two points over the coordinate, the flag selects one.
  have hlift := lift?_eq_some_iff.2 ⟨y, h, rfl, rfl⟩
  rw [lift?_eq_some_iff.2 ⟨y', h', hlarger.symm, rfl⟩, Option.some_inj] at hlift
  exact hlift.symm

theorem encode_normal_injective :
    Function.Injective fun A : (curve F).Point => encode (.normal A) := by
  intro A B h
  apply Point.normal_injective
  -- Two points of the curve are told apart by their bytes, and both from the identity.
  cases A with
  | zero =>
    cases B with
    | zero => rfl
    | some x y _ => exact absurd h.symm (encode_affine_ne_identity x y)
  | some x y hA =>
    cases B with
    | zero => exact absurd h (encode_affine_ne_identity x y)
    | some x' y' hB =>
      exact affine_eq_of_encode_eq (nonsingular_iff.1 hA) (nonsingular_iff.1 hB) h

theorem encode_eq_iff_of_represents {P Q : Point F} {A B : (curve F).Point} (hP : P.Represents A)
    (hQ : Q.Represents B) : encode P = encode Q ↔ A = B := by
  obtain ⟨k, hk, rfl⟩ := hP
  obtain ⟨l, hl, rfl⟩ := hQ
  rw [encode_scale hk, encode_scale hl]
  exact encode_normal_injective.eq_iff

/-- **Triples are written alike exactly when they represent one point**, of the subgroup or not. -/
theorem encode_eq_iff_exists {P Q : Point F} (hP : ∃ A : (curve F).Point, P.Represents A)
    (hQ : ∃ B : (curve F).Point, Q.Represents B) :
    encode P = encode Q ↔ ∃ A : (curve F).Point, P.Represents A ∧ Q.Represents A := by
  obtain ⟨A, hA⟩ := hP
  obtain ⟨B, hB⟩ := hQ
  rw [encode_eq_iff_of_represents hA hB]
  constructor
  · rintro rfl
    exact ⟨A, hA, hB⟩
  · rintro ⟨C, hC, hC'⟩
    -- A triple represents one point only, so the common one is that of both.
    rw [← (encode_eq_iff_of_represents hC hA).1 rfl, (encode_eq_iff_of_represents hC' hB).1 rfl]

end Compressed

end PairingSig
