import Mathlib.Algebra.BigOperators.Group.List.Lemmas
import Mathlib.Data.List.Perm.Basic
import PairingSig.Proofs.Groups.Membership
import PairingSig.Proofs.Verifier.Refinement

/-!
# Sums of written signatures

Aggregation reads signatures, adds up their points and writes the sum. The points are those of the
standard signature curve, so what is written is the form of the sum in the group of the curve. It
depends neither on the order of the signatures nor on how they are grouped, although the triples in
between do.

- **Points of a list**: `Signature.decode_eq_ok_iff`, a string is read as the point of which it is
  the form, and `exists_forms` for lists of strings;
- **Adding up**: `Represents.foldl_add` for triples, and `aggregate_of_forms` for strings;
- **Verdicts**: `SumVerdict` says what a list of strings comes to;
- **Sums**: `aggregate_sums`.
-/

namespace PairingSig

open Compressed (Form)

/-! ## Points of a list -/

/-- A string is read as the point of which it is the form. -/
theorem Signature.decode_eq_ok_iff {bs : Bytes} {s : Signature standardGroups} :
    decode bs = .ok s ↔ ∃ A : (curve Fp2).Point, Form bs A ∧ s = ⟨.normal A⟩ := by
  constructor
  · intro h
    obtain ⟨A, hform, hpoint⟩ := (Compressed.decode?_eq_some_iff (F := Fp2)).1 (decode_ok h)
    exact ⟨A, hform, congrArg Signature.mk hpoint⟩
  · rintro ⟨A, hform, rfl⟩
    exact decode_of_form hform

/-- Adding normal triples to a triple, one after the other, adds the sum of their points. -/
theorem Point.Represents.foldl_add {P : Point Fp2} {A : (curve Fp2).Point} (hP : P.Represents A)
    (points : List (curve Fp2).Point) :
    (points.foldl (fun Q B => Q.add (normal B)) P).Represents (A + points.sum) := by
  induction points generalizing P A with
  | nil => simpa using hP
  | cons B rest ih =>
    rw [List.foldl_cons, List.sum_cons, ← add_assoc]
    exact ih (hP.add (represents_normal B))

namespace Scheme

variable {written written' : List Bytes} {points points' : List (curve Fp2).Point}

/-- All strings of a list can be read as signatures. -/
def Readable (written : List Bytes) : Prop :=
  ∀ w ∈ written, ∃ s : Signature standardGroups, Signature.decode w = .ok s

theorem exists_forms (h : Readable written) :
    ∃ points : List (curve Fp2).Point, List.Forall₂ Form written points := by
  apply exists_forall₂
  intro w hw
  obtain ⟨s, hs⟩ := h w hw
  obtain ⟨A, hform, -⟩ := Signature.decode_eq_ok_iff.1 hs
  exact ⟨A, hform⟩

theorem decode_forms (h : List.Forall₂ Form written points) :
    written.mapM Signature.decode =
      .ok (points.map fun A => (⟨.normal A⟩ : Signature standardGroups)) := by
  apply mapM_eq_ok
  rw [List.forall₂_map_right_iff]
  exact h.imp fun w A hform => Signature.decode_of_form hform

/-! ## Adding up -/

theorem nsmul_sum_of_forms (h : List.Forall₂ Form written points) :
    groupOrder • points.sum = 0 := by
  induction h with
  | nil => exact nsmul_zero _
  | cons hform _ ih => rw [List.sum_cons, nsmul_add, nsmul_eq_zero_of_form hform, ih, add_zero]

/-- The sum of normal triples is written as the form of the sum of their points. -/
theorem form_encode_sum (horder : groupOrder • points.sum = 0) :
    Form (Signature.sum (points.map fun A =>
      (⟨.normal A⟩ : Signature standardGroups))).encode points.sum := by
  have hsum := (Point.represents_normal (0 : (curve Fp2).Point)).foldl_add points
  rw [zero_add] at hsum
  rw [Signature.encode_eq_compressed, Signature.sum, List.foldl_map]
  exact Compressed.form_encode_of_represents hsum horder

/-- **From strings to strings**: the aggregate of the forms of points is the form of their sum,
whatever the sum is. -/
theorem aggregate_of_forms (hne : written ≠ []) (h : List.Forall₂ Form written points) :
    ∃ sum, (aggregate standardGroups written).result = .ok sum ∧ Form sum points.sum := by
  have hpoints : points ≠ [] := (ne_nil_iff_of_forall₂ h).1 hne
  exact ⟨_, aggregate_of_decode (decode_forms h) (mt List.map_eq_nil_iff.1 hpoints),
    form_encode_sum (nsmul_sum_of_forms h)⟩

/-! ## Verdicts -/

/-- What a list of strings comes to when it is added up. -/
inductive SumVerdict (written : List Bytes) : Except Fault Bytes → Prop where
  | noSignatures : written = [] → SumVerdict written (.error .noSignatures)
  /-- A string cannot be read; the first such string has this fault. -/
  | unreadable {i : Nat} {f : Fault} :
      FirstFault (Signature.decode (G := standardGroups)) written i f →
      SumVerdict written (.error f)
  /-- All strings are forms of points, and the sum of the points has the form that is written. -/
  | sum {points : List (curve Fp2).Point} {sum : Bytes} :
      written ≠ [] → List.Forall₂ Form written points → Form sum points.sum →
      SumVerdict written (.ok sum)

theorem SumVerdict.result_eq {r : Except Fault Bytes} (h : SumVerdict written r) :
    (aggregate standardGroups written).result = r := by
  cases h with
  | noSignatures hempty =>
    subst hempty
    rfl
  | unreadable hfirst =>
    rw [result_aggregate, mapM_eq_error_iff.2 ⟨_, hfirst⟩]
    rfl
  -- The sum is written in some form of the point, and there is only one.
  | sum hne hforms hsum =>
    obtain ⟨sum', hresult, hsum'⟩ := aggregate_of_forms hne hforms
    rw [hresult, hsum.unique hsum']

theorem exists_sumVerdict (written : List Bytes) : ∃ r, SumVerdict written r := by
  by_cases hempty : written = []
  · exact ⟨_, .noSignatures hempty⟩
  -- Either a string is the first that cannot be read, or all have points.
  cases hread : (written.mapM Signature.decode : Except Fault (List (Signature standardGroups)))
    with
  | error f =>
    obtain ⟨i, hfirst⟩ := mapM_eq_error_iff.1 hread
    exact ⟨_, .unreadable hfirst⟩
  | ok sigs =>
    have hreadable : Readable written := by
      intro w hw
      obtain ⟨s, -, hs⟩ := exists_value_of_map_eq (map_eq_of_mapM_eq_ok hread) hw
      exact ⟨s, hs⟩
    obtain ⟨points, hforms⟩ := exists_forms hreadable
    obtain ⟨sum, -, hsum⟩ := aggregate_of_forms hempty hforms
    exact ⟨_, .sum hempty hforms hsum⟩

/-- The aggregate of a list of strings is its verdict. -/
theorem result_aggregate_iff {r : Except Fault Bytes} :
    (aggregate standardGroups written).result = r ↔ SumVerdict written r := by
  refine ⟨?_, SumVerdict.result_eq⟩
  rintro rfl
  obtain ⟨r, hr⟩ := exists_sumVerdict written
  rwa [hr.result_eq]

/-! ## Sums -/

/-- The operations that add up written signatures: that of the scheme, and that of a verifier, for
which it makes no difference what it remembers. -/
inductive Aggregator : (List Bytes → Except Fault Bytes) → Prop where
  | stateless : Aggregator fun written => (aggregate standardGroups written).result
  | caching : Aggregator (Verifier.aggregate (G := standardGroups))

theorem Aggregator.eq {add : List Bytes → Except Fault Bytes} (h : Aggregator add) :
    add = fun written => (aggregate standardGroups written).result := by
  cases h with
  | stateless => rfl
  | caching => exact funext Verifier.result_aggregate

/-- A sum is a signature again. -/
theorem decode_sum {sum : Bytes} (h : (aggregate standardGroups written).result = .ok sum) :
    sum.length = signatureLength ∧
      ∃ s : Signature standardGroups, Signature.decode sum = .ok s := by
  cases result_aggregate_iff.1 h with
  | sum _ _ hsum =>
    have hs := Signature.decode_of_form hsum
    exact ⟨Signature.length_of_decode hs, _, hs⟩

/-- The order of the signatures makes no difference. -/
theorem aggregate_perm (hread : Readable written) (hperm : written.Perm written') :
    (aggregate standardGroups written').result = (aggregate standardGroups written).result := by
  by_cases hempty : written = []
  · subst hempty
    rw [hperm.nil_eq]
  · obtain ⟨points, hforms⟩ := exists_forms hread
    obtain ⟨sum, hresult, hsum⟩ := aggregate_of_forms hempty hforms
    -- The points are rearranged together with their forms.
    obtain ⟨points', hforms', hpoints⟩ := List.perm_comp_forall₂ hperm.symm hforms
    rw [hresult]
    refine SumVerdict.result_eq (.sum ?_ hforms' ?_)
    · exact fun h => hempty (List.perm_nil.1 (h ▸ hperm))
    · rwa [hpoints.sum_eq]

/-- A sum may be formed from the sums of two parts. -/
theorem aggregate_append (hread : Readable written) (hread' : Readable written')
    (hne : written ≠ []) (hne' : written' ≠ []) :
    ∃ part part' total, (aggregate standardGroups written).result = .ok part ∧
      (aggregate standardGroups written').result = .ok part' ∧
      (aggregate standardGroups [part, part']).result = .ok total ∧
      (aggregate standardGroups (written ++ written')).result = .ok total := by
  obtain ⟨points, hforms⟩ := exists_forms hread
  obtain ⟨points', hforms'⟩ := exists_forms hread'
  obtain ⟨part, hresult, hpart⟩ := aggregate_of_forms hne hforms
  obtain ⟨part', hresult', hpart'⟩ := aggregate_of_forms hne' hforms'
  -- The sums are forms themselves, of the sums of the points, and these add up as points do.
  obtain ⟨total, htotal, hsum⟩ :=
    aggregate_of_forms (List.cons_ne_nil _ _) (.cons hpart (.cons hpart' .nil))
  refine ⟨part, part', total, hresult, hresult', htotal, SumVerdict.result_eq
    (.sum (List.append_ne_nil_of_left_ne_nil hne _) (List.rel_append hforms hforms') ?_)⟩
  rw [List.sum_append]
  simpa using hsum

/-- **Aggregation is a sum of encodings**, in the scheme and in a verifier alike. A list comes to
its verdict: without a signature, and with a string that is none, it is refused, and otherwise the
sum is written, which is a signature again. For lists of signatures the order makes no difference, a
single signature is its own sum, and the sums of two parts add up to the sum of the whole, byte for
byte and also if one of these sums is the identity. -/
theorem aggregate_sums {add : List Bytes → Except Fault Bytes} (h : Aggregator add) :
    (∀ written r, add written = r ↔ SumVerdict written r) ∧
    (∀ written sum, add written = .ok sum → sum.length = signatureLength ∧
      ∃ s : Signature standardGroups, Signature.decode sum = .ok s) ∧
    (∀ written written', Readable written → written.Perm written' →
      add written' = add written) ∧
    (∀ w, Readable [w] → add [w] = .ok w) ∧
    ∀ written written', Readable written → Readable written' → written ≠ [] → written' ≠ [] →
      ∃ part part' total, add written = .ok part ∧ add written' = .ok part' ∧
        add [part, part'] = .ok total ∧ add (written ++ written') = .ok total := by
  rw [h.eq]
  refine ⟨fun _ _ => result_aggregate_iff, fun _ _ => decode_sum, fun _ _ => aggregate_perm,
    fun w hw => ?_, fun _ _ => aggregate_append⟩
  -- A single string is the form of the sum of its one point.
  obtain ⟨points, hforms⟩ := exists_forms hw
  refine SumVerdict.result_eq (.sum (List.cons_ne_nil _ _) hforms ?_)
  cases hforms with
  | cons hform hnil =>
    cases hnil
    simpa using hform

/-- A signature and its opposite add up to the identity in either order, and together with a third
signature to that one. -/
theorem aggregate_sums_opposite :
    let B : (curve Fp2).Point := onCurve_extensionGenerator.point
    let w := Compressed.encode (Point.normal B)
    let w' := Compressed.encode (Point.normal (-B))
    let add := Verifier.aggregate (G := standardGroups)
    Readable [w] ∧ Readable [w, w'] ∧
    add [w, w'] = .ok (0xc0 :: List.replicate 95 0) ∧ add [w', w] = add [w, w'] ∧
    add [w] = .ok w ∧
    ∃ part part' total, add [w, w'] = .ok part ∧ add [w] = .ok part' ∧
      add [part, part'] = .ok total ∧ add [w, w', w] = .ok total := by
  intro B w w' add
  have hB : groupOrder • B = 0 := (Point.represents_normal B).inSubgroup_iff.1 (by decide +kernel)
  have hB' : groupOrder • (-B) = 0 := by rw [neg_nsmul, hB, neg_zero]
  -- Both strings are forms, and their points cancel each other.
  have hw : Form w B := Compressed.form_encode hB
  have hw' : Form w' (-B) := Compressed.form_encode hB'
  have hone : Readable [w] := by
    simpa [Readable] using ⟨_, Signature.decode_of_form hw⟩
  have htwo : Readable [w, w'] := by
    simpa [Readable] using
      ⟨⟨_, Signature.decode_of_form hw⟩, ⟨_, Signature.decode_of_form hw'⟩⟩
  obtain ⟨hverdict, -, hperm, hsingle, happend⟩ := aggregate_sums .caching
  have hzero : Form (0xc0 :: List.replicate 95 0) [B, -B].sum := by
    rw [List.sum_cons, List.sum_singleton, add_neg_cancel]
    exact rfl
  refine ⟨hone, htwo, (hverdict _ _).2 (.sum (List.cons_ne_nil _ _) (.cons hw (.cons hw' .nil))
    hzero), hperm _ _ htwo (.swap _ _ _), hsingle w hone, ?_⟩
  exact happend _ _ htwo hone (List.cons_ne_nil _ _) (List.cons_ne_nil _ _)

end Scheme

end PairingSig
