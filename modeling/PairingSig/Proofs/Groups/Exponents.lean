import Mathlib.Algebra.Field.ZMod
import Mathlib.Data.List.Nodup
import Mathlib.Logic.Function.Basic
import PairingSig.Bls12381
import PairingSig.Proofs.Groups.Interpretation
import PairingSig.Signature

/-!
# Groups of exponents

The laws of `PairingGroups.Interpretation` have a model. Both groups are the integers modulo
`groupOrder`, taken as exponents of fixed generators; the pairing multiplies exponents. How an
element is written is free as long as no two are written alike: a `FormTable` lists the forms of
some exponents and leaves the others a form that no listed one has.

- `FormTable.write_injective`: no two exponents share a form;
- `exponentGroups`, `exponentInterpretation`: the operations and their laws;
- `sampleGroups`: the instance in which the points of the samples have the forms that they have
  over `standardGroups`: a few multiples of the generator, the points of three messages, the sum of
  two of them and a multiple of the third.
-/

namespace PairingSig

/-! ## Written forms -/

/-- The written forms of some exponents, none of which begins with a zero byte. -/
structure FormTable (width : Nat) where
  forms : List (Nat × Bytes)
  nodup : (forms.map Prod.snd).Nodup
  length_eq : ∀ form ∈ forms, form.2.length = width + 1
  head_ne_zero : ∀ form ∈ forms, form.2.head? ≠ some 0
  /-- There is room for every other exponent behind a zero byte. -/
  room : groupOrder < Bytes.bound width

namespace FormTable

variable {width : Nat} (t : FormTable width)

/-- The written form of an exponent. -/
def write (k : ZMod groupOrder) : Bytes :=
  match t.forms.lookup k.val with
  | some bs => bs
  | none => 0 :: Bytes.ofNat width k.val

/-- A listed exponent is written in its listed form. -/
theorem write_natCast {n : Nat} {bs : Bytes} (h : t.forms.lookup (n % groupOrder) = some bs) :
    t.write n = bs := by
  rw [write, ZMod.val_natCast, h]

theorem mem_of_lookup {n : Nat} {bs : Bytes} (h : t.forms.lookup n = some bs) :
    (n, bs) ∈ t.forms := by
  obtain ⟨before, after, hsplit, -⟩ := List.lookup_eq_some_iff.1 h
  rw [hsplit]
  exact List.mem_append_cons_self

theorem length_write (k : ZMod groupOrder) : (t.write k).length = width + 1 := by
  unfold write
  split
  · rename_i bs hbs
    exact t.length_eq _ (t.mem_of_lookup hbs)
  · rw [List.length_cons, Bytes.length_ofNat]

theorem write_injective : Function.Injective t.write := by
  intro k l h
  apply ZMod.val_injective groupOrder
  unfold write at h
  split at h
  · rename_i bs hk
    split at h
    · rename_i bs' hl
      -- Both forms are listed, and every form is listed once.
      exact congrArg Prod.fst
        (List.inj_on_of_nodup_map t.nodup (t.mem_of_lookup hk) (t.mem_of_lookup hl) h)
    · -- Only the first form is listed, so the two differ in their first byte.
      exact absurd (by rw [h]; rfl) (t.head_ne_zero _ (t.mem_of_lookup hk))
  · split at h
    · rename_i bs' hl
      exact absurd (by rw [← h]; rfl) (t.head_ne_zero _ (t.mem_of_lookup hl))
    · -- Both are written as numbers, which are read back.
      have hnum := congrArg Bytes.toNat (List.cons.inj h).2
      rwa [Bytes.toNat_ofNat (lt_trans (ZMod.val_lt k) t.room),
        Bytes.toNat_ofNat (lt_trans (ZMod.val_lt l) t.room)] at hnum

end FormTable

/-! ## The groups -/

/-- The operations on exponents, over two tables of forms and a map from messages to exponents. -/
noncomputable def exponentGroups (keys : FormTable 47) (signatures : FormTable 95)
    (hash : Bytes → ZMod groupOrder) : PairingGroups where
  G₁ := ZMod groupOrder
  G₂ := ZMod groupOrder
  generator := 1
  smul₁ := fun k a => k.val • a
  isIdentity₁ := fun a => decide (a = 0)
  encode₁ := keys.write
  decode₁? := Function.partialInv keys.write
  identity₂ := 0
  add₂ := fun a b => a + b
  smul₂ := fun k a => k.val • a
  encode₂ := signatures.write
  decode₂? := Function.partialInv signatures.write
  hash := hash
  balances := fun s pairs => decide (s = (pairs.map fun ab => ab.1 * ab.2).sum)

/-- Every exponent stands for itself. -/
def exponentReading : Reading (ZMod groupOrder) (ZMod groupOrder) where
  proper := fun _ => True
  value := fun a => a

theorem exponentReading_codec {width : Nat} (t : FormTable width) :
    exponentReading.Codec (width + 1) t.write (Function.partialInv t.write) where
  length_encode := fun P _ => t.length_write P
  encode_congr := fun _ _ _ _ h => congrArg t.write h
  decode_encode := fun P _ => ⟨P, Function.partialInv_left t.write_injective P, rfl⟩
  proper_of_decode := fun _ _ _ => trivial
  encode_of_decode := fun bs P h => (t.write_injective.isPartialInv P bs).1 h

/-- The laws hold for exponents, whatever their forms are and however messages are hashed. -/
def exponentInterpretation (keys : FormTable 47) (signatures : FormTable 95)
    (hash : Bytes → ZMod groupOrder) :
    (exponentGroups keys signatures hash).Interpretation (ZMod groupOrder) (ZMod groupOrder)
      (ZMod groupOrder) where
  keys := exponentReading
  signatures := exponentReading
  pairing := AddMonoidHom.mul
  card₁ := Nat.card_zmod groupOrder
  card₂ := Nat.card_zmod groupOrder
  -- Only zero has zero as its product with one.
  nondegenerate := by
    intro h
    have h1 : (1 : ZMod groupOrder) * 1 = 0 := DFunLike.congr_fun (DFunLike.congr_fun h 1) 1
    exact one_ne_zero ((mul_one 1).symm.trans h1)
  proper_generator := trivial
  generator_ne_zero := one_ne_zero
  proper_smul₁ := fun _ _ _ => trivial
  value_smul₁ := fun _ _ _ => rfl
  isIdentity₁_iff := by
    intro (a : ZMod groupOrder) _
    show decide (a = 0) = true ↔ a = 0
    exact decide_eq_true_iff
  keyCodec := exponentReading_codec keys
  proper_identity₂ := trivial
  value_identity₂ := rfl
  proper_add₂ := fun _ _ _ _ => trivial
  value_add₂ := fun _ _ _ _ => rfl
  proper_smul₂ := fun _ _ _ => trivial
  value_smul₂ := fun _ _ _ => rfl
  signatureCodec := exponentReading_codec signatures
  proper_hash := fun _ => trivial
  -- The pairing is the product, and the generator of the keys is one.
  balances_iff := by
    intro (s : ZMod groupOrder) (pairs : List (ZMod groupOrder × ZMod groupOrder)) _ _
    show decide (s = (pairs.map fun ab => ab.1 * ab.2).sum) = true ↔
      1 * s = (pairs.map fun ab => ab.1 * ab.2).sum
    rw [decide_eq_true_iff, one_mul]

section

variable (keys : FormTable 47) (signatures : FormTable 95) (hash : Bytes → ZMod groupOrder)

/-- The public key of a private key is its scalar, taken as an exponent. -/
theorem encode_publicKey_exponent (x : PrivateKey) :
    (x.publicKey (exponentGroups keys signatures hash)).encode = keys.write x.scalar.val := by
  show keys.write (x.scalar.val • (1 : ZMod groupOrder)) = _
  rw [nsmul_one]

/-- A signature multiplies that scalar with the exponent of the message. -/
theorem encode_sign_exponent (x : PrivateKey) (message : Bytes) :
    (x.sign (exponentGroups keys signatures hash) message).encode =
      signatures.write (x.scalar.val * hash message) := by
  show signatures.write (x.scalar.val • hash message) = _
  rw [nsmul_eq_mul]

end

/-! ## A sample -/

/-- The private key that 32 bytes of ten give as a seed. -/
def sampleExponent : Nat :=
  0x45f6a1add14d0ff893bb1697caca5c0148794d904014084bea7e4008e4865593

/-- The public key of that private key. -/
def samplePublicKey : Bytes :=
  .ofNat 48 0xa51daecbcebed144ae86727a93bf78c525c059b1d83abb12072e7d7ecb88d7f64b14bbf26b7693681cd50babdf5c2569

/-- The signature of the message `unlock` with that private key. -/
def sampleSignature : Bytes :=
  .ofNat 96 0x93401df64766798be5f78b219fd0239ab87bf6df3bbbd690e4998d9e282f811b295f9ff0c507218a6f3a45fd1164f4eb16bd3eddf2cbbdb1af5614773fa7976daba7b0be845d4ed6dbda92e85109eea5ad9a85e1f0151ac15077b6d2209bad1a

/-- The exponent of the message `unlock`, one more than the number that its bytes write. -/
def messageExponent : Nat :=
  Bytes.toNat (Bytes.ofText "unlock") + 1

/-- The forms of some multiples of the generator of the first group, the identity among them. -/
def sampleKeys : FormTable 47 where
  forms :=
    [(0, 0xc0 :: List.replicate 47 0),
     (1, .ofNat 48 0x97f1d3a73197d7942695638c4fa9ac0fc3688c4f9774b905a14e3a3f171bac586c55e83ff97a1aeffb3af00adb22c6bb),
     (2, .ofNat 48 0xa572cbea904d67468808c8eb50a9450c9721db309128012543902d0ac358a62ae28f75bb8f1c7c42c39a8c5529bf0f4e),
     (sampleExponent, samplePublicKey)]
  nodup := by decide +kernel
  length_eq := by decide +kernel
  head_ne_zero := by decide +kernel
  room := by decide +kernel

/-- The forms of the identity of the second group, of the points of the empty message and of the
message of one byte 1, of the sum of these points, and of the point of `unlock` and its
signature. -/
def sampleSignatures : FormTable 95 where
  forms :=
    [(0, 0xc0 :: List.replicate 95 0),
     (1, .ofNat 96 0xa8aab303e33ed14f4a904004a92bd26ffc969c1d1e7d4b7f0c04150a73e1845a911e51a2b2d369d5cef06560c5ac9f5715c01566993d4469805df3e1f29b536481a832bf2751b6908faed6776d062d585521889232999d72b679d6e38bb5cfff),
     (2, .ofNat 96 0x97daf7293bcb770efe02b2bfeb904c1e61037843c688909007755eae4f561b705dfd9ce354e575d08c919e222ee1927004e9ca06aeac245117579475db42aa26c26190f2d6bfefffb81cfc67e14e63a620b30dd7bc603f700defc8928b875391),
     (3, .ofNat 96 0x876268771043daa99f8b7e17683fba4f994fe044b65aa004b18f33958a8c561ef7453840c063162a46505be05804bb23123ff9a31e8305e3bca00d7f361e6184f04fa7098f62c7cca45488fd5d3fe1edbe0d77e415bc4b5a4c6a384142880f3c),
     (messageExponent, .ofNat 96 0xb6f7dac31b083d937e031c682244af4cab6a9836e166762811374fa6a3207e2251b0a8bbaef250cbd995ca9bd225ee761289c23231117b1d0e0be4ce07cc27166428913a886ed884b7604adc51029bf98faed7fef96d05d9439d26755b771108),
     (sampleExponent * messageExponent % groupOrder, sampleSignature)]
  nodup := by decide +kernel
  length_eq := by decide +kernel
  head_ne_zero := by decide +kernel
  room := by decide +kernel

/-- Groups of exponents that write the points of the samples as `standardGroups` does. -/
noncomputable def sampleGroups : PairingGroups :=
  exponentGroups sampleKeys sampleSignatures fun m => Bytes.toNat m + 1

/-- The laws of the sample. -/
def sampleInterpretation :
    sampleGroups.Interpretation (ZMod groupOrder) (ZMod groupOrder) (ZMod groupOrder) :=
  exponentInterpretation sampleKeys sampleSignatures fun m => Bytes.toNat m + 1

/-- The private key one, whose public key is the generator. -/
def sampleSigner : PrivateKey :=
  .ofScalar (.ofNat 1)

theorem decode_sampleSigner : PrivateKey.decode sampleSigner.encode = .ok sampleSigner := by
  decide +kernel

/-- Public keys have the forms of the multiples of the generator. -/
example : sampleKeys.forms = [0, 1, 2, sampleExponent].map fun n =>
    (n, Compressed.encode (baseGenerator.multiple 255 n)) := by
  decide +kernel

/-- Messages have the forms of their points. -/
example : ∀ m ∈ [[], [1], Bytes.ofText "unlock"],
    (Bytes.toNat m + 1, Compressed.encode (HashToCurve.hash m)) ∈ sampleSignatures.forms := by
  intro m hm
  simp only [List.mem_cons, List.not_mem_nil, or_false] at hm
  -- One message at a time, since each evaluation takes its memory.
  obtain rfl | rfl | rfl := hm <;> decide +kernel

/-- Signatures have the forms of a sum and of a multiple of these points. -/
example :
    let form? := fun n => sampleSignatures.forms.lookup n
    let point? := fun n => (form? n).bind (Compressed.decode? : Bytes → Option (Point Fp2))
    (do return Compressed.encode ((← point? 1).add (← point? 2))) = form? 3 ∧
    (do return Compressed.encode ((← point? messageExponent).multiple 255 sampleExponent)) =
      form? (sampleExponent * messageExponent % groupOrder) := by
  decide +kernel

end PairingSig
