import Mathlib
import Retrieval.Json.Decode

namespace Retrieval

/-!
# Integers as finite floats

A float is finite if its exponent fits into the format, and the float of an
integer of sixty-four bits is finite.  The bounds are far from tight: of the
exponents that fit, those of such integers are a small part.
-/

namespace FiniteFloat

open Float.Model (Format UnpackedFloat totalExponent)
open Float.Model.UnpackedFloat

/-- An unpacked float stays finite when it is packed: it is zero, or its exponent fits. -/
inductive Fits : UnpackedFloat → Prop where
  | zero (sign : Sign) :
      Fits (.zero sign)
  | finite
      {sign : Sign}
      {mantissa : Nat}
      {exponent : Int}
      {positive : 0 < mantissa}
      (bounded : exponent ≤ 971) :
      Fits (.finite sign mantissa exponent positive)

theorem Fits.isFinite
    {float : UnpackedFloat}
    (fits : Fits float) :
    float.isFinite = true := by
  cases fits <;> rfl

theorem Fits.neg
    {float : UnpackedFloat}
    (fits : Fits float) :
    Fits float.neg := by
  cases fits with
  | zero sign =>
      exact .zero (-sign)
  | finite bounded =>
      exact .finite bounded

/-- The bits of an exponent are not all set exactly if the exponent is below the greatest. -/
theorem exponent_ne_iff (exponent : BitVec Format.binary64.exponentBits) :
    exponent ≠ -1#_ ↔ exponent.toNat ≤ 2046 := by
  have bounded : exponent.toNat < 2048 :=
    exponent.isLt
  have greatest : (-1#(Format.binary64.exponentBits)).toNat = 2047 :=
    rfl
  rw [ne_eq, ← BitVec.toNat_inj, greatest]
  omega

theorem unpackExponent_pack_of_fits
    {float : UnpackedFloat}
    (fits : Fits float) :
    unpackExponent (pack Format.binary64 float) ≠ -1#_ := by
  cases fits with
  | zero sign =>
      simp [pack, packedZero]
  | @finite sign mantissa exponent positive bounded =>
      have notOverflown :
          ¬2 ^ Format.binary64.exponentBits ≤
            (exponent + Format.binary64.exponentBias +
              Format.binary64.mantissaBitsWithoutImplicit).toNat + 1 := by
        change ¬2048 ≤ (exponent + 1023 + 52).toNat + 1
        omega
      simp only [pack, if_neg notOverflown]
      split
      · rw [unpackExponent_packComponents, exponent_ne_iff, BitVec.toNat_ofNat]
        have reduced := Nat.mod_le
          (exponent + Format.binary64.exponentBias +
            Format.binary64.mantissaBitsWithoutImplicit).toNat
          (2 ^ Format.binary64.exponentBits)
        refine Nat.le_trans reduced ?_
        change (exponent + 1023 + 52).toNat ≤ 2046
        omega
      · simp

/-- Bits whose exponent is below the greatest stand for a float that fits. -/
theorem fits_unpack
    {bits : BitVec Format.binary64.numBits}
    (below : unpackExponent bits ≠ -1#_) :
    Fits (unpack Format.binary64 bits) := by
  have bounded := (exponent_ne_iff _).mp below
  have bias : (Format.binary64.exponentBias : Int) = 1023 :=
    rfl
  simp only [unpack, if_neg below]
  split
  · next subnormal =>
    split
    · exact .zero _
    · refine .finite ?_
      rw [subnormal, BitVec.toNat_zero]
      omega
  · exact .finite (by omega)

theorem isFinite_unpack_iff (bits : BitVec Format.binary64.numBits) :
    (unpack Format.binary64 bits).isFinite = true ↔ unpackExponent bits ≠ -1#_ := by
  constructor
  · intro finite overflown
    simp only [unpack, if_pos overflown] at finite
    split at finite <;> simp [isFinite] at finite
  · intro below
    exact (fits_unpack below).isFinite

/-- A float that fits is finite after it has been packed. -/
theorem isFinite_of_fits
    {float : UnpackedFloat}
    (fits : Fits float) :
    (Float.ofModel (Float.Model.pack float)).isFinite = true :=
  (isFinite_unpack_iff _).mpr (unpackExponent_pack_of_fits fits)

theorem isFinite_neg
    {float : Float}
    (finite : float.isFinite = true) :
    (-float).isFinite = true :=
  isFinite_of_fits (fits_unpack ((isFinite_unpack_iff _).mp finite)).neg

/-- Rounding adds at most one to a mantissa. -/
theorem roundedMantissa_le (extended : ExtendedMantissa) :
    extended.roundedMantissa ≤ extended.mantissa + 1 := by
  obtain ⟨mantissa, roundBit, stickyBit⟩ := extended
  cases roundBit <;> cases stickyBit <;>
    simp [ExtendedMantissa.roundedMantissa, ExtendedMantissa.accuracy,
      Accuracy.roundToNearestEven]
  omega

/-- Shifting to the right does not make a mantissa greater. -/
theorem mantissa_shiftRight_le (extended : ExtendedMantissa) (amount : Nat) :
    (extended >>> amount).mantissa ≤ extended.mantissa := by
  induction amount with
  | zero =>
      exact Nat.le_refl _
  | succ amount inductionHypothesis =>
      exact Nat.le_trans (Nat.div_le_self _ 2) inductionHypothesis

/-- The exponent to which a mantissa of fifty-three bits is shifted, or else the least one. -/
theorem targetExponent_eq (exponent : Int) :
    Format.binary64.targetExponent exponent = max (exponent - 53) (-1074) :=
  rfl

/-- A shift to the target exponent raises the exponent by the size of the mantissa at most. -/
theorem shiftToTargetExponent_le
    (mantissa : Nat)
    (exponent : Int)
    (accuracy : Accuracy) :
    let shifted := shiftToTargetExponent Format.binary64 mantissa exponent accuracy
    shifted.1.mantissa ≤ mantissa ∧
      shifted.2 ≤ max exponent (-1074) + mantissa.log2 := by
  intro shifted
  constructor
  · refine Nat.le_trans (mantissa_shiftRight_le _ _) (Nat.le_of_eq ?_)
    rcases accuracy with _ | _ | _ | _ <;> rfl
  · simp only [shifted, shiftToTargetExponent, shiftToExponent, targetExponent_eq,
      totalExponent]
    omega

theorem log2_le_log2
    {small great : Nat}
    (ordered : small ≤ great) :
    small.log2 ≤ great.log2 := by
  rw [Nat.log2_eq_log_two, Nat.log2_eq_log_two]
  exact Nat.log_mono_right ordered

/-- A float is rounded to one that fits if its mantissa is not too long and is no fraction. -/
theorem fits_roundWithAccuracy
    (sign : Sign)
    {mantissa : Nat}
    {exponent : Int}
    (accuracy : Accuracy)
    (scaled : exponent ≤ 0)
    (sized : (mantissa + 1).log2 ≤ 400) :
    Fits (roundWithAccuracy Format.binary64 sign mantissa exponent accuracy) := by
  obtain ⟨first, isFirst⟩ :
      ∃ first, shiftToTargetExponent Format.binary64 mantissa exponent accuracy = first :=
    ⟨_, rfl⟩
  have shifted := shiftToTargetExponent_le mantissa exponent accuracy
  rw [isFirst] at shifted
  obtain ⟨shorter, raised⟩ := shifted
  have rounded : first.1.roundedMantissa ≤ mantissa + 1 :=
    Nat.le_trans (roundedMantissa_le first.1) (Nat.succ_le_succ shorter)
  -- Rounding may make the mantissa longer by one, so that it is shifted once more.
  obtain ⟨_, raisedAgain⟩ :=
    shiftToTargetExponent_le first.1.roundedMantissa first.2 .exact
  have long := log2_le_log2 (Nat.le_add_right mantissa 1)
  have longAgain := log2_le_log2 rounded
  simp only [roundWithAccuracy, isFirst]
  split
  · exact .zero sign
  · refine .finite ?_
    omega

/-- A natural number of sixty-four bits is rounded to a float that fits. -/
theorem fits_round
    (sign : Sign)
    {mantissa : Nat}
    (written : mantissa < UInt64.size) :
    Fits (UnpackedFloat.round Format.binary64 sign mantissa 0) := by
  obtain ⟨amount, isAmount⟩ :
      ∃ amount,
        (0 - Format.binary64.targetExponent (totalExponent mantissa 0)).toNat = amount :=
    ⟨_, rfl⟩
  have short : amount ≤ 52 := by
    rw [← isAmount, targetExponent_eq, totalExponent]
    omega
  simp only [UnpackedFloat.round, decreaseExponent, isAmount]
  refine fits_roundWithAccuracy sign .exact (by omega) ?_
  have bounded : mantissa <<< amount + 1 ≤ UInt64.size <<< 52 := by
    rw [Nat.shiftLeft_eq, Nat.shiftLeft_eq]
    have positive : 1 ≤ 2 ^ amount :=
      Nat.one_le_two_pow
    have scale : 2 ^ amount ≤ 2 ^ 52 :=
      Nat.pow_le_pow_right (by decide) short
    calc
      mantissa * 2 ^ amount + 1 ≤ mantissa * 2 ^ amount + 2 ^ amount :=
        Nat.add_le_add_left positive _
      _ = (mantissa + 1) * 2 ^ amount :=
        (Nat.succ_mul mantissa (2 ^ amount)).symm
      _ ≤ UInt64.size * 2 ^ 52 :=
        Nat.mul_le_mul written scale
  refine Nat.le_trans (log2_le_log2 bounded) ?_
  decide

/-- The float of a natural number of sixty-four bits fits. -/
theorem fits_ofUInt64 (value : UInt64) :
    Fits (UnpackedFloat.ofUInt64 Format.binary64 value) := by
  have written : value.toNat < UInt64.size :=
    value.toNat_lt_size
  rw [UnpackedFloat.ofUInt64, UnpackedFloat.ofNat, UnpackedFloat.ofInt,
    UnpackedFloat.normalize]
  split
  · exact fits_round _ (by omega)
  · exact .zero _
  · exact fits_round _ (by omega)

theorem isFinite_toFloat (value : UInt64) :
    value.toFloat.isFinite = true :=
  isFinite_of_fits (fits_ofUInt64 value)

end FiniteFloat

/-- A finite number is a finite float. -/
theorem Number.isFinite_toFloat
    {number : Number}
    (finite : number.isFinite = true) :
    number.toFloat.isFinite = true := by
  cases number with
  | natural value =>
      exact FiniteFloat.isFinite_toFloat value
  | negative value =>
      exact FiniteFloat.isFinite_neg (FiniteFloat.isFinite_toFloat _)
  | float value =>
      exact finite

end Retrieval
