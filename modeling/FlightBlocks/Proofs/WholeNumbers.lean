import Mathlib.Algebra.Group.Nat.Defs

/-!
# Whole numbers among the floating-point numbers

A floating-point number has 53 bits for its digits, so a whole number that needs no more is kept as it is: shifted
until it fills all of them (`WholeNumber.kept`). Whatever an operation on such a number shifts out again are zeros, so
that nothing is rounded, and a whole number of 32 bits is read back as it was written (`WholeNumber.toInt32_ofInt`).
-/

namespace FlightBlocks.WholeNumber

open Float.Model (Format UnpackedFloat totalExponent)
open Float.Model.UnpackedFloat

variable {m n k : Nat} {e : Int} {s : Sign}

/-! ## Digits -/

theorem log2_mul_two_pow (nonzero : n ≠ 0) : (n * 2 ^ k).log2 = n.log2 + k := by
  induction k with
  | zero => simp
  | succ k ih =>
    have twice : n * 2 ^ (k + 1) = 2 * (n * 2 ^ k) := by rw [Nat.pow_succ, ← Nat.mul_assoc, Nat.mul_comm]
    rw [twice, Nat.log2_two_mul (Nat.mul_ne_zero nonzero (NeZero.ne _)), ih, Nat.add_assoc]

/-- Zeros are shifted out without a trace. -/
theorem shiftRight_mul_two_pow : ExtendedMantissa.ofMantissaAndAccuracy (m * 2 ^ k) .exact >>> k =
    ExtendedMantissa.ofMantissaAndAccuracy m .exact := by
  induction k generalizing m with
  | zero => rw [Nat.pow_zero, Nat.mul_one]; rfl
  | succ k ih =>
    have twice : m * 2 ^ (k + 1) = 2 * m * 2 ^ k := by rw [Nat.pow_succ', ← Nat.mul_assoc, Nat.mul_comm m]
    change (ExtendedMantissa.ofMantissaAndAccuracy (m * 2 ^ (k + 1)) .exact >>> k).shiftRightOne = _
    rw [twice, ih]
    simp [ExtendedMantissa.shiftRightOne, ExtendedMantissa.ofMantissaAndAccuracy]

theorem targetExponent_eq : Format.binary64.targetExponent e = max (e - 53) (-1074) := rfl

theorem targetExponent_of_full (full : m.log2 = 52) (large : -1074 ≤ e) :
    Format.binary64.targetExponent (totalExponent m e) = e := by
  rw [targetExponent_eq, totalExponent, full]
  omega

theorem shiftToExponent_mul_two_pow :
    shiftToExponent (m * 2 ^ k) (e - k) .exact e = (.ofMantissaAndAccuracy m .exact, e) := by
  have distance : (e - (e - k)).toNat = k := by omega
  simp only [shiftToExponent, distance, shiftRight_mul_two_pow]
  congr 1
  omega

/-- Digits are rounded by shifting them out twice, since the first time may carry into a new digit. -/
theorem roundWithAccuracy_eq {accuracy : Accuracy} {once twice : ExtendedMantissa × Int}
    (first : shiftToTargetExponent .binary64 m e accuracy = once)
    (second : shiftToTargetExponent .binary64 once.1.roundedMantissa once.2 .exact = twice) :
    roundWithAccuracy .binary64 s m e accuracy = if h : twice.1.mantissa = 0 then .zero s
      else .finite s twice.1.mantissa twice.2 (Nat.pos_of_ne_zero h) := by
  subst first second
  rfl

/-- Digits that fill all bits are not rounded, whatever zeros stand behind them. -/
theorem roundWithAccuracy_mul_two_pow (pos : 0 < m) (full : m.log2 = 52) (large : -1074 ≤ e) :
    roundWithAccuracy .binary64 s (m * 2 ^ k) (e - k) .exact = .finite s m e pos := by
  have total : totalExponent (m * 2 ^ k) (e - k) = totalExponent m e := by
    simp only [totalExponent, log2_mul_two_pow (Nat.ne_of_gt pos)]
    omega
  have first : shiftToTargetExponent .binary64 (m * 2 ^ k) (e - k) .exact =
      (.ofMantissaAndAccuracy m .exact, e) := by
    rw [shiftToTargetExponent, total, targetExponent_of_full full large, shiftToExponent_mul_two_pow]
  have second : shiftToTargetExponent .binary64 m e .exact = (.ofMantissaAndAccuracy m .exact, e) := by
    have same := shiftToExponent_mul_two_pow (m := m) (k := 0) (e := e)
    rw [Nat.pow_zero, Nat.mul_one, Int.natCast_zero, Int.sub_zero] at same
    rw [shiftToTargetExponent, targetExponent_of_full full large, same]
  exact (roundWithAccuracy_eq first second).trans (dif_neg (Nat.ne_of_gt pos))

/-! ## Bits -/

theorem unpackSign_packComponents {spec : Format} {exponent : BitVec spec.exponentBits}
    {mantissa : BitVec spec.mantissaBitsWithoutImplicit} :
    unpackSign (packComponents spec s exponent mantissa) = s.toBitVec := by
  change BitVec.cast _ ((s.toBitVec ++ exponent ++ mantissa).extractLsb _ _) = _
  ext i below
  obtain rfl : i = 0 := by omega
  simp [BitVec.getLsbD_append, BitVec.getElem_append]

theorem Sign.ofBitVec_toBitVec : Sign.ofBitVec s.toBitVec = s := by cases s <;> rfl

/-- The highest of the digits is left out, and put back. -/
theorem toNat_append_of_full (full : m.log2 = 52) : (1#1 ++ BitVec.ofNat 52 m).toNat = m := by
  obtain ⟨lower, upper⟩ := (Nat.log2_eq_iff (by rintro rfl; cases full)).mp full
  rw [BitVec.toNat_append, ← Nat.shiftLeft_add_eq_or_of_lt (BitVec.isLt _), BitVec.toNat_ofNat, Nat.shiftLeft_eq]
  change 1 * 2 ^ 52 + m % 2 ^ 52 = m
  omega

theorem pack_finite {pos : 0 < m} : pack .binary64 (.finite s m e pos) =
    if 2 ^ 11 ≤ (e + 1023 + 52).toNat + 1 then packedInfinity .binary64 s
    else if m.log2 + 1 = 53 then
      packComponents .binary64 s (BitVec.ofNat 11 (e + 1023 + 52).toNat) (BitVec.ofNat 52 m)
    else packComponents .binary64 s 0#11 (BitVec.ofNat 52 m) := rfl

/-- Exponents are stored as positive numbers, of which the least and the greatest are kept for other uses. -/
theorem pack_of_full {stored : Nat} (pos : 0 < m) (full : m.log2 = 52) (below : stored < 2047) :
    pack .binary64 (.finite s m (stored - 1075) pos) =
      packComponents .binary64 s (BitVec.ofNat 11 stored) (BitVec.ofNat 52 m) := by
  have biased : ((stored - 1075 : Int) + 1023 + 52).toNat = stored := by omega
  rw [pack_finite, biased, full, if_neg (by omega)]
  exact if_pos rfl

theorem unpack_of_normal {bits : BitVec Format.binary64.numBits} (pos : 0 < m)
    (digits : (1#1 ++ unpackMantissa bits).toNat = m) (finite : unpackExponent bits ≠ -1#11)
    (normal : unpackExponent bits ≠ 0#11) :
    unpack .binary64 bits =
      .finite (Sign.ofBitVec (unpackSign bits)) m ((unpackExponent bits).toNat - 1075) pos := by
  subst digits
  exact (if_neg finite).trans (if_neg normal)

/-- Digits that fill all bits are packed and unpacked without a loss. -/
theorem unpack_pack_of_full (pos : 0 < m) (full : m.log2 = 52) (large : -1074 ≤ e) (small : e ≤ 971) :
    unpack .binary64 (pack .binary64 (.finite s m e pos)) = .finite s m e pos := by
  obtain ⟨stored, rfl⟩ : ∃ stored : Nat, e = stored - 1075 := ⟨(e + 1075).toNat, by omega⟩
  have fits : (BitVec.ofNat 11 stored).toNat = stored := by
    rw [BitVec.toNat_ofNat, Nat.mod_eq_of_lt (by omega)]
  have differs : ∀ {other : BitVec 11}, stored ≠ other.toNat → BitVec.ofNat 11 stored ≠ other :=
    fun different same => different (fits.symm.trans (congrArg BitVec.toNat same))
  have finite : BitVec.ofNat 11 stored ≠ -1#11 := differs (by change stored ≠ 2047; omega)
  have normal : BitVec.ofNat 11 stored ≠ 0#11 := differs (by change stored ≠ 0; omega)
  rw [pack_of_full pos full (by omega), unpack_of_normal pos]
  · rw [unpackExponent_packComponents, unpackSign_packComponents, Sign.ofBitVec_toBitVec, fits]
  · rw [unpackMantissa_packComponents, toNat_append_of_full full]
  · rwa [unpackExponent_packComponents]
  · rwa [unpackExponent_packComponents]

/-! ## Whole numbers -/

/-- The form in which a positive whole number is kept, if it has no more than 53 bits. -/
def kept (s : Sign) (n : Nat) (pos : 0 < n) : UnpackedFloat :=
  .finite s (n * 2 ^ (52 - n.log2)) (0 - (52 - n.log2 : Nat)) (Nat.mul_pos pos (Nat.two_pow_pos _))

section Kept

variable (pos : 0 < n) (small : n < 2 ^ 53)

include pos small in
theorem log2_kept : (n * 2 ^ (52 - n.log2)).log2 = 52 := by
  have below := (Nat.log2_lt (Nat.ne_of_gt pos)).mpr small
  rw [log2_mul_two_pow (Nat.ne_of_gt pos)]
  omega

include small in
theorem round_eq_kept : UnpackedFloat.round .binary64 s n 0 = kept s n pos := by
  have below := (Nat.log2_lt (Nat.ne_of_gt pos)).mpr small
  have target : Format.binary64.targetExponent (totalExponent n 0) = 0 - (52 - n.log2 : Nat) := by
    rw [targetExponent_eq, totalExponent]
    omega
  have distance : (0 - (0 - (52 - n.log2 : Nat) : Int)).toNat = 52 - n.log2 := by omega
  have exact := roundWithAccuracy_mul_two_pow (s := s) (k := 0) (e := 0 - (52 - n.log2 : Nat))
    (Nat.mul_pos pos (Nat.two_pow_pos _)) (log2_kept pos small) (by omega)
  rw [Nat.pow_zero, Nat.mul_one, Int.natCast_zero, Int.sub_zero] at exact
  simp only [UnpackedFloat.round, target, decreaseExponent, distance, Nat.shiftLeft_eq]
  exact exact

include small in
theorem unpack_pack_kept : unpack .binary64 (pack .binary64 (kept s n pos)) = kept s n pos :=
  unpack_pack_of_full _ (log2_kept pos small) (by omega) (by omega)

include small in
theorem mul_one_kept : mul .binary64 (kept s n pos) (.finite .positive (2 ^ 52) (-52) (by decide)) = kept s n pos := by
  have same_sign : s * .positive = s := by cases s <;> rfl
  change roundWithAccuracy .binary64 (s * .positive) _ _ .exact = _
  rw [same_sign]
  exact roundWithAccuracy_mul_two_pow _ (log2_kept pos small) (by omega)

theorem toInt_kept {lowest highest : Int} : (kept s n pos).toInt lowest highest = s.apply n := by
  have no_shift : (0 - (52 - n.log2 : Nat) : Int).toNat = 0 := by omega
  have back := shiftToExponent_mul_two_pow (m := n) (k := 52 - n.log2) (e := 0)
  change roundToInt s (n * 2 ^ (52 - n.log2)) (0 - (52 - n.log2 : Nat)) = _
  simp only [roundToInt, decreaseExponent, Int.sub_zero, no_shift, Nat.shiftLeft_zero, Int.natCast_zero, back]
  rfl

include small in
/-- The power of ten that a whole number is multiplied by is one. -/
theorem ofNat_eq_mul_one : Float.ofNat n = n.toUInt64.toFloat * Float.ofBits 0x3FF0000000000000 := by
  have in_table : n < 2 ^ 53 ∧ 0 ≤ 22 := ⟨small, by decide⟩
  change Float.ofScientific n false 0 = _
  rw [Float.ofScientific, dif_pos in_table]
  rfl

include small in
theorem toModel_toFloat : n.toUInt64.toFloat.toModel = .pack (kept .positive n pos) := by
  have word : n.toUInt64.toNat = n := Nat.mod_eq_of_lt (Nat.lt_trans small (by decide))
  have above : compare (n : Int) 0 = .gt := Int.compare_eq_gt.mpr (by omega)
  change Float.Model.pack (UnpackedFloat.normalize .binary64 (n.toUInt64.toNat : Int) 0 .positive) = _
  rw [word, UnpackedFloat.normalize, above, ← round_eq_kept pos small]
  rfl

include small in
/-- A whole number of at most 53 bits becomes the floating-point number of that value. -/
theorem unpack_ofNat : (Float.ofNat n).toModel.unpack = kept .positive n pos := by
  have one : (Float.ofBits 0x3FF0000000000000).toModel.unpack = .finite .positive (2 ^ 52) (-52) (by decide) := rfl
  rw [ofNat_eq_mul_one small]
  change unpack .binary64 (pack .binary64 (mul .binary64 n.toUInt64.toFloat.toModel.unpack _)) = _
  rw [toModel_toFloat pos small, one]
  change unpack .binary64 (pack .binary64 (mul .binary64 (unpack .binary64 (pack .binary64 _)) _)) = _
  rw [unpack_pack_kept pos small, mul_one_kept pos small, unpack_pack_kept pos small]

end Kept

/-- A whole number of at most 53 bits is read back as it was written, whatever infinities are read as. -/
theorem toInt_ofInt {i lowest highest : Int} (small : i.natAbs < 2 ^ 53) :
    (Float.ofInt i).toModel.unpack.toInt lowest highest = i := by
  cases i with
  | ofNat n =>
    rcases Nat.eq_zero_or_pos n with rfl | pos
    · rfl
    · change (Float.ofNat n).toModel.unpack.toInt lowest highest = n
      rw [unpack_ofNat pos small]
      exact toInt_kept pos
  | negSucc n =>
    have pos := n.succ_pos
    change (unpack .binary64 (pack .binary64 (Float.ofNat (n + 1)).toModel.unpack.neg)).toInt lowest highest = _
    rw [unpack_ofNat pos small]
    change (unpack .binary64 (pack .binary64 (kept .negative (n + 1) pos))).toInt lowest highest = _
    rw [unpack_pack_kept pos small]
    exact toInt_kept pos

/-- A whole number of 32 bits is read back as it was written. -/
theorem toInt32_ofInt {i : Int} (lower : Int32.minValue.toInt ≤ i) (upper : i ≤ Int32.maxValue.toInt) :
    (Float.ofInt i).toModel.toInt32.toInt = i := by
  have small : i.natAbs < 2 ^ 53 := by
    change -2147483648 ≤ i at lower
    change i ≤ 2147483647 at upper
    omega
  change (Int32.ofIntClamp ((Float.ofInt i).toModel.unpack.toInt _ _)).toInt = i
  rw [toInt_ofInt small, Int32.toInt_ofIntClamp lower upper]

end FlightBlocks.WholeNumber
