import Mathlib
import ChatTemplate.Value

/-! Integers as doubles. Converting an integer to a double gives the double nearest to it, and of two
equally near the even one. So two integers are equal as doubles exactly if the same one is nearest to
both. The steps are those of the conversion: a mantissa is shifted, rounded by the bits that were
shifted out, packed and unpacked again. -/
namespace ChatTemplate.WholeDoubles
open Float.Model Float.Model.UnpackedFloat

/-- The whole number nearest to a quotient, and of two equally near the even one. -/
def nearestQuotient (n unit : Nat) : Nat :=
  if unit < 2 * (n % unit) ∨ 2 * (n % unit) = unit ∧ n / unit % 2 = 1 then n / unit + 1
  else n / unit

/-- The distance between doubles of the size of a number, or one where they are closer. -/
def spacing (n : Nat) : Nat := 2 ^ (n.log2 - 52)

/-- The double nearest to a number. -/
def nearest (n : Nat) : Nat := nearestQuotient n (spacing n) * spacing n

theorem nearestQuotient_scaled (positive : 0 < factor) (n unit : Nat) :
    nearestQuotient (n * factor) (unit * factor) = nearestQuotient n unit := by
  unfold nearestQuotient
  rw [Nat.mul_div_mul_right _ _ positive, Nat.mul_mod_mul_right, ← Nat.mul_assoc]
  simp only [Nat.mul_lt_mul_right positive, Nat.mul_right_cancel_iff positive]

theorem nearestQuotient_exact (positive : 0 < unit) (n : Nat) :
    nearestQuotient (n * unit) unit = n := by
  rw [nearestQuotient, Nat.mul_mod_left, Nat.mul_div_cancel n positive, if_neg]
  omega

theorem nearestQuotient_bounds (n unit : Nat) :
    n / unit ≤ nearestQuotient n unit ∧ nearestQuotient n unit ≤ n / unit + 1 := by
  unfold nearestQuotient
  split <;> omega

/-- A mantissa from which some bits have been shifted out, with what is kept of those. -/
structure Shifted (n count : Nat) (kept : ExtendedMantissa) : Prop where
  mantissa : kept.mantissa = n / 2 ^ count
  roundBit : kept.roundBit = true ↔ 2 ^ count ≤ 2 * (n % 2 ^ count)
  stickyBit : kept.stickyBit = true ↔ 2 * (n % 2 ^ count) ≠ 0 ∧ 2 * (n % 2 ^ count) ≠ 2 ^ count

theorem shifted_one (shifted : Shifted n count kept) : Shifted n (count + 1) kept.shiftRightOne := by
  obtain ⟨mantissa, roundBit, stickyBit⟩ := shifted
  have rest : n % 2 ^ (count + 1) = n % 2 ^ count + 2 ^ count * (kept.mantissa % 2) := by
    rw [mantissa, Nat.mod_pow_succ]
  have below : n % 2 ^ count < 2 ^ count := Nat.mod_lt _ (Nat.two_pow_pos _)
  have bit : kept.mantissa % 2 = 0 ∨ kept.mantissa % 2 = 1 := Nat.mod_two_eq_zero_or_one _
  have round : kept.shiftRightOne.roundBit = true ↔ kept.mantissa % 2 = 1 := by
    simp [ExtendedMantissa.shiftRightOne]
  have sticky : kept.shiftRightOne.stickyBit = true ↔ n % 2 ^ count ≠ 0 := by
    have joined : kept.shiftRightOne.stickyBit = true ↔
        kept.roundBit = true ∨ kept.stickyBit = true := by
      simp [ExtendedMantissa.shiftRightOne]
    rw [joined, roundBit, stickyBit]
    omega
  refine ⟨?_, ?_, ?_⟩
  · rw [Nat.pow_succ, ← Nat.div_div_eq_div_mul, ← mantissa]
    rfl
  · rw [round, rest, Nat.pow_succ]
    rcases bit with even | odd
    · rw [even]
      omega
    · rw [odd]
      omega
  · rw [sticky, rest, Nat.pow_succ]
    rcases bit with even | odd
    · rw [even]
      omega
    · rw [odd]
      omega

theorem shifted_shiftRight (n count : Nat) :
    Shifted n count (ExtendedMantissa.ofMantissaAndAccuracy n .exact >>> count) := by
  induction count with
  | zero =>
    have start : Shifted n 0 ⟨n, false, false⟩ := by
      constructor <;> simp [Nat.mod_one]
    exact start
  | succ count ih => exact shifted_one ih

theorem roundedMantissa_shifted (shifted : Shifted n count kept) :
    kept.roundedMantissa = nearestQuotient n (2 ^ count) := by
  obtain ⟨mantissa, roundBit, stickyBit⟩ := shifted
  obtain ⟨m, round, sticky⟩ := kept
  have positive : 0 < 2 ^ count := Nat.two_pow_pos count
  simp only at mantissa roundBit stickyBit
  rw [nearestQuotient, ← mantissa]
  cases round <;> cases sticky <;>
    simp only [ExtendedMantissa.roundedMantissa, ExtendedMantissa.accuracy,
      Accuracy.roundToNearestEven, true_iff, Bool.false_eq_true, false_iff] at *
  all_goals split <;> omega

/-- The double with a sign and the size of a whole number. Its mantissa has the full width, and it is
far from the largest doubles. -/
inductive HasValue (sign : Sign) (n : Nat) : UnpackedFloat → Prop where
  | finite {mantissa : Nat} {exponent : Int} {positive : 0 < mantissa}
      (width : mantissa.log2 = 52) (least : -52 ≤ exponent) (most : exponent ≤ 900)
      (value : mantissa * 2 ^ (exponent + 52).toNat = n * 2 ^ 52) :
      HasValue sign n (.finite sign mantissa exponent positive)

theorem shiftToTargetExponent_eq (wide : 52 ≤ m.log2) (normal : -1000 ≤ e) :
    shiftToTargetExponent .binary64 m e .exact =
      (ExtendedMantissa.ofMantissaAndAccuracy m .exact >>> (m.log2 - 52), e + (m.log2 - 52 : Nat)) := by
  have target : Format.targetExponent .binary64 (totalExponent m e) = e + (m.log2 - 52 : Nat) := by
    simp [Format.targetExponent, totalExponent, Format.mantissaBits, Format.minExponent]
    omega
  simp only [shiftToTargetExponent, shiftToExponent, target]
  have shift : (e + ((m.log2 - 52 : Nat) : Int) - e).toNat = m.log2 - 52 := by omega
  rw [shift]

theorem log2_mul_two_pow (positive : n ≠ 0) (scale : Nat) : (n * 2 ^ scale).log2 = n.log2 + scale := by
  have scaled : n * 2 ^ scale ≠ 0 := Nat.mul_ne_zero positive (Nat.two_pow_pos scale).ne'
  rw [Nat.log2_eq_iff scaled, Nat.pow_add, Nat.add_right_comm, Nat.pow_add]
  exact ⟨Nat.mul_le_mul_right _ (Nat.log2_self_le positive),
    Nat.mul_lt_mul_of_pos_right Nat.lt_log2_self (Nat.two_pow_pos scale)⟩

/-- A quotient of the width of a mantissa is rounded to that width, or to the power of two above. -/
theorem nearestQuotient_width (positive : n ≠ 0) (wide : n.log2 = 52 + count) :
    2 ^ 52 ≤ nearestQuotient n (2 ^ count) ∧ nearestQuotient n (2 ^ count) ≤ 2 ^ 53 := by
  obtain ⟨low, high⟩ := (Nat.log2_eq_iff positive).mp wide
  obtain ⟨above, below⟩ := nearestQuotient_bounds n (2 ^ count)
  have least : 2 ^ 52 ≤ n / 2 ^ count := by
    rw [Nat.le_div_iff_mul_le (Nat.two_pow_pos count), ← Nat.pow_add]
    exact low
  have most : n / 2 ^ count < 2 ^ 53 := by
    rw [Nat.div_lt_iff_lt_mul (Nat.two_pow_pos count), ← Nat.pow_add]
    rwa [Nat.add_right_comm] at high
  exact ⟨least.trans above, below.trans most⟩

/-- Numbers of no more than the width of a mantissa are doubles. -/
theorem nearest_small (small : n.log2 ≤ 52) : nearest n = n := by
  have one : spacing n = 1 := by rw [spacing, Nat.sub_eq_zero_of_le small, Nat.pow_zero]
  have exact : nearestQuotient (n * 1) 1 = n := nearestQuotient_exact Nat.one_pos n
  rw [nearest, one, Nat.mul_one]
  rwa [Nat.mul_one] at exact

/-- Scaling a number to the width of a mantissa does not change what it is rounded to. -/
theorem nearestQuotient_value (wide : n.log2 + scale = 52 + count) :
    nearestQuotient (n * 2 ^ scale) (2 ^ count) * 2 ^ n.log2 = nearest n * 2 ^ 52 := by
  rcases Nat.le_total 52 n.log2 with large | small
  · obtain ⟨extra, log⟩ := Nat.exists_eq_add_of_le large
    obtain rfl : count = extra + scale := by omega
    rw [nearest, spacing, log, Nat.add_sub_cancel_left, Nat.pow_add 2 extra,
      nearestQuotient_scaled (Nat.two_pow_pos scale)]
    ring
  · obtain ⟨missing, log⟩ := Nat.exists_eq_add_of_le small
    obtain rfl : scale = missing + count := by omega
    rw [nearest_small small, Nat.pow_add, ← Nat.mul_assoc,
      nearestQuotient_exact (Nat.two_pow_pos count), log]
    ring

/-- Bringing a rounded mantissa back to its width drops no bit. -/
theorem carry_exact (low : 2 ^ 52 ≤ m) (high : m ≤ 2 ^ 53) :
    (m / 2 ^ (m.log2 - 52)).log2 = 52 ∧ m / 2 ^ (m.log2 - 52) * 2 ^ (m.log2 - 52) = m ∧
      m.log2 ≤ 53 := by
  rcases Nat.lt_or_eq_of_le high with fits | rfl
  · have width : m.log2 = 52 := (Nat.log2_eq_iff (by omega)).mpr ⟨low, fits⟩
    simp [width]
  · have width : Nat.log2 (2 ^ 53) = 53 := Nat.log2_two_pow
    rw [width]
    exact ⟨(Nat.log2_two_pow : Nat.log2 (2 ^ 52) = 52), rfl, le_rfl⟩

theorem roundWithAccuracy_eq
    (first : shiftToTargetExponent format mantissa exponent accuracy = (kept, shifted))
    (second : shiftToTargetExponent format kept.roundedMantissa shifted .exact = (final, ended))
    (filled : final.mantissa ≠ 0) :
    roundWithAccuracy format sign mantissa exponent accuracy =
      .finite sign final.mantissa ended (Nat.pos_of_ne_zero filled) := by
  simp only [roundWithAccuracy, first, second, dif_neg filled]

/-- The rounded mantissa may be a power of two above its width. Then it is shifted once more. -/
theorem hasValue_carry (sign : Sign)
    (first : shiftToTargetExponent .binary64 mantissa exponent accuracy = (kept, shifted))
    (low : 2 ^ 52 ≤ kept.roundedMantissa) (high : kept.roundedMantissa ≤ 2 ^ 53)
    (least : -52 ≤ shifted) (most : shifted ≤ 800)
    (value : kept.roundedMantissa * 2 ^ (shifted + 52).toNat = n * 2 ^ 52) :
    HasValue sign n (roundWithAccuracy .binary64 sign mantissa exponent accuracy) := by
  obtain ⟨width, exact, carry⟩ := carry_exact low high
  have enough : 52 ≤ kept.roundedMantissa.log2 := (Nat.le_log2 (by omega)).mpr low
  have second := shiftToTargetExponent_eq enough (show -1000 ≤ shifted by omega)
  have final := (shifted_shiftRight kept.roundedMantissa (kept.roundedMantissa.log2 - 52)).mantissa
  have filled : kept.roundedMantissa / 2 ^ (kept.roundedMantissa.log2 - 52) ≠ 0 := by
    intro zero
    rw [zero] at width
    cases width
  rw [roundWithAccuracy_eq first second (by rwa [final])]
  refine .finite (by rwa [final]) (by omega) (by omega) ?_
  have place : (shifted + (kept.roundedMantissa.log2 - 52 : Nat) + 52).toNat =
      (kept.roundedMantissa.log2 - 52) + (shifted + 52).toNat := by omega
  rw [final, place, Nat.pow_add, ← Nat.mul_assoc, exact, value]

/-- Rounding a number, however it is scaled, gives the double nearest to it. -/
theorem hasValue_round (sign : Sign) (scale : Nat) (positive : n ≠ 0) (small : n < 2 ^ 64)
    (wide : 52 ≤ n.log2 + scale) (bounded : scale ≤ 900) :
    HasValue sign (nearest n) (roundWithAccuracy .binary64 sign (n * 2 ^ scale) (-scale) .exact) := by
  obtain ⟨count, wide⟩ := Nat.exists_eq_add_of_le wide
  have size := log2_mul_two_pow positive scale
  have scaled : n * 2 ^ scale ≠ 0 := Nat.mul_ne_zero positive (Nat.two_pow_pos scale).ne'
  have limit : n.log2 < 64 := (Nat.log2_lt positive).mpr small
  have rounded := roundedMantissa_shifted (shifted_shiftRight (n * 2 ^ scale) count)
  obtain ⟨low, high⟩ := nearestQuotient_width scaled (size.trans wide)
  have value := nearestQuotient_value wide
  rw [← rounded] at low high value
  have first : shiftToTargetExponent .binary64 (n * 2 ^ scale) (-scale) .exact =
      (ExtendedMantissa.ofMantissaAndAccuracy (n * 2 ^ scale) .exact >>> count,
        -(scale : Int) + count) := by
    rw [shiftToTargetExponent_eq (by omega) (by omega), size, wide, Nat.add_sub_cancel_left]
  have place : (-(scale : Int) + count + 52).toNat = n.log2 := by omega
  exact hasValue_carry sign first low high (by omega) (by omega) (by rwa [place])

/-- The implicit bit of a packed mantissa comes back. -/
theorem toNat_implicit (width : m.log2 = 52) : (1#1 ++ BitVec.ofNat 52 m).toNat = m := by
  have filled : m ≠ 0 := by
    rintro rfl
    cases width
  obtain ⟨low, high⟩ := (Nat.log2_eq_iff filled).mp width
  have apart : m % 2 ^ 52 < 2 ^ 52 := Nat.mod_lt _ (Nat.two_pow_pos 52)
  have joined : (1#1 ++ BitVec.ofNat 52 m).toNat = 2 ^ 52 + m % 2 ^ 52 := by
    rw [BitVec.toNat_append, BitVec.toNat_ofNat m 52, ← Nat.shiftLeft_add_eq_or_of_lt apart]
    rfl
  rw [joined]
  omega

/-- Packing loses nothing of a double that is neither small nor large. -/
theorem unpack_pack (hasValue : HasValue sign n x) : (Float.Model.pack x).unpack = x := by
  obtain @⟨m, e, positive, width, least, most, -⟩ := hasValue
  obtain ⟨biased, exponent⟩ : ∃ biased : Nat, e = biased - 1075 := ⟨(e + 1075).toNat, by omega⟩
  have place : (e + 1023 + 52).toNat = biased := by omega
  have finite : ¬ 2047 ≤ biased := by omega
  have packed : UnpackedFloat.pack .binary64 (.finite sign m e positive) =
      packComponents .binary64 sign (BitVec.ofNat 11 biased) (BitVec.ofNat 52 m) := by
    simp [UnpackedFloat.pack, Format.exponentBias, Format.mantissaBits, width, place, finite]
  have toNat_biased : (BitVec.ofNat 11 biased).toNat = biased := by
    rw [BitVec.toNat_ofNat]
    omega
  have other (code : BitVec 11) (apart : code.toNat ≠ biased) : BitVec.ofNat 11 biased ≠ code := by
    rintro rfl
    exact apart toNat_biased
  have notLast : BitVec.ofNat 11 biased ≠ -1#11 := other _ (by change 2047 ≠ biased; omega)
  have notFirst : BitVec.ofNat 11 biased ≠ 0#11 := other _ (by change 0 ≠ biased; omega)
  change UnpackedFloat.unpack .binary64 (UnpackedFloat.pack .binary64 (.finite sign m e positive)) = _
  rw [packed]
  simp only [UnpackedFloat.unpack, unpackMantissa_packComponents, unpackExponent_packComponents,
    unpackSign_packComponents, Sign.ofBitVec_toBitVec, if_neg notLast, if_neg notFirst, toNat_biased,
    toNat_implicit width, exponent]
  rfl

/-- A double tells its size by its exponent. -/
theorem exponent_eq (width : mantissa.log2 = 52) (positive : n ≠ 0)
    (value : mantissa * 2 ^ place = n * 2 ^ 52) : place = n.log2 := by
  have filled : mantissa ≠ 0 := by
    rintro rfl
    cases width
  have size := congrArg Nat.log2 value
  rw [log2_mul_two_pow filled, log2_mul_two_pow positive, width] at size
  omega

theorem one_eq : (Float.ofBits 0x3FF0000000000000).toModel.unpack =
    .finite .positive (2 ^ 52) (-52) (Nat.two_pow_pos 52) := by
  rfl

/-- One is written with a full mantissa, but multiplying by it only shifts the other factor. -/
theorem hasValue_mul_one (positive : n ≠ 0) (small : n.log2 ≤ 52)
    (hasValue : HasValue .positive n x) :
    HasValue .positive n (mul .binary64 x (.finite .positive (2 ^ 52) (-52) (Nat.two_pow_pos 52))) := by
  obtain @⟨m, e, filled, width, least, most, value⟩ := hasValue
  have place := exponent_eq width positive value
  obtain ⟨missing, log⟩ := Nat.exists_eq_add_of_le small
  have scaled : m = n * 2 ^ missing := by
    rw [place, log, Nat.pow_add, Nat.mul_comm (2 ^ n.log2), ← Nat.mul_assoc] at value
    exact Nat.mul_right_cancel (Nat.two_pow_pos _) value
  have rounded := hasValue_round .positive (missing + 52) positive
    ((Nat.log2_lt positive).mp (by omega)) (by omega) (by omega)
  have product : m * 2 ^ 52 = n * 2 ^ (missing + 52) := by rw [scaled, Nat.mul_assoc, ← Nat.pow_add]
  have exponent : e + -52 = -((missing + 52 : Nat) : Int) := by omega
  rw [nearest_small small, ← product, ← exponent] at rounded
  exact rounded

/-- A mantissa that is too narrow is widened first. -/
theorem hasValue_round_narrow (positive : n ≠ 0) (small : n.log2 ≤ 52) :
    HasValue .positive n (UnpackedFloat.round .binary64 .positive n 0) := by
  obtain ⟨missing, log⟩ := Nat.exists_eq_add_of_le small
  have rounded := hasValue_round .positive missing positive
    ((Nat.log2_lt positive).mp (by omega)) (by omega) (by omega)
  rw [nearest_small small] at rounded
  have target : Format.targetExponent .binary64 (totalExponent n 0) = -missing := by
    simp [Format.targetExponent, totalExponent, Format.mantissaBits, Format.minExponent]
    omega
  have widened : decreaseExponent n 0 (-missing) = (n * 2 ^ missing, -(missing : Int)) := by
    simp [decreaseExponent, Nat.shiftLeft_eq]
  simp only [UnpackedFloat.round, target, widened]
  exact rounded

theorem ofUInt64_eq (positive : n ≠ 0) (bounded : n < 2 ^ 64) :
    UnpackedFloat.ofUInt64 .binary64 n.toUInt64 = UnpackedFloat.round .binary64 .positive n 0 := by
  have word : n.toUInt64.toNat = n := Nat.mod_eq_of_lt bounded
  have above : compare (n : Int) 0 = .gt := by
    rw [Int.compare_eq_gt]
    omega
  simp only [UnpackedFloat.ofUInt64, UnpackedFloat.ofNat, UnpackedFloat.ofInt,
    UnpackedFloat.normalize, word, above, Int.toNat_natCast]

theorem mul_finite (first : 0 < m) (second : 0 < m') :
    mul format (.finite sign m e first) (.finite sign' m' e' second) =
      roundWithAccuracy format (sign * sign') (m * m') (e + e') .exact := rfl

theorem ofScientific_eq (positive : n ≠ 0) :
    UnpackedFloat.ofScientific .binary64 n 0 =
      roundWithAccuracy .binary64 .positive (n * 2 ^ 53) (-(53 : Nat)) .exact := by
  have above : ¬ (0 : Int) < -((2 ^ Format.binary64.exponentBits : Int) + n.log2) := by
    change ¬ (0 : Int) < -(2048 + (n.log2 : Int))
    omega
  rw [UnpackedFloat.ofScientific, dif_neg positive, if_neg (by decide), if_neg above, if_pos le_rfl]
  have mantissa : n <<< Format.binary64.mantissaBits * 10 ^ Int.toNat 0 = n * 2 ^ 53 := by
    rw [Nat.shiftLeft_eq]
    simp [Format.mantissaBits]
  have exponent : -(Format.binary64.mantissaBits : Int) + 0 = -(53 : Nat) := by
    simp [Format.mantissaBits]
  rw [mul_finite, mantissa, exponent]
  rfl

theorem hasValue_ofNat (positive : n ≠ 0) (bounded : n < 2 ^ 64) :
    HasValue .positive (nearest n) (Float.ofNat n).toModel.unpack := by
  change HasValue _ _ (Float.ofScientific n false 0).toModel.unpack
  -- A number of no more than 53 bits is multiplied by a power of ten, which is one here.
  unfold Float.ofScientific
  split
  · next fast =>
    have small : n.log2 ≤ 52 := Nat.lt_succ_iff.mp ((Nat.log2_lt positive).mpr fast.1)
    have narrow := hasValue_round_narrow positive small
    have product := hasValue_mul_one positive small narrow
    rw [nearest_small small]
    change HasValue _ _ (Float.Model.pack (mul .binary64
      (Float.Model.pack (UnpackedFloat.ofUInt64 .binary64 n.toUInt64)).unpack
      (Float.ofBits 0x3FF0000000000000).toModel.unpack)).unpack
    rw [ofUInt64_eq positive bounded, unpack_pack narrow, one_eq, unpack_pack product]
    exact product
  · next slow =>
    have large : 2 ^ 53 ≤ n := by omega
    have rounded := hasValue_round .positive 53 positive bounded (by omega) (by omega)
    change HasValue _ _ (Float.Model.pack (UnpackedFloat.ofScientific .binary64 n 0)).unpack
    rw [ofScientific_eq positive, unpack_pack rounded]
    exact rounded

/-! ### Equality of doubles -/

theorem hasValue_ne_zero (hasValue : HasValue sign n x) : n ≠ 0 := by
  obtain @⟨m, e, filled, -, -, -, value⟩ := hasValue
  rintro rfl
  rw [Nat.zero_mul] at value
  exact absurd value (Nat.mul_pos filled (Nat.two_pow_pos _)).ne'

/-- Doubles with a full mantissa are the same if they have the same value. -/
theorem eq_iff_of_hasValue (first : HasValue sign n x) (second : HasValue sign' n' y) :
    x = y ↔ sign = sign' ∧ n = n' := by
  have positive := hasValue_ne_zero first
  have positive' := hasValue_ne_zero second
  obtain @⟨m, e, filled, width, least, most, value⟩ := first
  obtain @⟨m', e', filled', width', least', most', value'⟩ := second
  constructor
  · rintro ⟨⟩
    exact ⟨rfl, Nat.mul_right_cancel (Nat.two_pow_pos 52) (value.symm.trans value')⟩
  · rintro ⟨rfl, rfl⟩
    have place := exponent_eq width positive value
    have place' := exponent_eq width' positive value'
    obtain rfl : e = e' := by omega
    obtain rfl : m = m' := Nat.mul_right_cancel (Nat.two_pow_pos _) (value.trans value'.symm)
    rfl

/-- The double nearest to an integer. -/
def nearestInt (n : Int) : Int := n.sign * nearest n.natAbs

/-- A double that is a whole number. -/
inductive Whole : Int → UnpackedFloat → Prop where
  | zero : Whole 0 (.zero .positive)
  | signed (sign : Sign) (hasValue : HasValue sign n x) : Whole (sign.apply n) x

theorem hasValue_neg (hasValue : HasValue sign n x) : HasValue (-sign) n x.neg := by
  obtain ⟨width, least, most, value⟩ := hasValue
  exact .finite width least most value

theorem whole_ofInt (bounded : n.natAbs < 2 ^ 64) :
    Whole (nearestInt n) (Float.ofInt n).toModel.unpack := by
  cases n with
  | ofNat n =>
    by_cases zero : n = 0
    · subst zero
      exact .zero
    · have size : nearestInt (Int.ofNat n) = nearest n := by
        simp [nearestInt, Int.sign_natCast_of_ne_zero zero]
      rw [size]
      exact .signed .positive (hasValue_ofNat zero bounded)
  | negSucc n =>
    have hasValue := hasValue_neg (hasValue_ofNat n.succ_ne_zero bounded)
    have size : nearestInt (Int.negSucc n) = -(nearest (n + 1) : Int) := by
      simp [nearestInt]
    change Whole _ (Float.Model.pack (Float.ofNat (n + 1)).toModel.unpack.neg).unpack
    rw [size, unpack_pack hasValue]
    exact .signed .negative hasValue

theorem apply_eq_zero_iff (sign : Sign) (n : Nat) : sign.apply n = 0 ↔ n = 0 := by
  cases sign <;> simp [Sign.apply]

theorem apply_inj {sign sign' : Sign} {n n' : Nat} (positive : n ≠ 0) :
    sign.apply n = sign'.apply n' ↔ sign = sign' ∧ n = n' := by
  cases sign <;> cases sign' <;> simp [Sign.apply] <;> omega

theorem eq_iff_of_whole (first : Whole a x) (second : Whole b y) : x = y ↔ a = b := by
  cases first with
  | zero =>
    cases second with
    | zero => simp
    | signed sign hasValue =>
      have positive := hasValue_ne_zero hasValue
      obtain ⟨⟩ := hasValue
      exact iff_of_false nofun fun zero => positive ((apply_eq_zero_iff sign _).mp zero.symm)
  | signed sign hasValue =>
    have positive := hasValue_ne_zero hasValue
    cases second with
    | zero =>
      obtain ⟨⟩ := hasValue
      exact iff_of_false nofun fun zero => positive ((apply_eq_zero_iff sign _).mp zero)
    | signed sign' hasValue' => rw [eq_iff_of_hasValue hasValue hasValue', apply_inj positive]

/-- Whole numbers are neither of the two doubles that are equal to another or not to themselves. -/
theorem whole_regular (whole : Whole a x) : x ≠ .notANumber ∧ x ≠ .zero .negative := by
  cases whole with
  | zero => exact ⟨nofun, nofun⟩
  | signed sign hasValue =>
    obtain ⟨⟩ := hasValue
    exact ⟨nofun, nofun⟩

/-- Two integers are equal as doubles if the same double is nearest to both. -/
theorem ofInt_beq (first : a.natAbs < 2 ^ 64) (second : b.natAbs < 2 ^ 64) :
    (Float.ofInt a == Float.ofInt b) = decide (nearestInt a = nearestInt b) := by
  have left := whole_ofInt first
  have right := whole_ofInt second
  have compared : (Float.ofInt a == Float.ofInt b) =
      (Float.ofInt a).toModel.unpack.beq (Float.ofInt b).toModel.unpack := rfl
  rw [Bool.eq_iff_iff, decide_eq_true_iff, compared, beq_iff_ne_notANumber_and_eq,
    ← eq_iff_of_whole left right]
  simp [whole_regular left, whole_regular right]

end ChatTemplate.WholeDoubles
