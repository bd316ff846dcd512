import ChatTemplate.Proofs.IntegerEquality

/-! Arithmetic on two integers. A sum, a difference, a product or a power is exact where it is an
integer of 64 bits, and a double everywhere else, so no result wraps around. Powers are not computed
step by step for that: beyond an exponent of 63 only the powers of -1, 0 and 1 are integers of 64
bits, and those repeat. A quotient is always a double, and division fails for zero alone. -/
namespace ChatTemplate.IntegerArithmetic
open WholeDoubles IntegerEquality

/-- The integers that a template can hold. -/
def Fits (n : Int) : Prop := -2 ^ 63 ≤ n ∧ n < 2 ^ 63

/-- What an operation gives on integers without bounds. Quotients are none of them, and exponents are
those that 32 bits hold. -/
inductive Exact : Arithmetic → Int → Int → Int → Prop where
  | plus : Exact .plus a b (a + b)
  | minus : Exact .minus a b (a - b)
  | times : Exact .times a b (a * b)
  | power {exponent : Nat} (short : exponent < 2 ^ 32) : Exact .power a exponent (a ^ exponent)

theorem fits_toInt (n : Int64) : Fits n.toInt := ⟨n.le_toInt, n.toInt_lt⟩

/-- An integer has a word exactly if it fits, and the word stands for it. -/
theorem word?_eq_some_iff {n : Int} {word : Int64} :
    word? n = some word ↔ word.toInt = n ∧ Fits n := by
  have range : Int64.minValue.toInt ≤ n ∧ n ≤ Int64.maxValue.toInt ↔ Fits n := by
    rw [Int64.toInt_minValue, Int64.toInt_maxValue, Fits]
    omega
  unfold word?
  split
  · next within =>
    have fits := range.mp within
    have meant := Int64.toInt_ofInt_of_le fits.1 fits.2
    constructor
    · intro same
      exact ⟨Option.some.inj same ▸ meant, fits⟩
    · rintro ⟨same, -⟩
      rw [← same, Int64.ofInt_toInt]
  · next beyond => exact iff_of_false nofun fun ⟨_, fits⟩ => beyond (range.mpr fits)

theorem word?_eq_none (beyond : ¬ Fits n) : word? n = none := by
  cases found : word? n with
  | none => rfl
  | some word => exact absurd (word?_eq_some_iff.mp found).2 beyond

/-- Of the powers of -1, 0 and 1 only those with the exponents zero, one and two can differ. -/
theorem pow_of_unit (unit : base.natAbs ≤ 1) (positive : exponent ≠ 0) :
    (base : Int) ^ (2 - exponent % 2) = base ^ exponent := by
  have small : base = -1 ∨ base = 0 ∨ base = 1 := by omega
  rcases small with rfl | rfl | rfl
  · rcases Nat.even_or_odd exponent with even | odd
    · rw [Nat.even_iff.mp even, even.neg_one_pow]
      rfl
    · rw [Nat.odd_iff.mp odd, odd.neg_one_pow]
      rfl
  · have filled : 2 - exponent % 2 ≠ 0 := by omega
    rw [zero_pow positive, zero_pow filled]
  · rw [one_pow, one_pow]

/-- All other bases outgrow the words by an exponent of 64. -/
theorem not_fits_pow (wide : 2 ≤ base.natAbs) (long : 64 ≤ exponent) :
    ¬ Fits ((base : Int) ^ exponent) := by
  have size : 2 ^ 64 ≤ ((base : Int) ^ exponent).natAbs := by
    rw [Int.natAbs_pow]
    calc 2 ^ 64 ≤ 2 ^ exponent := Nat.pow_le_pow_right Nat.two_pos long
      _ ≤ base.natAbs ^ exponent := Nat.pow_le_pow_left wide exponent
  rintro ⟨least, most⟩
  omega

/-- A power is found if it fits, whatever its exponent. -/
theorem powerWord?_eq (base : Int) (exponent : Nat) :
    powerWord? base exponent = word? (base ^ exponent) := by
  unfold powerWord?
  split
  · next unit =>
    split
    · next zero => rw [zero, pow_zero]
    · next positive => exact congrArg word? (pow_of_unit unit positive)
  · next wide =>
    split
    · rfl
    · next long => rw [word?_eq_none (not_fits_pow (by omega) (by omega))]

theorem exact_power_iff :
    Exact .power a b r ↔ 0 ≤ b ∧ b < 2 ^ 32 ∧ r = a ^ b.toNat := by
  constructor
  · rintro ⟨⟩
    next exponent short => exact ⟨Int.natCast_nonneg exponent, by omega, rfl⟩
  · rintro ⟨least, most, rfl⟩
    obtain ⟨exponent, rfl⟩ := Int.eq_ofNat_of_zero_le least
    exact .power (by omega)

/-- An operation has one exact result at most. -/
theorem exact_unique (first : Exact operation a b r) (second : Exact operation a b s) : r = s := by
  cases operation with
  | power =>
    obtain ⟨-, -, rfl⟩ := exact_power_iff.mp first
    obtain ⟨-, -, rfl⟩ := exact_power_iff.mp second
    rfl
  | divide => cases first
  | plus | minus | times =>
    cases first
    cases second
    rfl

/-- An operation whose exact result is known finds it if it fits. -/
theorem word_of_exact (known : ∀ r, Exact operation a b r ↔ r = n)
    (found : operation.onWords? a b = word? n) :
    (∃ word, operation.onWords? a b = some word ∧ word.toInt = r) ↔
      Exact operation a b r ∧ Fits r := by
  rw [known, found]
  constructor
  · rintro ⟨word, same, rfl⟩
    obtain ⟨meant, fits⟩ := word?_eq_some_iff.mp same
    exact ⟨meant, fits_toInt word⟩
  · rintro ⟨rfl, fits⟩
    have meant := Int64.toInt_ofInt_of_le fits.1 fits.2
    exact ⟨_, word?_eq_some_iff.mpr ⟨meant, fits⟩, meant⟩

/-- The exact results that fit are found, and no others. -/
theorem onWords?_iff :
    (∃ word, operation.onWords? a b = some word ∧ word.toInt = r) ↔
      Exact operation a b r ∧ Fits r := by
  cases operation with
  | plus => exact word_of_exact (fun r => ⟨fun | .plus => rfl, fun same => same ▸ .plus⟩) rfl
  | minus => exact word_of_exact (fun r => ⟨fun | .minus => rfl, fun same => same ▸ .minus⟩) rfl
  | times => exact word_of_exact (fun r => ⟨fun | .times => rfl, fun same => same ▸ .times⟩) rfl
  | divide => exact iff_of_false nofun nofun
  | power =>
    have size : UInt32.size = 2 ^ 32 := rfl
    by_cases short : 0 ≤ b ∧ b.toNat < UInt32.size
    · have found : Arithmetic.power.onWords? a b = word? (a ^ b.toNat) := by
        rw [Arithmetic.onWords?, if_pos short, powerWord?_eq]
      refine word_of_exact (fun r => ?_) found
      rw [exact_power_iff]
      exact ⟨fun ⟨_, _, same⟩ => same, fun same => ⟨short.1, by omega, same⟩⟩
    · rw [Arithmetic.onWords?, if_neg short, exact_power_iff]
      refine iff_of_false nofun ?_
      rintro ⟨⟨least, most, -⟩, -⟩
      exact short ⟨least, by omega⟩

/-- The double of an integer is zero for zero alone. -/
theorem ofInt_beq_zero (b : Int64) : (Float.ofInt b.toInt == 0) = true ↔ b = 0 := by
  have bounded := natAbs_toInt_le b
  have whole : (0 : Float) = Float.ofInt 0 := rfl
  rw [whole, ofInt_beq (by omega) (by decide), decide_eq_true_iff]
  constructor
  · intro same
    have toInts : (0 : Int64).toInt = b.toInt := nearestInt_injective (by decide) same.symm
    exact (Int64.toInt_inj.mp toInts).symm
  · rintro rfl
    rfl

/-- On doubles only division fails, and for the double of an integer only if that is zero. -/
theorem onFloats_cases (operation : Arithmetic) (x : Float) (b : Int64) :
    operation = .divide ∧ b = 0 ∧
        operation.onFloats x (Float.ofInt b.toInt) = .error .divisionByZero ∨
      ¬ (operation = .divide ∧ b = 0) ∧
        ∃ y, operation.onFloats x (Float.ofInt b.toInt) = .ok y := by
  cases operation with
  | divide =>
    by_cases divisor : (Float.ofInt b.toInt == 0) = true
    · exact .inl ⟨rfl, (ofInt_beq_zero b).mp divisor, if_pos divisor⟩
    · exact .inr ⟨fun ⟨_, zero⟩ => divisor ((ofInt_beq_zero b).mpr zero), _, if_neg divisor⟩
  | plus | minus | times | power => exact .inr ⟨nofun, _, rfl⟩

variable {O : Type} [DecidableEq O]

/-- Two integers are tried as integers first and then as doubles. -/
theorem apply_integers_eq (objects : Objects O) (operation : Arithmetic) (a b : Int64) :
    (Operator.binary (.arithmetic operation)).apply objects [.int a, .int b] =
      match operation.onWords? a.toInt b.toInt with
      | some n => .ok (.int n)
      | none => (operation.onFloats (Float.ofInt a.toInt) (Float.ofInt b.toInt)).map .float := by
  cases operation <;> rfl

/-- How an operation on two integers ends: with the exact result, with the fault of a division by zero,
or with a double. -/
inductive Ends (operation : Arithmetic) (a b : Int64) : Except Fault (Value O) → Prop where
  | exact (n : Int64) (exact : Exact operation a.toInt b.toInt n.toInt) :
      Ends operation a b (.ok (.int n))
  | divisionByZero (divided : operation = .divide) (zero : b = 0) :
      Ends operation a b (.error .divisionByZero)
  | double (x : Float) (inexact : ∀ r, Exact operation a.toInt b.toInt r → ¬ Fits r)
      (defined : ¬ (operation = .divide ∧ b = 0)) : Ends operation a b (.ok (.float x))

theorem apply_ends (objects : Objects O) (operation : Arithmetic) (a b : Int64) :
    Ends operation a b ((Operator.binary (.arithmetic operation)).apply objects [.int a, .int b]) := by
  rw [apply_integers_eq]
  cases found : operation.onWords? a.toInt b.toInt with
  | some n => exact .exact n (onWords?_iff.mp ⟨n, found, rfl⟩).1
  | none =>
    have inexact : ∀ r, Exact operation a.toInt b.toInt r → ¬ Fits r := by
      intro r exact fits
      obtain ⟨word, same, -⟩ := onWords?_iff.mpr ⟨exact, fits⟩
      rw [found] at same
      cases same
    rcases onFloats_cases operation (Float.ofInt a.toInt) b with
      ⟨divided, zero, failed⟩ | ⟨defined, x, doubled⟩
    · rw [failed]
      exact .divisionByZero divided zero
    · rw [doubled]
      exact .double x inexact defined

/-- Arithmetic on two integers gives the exact result as an integer if there is one that fits. It fails
for a division by zero only, and gives a double in all other cases. -/
theorem apply_integers (objects : Objects O) (operation : Arithmetic) (a b : Int64) :
    let result := (Operator.binary (.arithmetic operation)).apply objects [.int a, .int b]
    (∀ r : Int, (∃ n : Int64, result = .ok (.int n) ∧ n.toInt = r) ↔
        Exact operation a.toInt b.toInt r ∧ Fits r) ∧
      (∀ fault, result = .error fault ↔ operation = .divide ∧ b = 0 ∧ fault = .divisionByZero) ∧
      ((∃ x, result = .ok (.float x)) ↔
        (∀ r, Exact operation a.toInt b.toInt r → ¬ Fits r) ∧ ¬ (operation = .divide ∧ b = 0)) := by
  intro result
  have ends : Ends operation a b result := apply_ends objects operation a b
  clear_value result
  cases ends with
  | exact n exact =>
    have fits := fits_toInt n
    refine ⟨fun r => ⟨?_, ?_⟩, fun fault => iff_of_false nofun ?_, iff_of_false nofun ?_⟩
    · rintro ⟨_, ⟨⟩, rfl⟩
      exact ⟨exact, fits⟩
    · rintro ⟨other, -⟩
      exact ⟨n, rfl, exact_unique exact other⟩
    · rintro ⟨rfl, -, -⟩
      cases exact
    · rintro ⟨inexact, -⟩
      exact inexact _ exact fits
  | divisionByZero divided zero =>
    refine ⟨fun r => iff_of_false nofun ?_, fun fault => ?_, iff_of_false nofun ?_⟩
    · rintro ⟨exact, -⟩
      rw [divided] at exact
      cases exact
    · simp [divided, zero, eq_comm]
    · rintro ⟨-, defined⟩
      exact defined ⟨divided, zero⟩
  | double x inexact defined =>
    refine ⟨fun r => iff_of_false nofun ?_, fun fault => iff_of_false nofun ?_, iff_of_true ⟨x, rfl⟩ ?_⟩
    · rintro ⟨exact, fits⟩
      exact inexact r exact fits
    · rintro ⟨divided, zero, -⟩
      exact defined ⟨divided, zero⟩
    · exact ⟨inexact, defined⟩

/-- The least integer is a power, and the power of the opposite sign is out of range. -/
example :
    let power := Operator.binary (.arithmetic .power)
    power.apply noObjects [.int (-2), .int 63] = .ok (.int Int64.minValue) ∧
      power.apply noObjects [.int 2, .int 63] = .ok (.float (Float.pow 2 63)) :=
  ⟨rfl, rfl⟩

end ChatTemplate.IntegerArithmetic
