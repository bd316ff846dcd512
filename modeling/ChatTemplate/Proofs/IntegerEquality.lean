import ChatTemplate.Chat.Message
import ChatTemplate.Expression.Evaluate
import ChatTemplate.Proofs.WholeDoubles

/-! Integers that are compared as numbers are compared as doubles. So two that differ can be equal, if
they are both too large for every integer to be a double, and not far apart. -/
namespace ChatTemplate.IntegerEquality
open WholeDoubles

/-- Rounding a quotient moves it by half a unit at most. -/
theorem nearestQuotient_error (positive : 0 < unit) (n : Nat) :
    2 * (nearestQuotient n unit * unit) ≤ 2 * n + unit ∧
      2 * n ≤ 2 * (nearestQuotient n unit * unit) + unit := by
  have whole : n / unit * unit + n % unit = n := Nat.div_add_mod' n unit
  have below : n % unit < unit := Nat.mod_lt n positive
  unfold nearestQuotient
  split
  · next up =>
    rw [Nat.add_one_mul (n / unit)]
    omega
  · next down => omega

theorem nearest_error (bounded : n ≤ 2 ^ 63) : nearest n ≤ n + 512 ∧ n ≤ nearest n + 512 := by
  rcases Nat.lt_or_eq_of_le bounded with smaller | rfl
  · have size : n.log2 ≤ 62 := by
      rcases Nat.eq_zero_or_pos n with rfl | positive
      · decide
      · exact Nat.lt_succ_iff.mp ((Nat.log2_lt positive.ne').mpr smaller)
    have close : spacing n ≤ 2 ^ 10 := Nat.pow_le_pow_right Nat.two_pos (by omega)
    have positive : 0 < spacing n := Nat.two_pow_pos _
    have error := nearestQuotient_error positive n
    rw [nearest]
    omega
  · have exact : nearest (2 ^ 63) = 2 ^ 63 := by decide +kernel
    omega

/-- A number beyond the width of a mantissa is not rounded to a smaller one. -/
theorem le_nearest (large : 2 ^ 53 ≤ n) : 2 ^ 53 ≤ nearest n := by
  have positive : n ≠ 0 := by omega
  have wide : 53 ≤ n.log2 := (Nat.le_log2 positive).mpr large
  obtain ⟨count, log⟩ := Nat.exists_eq_add_of_le wide
  have wider : n.log2 = 52 + (count + 1) := by omega
  obtain ⟨low, -⟩ := nearestQuotient_width positive wider
  have far : spacing n = 2 ^ (count + 1) := by rw [spacing, wider, Nat.add_sub_cancel_left]
  calc 2 ^ 53 = 2 ^ 52 * 2 ^ 1 := rfl
    _ ≤ 2 ^ 52 * 2 ^ (count + 1) := Nat.mul_le_mul_left _ (Nat.pow_le_pow_right Nat.two_pos (by omega))
    _ ≤ nearestQuotient n (spacing n) * spacing n := by
      rw [far]
      exact Nat.mul_le_mul_right _ low

theorem nearest_of_lt (small : n < 2 ^ 53) : nearest n = n := by
  rcases Nat.eq_zero_or_pos n with rfl | positive
  · rfl
  · exact nearest_small (Nat.lt_succ_iff.mp ((Nat.log2_lt positive.ne').mpr small))

theorem natAbs_nearestInt (n : Int) : (nearestInt n).natAbs = nearest n.natAbs := by
  rcases eq_or_ne n 0 with rfl | positive
  · rfl
  · rw [nearestInt, Int.natAbs_mul, Int.natAbs_sign_of_ne_zero positive, Nat.one_mul,
      Int.natAbs_natCast]

theorem nearestInt_of_lt (small : n.natAbs < 2 ^ 53) : nearestInt n = n := by
  rw [nearestInt, nearest_of_lt small, Int.sign_mul_natAbs]

theorem nearestInt_error (bounded : n.natAbs ≤ 2 ^ 63) : (nearestInt n - n).natAbs ≤ 512 := by
  have error := nearest_error bounded
  rcases Int.lt_trichotomy n 0 with negative | rfl | positive
  · rw [nearestInt, Int.sign_eq_neg_one_of_neg negative]
    omega
  · decide
  · rw [nearestInt, Int.sign_eq_one_of_pos positive]
    omega

/-- Below the width of a mantissa no other integer has the same nearest double. -/
theorem nearestInt_injective (small : a.natAbs < 2 ^ 53)
    (same : nearestInt a = nearestInt b) : a = b := by
  have size := congrArg Int.natAbs same
  rw [natAbs_nearestInt, natAbs_nearestInt, nearest_of_lt small] at size
  have smaller : b.natAbs < 2 ^ 53 := by
    by_contra large
    have beyond := le_nearest (Nat.le_of_not_lt large)
    omega
  rwa [nearestInt_of_lt small, nearestInt_of_lt smaller] at same

theorem natAbs_toInt_le (n : Int64) : n.toInt.natAbs ≤ 2 ^ 63 := by
  have least := n.le_toInt
  have most := n.toInt_lt
  omega

/-- Two integers are equal if the same double is nearest to both. That is exact unless both have a
size of 2 ^ 53 or more and are 1024 apart at most. -/
theorem apply_equal_integers {O : Type} [DecidableEq O] (objects : Objects O) (a b : Int64) :
    let result := (Operator.binary .equal).apply objects [.int a, .int b]
    result = .ok (.ofBool (nearestInt a.toInt = nearestInt b.toInt)) ∧
      (result = .ok (.ofBool (a = b)) ∨
        result = .ok (.int 1) ∧ a ≠ b ∧ 2 ^ 53 ≤ a.toInt.natAbs ∧ 2 ^ 53 ≤ b.toInt.natAbs ∧
          (a.toInt - b.toInt).natAbs ≤ 1024) := by
  intro result
  have first := natAbs_toInt_le a
  have second := natAbs_toInt_le b
  have compared : result = .ok (.ofBool (nearestInt a.toInt = nearestInt b.toInt)) := by
    rw [← ofInt_beq (by omega) (by omega)]
    rfl
  refine ⟨compared, ?_⟩
  rw [compared]
  by_cases equal : a = b
  · left
    rw [equal]
    simp
  by_cases same : nearestInt a.toInt = nearestInt b.toInt
  · have apart : a.toInt ≠ b.toInt := fun toInts => equal (Int64.toInt_inj.mp toInts)
    refine .inr ⟨by simp [same, Value.ofBool], equal, ?_, ?_, ?_⟩
    · by_contra small
      exact apart (nearestInt_injective (Nat.lt_of_not_le small) same)
    · by_contra small
      exact apart (nearestInt_injective (Nat.lt_of_not_le small) same.symm).symm
    · have error := nearestInt_error first
      have error' := nearestInt_error second
      omega
  · left
    simp [same, equal]

/-- Beyond the width of a mantissa, two members with different identifiers have equal ones. -/
theorem apply_equal_integers_apart :
    (Operator.binary .equal).apply noObjects [.int 9007199254740992, .int 9007199254740993] =
        .ok (.int 1) ∧ (9007199254740992 : Int64) ≠ 9007199254740993 ∧
      let message : Chat.Message :=
        { Chat.Message.standard with
          author := { name := "user", id := some 9007199254740992 }
          channel := { name := "general", id := some 9007199254740993 } }
      (Expression.evaluate (message.host fun _ => false) ["a", ":", "id", "=", "ch", ":", "id"]).outcome =
        .ok (.int 1) :=
  ⟨rfl, by decide, rfl⟩

end ChatTemplate.IntegerEquality
