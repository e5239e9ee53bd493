import AccessNetwork.Number.Rounding
import Mathlib.Data.Rat.Floor

/-!
Quotients in binary64. From one on, a number with a numerator of at most 2^51 keeps its whole part
when it is rounded: the significand counts in a unit that the denominator is coarse against, so a
quotient that is not whole stays clear of the next whole number. Whole numbers are not rounded.
-/

namespace AccessNetwork.Number

set_option autoImplicit false

theorem round_half_even_cases (numerator denominator : Nat) :
    roundHalfEven numerator denominator = numerator / denominator ∨
      roundHalfEven numerator denominator = numerator / denominator + 1 := by
  simp only [roundHalfEven]
  split
  · exact .inl rfl
  · exact .inr rfl
  · split
    · exact .inl rfl
    · exact .inr rfl

theorem round_half_even_one (numerator : Nat) : roundHalfEven numerator 1 = numerator := by
  rw [roundHalfEven, Nat.mod_one, Nat.div_one]
  rfl

/-- Counted in a unit fine enough against the denominator, rounding does not reach the next whole
number. -/
theorem round_half_even_div {numerator denominator scale : Nat} (positive : 0 < denominator)
    (fine : 2 * denominator ≤ scale) :
    roundHalfEven (numerator * scale) denominator / scale = numerator / denominator := by
  have nonempty : 0 < scale := by omega
  have whole := Nat.div_mul_le_self numerator denominator
  have next := Nat.lt_mul_div_succ numerator positive
  generalize numerator / denominator = quotient at whole next ⊢
  have lower : quotient * scale ≤ numerator * scale / denominator := by
    rw [Nat.le_div_iff_mul_le positive, Nat.mul_right_comm]
    exact Nat.mul_le_mul_right scale whole
  have upper : numerator * scale / denominator + 2 ≤ (quotient + 1) * scale := by
    have room := Nat.mul_le_mul_right scale (Nat.succ_le_of_lt next)
    rw [← Nat.add_mul_div_right _ 2 positive]
    apply Nat.div_le_of_le_mul
    calc numerator * scale + 2 * denominator ≤ (numerator + 1) * scale := by
          rw [Nat.add_mul, Nat.one_mul]
          exact Nat.add_le_add_left fine _
      _ ≤ denominator * (quotient + 1) * scale := room
      _ = denominator * ((quotient + 1) * scale) := Nat.mul_assoc _ _ _
  rcases round_half_even_cases (numerator * scale) denominator with down | up
  · rw [down]
    exact Nat.div_eq_of_lt_le lower (by omega)
  · rw [up]
    exact Nat.div_eq_of_lt_le (by omega) (by omega)

theorem binary_exponent_spec {numerator denominator : Nat} (positive : 0 < denominator)
    (least : denominator ≤ numerator) :
    ∃ exponent : Nat, binaryExponent numerator denominator = exponent ∧
      denominator * 2 ^ exponent ≤ numerator := by
  have digits : denominator.log2 ≤ numerator.log2 := by
    rw [Nat.le_log2 (by omega)]
    exact Nat.le_trans (Nat.log2_self_le (by omega)) least
  have guess : (numerator.log2 : Int) - denominator.log2 =
      ((numerator.log2 - denominator.log2 : Nat) : Int) := by omega
  unfold binaryExponent
  rw [guess]
  generalize reach : numerator.log2 - denominator.log2 = exponent
  have back : (-(exponent : Int)).toNat = 0 := by omega
  simp only [Int.toNat_natCast, back, twoTo, Nat.pow_eq, Nat.pow_zero, Nat.mul_one]
  split
  · rename_i reached
    exact ⟨exponent, rfl, reached⟩
  · rename_i beyond
    cases exponent with
    | zero => exact absurd least (by simpa using beyond)
    | succ exponent =>
        refine ⟨exponent, by omega, ?_⟩
        have below : denominator < 2 ^ (denominator.log2 + 1) := Nat.lt_log2_self
        have split : numerator.log2 = denominator.log2 + 1 + exponent := by omega
        calc denominator * 2 ^ exponent ≤ 2 ^ (denominator.log2 + 1) * 2 ^ exponent :=
              Nat.mul_le_mul_right _ (Nat.le_of_lt below)
          _ = 2 ^ numerator.log2 := by rw [← Nat.pow_add, ← split]
          _ ≤ numerator := Nat.log2_self_le (by omega)

/-- What a number from one on is rounded to, if its numerator is at most 2^51: a significand, counted
in a unit that is fine against the denominator. -/
theorem nearest_of_small_numerator {value : Rat} (least : 1 ≤ value) (small : value.num ≤ 2 ^ 51) :
    ∃ scale : Nat, 2 * value.den ≤ scale ∧
      nearest value =
        .finite (mkRat (roundHalfEven (value.num.natAbs * scale) value.den) scale) := by
  have positive : 0 < value.num := Rat.num_pos.2 (lt_of_lt_of_le one_pos least)
  have magnitude : (value.num.natAbs : Int) = value.num := by omega
  have order : value.den ≤ value.num.natAbs := by
    have ordered := (Rat.le_iff 1 value).1 least
    simp only [Rat.num_one, Rat.den_one, one_mul, Nat.cast_one, mul_one] at ordered
    omega
  obtain ⟨exponent, found, reached⟩ := binary_exponent_spec value.den_pos order
  have fine : 2 * value.den ≤ 2 ^ (52 - exponent) := by
    have room : value.den * 2 ^ exponent ≤ 2 ^ 51 := by omega
    have within : exponent ≤ 51 := by
      rw [← Nat.pow_le_pow_iff_right (show 1 < 2 by decide)]
      exact Nat.le_trans (Nat.le_mul_of_pos_left _ value.den_pos) room
    have halves : 2 ^ (52 - exponent) * 2 ^ exponent = 2 ^ 52 := by
      rw [← Nat.pow_add, Nat.sub_add_cancel (by omega)]
    apply Nat.le_of_mul_le_mul_right _ (Nat.two_pow_pos exponent)
    rw [halves, Nat.mul_assoc]
    omega
  refine ⟨2 ^ (52 - exponent), fine, ?_⟩
  have within : exponent < 52 := by
    by_contra wide
    rw [Nat.sub_eq_zero_of_le (by omega)] at fine
    have some_denominator := value.den_pos
    omega
  have unit : unitExponent value.num.natAbs value.den = (exponent : Int) - 52 := by
    rw [unitExponent, found]
    omega
  have scale : (-((exponent : Int) - 52)).toNat = 52 - exponent := by omega
  have none_above : ((exponent : Int) - 52).toNat = 0 := by omega
  have fraction : ¬0 ≤ (exponent : Int) - 52 := by omega
  rw [nearest]
  simp only [unit, scale, none_above, fraction, false_and, if_false, scaleTwo, twoTo,
    Nat.pow_eq, Nat.pow_zero, Nat.mul_one, Int.natAbs_eq_zero, positive.ne',
    Int.sign_eq_one_of_pos positive, one_mul]

theorem floor_nearest {value : Rat} (least : 1 ≤ value) (small : value.num ≤ 2 ^ 51) :
    ∃ rounded, nearest value = .finite rounded ∧ ⌊rounded⌋ = ⌊value⌋ := by
  obtain ⟨scale, fine, rounded⟩ := nearest_of_small_numerator least small
  have positive : 0 < value.num := Rat.num_pos.2 (lt_of_lt_of_le one_pos least)
  refine ⟨_, rounded, ?_⟩
  have whole : ⌊value⌋ = value.num / value.den := by
    rw [← Rat.floor_intCast_div_natCast, Rat.num_div_den]
  rw [whole, Rat.mkRat_eq_div, Rat.floor_intCast_div_natCast, ← Int.natCast_ediv,
    round_half_even_div value.den_pos fine, Int.natCast_ediv, Int.natAbs_of_nonneg positive.le]

theorem nearest_natural {count : Nat} (positive : 0 < count) (small : count ≤ 2 ^ 51) :
    nearest count = .finite count := by
  have least : (1 : Rat) ≤ count := Nat.one_le_cast.2 positive
  obtain ⟨scale, fine, rounded⟩ := nearest_of_small_numerator least (by simpa using mod_cast small)
  have nonempty : scale ≠ 0 := by
    rintro rfl
    simp at fine
  rw [rounded, Rat.den_natCast, round_half_even_one, Rat.num_natCast, Int.natAbs_natCast]
  have cancelled := Rat.mkRat_mul_right (n := count) (d := 1) nonempty
  rw [one_mul, Rat.mkRat_one] at cancelled
  rw [Nat.cast_mul, cancelled, Int.cast_natCast]

end AccessNetwork.Number
