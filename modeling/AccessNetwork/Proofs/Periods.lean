import AccessNetwork.Proofs.ExactDraw
import AccessNetwork.Proofs.Rejection
import Mathlib.Algebra.Group.Nat.Even
import Mathlib.Algebra.Ring.Periodic
import Mathlib.Data.Int.ModEq
import Mathlib.Data.Nat.Factorization.Basic

/-!
The raw words of generators as streams. The increment is odd, so from any state a generator comes
through every other one, and all generators run through one circle of words that starts at
different places. The words of two states may be equal, so that the circle has no shorter period
needs an argument of its own: such a period would divide 2^31, and the words of the states zero and
2^31 differ. A stream therefore tells the seed that it started from, modulo 2^32.
-/

namespace AccessNetwork.Identity

set_option autoImplicit false

namespace WordStream

def oppositeState : UInt32 := 0x80000000

theorem scramble_opposite_state : scramble oppositeState ≠ scramble 0 := by decide

theorem state_iterate_advance (stream : WordStream) (count : Nat) :
    (advance^[count] stream).state = stream.state + UInt32.ofNat count * increment := by
  induction count with
  | zero => simp
  | succ count induction =>
      rw [Function.iterate_succ_apply', advance, induction, UInt32.ofNat_add]
      grind

def stepsBetween (start target : UInt32) : Nat := ((target - start) * incrementInverse).toNat

theorem steps_between_lt (start target : UInt32) : stepsBetween start target < UInt32.size :=
  UInt32.toNat_lt _

theorem add_steps_between (start target : UInt32) :
    start + UInt32.ofNat (stepsBetween start target) * increment = target := by
  have inverse := increment_mul_inverse
  rw [stepsBetween, UInt32.ofNat_toNat]
  grind

theorem of_nat_odd_halves (half : Nat) :
    UInt32.ofNat (2 ^ 31 * (2 * half + 1)) * increment = oppositeState := by
  have opposite : UInt32.ofNat (2 ^ 31 * (2 * half + 1)) = oppositeState := by
    have split : 2 ^ 31 * (2 * half + 1) = 2 ^ 31 + half * 2 ^ 32 := by omega
    apply UInt32.toNat_inj.1
    rw [split, UInt32.toNat_ofNat', Nat.add_mul_mod_self_right]
    rfl
  rw [opposite]
  decide

end WordStream

namespace Generator

open WordStream

theorem raw_word_eq_scramble (generator : Generator) (position : Nat) :
    generator.rawWord position =
      scramble (generator.stream.state + UInt32.ofNat (position + 1) * increment) := by
  rw [raw_word_eq, word, ← Function.iterate_succ_apply' advance, state_iterate_advance]

theorem raw_words_shifted (generator other : Generator) (position : Nat) :
    generator.rawWord position = other.rawWord
      (position + stepsBetween other.stream.state generator.stream.state) := by
  have reached := add_steps_between other.stream.state generator.stream.state
  generalize stepsBetween other.stream.state generator.stream.state = shift at reached ⊢
  rw [raw_word_eq_scramble, raw_word_eq_scramble, ← reached, Nat.add_right_comm,
    UInt32.ofNat_add _ shift]
  congr 1
  grind

theorem raw_word_periodic (generator : Generator) :
    Function.Periodic generator.rawWord UInt32.size := by
  intro position
  have around : UInt32.ofNat UInt32.size = 0 := rfl
  rw [raw_word_eq_scramble, raw_word_eq_scramble, Nat.add_right_comm, UInt32.ofNat_add, around,
    UInt32.add_zero]

/-- No odd multiple of half the circle is a period: the words of the state zero and of the state
opposite to it differ. -/
theorem not_periodic_odd_halves (generator : Generator) (half : Nat) :
    ¬Function.Periodic generator.rawWord (2 ^ 31 * (2 * half + 1)) := by
  intro periodic
  apply scramble_opposite_state
  have zero := add_steps_between (generator.stream.state + increment) 0
  generalize stepsBetween (generator.stream.state + increment) 0 = position at zero
  have repeated := periodic position
  have here : generator.stream.state + UInt32.ofNat (position + 1) * increment = 0 := by
    rw [← zero, UInt32.ofNat_add]
    grind
  rw [raw_word_eq_scramble, raw_word_eq_scramble, Nat.add_right_comm, UInt32.ofNat_add,
    UInt32.add_mul, of_nat_odd_halves, ← UInt32.add_assoc, here, UInt32.zero_add] at repeated
  exact repeated

theorem periodic_iff_dvd (generator : Generator) (period : Nat) :
    Function.Periodic generator.rawWord period ↔ UInt32.size ∣ period := by
  have size : UInt32.size = 2 ^ 32 := rfl
  constructor
  · intro periodic
    by_contra indivisible
    have nonzero : period ≠ 0 := by
      intro zero
      exact indivisible (zero ▸ Nat.dvd_zero _)
    obtain ⟨exponent, odd, ⟨half, rfl⟩, rfl⟩ := Nat.exists_eq_two_pow_mul_odd nonzero
    have small : exponent ≤ 31 := by
      by_contra large
      apply indivisible
      rw [size]
      exact Dvd.dvd.mul_right (Nat.pow_dvd_pow 2 (by omega)) _
    have multiple := periodic.nat_mul (2 ^ (31 - exponent))
    rw [Nat.cast_id, ← Nat.mul_assoc, ← Nat.pow_add, Nat.sub_add_cancel small] at multiple
    exact generator.not_periodic_odd_halves half multiple
  · intro divisible
    obtain ⟨rounds, rfl⟩ := divisible
    have repeated := generator.raw_word_periodic.nat_mul rounds
    rwa [Nat.cast_id, Nat.mul_comm] at repeated

theorem raw_words_eq_iff (generator other : Generator) :
    generator.rawWord = other.rawWord ↔ generator.stream = other.stream := by
  constructor
  · intro same
    have shifted := generator.raw_words_shifted other
    have reached := add_steps_between other.stream.state generator.stream.state
    have below := steps_between_lt other.stream.state generator.stream.state
    generalize stepsBetween other.stream.state generator.stream.state = shift at *
    have periodic : Function.Periodic other.rawWord shift := by
      intro position
      rw [← shifted, same]
    have divisible := (other.periodic_iff_dvd shift).1 periodic
    have none : shift = 0 := Nat.eq_zero_of_dvd_of_lt divisible below
    have start : other.stream.state = generator.stream.state := by
      rw [← reached, none]
      simp
    exact congrArg WordStream.mk start.symm
  · intro same
    funext position
    rw [raw_word_eq, raw_word_eq, same]

theorem of_seed_eq_iff (seed other : Int) :
    WordStream.ofSeed (.ofInt seed) = WordStream.ofSeed (.ofInt other) ↔
      seed ≡ other [ZMOD UInt32.size] := by
  have positive : 0 < (UInt32.size : Int) := by decide
  have first := Int.emod_nonneg seed (Int.ne_of_gt positive)
  have second := Int.emod_nonneg other (Int.ne_of_gt positive)
  rw [ofSeed, ofSeed, WordStream.mk.injEq, Number.to_word_of_int, Number.to_word_of_int,
    ← UInt32.toNat_inj, Term.to_nat_of_int, Term.to_nat_of_int, Int.ModEq]
  unfold Term.lowBits
  omega

/-- New generators with whole seeds deliver the same raw words exactly if the seeds are congruent
modulo 2^32. The words of each repeat after 2^32 draws and not before, and are those of the seed
zero from some position on. -/
theorem raw_words_identify_seed (seed other : Int) :
    ∃ generator twin origin,
      create (.ofInt seed) .absent = .ok generator ∧ create (.ofInt other) .absent = .ok twin ∧
      create (.ofInt 0) .absent = .ok origin ∧
      (generator.rawWord = twin.rawWord ↔ seed ≡ other [ZMOD UInt32.size]) ∧
      (∀ period, Function.Periodic generator.rawWord period ↔ UInt32.size ∣ period) ∧
      ∃ shift, ∀ position, generator.rawWord position = origin.rawWord (position + shift) := by
  refine ⟨_, _, _, create_standard _, create_standard _, create_standard _, ?_, ?_, ?_⟩
  · rw [raw_words_eq_iff]
    exact of_seed_eq_iff seed other
  · intro period
    apply periodic_iff_dvd
  · exact ⟨_, raw_words_shifted _ _⟩

end Generator

end AccessNetwork.Identity
