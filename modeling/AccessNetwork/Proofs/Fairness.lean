import AccessNetwork.Proofs.Quotients
import AccessNetwork.Proofs.Rejection
import Mathlib.Data.Int.CardIntervalMod
import Mathlib.Data.Set.Card

/-!
The draw of an identifier is fair. The raw words below the limit fall into as many classes as there
are identifiers, all of one size, because the limit is a multiple of the bound. It is the largest
that 32-bit words leave room for, so more than half of the raw words are accepted.
-/

namespace AccessNetwork.Identity

set_option autoImplicit false

namespace WordStream

def acceptedWords (bound : Nat) : Set UInt32 := {word | word.toNat < acceptLimit bound}

/-- The accepted raw words that stand for an identifier. -/
def wordsOf (bound id : Nat) : Set UInt32 :=
  {word | word ∈ acceptedWords bound ∧ 1 + word.toNat % bound = id}

theorem accept_limit_greatest (bound : Nat) (positive : 0 < bound) :
    IsGreatest {multiple | bound ∣ multiple ∧ multiple ≤ UInt32.size} (acceptLimit bound) := by
  constructor
  · exact ⟨Nat.dvd_mul_left _ _, Nat.div_mul_le_self _ _⟩
  · intro multiple inside
    obtain ⟨⟨count, rfl⟩, small⟩ := inside
    rw [acceptLimit, Nat.mul_comm bound]
    exact Nat.mul_le_mul_right bound ((Nat.le_div_iff_mul_le positive).2 (by rwa [Nat.mul_comm]))

/-- What is left above the limit is less than the bound, and the limit is not. -/
theorem size_lt_two_mul_accept_limit (bound : Nat) (positive : 0 < bound)
    (fits : bound ≤ UInt32.size) : UInt32.size < 2 * acceptLimit bound := by
  have whole : acceptLimit bound + UInt32.size % bound = UInt32.size :=
    Nat.div_add_mod' UInt32.size bound
  have rest := Nat.mod_lt UInt32.size positive
  have room := (accept_limit_greatest bound positive).2 ⟨dvd_refl bound, fits⟩
  omega

theorem ncard_words_below {limit : Nat} (fits : limit ≤ UInt32.size) (holds : Nat → Prop)
    [DecidablePred holds] :
    {word : UInt32 | word.toNat < limit ∧ holds word.toNat}.ncard = limit.count holds := by
  have numbers : UInt32.toNat '' {word | word.toNat < limit ∧ holds word.toNat} =
      ((Finset.range limit).filter holds : Finset Nat) := by
    ext number
    simp only [Set.mem_image, Set.mem_ofPred_eq, Finset.coe_filter, Finset.mem_range]
    constructor
    · intro taken
      obtain ⟨word, inside, rfl⟩ := taken
      exact inside
    · intro inside
      have value := UInt32.toNat_ofNat_of_lt' (Nat.lt_of_lt_of_le inside.1 fits)
      exact ⟨UInt32.ofNat number, by rwa [value], value⟩
  have injective : Function.Injective UInt32.toNat := fun _ _ => UInt32.toNat_inj.1
  rw [← Set.ncard_image_of_injective _ injective, numbers, Set.ncard_coe_finset,
    Nat.count_eq_card_filter_range]

theorem ncard_accepted_words (bound : Nat) (positive : 0 < bound) :
    (acceptedWords bound).ncard = acceptLimit bound := by
  have counted := ncard_words_below (accept_limit_greatest bound positive).1.2 fun _ => True
  simpa only [acceptedWords, and_true, Nat.count_true] using counted

theorem ncard_words_of {bound id : Nat} (positive : 0 < bound) (least : 1 ≤ id)
    (most : id ≤ bound) : (wordsOf bound id).ncard = UInt32.size / bound := by
  have remainder : ∀ number, number ≡ id - 1 [MOD bound] ↔ 1 + number % bound = id := by
    intro number
    rw [Nat.ModEq, Nat.mod_eq_of_lt (show id - 1 < bound by omega)]
    omega
  have counted := ncard_words_below (accept_limit_greatest bound positive).1.2
    fun number => number ≡ id - 1 [MOD bound]
  have whole : acceptLimit bound / bound = UInt32.size / bound := Nat.mul_div_cancel _ positive
  have none_left : acceptLimit bound % bound = 0 := Nat.mul_mod_left _ _
  rw [Nat.count_modEq_card _ positive, none_left, if_neg (Nat.not_lt_zero _), whole,
    Nat.add_zero] at counted
  simpa only [wordsOf, acceptedWords, Set.mem_ofPred_eq, remainder] using counted

theorem accept_limit_rounded (bound : Nat) (positive : 0 < bound) (fits : bound ≤ UInt32.size) :
    ∃ quotient, Number.nearest ((UInt32.size : Rat) / bound) = .finite quotient ∧
      Number.nearest (⌊quotient⌋ * bound) = .ofInt (acceptLimit bound) := by
  have nonzero : (bound : Rat) ≠ 0 := Nat.cast_ne_zero.2 positive.ne'
  have least : (1 : Rat) ≤ (UInt32.size : Rat) / bound := by
    rw [le_div_iff₀ (Nat.cast_pos.2 positive), one_mul]
    exact Nat.cast_le.2 fits
  have small : ((UInt32.size : Rat) / bound).num ≤ 2 ^ 51 := by
    rw [Rat.natCast_div_eq_divInt]
    have divides := Rat.num_dvd (UInt32.size : Int) (Int.natCast_ne_zero.2 positive.ne')
    exact Int.le_trans (Int.le_of_dvd (by decide) divides) (by decide)
  obtain ⟨quotient, rounded, whole⟩ := Number.floor_nearest least small
  refine ⟨quotient, rounded, ?_⟩
  have floor : ⌊(UInt32.size : Rat) / bound⌋ = (UInt32.size / bound : Nat) :=
    Rat.floor_intCast_div_natCast UInt32.size bound
  have product : (⌊quotient⌋ : Rat) * bound = (acceptLimit bound : Nat) := by
    rw [whole, floor, acceptLimit, Nat.cast_mul, Int.cast_natCast]
  have greatest := (accept_limit_greatest bound positive).1.2
  have size : UInt32.size ≤ 2 ^ 51 := by decide
  rw [product, Number.nearest_natural (accept_limit_positive bound positive fits)
    (Nat.le_trans greatest size)]
  rfl

end WordStream

namespace Generator

open WordStream

theorem next_of_fits {bound : Nat} (stream : WordStream) (positive : 0 < bound)
    (fits : bound ≤ UInt32.size) :
    next? ⟨stream, bound, positive⟩ =
      some ((stream.drawUpTo bound positive fits).1,
        ⟨(stream.drawUpTo bound positive fits).2, bound, positive⟩) :=
  dif_pos fits

theorem next_of_accepted {generator : Generator} {id : Nat}
    (fits : generator.bound ≤ UInt32.size)
    (accepted : generator.drawWord.1 ∈ wordsOf generator.bound id) :
    generator.next? = some (id, generator.drawWord.2) := by
  rcases generator with ⟨stream, bound, positive⟩
  obtain ⟨below, rfl⟩ := accepted
  rw [next_of_fits stream positive fits, drawUpTo, draw_below_of_accepted _ below]
  rfl

theorem next_of_rejected {generator : Generator} (fits : generator.bound ≤ UInt32.size)
    (rejected : generator.drawWord.1 ∉ acceptedWords generator.bound) :
    generator.next? = generator.drawWord.2.next? := by
  rcases generator with ⟨stream, bound, positive⟩
  have passed : stream.drawUpTo bound positive fits =
      stream.advance.drawUpTo bound positive fits := by
    rw [drawUpTo, draw_below_of_rejected _ rejected, drawUpTo]
  rw [next_of_fits stream positive fits, passed, ← next_of_fits stream.advance positive fits]
  rfl

/-- For every bound that fits into 32-bit words the limit, rounded to binary64 or not, is the
largest multiple of the bound up to 2^32, and it is above 2^31; so many words are accepted. Each
identifier from one to the bound has the same number of accepted words. A generator delivers the
identifier its next word stands for, and leaves out a word that is not accepted. -/
theorem next_is_unbiased (generator : Generator) (fits : generator.bound ≤ UInt32.size) :
    let bound := generator.bound
    let limit := acceptLimit bound
    (∃ quotient, Number.nearest ((UInt32.size : Rat) / bound) = .finite quotient ∧
      Number.nearest (⌊quotient⌋ * bound) = .ofInt limit) ∧
    IsGreatest {multiple | bound ∣ multiple ∧ multiple ≤ UInt32.size} limit ∧
    2 ^ 31 < limit ∧
    (acceptedWords bound).ncard = limit ∧
    (∀ id, 1 ≤ id → id ≤ bound → (wordsOf bound id).ncard = UInt32.size / bound) ∧
    (generator.drawWord.1 ∉ acceptedWords bound →
      generator.next? = generator.drawWord.2.next?) ∧
    (∀ id, generator.drawWord.1 ∈ wordsOf bound id →
      generator.next? = some (id, generator.drawWord.2)) := by
  intro bound limit
  have positive : 0 < bound := generator.bound_pos
  have half : UInt32.size < 2 * limit := size_lt_two_mul_accept_limit bound positive fits
  have size : UInt32.size = 2 * 2 ^ 31 := rfl
  refine ⟨accept_limit_rounded bound positive fits, accept_limit_greatest bound positive,
    by omega, ncard_accepted_words bound positive, fun id => ncard_words_of positive,
    next_of_rejected fits, fun id => next_of_accepted fits⟩

/-- Three identifiers share all raw words but one, and a generator in state zero delivers the third
of them. -/
theorem next_is_unbiased_among_three :
    let generator : Generator := ⟨⟨0⟩, 3, by decide⟩
    generator.bound ≤ UInt32.size ∧ (acceptedWords 3).ncard = 4294967295 ∧
      (wordsOf 3 1).ncard = 1431655765 ∧ (wordsOf 3 2).ncard = 1431655765 ∧
      (wordsOf 3 3).ncard = 1431655765 ∧ generator.next? = some (3, generator.drawWord.2) := by
  intro generator
  have fits : generator.bound ≤ UInt32.size := by decide
  obtain ⟨_, _, _, accepted, equal, _, delivered⟩ := generator.next_is_unbiased fits
  have share : UInt32.size / 3 = 1431655765 := by decide
  have below : generator.drawWord.1.toNat < acceptLimit 3 := by decide
  have limit : acceptLimit 3 = 4294967295 := by decide
  have third : 1 + generator.drawWord.1.toNat % 3 = 3 := by decide
  exact ⟨fits, accepted.trans limit, (equal 1 (by decide) (by decide)).trans share,
    (equal 2 (by decide) (by decide)).trans share, (equal 3 (by decide) (by decide)).trans share,
    delivered 3 ⟨below, third⟩⟩

end Generator

end AccessNetwork.Identity
