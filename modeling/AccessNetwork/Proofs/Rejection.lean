import AccessNetwork.Proofs.Draws
import Mathlib.Logic.Function.Iterate

/-!
How the search for an identifier ends. A generator draws raw words and rejects those at or above the
limit. Each rejected word brings the state one draw closer to zero, and zero gives a word that no
limit rejects, so fewer words are rejected than there are states. The word that is accepted decides
the identifier, and the generator is left as if its raw words had been drawn one by one.
-/

namespace AccessNetwork.Identity

set_option autoImplicit false

namespace WordStream

theorem draws_left_lt (stream : WordStream) : stream.drawsLeft < UInt32.size :=
  UInt32.toNat_lt _

theorem draw_below_of_accepted {limit : Nat} (positive : 0 < limit) {stream : WordStream}
    (accepted : stream.word.toNat < limit) :
    drawBelow limit positive stream = stream.draw := by
  rw [drawBelow, if_pos accepted]

theorem draw_below_of_rejected {limit : Nat} (positive : 0 < limit) {stream : WordStream}
    (rejected : ¬stream.word.toNat < limit) :
    drawBelow limit positive stream = drawBelow limit positive stream.advance := by
  rw [drawBelow, if_neg rejected]

/-- The search stops at the first word below the limit, and not after the state zero. -/
theorem draw_below_eq_first_accepted (limit : Nat) (positive : 0 < limit) (stream : WordStream) :
    ∃ rejected, rejected ≤ stream.drawsLeft ∧
      (∀ earlier < rejected, limit ≤ (advance^[earlier] stream).word.toNat) ∧
      (advance^[rejected] stream).word.toNat < limit ∧
      drawBelow limit positive stream = (advance^[rejected] stream).draw := by
  -- By the recursion of the search itself; `drawsLeft` falls with each rejected word.
  induction stream using drawBelow.induct limit positive with
  | case1 stream accepted =>
      refine ⟨0, Nat.zero_le _, ?_, accepted, draw_below_of_accepted positive accepted⟩
      intro earlier before
      exact absurd before (Nat.not_lt_zero earlier)
  | case2 stream refused induction =>
      obtain ⟨rejected, within, before, accepted, found⟩ := induction
      have closer := draws_left_decreases stream
        (advance_state_ne_zero_of_rejected positive refused)
      -- Iterates are rewritten and never compared: the states in them have no value yet.
      rw [← Function.iterate_succ_apply] at accepted found
      refine ⟨rejected + 1, by omega, ?_, accepted, ?_⟩
      · intro earlier inside
        cases earlier with
        | zero => exact Nat.le_of_not_lt refused
        | succ earlier =>
            rw [Function.iterate_succ_apply]
            exact before earlier (Nat.lt_of_succ_lt_succ inside)
      · rw [draw_below_of_rejected positive refused, found]

end WordStream

namespace Generator

def afterWords (generator : Generator) : Nat → Generator
  | 0 => generator
  | count + 1 => (generator.afterWords count).drawWord.2

def rawWord (generator : Generator) (position : Nat) : UInt32 :=
  (generator.afterWords position).drawWord.1

theorem after_words_eq (generator : Generator) (count : Nat) :
    generator.afterWords count =
      { generator with stream := WordStream.advance^[count] generator.stream } := by
  induction count with
  | zero => rfl
  | succ count induction =>
      rw [afterWords, induction, drawWord, Function.iterate_succ_apply']

theorem raw_word_eq (generator : Generator) (position : Nat) :
    generator.rawWord position = (WordStream.advance^[position] generator.stream).word := by
  rw [rawWord, after_words_eq]
  rfl

/-- Whatever its state, a generator whose bound fits into 32-bit words delivers an identifier from
one to the bound after at most 2^32 raw words: the first of them below the limit decides it, and
those before are rejected. The generator goes on behind the words that were drawn. -/
theorem next_ends_in_range (generator : Generator) (fits : generator.bound ≤ UInt32.size) :
    ∃ id rejected, generator.next? = some (id, generator.afterWords (rejected + 1)) ∧
      rejected + 1 ≤ UInt32.size ∧
      (∀ earlier < rejected,
        WordStream.acceptLimit generator.bound ≤ (generator.rawWord earlier).toNat) ∧
      (generator.rawWord rejected).toNat < WordStream.acceptLimit generator.bound ∧
      id = 1 + (generator.rawWord rejected).toNat % generator.bound ∧
      1 ≤ id ∧ id ≤ generator.bound := by
  obtain ⟨rejected, within, before, accepted, found⟩ :=
    WordStream.draw_below_eq_first_accepted (WordStream.acceptLimit generator.bound)
      (WordStream.accept_limit_positive generator.bound generator.bound_pos fits) generator.stream
  simp only [← raw_word_eq] at before accepted
  have drawn : WordStream.drawUpTo generator.bound generator.bound_pos fits generator.stream =
      (1 + (generator.rawWord rejected).toNat % generator.bound,
        WordStream.advance^[rejected + 1] generator.stream) := by
    rw [WordStream.drawUpTo, found, raw_word_eq, Function.iterate_succ_apply']
    rfl
  have range := generator.stream.draw_up_to_in_range generator.bound generator.bound_pos fits
  rw [drawn] at range
  refine ⟨1 + (generator.rawWord rejected).toNat % generator.bound, rejected, ?_, ?_, before,
    accepted, rfl, range⟩
  · rw [next?, dif_pos fits, drawn, after_words_eq]
  · have fewer := Nat.lt_of_le_of_lt within generator.stream.draws_left_lt
    exact Nat.succ_le_of_lt fewer

def wideGenerator : Generator := ⟨⟨30⟩, 3000000000, by decide⟩

/-- From this state the first two words are rejected. -/
theorem next_ends_after_two_rejections :
    wideGenerator.bound ≤ UInt32.size ∧
      wideGenerator.next? = some (1844833373, wideGenerator.afterWords 3) := by
  have fits : wideGenerator.bound ≤ UInt32.size := by decide
  obtain ⟨id, rejected, delivered, _, before, accepted, value, _⟩ :=
    wideGenerator.next_ends_in_range fits
  have first : ¬(wideGenerator.rawWord 0).toNat < WordStream.acceptLimit wideGenerator.bound := by
    decide
  have second : ¬(wideGenerator.rawWord 1).toNat < WordStream.acceptLimit wideGenerator.bound := by
    decide
  have third : (wideGenerator.rawWord 2).toNat < WordStream.acceptLimit wideGenerator.bound := by
    decide
  have two : rejected = 2 := by
    rcases Nat.lt_trichotomy rejected 2 with fewer | same | more
    · have zero_or_one : rejected = 0 ∨ rejected = 1 := by omega
      rcases zero_or_one with zero | one
      · exact absurd (zero ▸ accepted) first
      · exact absurd (one ▸ accepted) second
    · exact same
    · exact absurd third (Nat.not_lt_of_le (before 2 more))
  have word : 1 + (wideGenerator.rawWord 2).toNat % wideGenerator.bound = 1844833373 := by decide
  refine ⟨fits, ?_⟩
  rw [delivered, value, two, word]

end Generator

end AccessNetwork.Identity
