import AccessNetwork.Number.Basic

/-!
A reproducible stream of 32-bit words. Each draw adds a fixed odd increment to the state and
scrambles the sum; all arithmetic wraps at 2^32. Because the increment is odd the state runs
through all 2^32 words before it repeats, and the scramble takes zero to zero, so a search for a
word below any positive limit ends: `draws_left_decreases` is the step of that argument.
-/

namespace AccessNetwork.Identity

set_option autoImplicit false

structure WordStream where
  state : UInt32
  deriving DecidableEq, Repr

namespace WordStream

def increment : UInt32 := 0x6d2b79f5

def incrementInverse : UInt32 := 0xdc58aa5d

theorem increment_mul_inverse : increment * incrementInverse = 1 := by decide

def scramble (state : UInt32) : UInt32 :=
  let mixed := (state ^^^ (state >>> 15)) * (state ||| 1)
  let folded := mixed ^^^ (mixed + (mixed ^^^ (mixed >>> 7)) * (mixed ||| 61))
  folded ^^^ (folded >>> 14)

theorem scramble_zero : scramble 0 = 0 := by decide

def ofSeed (seed : Number) : WordStream := ⟨seed.toWord⟩

def advance (stream : WordStream) : WordStream := ⟨stream.state + increment⟩

def word (stream : WordStream) : UInt32 := scramble stream.advance.state

def draw (stream : WordStream) : UInt32 × WordStream := (stream.word, stream.advance)

/-- How many draws follow the next one before the state is zero. -/
def drawsLeft (stream : WordStream) : Nat :=
  ((0 - stream.state - increment) * incrementInverse).toNat

theorem draws_left_decreases (stream : WordStream) (moving : stream.advance.state ≠ 0) :
    stream.advance.drawsLeft < stream.drawsLeft := by
  rcases stream with ⟨state⟩
  have inverse := increment_mul_inverse
  simp only [advance, drawsLeft] at moving ⊢
  generalize increment = step at *
  generalize incrementInverse = inverseStep at *
  have counted : (0 - (state + step) - step) * inverseStep =
      (0 - state - step) * inverseStep - 1 := by grind
  have positive : (0 - state - step) * inverseStep ≠ 0 := by
    intro zero
    apply moving
    grind
  rw [counted]
  generalize (0 - state - step) * inverseStep = left at *
  have nonzero : left.toNat ≠ 0 := by
    intro zero
    exact positive (UInt32.toNat_inj.mp zero)
  have bounded := left.toNat_lt
  rw [UInt32.toNat_sub]
  simp only [UInt32.toNat_one]
  omega

/-- The state zero gives the word zero, which is below every positive limit. -/
theorem advance_state_ne_zero_of_rejected {limit : Nat} (positive : 0 < limit)
    {stream : WordStream} (rejected : ¬stream.word.toNat < limit) : stream.advance.state ≠ 0 := by
  intro rest
  apply rejected
  simpa [word, rest, scramble_zero] using positive

/-- The next word below the limit; the words at or above it are drawn and left out. -/
def drawBelow (limit : Nat) (positive : 0 < limit) (stream : WordStream) : UInt32 × WordStream :=
  if stream.word.toNat < limit then stream.draw
  else drawBelow limit positive stream.advance
termination_by stream.drawsLeft
decreasing_by
  rename_i rejected
  exact draws_left_decreases stream (advance_state_ne_zero_of_rejected positive rejected)

/-- The largest multiple of the bound up to 2^32. Below it every remainder is equally likely. -/
def acceptLimit (bound : Nat) : Nat := UInt32.size / bound * bound

theorem accept_limit_positive (bound : Nat) (positive : 0 < bound) (fits : bound ≤ UInt32.size) :
    0 < acceptLimit bound :=
  Nat.mul_pos (Nat.div_pos fits positive) positive

def drawUpTo (bound : Nat) (positive : 0 < bound) (fits : bound ≤ UInt32.size)
    (stream : WordStream) : Nat × WordStream :=
  let accepted := drawBelow (acceptLimit bound) (accept_limit_positive bound positive fits) stream
  (1 + accepted.1.toNat % bound, accepted.2)

end WordStream

end AccessNetwork.Identity
