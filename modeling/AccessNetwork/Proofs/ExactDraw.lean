import AccessNetwork.Identity.Generator
import Mathlib.Data.UInt

/-!
The draw of a raw word on exact integers. Arithmetic that has no words evaluates the same terms on
signed numbers: bitwise operations and products are cut to 32 bits and read as signed, a shift reads
its operand as unsigned, and a sum is not reduced at all. Modulo 2^32 every term comes to what it
comes to in words that wrap around, and no value leaves the integers that binary64 holds exactly.
-/

namespace AccessNetwork.Identity

set_option autoImplicit false

/-- Operations that signed arithmetic carries out on 32 bits. -/
inductive Operation where
  | product
  | exclusive
  | inclusive
  deriving DecidableEq, Repr

namespace Operation

def onBits : Operation → Nat → Nat → Nat
  | .product => (· * ·)
  | .exclusive => (· ^^^ ·)
  | .inclusive => (· ||| ·)

def onWords : Operation → UInt32 → UInt32 → UInt32
  | .product => (· * ·)
  | .exclusive => (· ^^^ ·)
  | .inclusive => (· ||| ·)

theorem of_nat_on_bits (operation : Operation) (left right : Nat) :
    UInt32.ofNat (operation.onBits left right) =
      operation.onWords (UInt32.ofNat left) (UInt32.ofNat right) := by
  cases operation with
  | product => exact UInt32.ofNat_mul left right
  | exclusive => exact UInt32.ofNat_xor left right
  | inclusive => exact UInt32.ofNat_or left right

end Operation

/-- Terms over a given value, as one assignment evaluates them. -/
inductive Term where
  | given
  | constant (word : UInt32)
  | sum (left right : Term)
  | combined (operation : Operation) (left right : Term)
  | shifted (places : Fin 32) (operand : Term)
  deriving DecidableEq, Repr

namespace Term

/-- The lowest 32 bits of an integer in two's complement. -/
def lowBits (value : Int) : Nat := (value % UInt32.size).toNat

/-- The integer that 32 bits stand for if the highest of them is the sign. -/
def signed (bits : Nat) : Int := Int.bmod bits UInt32.size

def value (given : Int) : Term → Int
  | .given => given
  | .constant word => word.toNat
  | .sum left right => left.value given + right.value given
  | .combined operation left right =>
      signed (operation.onBits (lowBits (left.value given)) (lowBits (right.value given)))
  | .shifted places operand => (lowBits (operand.value given) >>> places.val : Nat)

def word (given : UInt32) : Term → UInt32
  | .given => given
  | .constant word => word
  | .sum left right => left.word given + right.word given
  | .combined operation left right => operation.onWords (left.word given) (right.word given)
  | .shifted places operand => operand.word given >>> UInt32.ofNat places

def parts : Term → List Term
  | .given => [.given]
  | .constant word => [.constant word]
  | .sum left right => .sum left right :: (left.parts ++ right.parts)
  | .combined operation left right =>
      .combined operation left right :: (left.parts ++ right.parts)
  | .shifted places operand => .shifted places operand :: operand.parts

/-- How many reduced values are added up without a reduction. -/
def summands : Term → Nat
  | .given => 1
  | .constant _ => 1
  | .sum left right => left.summands + right.summands
  | .combined _ _ _ => 1
  | .shifted _ _ => 1

theorem low_bits_lt (value : Int) : lowBits value < UInt32.size := by
  have positive : 0 < (UInt32.size : Int) := by decide
  have below := Int.emod_lt_of_pos value positive
  have above := Int.emod_nonneg value (Int.ne_of_gt positive)
  unfold lowBits
  omega

theorem of_nat_low_bits (value : Int) : UInt32.ofNat (lowBits value) = UInt32.ofInt value := by
  have size : ((UInt32.size : Nat) : Int) = 2 ^ 32 := by decide
  rw [lowBits, size]
  rfl

theorem to_nat_of_int (value : Int) : (UInt32.ofInt value).toNat = lowBits value := by
  rw [← of_nat_low_bits]
  exact UInt32.toNat_ofNat_of_lt' (low_bits_lt value)

theorem of_int_natural (count : Nat) : UInt32.ofInt count = UInt32.ofNat count := by
  have reduced : lowBits count = count % UInt32.size := by
    unfold lowBits
    omega
  rw [← of_nat_low_bits, reduced]
  apply UInt32.ofNat_mod_size

theorem of_int_to_nat (word : UInt32) : UInt32.ofInt word.toNat = word := by
  rw [of_int_natural]
  exact UInt32.ofNat_toNat

theorem of_int_signed (bits : Nat) : UInt32.ofInt (signed bits) = UInt32.ofNat bits := by
  have same : lowBits (signed bits) = lowBits bits := by
    unfold lowBits signed
    rw [Int.bmod_emod]
  rw [← of_nat_low_bits, same, of_nat_low_bits, of_int_natural]

theorem signed_range (bits : Nat) : -2 ^ 31 ≤ signed bits ∧ signed bits < 2 ^ 31 := by
  have positive : 0 < UInt32.size := by decide
  have least := Int.le_bmod (x := bits) positive
  have most := Int.bmod_lt (x := bits) positive
  exact ⟨least, most⟩

/-- Modulo 2^32 the two ways of evaluating a term agree. -/
theorem of_int_value (term : Term) (given : Int) :
    UInt32.ofInt (term.value given) = term.word (UInt32.ofInt given) := by
  induction term with
  | given => rfl
  | constant word =>
      rw [value, of_int_to_nat, Term.word]
  | sum left right first second => rw [value, UInt32.ofInt_add, first, second, word]
  | combined operation left right first second =>
      rw [value, of_int_signed, Operation.of_nat_on_bits, of_nat_low_bits, of_nat_low_bits, first,
        second, word]
  | shifted places operand inner =>
      have within : places.val < UInt32.size := Nat.lt_trans places.isLt (by decide)
      have below : lowBits (operand.value given) >>> places.val < UInt32.size :=
        Nat.lt_of_le_of_lt (Nat.shiftRight_le _ _) (low_bits_lt _)
      rw [value, of_int_natural, word, ← inner]
      apply UInt32.toNat_inj.1
      rw [UInt32.toNat_shiftRight, to_nat_of_int, UInt32.toNat_ofNat_of_lt' within,
        Nat.mod_eq_of_lt places.isLt, UInt32.toNat_ofNat_of_lt' below]

/-- What is shifted is read as unsigned, so it comes to the number of its word. -/
theorem value_of_shifted (places : Fin 32) (operand : Term) (given : Int) :
    (shifted places operand).value given =
      ((shifted places operand).word (UInt32.ofInt given)).toNat := by
  rw [← of_int_value, to_nat_of_int, value]
  have below : lowBits (operand.value given) >>> places.val < UInt32.size :=
    Nat.lt_of_le_of_lt (Nat.shiftRight_le _ _) (low_bits_lt _)
  generalize lowBits (operand.value given) >>> places.val = bits at below ⊢
  rw [lowBits, Int.emod_eq_of_lt (Int.natCast_nonneg bits) (Int.ofNat_lt.2 below),
    Int.toNat_natCast]

/-- A value is no larger than its summands make it, each of which is reduced to 32 bits. -/
theorem magnitude_value (term : Term) {given : Int} (small : given.natAbs < UInt32.size) :
    (term.value given).natAbs < term.summands * UInt32.size := by
  induction term with
  | given =>
      rw [value, summands, Nat.one_mul]
      exact small
  | constant word =>
      rw [value, summands, Nat.one_mul]
      exact word.toNat_lt
  | sum left right first second =>
      have joined := Int.natAbs_add_le (left.value given) (right.value given)
      rw [value, summands, Nat.add_mul]
      omega
  | combined operation left right first second =>
      have range := signed_range
        (operation.onBits (lowBits (left.value given)) (lowBits (right.value given)))
      have size : UInt32.size = 2 * 2 ^ 31 := rfl
      rw [value, summands, Nat.one_mul]
      omega
  | shifted places operand inner =>
      have below := low_bits_lt (operand.value given)
      have fewer := Nat.shiftRight_le (lowBits (operand.value given)) places
      rw [value, summands, Nat.one_mul, Int.natAbs_natCast]
      omega

end Term

/-- Assignments one after the other, each to a term over what the one before assigned. -/
abbrev Assignments := List Term

namespace Assignments

def value (given : Int) (assignments : Assignments) : Int :=
  assignments.foldl Term.value given

def word (given : UInt32) (assignments : Assignments) : UInt32 :=
  assignments.foldl Term.word given

def values (given : Int) : Assignments → List Int
  | [] => []
  | first :: rest => first.parts.map (Term.value given) ++ values (first.value given) rest

theorem of_int_value (assignments : Assignments) (given : Int) :
    UInt32.ofInt (assignments.value given) = assignments.word (UInt32.ofInt given) := by
  induction assignments generalizing given with
  | nil => rfl
  | cons first rest induction =>
      have assigned := induction (first.value given)
      rw [first.of_int_value] at assigned
      exact assigned

theorem value_of_shifted_last {assignments earlier : Assignments} {places : Fin 32} {operand : Term}
    (ends : assignments = earlier ++ [.shifted places operand]) (given : Int) :
    assignments.value given = (assignments.word (UInt32.ofInt given)).toNat := by
  have before := earlier.of_int_value given
  unfold value word at before ⊢
  rw [ends, List.foldl_concat, List.foldl_concat, Term.value_of_shifted, before]

theorem magnitude_values (assignments : Assignments) (bound : Nat) {given : Int}
    (small : given.natAbs < UInt32.size) (reduced : ∀ first ∈ assignments, first.summands = 1)
    (few : ∀ first ∈ assignments, ∀ part ∈ first.parts, part.summands ≤ bound) :
    ∀ value ∈ assignments.values given, value.natAbs < bound * UInt32.size := by
  induction assignments generalizing given with
  | nil =>
      intro value member
      exact absurd member List.not_mem_nil
  | cons first rest induction =>
      intro value member
      rw [values, List.mem_append, List.mem_map] at member
      rcases member with ⟨part, among, rfl⟩ | later
      · have magnitude := part.magnitude_value small
        have most := few first List.mem_cons_self part among
        exact Nat.lt_of_lt_of_le magnitude (Nat.mul_le_mul_right _ most)
      · have assigned := first.magnitude_value small
        rw [reduced first List.mem_cons_self, Nat.one_mul] at assigned
        apply induction assigned
        · intro other among
          exact reduced other (List.mem_cons_of_mem first among)
        · intro other among
          exact few other (List.mem_cons_of_mem first among)
        · exact later

end Assignments

namespace Generator

open Term

/-- The assignment that moves the state on: the increment is added and the sum read as unsigned. -/
def moveOn : Assignments := [.shifted 0 (.sum .given (.constant WordStream.increment))]

/-- The assignments that make a raw word of the state moved on. -/
def mixing : Assignments :=
  [.combined .product (.combined .exclusive .given (.shifted 15 .given))
      (.combined .inclusive .given (.constant 1)),
    .combined .exclusive .given
      (.sum .given (.combined .product (.combined .exclusive .given (.shifted 7 .given))
        (.combined .inclusive .given (.constant 61)))),
    .shifted 0 (.combined .exclusive .given (.shifted 14 .given))]

theorem word_move_on (stream : WordStream) :
    moveOn.word stream.state = stream.advance.state := by
  change (stream.state + WordStream.increment) >>> 0 = _
  rw [UInt32.shiftRight_zero]
  rfl

theorem word_mixing (stream : WordStream) :
    mixing.word stream.advance.state = stream.word := by
  change WordStream.scramble stream.advance.state >>> 0 = _
  rw [UInt32.shiftRight_zero]
  rfl

theorem value_move_on (stream : WordStream) :
    moveOn.value stream.state.toNat = stream.advance.state.toNat := by
  have ends : moveOn = [] ++ [.shifted 0 (.sum .given (.constant WordStream.increment))] := rfl
  rw [Assignments.value_of_shifted_last ends, of_int_to_nat, word_move_on]

theorem value_mixing (stream : WordStream) :
    mixing.value stream.advance.state.toNat = stream.word.toNat := by
  have ends : mixing =
      mixing.take 2 ++ [.shifted 0 (.combined .exclusive .given (.shifted 14 .given))] := rfl
  rw [Assignments.value_of_shifted_last ends, of_int_to_nat, word_mixing]

/-- Whatever its state, a generator draws the word and goes on to the state that the assignments
come to on exact integers. Both are unsigned 32-bit values, and everything evaluated on the way is
of a magnitude that binary64 holds exactly. -/
theorem draw_word_on_integers (generator : Generator) :
    let state : Int := generator.stream.state.toNat
    let next := moveOn.value state
    let output := mixing.value next
    next = generator.drawWord.2.stream.state.toNat ∧
    output = generator.drawWord.1.toNat ∧
    (∀ value ∈ moveOn.values state ++ mixing.values next, value.natAbs < 2 ^ 53) ∧
    0 ≤ next ∧ next < UInt32.size ∧ 0 ≤ output ∧ output < UInt32.size := by
  intro state next output
  have moved : next = generator.stream.advance.state.toNat := value_move_on generator.stream
  have mixed : output = generator.stream.word.toNat := by
    rw [← value_mixing, ← moved]
  have size : UInt32.size = 2 ^ 32 := rfl
  have stateBound := generator.stream.state.toNat_lt
  have nextBound := generator.stream.advance.state.toNat_lt
  have outputBound := generator.stream.word.toNat_lt
  refine ⟨moved, mixed, ?_, by omega, by omega, by omega, by omega⟩
  intro value member
  have magnitude : value.natAbs < 2 * UInt32.size := by
    rcases List.mem_append.1 member with first | later
    · exact moveOn.magnitude_values 2 (by omega) (by decide) (by decide) value first
    · exact mixing.magnitude_values 2 (by omega) (by decide) (by decide) value later
  omega

end Generator

end AccessNetwork.Identity
