import AccessNetwork.Identity.WordStream
import AccessNetwork.Value.Coercion

/-!
Generators of identifiers. A generator has a bound and draws numbers from one to the bound, each
equally likely; the bound is a whole number of at least one, and `maxId` if none is given. A bound
above 2^32 is kept, but no number is drawn for it. The identifiers of nodes are drawn up to `maxId`.
-/

namespace AccessNetwork.Identity

set_option autoImplicit false

def invalidId : Number := Number.ofInt (-1)

def maxId : Nat := 1000000

/-- Giving no identifier, or the invalid one, asks for a drawn one. -/
def asksForDrawn (requested : Written) : Bool :=
  match requested.value with
  | .absent => true
  | .number number => number == invalidId
  | _ => false

structure BoundError where
  bound : Written

def BoundError.message (error : BoundError) : String :=
  "IdGenerator max must be a positive integer, got " ++ error.bound.spelling

structure Generator where
  stream : WordStream
  bound : Nat
  bound_pos : 0 < bound
  deriving DecidableEq, Repr

namespace Generator

def bound? : Value → Option Int
  | .absent => some maxId
  | .number number => number.integer?
  | _ => none

def create (seed : Number) (bound : Written) : Except BoundError Generator :=
  match bound? bound.value with
  | some (.ofNat (count + 1)) => .ok ⟨.ofSeed seed, count + 1, Nat.succ_pos count⟩
  | _ => .error ⟨bound⟩

def drawWord (generator : Generator) : UInt32 × Generator :=
  (generator.stream.word, { generator with stream := generator.stream.advance })

def next? (generator : Generator) : Option (Nat × Generator) :=
  if fits : generator.bound ≤ UInt32.size then
    let drawn := generator.stream.drawUpTo generator.bound generator.bound_pos fits
    some (drawn.1, { generator with stream := drawn.2 })
  else none

end Generator

namespace WordStream

def drawId (stream : WordStream) : Nat × WordStream :=
  stream.drawUpTo maxId (by decide) (by decide)

def drawIds : Nat → WordStream → List Nat × WordStream
  | 0, stream => ([], stream)
  | count + 1, stream =>
      let first := stream.drawId
      let others := drawIds count first.2
      (first.1 :: others.1, others.2)

end WordStream

end AccessNetwork.Identity
