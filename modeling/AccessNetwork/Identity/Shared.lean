import AccessNetwork.Identity.Generator

/-!
The generator that all nodes draw their identifiers from. It is made when the first number is asked
for: with the seed that was given, or else with the next one that the system delivers. Giving a seed
replaces it, and taking the seed away leaves none until a number is asked for again. Which seeds the
system delivers is a parameter.
-/

namespace AccessNetwork.Identity

set_option autoImplicit false

structure SharedGenerator where
  stream : Option WordStream
  systemSeeds : Nat → UInt32
  taken : Nat

namespace SharedGenerator

def unseeded (systemSeeds : Nat → UInt32) : SharedGenerator := ⟨none, systemSeeds, 0⟩

def reset (shared : SharedGenerator) (seed : Option Number) : SharedGenerator :=
  { shared with stream := seed.map WordStream.ofSeed }

def systemSeed (shared : SharedGenerator) : Number :=
  Number.ofInt (shared.systemSeeds shared.taken).toNat

/-- The stream that the next number is drawn from. -/
def current (shared : SharedGenerator) : WordStream :=
  shared.stream.getD (.ofSeed shared.systemSeed)

/-- The generator is there, whether it was or had to be made. -/
def obtained (shared : SharedGenerator) : SharedGenerator :=
  match shared.stream with
  | some _ => shared
  | none => { shared with stream := some shared.current, taken := shared.taken + 1 }

def drawId (shared : SharedGenerator) : Nat × SharedGenerator :=
  let drawn := shared.current.drawId
  (drawn.1, { shared.obtained with stream := some drawn.2 })

def drawIds : Nat → SharedGenerator → List Nat × SharedGenerator
  | 0, shared => ([], shared)
  | count + 1, shared =>
      let first := shared.drawId
      let others := drawIds count first.2
      (first.1 :: others.1, others.2)

end SharedGenerator

end AccessNetwork.Identity
