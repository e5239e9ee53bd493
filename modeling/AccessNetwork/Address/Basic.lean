import AccessNetwork.Numeral.Hex

/-!
Hierarchical addresses of four levels, the tag that spells one out, equality by tag, and the way
up: the parent leaves out the deepest level that is set. What the levels hold is a parameter, since
only the tag depends on it. An address may skip levels here, and a level may hold any number; which
addresses are well formed is said in `AccessNetwork.Address.Parse`.
-/

namespace AccessNetwork

open AccessNetwork.Numeral

set_option autoImplicit false

inductive Level where
  | net | hub | ap | rt
  deriving DecidableEq, Repr

namespace Level

def all : List Level := [.net, .hub, .ap, .rt]

def name : Level → String
  | .net => "net"
  | .hub => "hub"
  | .ap => "ap"
  | .rt => "rt"

def names : List String := all.map name

def letter : Level → Char
  | .net => 'N'
  | .hub => 'H'
  | .ap => 'A'
  | .rt => 'R'

end Level

structure Address (Item : Type) where
  net : Option Item
  hub : Option Item
  ap : Option Item
  rt : Option Item
  deriving DecidableEq, Repr

namespace Address

variable {Item : Type}

def root : Address Item := ⟨none, none, none, none⟩

def level (address : Address Item) : Level → Option Item
  | .net => address.net
  | .hub => address.hub
  | .ap => address.ap
  | .rt => address.rt

def ofLevels (item : Level → Option Item) : Address Item :=
  ⟨item .net, item .hub, item .ap, item .rt⟩

theorem level_of_levels (item : Level → Option Item) (level : Level) :
    (ofLevels item).level level = item level := by
  cases level <;> rfl

theorem of_levels_level (address : Address Item) : ofLevels address.level = address := rfl

def without (address : Address Item) (dropped : Level) : Address Item :=
  ofLevels fun level => if level = dropped then none else address.level level

/-- The letters of the levels that are set, from the top down, each with what its item spells. -/
def spell (digits : Item → List Char) (address : Address Item) : List Char :=
  Level.all.flatMap fun level =>
    ((address.level level).map fun item => level.letter :: digits item).getD []

/-- The deepest level that is set; the root sets none. -/
def deepest (address : Address Item) : Option Level :=
  Level.all.reverse.find? fun level => (address.level level).isSome

def kindName (address : Address Item) : String := (address.deepest.map Level.name).getD "root"

def parent (address : Address Item) : Option (Address Item) :=
  address.deepest.map address.without

def depth (address : Address Item) : Nat :=
  (Level.all.filter fun level => (address.level level).isSome).length

theorem depth_of_parent (address parent : Address Item) (up : address.parent = some parent) :
    parent.depth + 1 = address.depth := by
  rcases address with ⟨net, hub, ap, rt⟩
  simp only [Address.parent, deepest, Level.all] at up
  cases net <;> cases hub <;> cases ap <;> cases rt <;>
    simp [level] at up <;> subst up <;> rfl

/-- The addresses above one, nearest first, down to the root. -/
def ancestors (address : Address Item) : List (Address Item) :=
  match up : address.parent with
  | none => []
  | some parent =>
      have _shallower := depth_of_parent address parent up
      parent :: parent.ancestors
termination_by address.depth

def mapItems {Other : Type} (change : Item → Other) (address : Address Item) : Address Other :=
  ofLevels fun level => (address.level level).map change

@[simp] theorem level_map_items {Other : Type} (change : Item → Other) (address : Address Item)
    (level : Level) : (address.mapItems change).level level = (address.level level).map change :=
  level_of_levels _ level

@[simp] theorem deepest_map_items {Other : Type} (change : Item → Other)
    (address : Address Item) : (address.mapItems change).deepest = address.deepest := by
  simp [deepest]

theorem without_map_items {Other : Type} (change : Item → Other) (address : Address Item)
    (dropped : Level) :
    (address.mapItems change).without dropped = (address.without dropped).mapItems change := by
  simp only [without, mapItems, level_of_levels]
  congr 1
  funext level
  split <;> rfl

theorem parent_map_items {Other : Type} (change : Item → Other) (address : Address Item) :
    (address.mapItems change).parent = address.parent.map (mapItems change) := by
  simp only [parent, deepest_map_items, Option.map_map]
  congr 1
  funext level
  exact without_map_items change address level

theorem ancestors_map_items {Other : Type} (change : Item → Other) (address : Address Item) :
    (address.mapItems change).ancestors = address.ancestors.map (mapItems change) := by
  fun_induction ancestors address with
  | case1 address top =>
      rw [ancestors]
      split
      · rfl
      · rename_i above up
        rw [parent_map_items, top] at up
        simp at up
  | case2 address parent up shallower induction =>
      rw [ancestors]
      split
      · rename_i top
        rw [parent_map_items, up] at top
        simp at top
      · rename_i above upAbove
        rw [parent_map_items, up] at upAbove
        cases upAbove
        rw [induction]
        rfl

def digits (number : Number) : List Char := List.leftpad 2 '0' number.hex

def tagChars (address : Address Number) : List Char := address.spell digits

def tag (address : Address Number) : String := String.ofList address.tagChars

def equals (left right : Address Number) : Bool := left.tag == right.tag

end Address

end AccessNetwork
