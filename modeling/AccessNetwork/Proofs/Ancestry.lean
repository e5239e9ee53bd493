import AccessNetwork.Proofs.Grammar
import AccessNetwork.Proofs.Tags

/-!
The way up from an address. Each step leaves out the deepest level that is set and takes the end off
the tag, so the root is reached after as many steps as levels are set. From an address that can be
read the way leads through addresses that can be read, level by level.
-/

namespace AccessNetwork

open AccessNetwork.Numeral

set_option autoImplicit false

namespace Level

theorem rank_injective {level other : Level} (same : level.rank = other.rank) : level = other := by
  cases level <;> cases other <;> first | rfl | contradiction

theorem exists_of_rank : ∀ {count : Nat}, count < all.length → ∃ level : Level, level.rank = count
  | 0, _ => ⟨.net, rfl⟩
  | 1, _ => ⟨.hub, rfl⟩
  | 2, _ => ⟨.ap, rfl⟩
  | 3, _ => ⟨.rt, rfl⟩

theorem take_rank_succ (level : Level) :
    all.take (level.rank + 1) = all.take level.rank ++ [level] := by
  cases level <;> rfl

end Level

namespace Address

section Steps

variable {Item : Type}

/-- The address so many steps up, if there are so many. -/
def climb (address : Address Item) : Nat → Option (Address Item)
  | 0 => some address
  | steps + 1 => (address.climb steps).bind parent

theorem climb_of_parent {address above : Address Item} (up : address.parent = some above)
    (steps : Nat) : address.climb (steps + 1) = above.climb steps := by
  induction steps with
  | zero => exact up
  | succ steps induction => rw [climb, induction, climb]

theorem climb_of_no_parent {address : Address Item} (top : address.parent = none) (steps : Nat) :
    address.climb (steps + 1) = none := by
  induction steps with
  | zero => exact top
  | succ steps induction =>
      rw [climb, induction]
      rfl

theorem ancestors_of_parent {address above : Address Item} (up : address.parent = some above) :
    address.ancestors = above :: above.ancestors := by
  rw [ancestors]
  split
  · rename_i top
    rw [up] at top
    contradiction
  · rename_i found same
    rw [up] at same
    rw [Option.some.inj same]

theorem ancestors_of_no_parent {address : Address Item} (top : address.parent = none) :
    address.ancestors = [] := by
  rw [ancestors]
  split
  · rfl
  · rename_i found same
    rw [top] at same
    contradiction

theorem climb_eq_ancestor (address : Address Item) (steps : Nat) :
    address.climb steps = (address :: address.ancestors)[steps]? := by
  cases steps with
  | zero => rfl
  | succ steps =>
      rw [List.getElem?_cons_succ]
      cases up : address.parent with
      | none =>
          rw [climb_of_no_parent up, ancestors_of_no_parent up]
          rfl
      | some above =>
          have shallower := depth_of_parent address above up
          rw [climb_of_parent up, ancestors_of_parent up]
          exact climb_eq_ancestor above steps
termination_by address.depth

theorem level_without (address : Address Item) (dropped level : Level) :
    (address.without dropped).level level =
      if level = dropped then none else address.level level :=
  level_of_levels _ level

theorem eq_root_of_unset {address : Address Item}
    (unset : ∀ level, address.level level = none) : address = root := by
  apply eq_of_levels
  intro level
  rw [unset]
  cases level <;> rfl

theorem deepest_eq_none_iff (address : Address Item) : address.deepest = none ↔ address = root := by
  constructor
  · intro none
    rw [deepest, List.find?_eq_none] at none
    apply eq_root_of_unset
    intro level
    have missing := none level (List.mem_reverse.2 level.mem_all)
    rwa [Option.not_isSome_iff_eq_none] at missing
  · rintro rfl
    rfl

theorem deepest_splits {address : Address Item} {level : Level}
    (deepest : address.deepest = some level) :
    ∃ upper lower, Level.all = upper ++ level :: lower ∧
      (∃ item, address.level level = some item) ∧ ∀ below ∈ lower, address.level below = none := by
  obtain ⟨set, lower, upper, split, unset⟩ := List.find?_eq_some_iff_append.1 deepest
  refine ⟨upper.reverse, lower.reverse, ?_, Option.isSome_iff_exists.1 set, ?_⟩
  · have turned := congrArg List.reverse split
    simpa using turned
  · intro below member
    have missing := unset below (List.mem_reverse.1 member)
    simpa using missing

theorem parent_eq_some_iff (address above : Address Item) :
    address.parent = some above ↔
      ∃ level, address.deepest = some level ∧ address.without level = above := by
  rw [parent, Option.map_eq_some_iff]

theorem parent_eq_none_iff (address : Address Item) : address.parent = none ↔ address = root := by
  rw [parent, Option.map_eq_none_iff, deepest_eq_none_iff]

theorem depth_of_climb {address here : Address Item} {steps : Nat}
    (climbed : address.climb steps = some here) : here.depth + steps = address.depth := by
  induction steps generalizing here with
  | zero =>
      rw [← Option.some.inj climbed]
      rfl
  | succ steps induction =>
      obtain ⟨before, reached, up⟩ := Option.bind_eq_some_iff.1 climbed
      have below := induction reached
      have shallower := depth_of_parent before here up
      omega

theorem climb_depth (address : Address Item) : address.climb address.depth = some root := by
  cases up : address.parent with
  | none =>
      rw [(parent_eq_none_iff address).1 up]
      rfl
  | some above =>
      have shallower := depth_of_parent address above up
      rw [← shallower, climb_of_parent up]
      exact climb_depth above
termination_by address.depth

/-- The root is reached after as many steps as levels are set, and no sooner. -/
theorem climb_eq_root_iff (address : Address Item) (steps : Nat) :
    address.climb steps = some root ↔ steps = address.depth := by
  constructor
  · intro climbed
    have whole := depth_of_climb climbed
    have none : (root : Address Item).depth = 0 := rfl
    omega
  · rintro rfl
    exact address.climb_depth

/-- The levels that are set are the first so many from the top. -/
def SetsFirst (address : Address Item) (count : Nat) : Prop :=
  ∀ level, (address.level level).isSome = true ↔ level.rank < count

theorem eq_root_of_sets_first_zero {address : Address Item} (first : address.SetsFirst 0) :
    address = root := by
  apply eq_root_of_unset
  intro level
  rw [← Option.not_isSome_iff_eq_none, first]
  exact Nat.not_lt_zero level.rank

theorem deepest_of_sets_first {address : Address Item} {level : Level}
    (first : address.SetsFirst (level.rank + 1)) : address.deepest = some level := by
  have set := (first level).2 (Nat.lt_succ_self level.rank)
  cases found : address.deepest with
  | none =>
      rw [(deepest_eq_none_iff address).1 found] at set
      cases level <;> contradiction
  | some deepest =>
      obtain ⟨upper, lower, split, ⟨item, held⟩, unset⟩ := deepest_splits found
      have reached := (first deepest).1 (held ▸ rfl)
      -- What stands before the deepest level is of lower rank, and what stands after it is unset.
      have descending : (upper ++ deepest :: lower).Pairwise fun above below =>
          above.rank < below.rank := by
        rw [← split]
        decide
      have member := level.mem_all
      rw [split, List.mem_append, List.mem_cons] at member
      rcases member with above | same | below
      · have higher := (List.pairwise_append.1 descending).2.2 level above deepest
          List.mem_cons_self
        omega
      · rw [same]
      · rw [unset level below] at set
        contradiction

theorem sets_first_without {address : Address Item} {level : Level}
    (first : address.SetsFirst (level.rank + 1)) :
    (address.without level).SetsFirst level.rank := by
  intro other
  rw [level_without]
  by_cases same : other = level
  · simp [same]
  · have apart : other.rank ≠ level.rank := fun equal => same (Level.rank_injective equal)
    rw [if_neg same, first]
    omega

theorem parent_of_sets_first {address : Address Item} {count : Nat}
    (first : address.SetsFirst (count + 1)) (within : count < Level.all.length) :
    ∃ level : Level, level.rank = count ∧ address.deepest = some level ∧
      address.parent = some (address.without level) ∧ (address.without level).SetsFirst count := by
  obtain ⟨level, rfl⟩ := Level.exists_of_rank within
  have deepest := deepest_of_sets_first first
  have up := (parent_eq_some_iff address (address.without level)).2 ⟨level, deepest, rfl⟩
  exact ⟨level, rfl, deepest, up, sets_first_without first⟩

theorem depth_le (address : Address Item) : address.depth ≤ Level.all.length :=
  List.length_filter_le _ _

theorem depth_of_sets_first {address : Address Item} {count : Nat}
    (first : address.SetsFirst count) (within : count ≤ Level.all.length) :
    address.depth = count := by
  induction count generalizing address with
  | zero =>
      rw [eq_root_of_sets_first_zero first]
      rfl
  | succ count induction =>
      obtain ⟨level, _, _, up, earlier⟩ := parent_of_sets_first first within
      rw [← depth_of_parent _ _ up, induction earlier (Nat.le_of_succ_le within)]

theorem sets_first_of_climb {address here : Address Item}
    (first : address.SetsFirst address.depth) {steps : Nat}
    (climbed : address.climb steps = some here) : here.SetsFirst here.depth := by
  induction steps generalizing here with
  | zero => exact Option.some.inj climbed ▸ first
  | succ steps induction =>
      obtain ⟨before, reached, up⟩ := Option.bind_eq_some_iff.1 climbed
      have earlier := induction reached
      have within := before.depth_le
      rw [← depth_of_parent before here up] at earlier within
      obtain ⟨level, _, _, upward, shorter⟩ := parent_of_sets_first earlier within
      obtain rfl := Option.some.inj (up.symm.trans upward)
      exact shorter

end Steps

theorem fields_of_unset {address : Address Number} {levels : List Level}
    (unset : ∀ level ∈ levels, address.level level = none) :
    levels.flatMap address.field = [] := by
  rw [List.flatMap_eq_nil_iff]
  intro level member
  rw [field, unset level member]
  rfl

theorem tag_chars_of_deepest {address : Address Number} {level : Level} {number : Number}
    (deepest : address.deepest = some level) (held : address.level level = some number) :
    address.tagChars = (address.without level).tagChars ++ level.letter :: digits number := by
  obtain ⟨upper, lower, split, _, unset⟩ := deepest_splits deepest
  have distinct : (upper ++ level :: lower).Nodup := by
    rw [← split]
    decide
  have above : upper.map (address.without level).field = upper.map address.field := by
    apply List.map_congr_left
    intro other member
    have apart : other ≠ level := (List.nodup_append.1 distinct).2.2 other member level
      List.mem_cons_self
    rw [field, level_without, if_neg apart, field]
  have shown : address.field level = level.letter :: digits number := by
    rw [field, held]
    rfl
  -- Without the level nothing is shown from its place on, for what is below it was unset before.
  have below : ∀ other ∈ level :: lower, (address.without level).level other = none := by
    intro other member
    rw [level_without]
    rcases List.mem_cons.1 member with here | deeper
    · rw [if_pos here]
    · rw [unset other deeper, ite_self]
  rw [tag_chars_eq, tag_chars_eq, split, List.flatMap_append, List.flatMap_append,
    fields_of_unset below, List.flatMap_cons, fields_of_unset unset, shown, List.flatMap_def,
    List.flatMap_def, above]
  simp

theorem holds_naturals_of_parent {here above : Address Number} (natural : here.HoldsNaturals)
    (up : here.parent = some above) : above.HoldsNaturals := by
  obtain ⟨dropped, _, rfl⟩ := (parent_eq_some_iff here above).1 up
  intro level number held
  rw [level_without] at held
  split at held
  · contradiction
  · exact natural level number held

theorem holds_naturals_of_climb {address here : Address Number} (natural : address.HoldsNaturals)
    {steps : Nat} (climbed : address.climb steps = some here) : here.HoldsNaturals := by
  induction steps generalizing here with
  | zero => exact Option.some.inj climbed ▸ natural
  | succ steps induction =>
      obtain ⟨before, reached, up⟩ := Option.bind_eq_some_iff.1 climbed
      exact holds_naturals_of_parent (induction reached) up

theorem step_up {here above : Address Number} (natural : here.HoldsNaturals)
    (up : here.parent = some above) :
    ∃ level, ∃ count : Nat, here.kindName = level.name ∧
      here.level level = some (.ofInt count) ∧
      (∀ other, above.level other = if other = level then none else here.level other) ∧
      here.tag = above.tag ++
        String.ofList (level.letter :: List.leftpad 2 '0' (Nat.toDigits 16 count)) := by
  obtain ⟨level, deepest, rfl⟩ := (parent_eq_some_iff here above).1 up
  obtain ⟨_, _, _, ⟨number, held⟩, _⟩ := deepest_splits deepest
  obtain ⟨count, rfl⟩ := natural level number held
  refine ⟨level, count, ?_, held, here.level_without level, ?_⟩
  · rw [kindName, deepest]
    rfl
  · rw [tag, tag_chars_of_deepest deepest held, String.ofList_append, digits, Number.hex_of_nat]
    rfl

theorem kinds_of_sets_first {address : Address Number} {count : Nat}
    (first : address.SetsFirst count) (within : count ≤ Level.all.length) :
    (address :: address.ancestors).map kindName =
      (Level.all.take count).reverse.map Level.name ++ ["root"] := by
  induction count generalizing address with
  | zero =>
      rw [eq_root_of_sets_first_zero first, ancestors_of_no_parent rfl]
      rfl
  | succ count induction =>
      obtain ⟨level, rfl, deepest, up, earlier⟩ := parent_of_sets_first first within
      have above := induction earlier (Nat.le_of_succ_le within)
      rw [ancestors_of_parent up, List.map_cons, above, Level.take_rank_succ, kindName, deepest]
      simp

def entries (address : Address Number) : List (String × Value) :=
  Level.all.filterMap fun level =>
    (address.level level).map fun number => (level.name, .number number)

theorem mem_entries_iff (address : Address Number) (key : String) (item : Value) :
    (key, item) ∈ address.entries ↔
      ∃ level number, address.level level = some number ∧ level.name = key ∧
        .number number = item := by
  simp only [entries, List.mem_filterMap, Option.map_eq_some_iff, Prod.mk.injEq, Level.mem_all,
    true_and]

theorem is_record_entries (address : Address Number) : (Value.record address.entries).IsRecord := by
  refine ⟨address.entries, rfl, ?_⟩
  have missing : Value.lookup "then" address.entries = .absent := by
    have none : address.entries.reverse.find? (·.1 == "then") = none := by
      rw [List.find?_eq_none]
      rintro ⟨key, item⟩ member
      obtain ⟨level, _, _, rfl, _⟩ :=
        (address.mem_entries_iff key item).1 (List.mem_reverse.1 member)
      change ¬(level.name == "then") = true
      cases level <;> decide
    rw [Value.lookup, none]
    rfl
  rw [missing]
  rintro ⟨callable, _⟩
  contradiction

theorem shown_entries (address : Address Number) : address.Shown (.record address.entries) where
  record := address.is_record_entries
  known := by
    rintro key ⟨_, item, same, member⟩
    obtain ⟨level, _, _, rfl, _⟩ := (address.mem_entries_iff key item).1
      (Value.record.inj same ▸ member)
    exact List.mem_map_of_mem level.mem_all
  levels level := by
    rcases address with ⟨net, hub, ap, rt⟩
    cases net <;> cases hub <;> cases ap <;> cases rt <;> cases level <;> rfl

theorem parse_of_sets_first {address : Address Number} {count : Nat}
    (natural : address.HoldsNaturals) (first : address.SetsFirst count) {value : Value}
    (shown : address.Shown value) : parse value = .ok address := by
  have held : ∀ level : Level, IsSet value level ↔ (address.level level).isSome = true := by
    intro level
    rw [IsSet, shown.levels]
    cases address.level level <;> simp
  rw [parse_eq_ok_iff]
  refine ⟨⟨⟨shown.record, shown.known, ?_⟩, count, ?_⟩, of_record_of_shown shown⟩
  · intro level
    rw [shown.levels]
    cases found : address.level level with
    | none => exact .inl rfl
    | some number =>
        obtain ⟨natural, rfl⟩ := natural level number found
        exact .inr ⟨natural, rfl⟩
  · intro level
    rw [held, first]

theorem sets_first_of_parse {address : Address Number} {value : Value}
    (accepted : parse value = .ok address) :
    address.SetsFirst address.depth := by
  obtain ⟨⟨well, count, counted⟩, rfl⟩ := (parse_eq_ok_iff value address).1 accepted
  have first : (ofRecord value).SetsFirst (min count Level.all.length) := by
    intro level
    have inside : level.rank < Level.all.length := by
      cases level <;> decide
    rw [← is_set_iff well, counted]
    omega
  rwa [depth_of_sets_first first (Nat.min_le_right _ _)]

/-- The way up ends at the root after one step for each level that is set, and goes no further. A
step leaves out the level that the kind names, and with it the end of the tag. If an address was
read, so is each address on its way up from every record that shows it, and their kinds are the
levels one after another. What an unchecked value holds beside its levels stays on the whole way,
and neither tag nor kind takes it into account. -/
theorem way_up_leads_to_root {address : Address Number} (natural : address.HoldsNaturals) :
    (∀ steps, address.climb steps = (address :: address.ancestors)[steps]?) ∧
    (∀ steps, address.climb steps = some root ↔ steps = address.depth) ∧
    address.climb (address.depth + 1) = none ∧
    (∀ steps here above, address.climb steps = some here → here.parent = some above →
      ∃ level, ∃ count : Nat, here.kindName = level.name ∧
        here.level level = some (.ofInt count) ∧
        (∀ other, above.level other = if other = level then none else here.level other) ∧
        here.tag = above.tag ++
          String.ofList (level.letter :: List.leftpad 2 '0' (Nat.toDigits 16 count))) ∧
    (∀ value, parse value = .ok address →
      (address :: address.ancestors).map kindName =
        (Level.all.take address.depth).reverse.map Level.name ++ ["root"] ∧
      ∀ steps here, address.climb steps = some here →
        here.Shown (.record here.entries) ∧ ∀ again, here.Shown again → parse again = .ok here) ∧
    ∀ others,
      let unchecked : Address Number → LooseAddress := fun here => ⟨here.mapItems .number, others⟩
      (unchecked address).ancestors = address.ancestors.map unchecked ∧
      ∀ here, (unchecked here).tag = here.tag ∧ (unchecked here).kindName = here.kindName := by
  refine ⟨address.climb_eq_ancestor, address.climb_eq_root_iff, ?_, ?_, ?_, ?_⟩
  · rw [climb, address.climb_depth]
    rfl
  · intro steps here above climbed up
    exact step_up (holds_naturals_of_climb natural climbed) up
  · intro value accepted
    have first := sets_first_of_parse accepted
    refine ⟨kinds_of_sets_first first address.depth_le, ?_⟩
    intro steps here climbed
    refine ⟨here.shown_entries, ?_⟩
    intro again shown
    exact parse_of_sets_first (holds_naturals_of_climb natural climbed)
      (sets_first_of_climb first climbed) shown
  · intro others unchecked
    constructor
    · rw [LooseAddress.ancestors, ancestors_map_items, List.map_map]
      rfl
    · intro here
      exact ⟨LooseAddress.tag_of_address here, LooseAddress.kind_name_of_address here⟩

/-- A remote terminal that was read, under a hub with a number of three digits, and one with neither
hub nor access point above it. -/
theorem way_up_of_terminals :
    let near : Address Number :=
      ⟨some (.ofInt 1), some (.ofInt 0x2ab), some (.ofInt 10), some (.ofInt 0)⟩
    let loose : Address Number := ⟨some (.ofInt 1), none, none, some (.ofInt 255)⟩
    near.HoldsNaturals ∧ loose.HoldsNaturals ∧
      parse (.record near.entries) = .ok near ∧
      (near :: near.ancestors).map kindName = ["rt", "ap", "hub", "net", "root"] ∧
      near.climb 4 = some root ∧ near.climb 5 = none ∧
      loose.climb 2 = some root ∧ loose.climb 3 = none := by
  intro near loose
  have nearNatural : near.HoldsNaturals := by
    intro level number found
    cases level <;> cases found <;> exact ⟨_, rfl⟩
  have looseNatural : loose.HoldsNaturals := by
    intro level number found
    cases level <;> cases found <;> exact ⟨_, rfl⟩
  have gapless : near.SetsFirst near.depth := by
    intro level
    cases level <;> decide
  have accepted := parse_of_sets_first nearNatural gapless near.shown_entries
  obtain ⟨_, nearRoot, nearEnd, _, nearKinds, _⟩ := way_up_leads_to_root nearNatural
  obtain ⟨_, looseRoot, looseEnd, _, _, _⟩ := way_up_leads_to_root looseNatural
  exact ⟨nearNatural, looseNatural, accepted, (nearKinds _ accepted).1, (nearRoot 4).2 rfl, nearEnd,
    (looseRoot 2).2 rfl, looseEnd⟩

end Address

end AccessNetwork
