import AccessNetwork.Address.Parse
import AccessNetwork.Proofs.Messages

/-!
The grammar of addresses, said of unchecked values without a word on how they are read: a record
with no entry but the levels, each of them absent or a whole number of at least zero, and none set
below one that is not. Reading accepts exactly these values, and an error says of every other value
all that is wrong with it, field by field, or the deepest gap if nothing else is wrong.
-/

namespace AccessNetwork

open AccessNetwork.Schema

set_option autoImplicit false

namespace Value

/-- Lists, dates and the like are no records, and neither is what can be waited on. -/
def IsRecord (value : Value) : Prop :=
  ∃ entries, value = .record entries ∧
    ¬(lookup "then" entries = .function ∧ lookup "catch" entries = .function)

theorem is_function_iff (value : Value) : value.isFunction = true ↔ value = .function := by
  cases value <;> simp [isFunction]

theorem kind_eq_record_iff (value : Value) : value.kind = .record ↔ value.IsRecord := by
  cases value with
  | record entries =>
      simp only [kind, IsRecord, ← is_function_iff, record.injEq, exists_eq_left', Bool.and_eq_true]
      split <;> simp_all
  | number number => cases number <;> simp [kind, IsRecord]
  | _ => simp [kind, IsRecord]

/-- A value has an entry under a key, even if the entry holds the absent value. -/
def HasKey (value : Value) (key : String) : Prop :=
  ∃ entries item, value = .record entries ∧ (key, item) ∈ entries

theorem key_of_index {key : String} {position : Nat} (indexed : indexOfKey? key = some position) :
    String.ofList (Nat.toDigits 10 position) = key := by
  simp only [indexOfKey?, Option.ite_none_right_eq_some, Option.some_inj] at indexed
  obtain ⟨⟨spelled, _⟩, same⟩ := indexed
  rw [← same, spelled, String.ofList_toList]

theorem mem_enumerate_iff (keys : List String) (key : String) :
    key ∈ enumerate keys ↔ key ∈ keys := by
  simp only [enumerate, List.mem_append, List.mem_map, List.mem_mergeSort, List.mem_filterMap,
    List.mem_filter, List.mem_eraseDups]
  constructor
  · intro listed
    rcases listed with ⟨position, ⟨other, member, indexed⟩, spelled⟩ | ⟨member, _⟩
    · rw [← spelled, key_of_index indexed]
      exact member
    · exact member
  · intro member
    cases indexed : indexOfKey? key with
    | none => exact .inr ⟨member, by simp⟩
    | some position => exact .inl ⟨position, ⟨key, member, indexed⟩, key_of_index indexed⟩

theorem mem_keys_iff (value : Value) (key : String) : key ∈ value.keys ↔ value.HasKey key := by
  cases value with
  | record entries => simp [keys, HasKey, mem_enumerate_iff]
  | _ => simp [keys, HasKey]

end Value

def Level.rank : Level → Nat
  | .net => 0
  | .hub => 1
  | .ap => 2
  | .rt => 3

theorem Level.mem_all (level : Level) : level ∈ Level.all := by
  cases level <;> decide

namespace Address

/-- What a level may hold: nothing, or a whole number of at least zero. -/
def Fits (item : Value) : Prop :=
  item = .absent ∨ ∃ count : Nat, item = .number (.ofInt count)

theorem fits_number_iff (number : Number) :
    Fits (.number number) ↔ ∃ whole, number.integer? = some whole ∧ 0 ≤ whole := by
  simp only [Fits, reduceCtorEq, false_or, Value.number.injEq, Number.integer_eq_some_iff]
  constructor
  · rintro ⟨count, rfl⟩
    exact ⟨count, rfl, Int.natCast_nonneg count⟩
  · rintro ⟨whole, rfl, natural⟩
    exact ⟨whole.toNat, by rw [Int.toNat_of_nonneg natural]⟩

/-- A record of levels, whatever gaps they leave. -/
structure WellFormed (value : Value) : Prop where
  record : value.IsRecord
  known : ∀ key, value.HasKey key → key ∈ Level.names
  fits : ∀ level : Level, Fits (value.entry level.name)

def IsSet (value : Value) (level : Level) : Prop := value.entry level.name ≠ .absent

def Gapless (value : Value) : Prop :=
  ∃ count, ∀ level : Level, IsSet value level ↔ level.rank < count

structure GapAt (value : Value) (level above : Level) : Prop where
  next : above.rank + 1 = level.rank
  set : IsSet value level
  missing : ¬IsSet value above

/-- What is wrong with the item of a level, in words: it is no number, or it is not whole, or below
zero, or both of the last. -/
def levelMessages : Value → List String
  | .absent => []
  | .number .notANumber => ["Expected number, received nan"]
  | .number number =>
      (if number.integer?.isNone then ["Expected integer, received float"] else []) ++
        (if number.isNegative then ["Number must be greater than or equal to 0"] else [])
  | item => ["Expected number, received " ++ item.kind.name]

theorem level_messages_eq (item : Value) :
    (levelDefects item).map Defect.message = levelMessages item := by
  cases item with
  | number number =>
      cases number with
      | notANumber => rfl
      | infinity negative => cases negative <;> rfl
      | finite value =>
          simp only [levelDefects, levelMessages, List.map_append]
          split <;> split <;> rfl
  | record entries =>
      simp only [levelDefects, levelMessages, Value.kind]
      split <;> rfl
  | _ => rfl

theorem level_defects_of_int (whole : Int) :
    levelDefects (.number (.ofInt whole)) = if whole < 0 then [.negative] else [] := by
  have noFraction : (Number.finite whole).integer? = some whole := Number.integer_of_int whole
  have sign : (Number.finite whole).isNegative = decide (whole < 0) :=
    Number.is_negative_of_int whole
  rw [Number.ofInt, levelDefects, noFraction, sign]
  · simp
  · simp

theorem level_defects_eq_nil_iff (item : Value) : levelDefects item = [] ↔ Fits item := by
  cases item with
  | absent => simp [levelDefects, Fits]
  | number number =>
      rw [fits_number_iff]
      cases found : number.integer? with
      | none => cases number <;> simp [levelDefects, found]
      | some whole =>
          rw [(Number.integer_eq_some_iff number whole).1 found, level_defects_of_int]
          simp
  | _ => simp [levelDefects, Fits]

instance : DecidablePred Fits := fun item =>
  decidable_of_iff (levelDefects item = []) (level_defects_eq_nil_iff item)

theorem unknown_keys_eq_nil_iff (value : Value) :
    unknownKeys value = [] ↔ ∀ key, value.HasKey key → key ∈ Level.names := by
  rw [unknownKeys, List.filter_eq_nil_iff]
  simp [Value.mem_keys_iff]

def unknownDefects (value : Value) : List Defect :=
  if (unknownKeys value).isEmpty then [] else [.unknownKeys (unknownKeys value)]

theorem issues_of_record {value : Value} (record : value.IsRecord) :
    issues value =
      (Level.all.flatMap fun level =>
        fieldIssues level.name (levelDefects (value.entry level.name))) ++
        wholeIssues (unknownDefects value) := by
  rw [issues, if_pos ((Value.kind_eq_record_iff value).2 record), recordIssues, unknownDefects]
  congr 1
  split <;> rfl

theorem issues_of_not_record {value : Value} (other : ¬value.IsRecord) :
    issues value = wholeIssues [.wrongKind .record value.kind] := by
  rw [issues, if_neg fun same => other ((Value.kind_eq_record_iff value).1 same)]
  rfl

theorem issues_eq_nil_iff (value : Value) : issues value = [] ↔ WellFormed value := by
  by_cases record : value.IsRecord
  · have sound : (∀ level ∈ Level.all,
        fieldIssues level.name (levelDefects (value.entry level.name)) = []) ↔
        ∀ level : Level, Fits (value.entry level.name) := by
      simp only [fieldIssues, List.map_eq_nil_iff, level_defects_eq_nil_iff]
      exact ⟨fun every level => every level level.mem_all, fun every level _ => every level⟩
    have known : wholeIssues (unknownDefects value) = [] ↔
        ∀ key, value.HasKey key → key ∈ Level.names := by
      rw [← unknown_keys_eq_nil_iff, wholeIssues, List.map_eq_nil_iff, unknownDefects]
      simp
    rw [issues_of_record record, List.append_eq_nil_iff, List.flatMap_eq_nil_iff, sound, known]
    exact ⟨fun both => ⟨record, both.2, both.1⟩, fun well => ⟨well.fits, well.known⟩⟩
  · rw [issues_of_not_record record]
    exact ⟨fun none => by simp [wholeIssues] at none, fun well => (record well.record).elim⟩

theorem record_message_of_kind {kind : ValueKind} (given : kind ≠ .absent) :
    (Defect.wrongKind .record kind).message = "Expected object, received " ++ kind.name := by
  cases kind with
  | absent => contradiction
  | _ => rfl

theorem kind_eq_absent_iff (value : Value) : value.kind = .absent ↔ value.isAbsent = true := by
  cases value with
  | record entries =>
      simp only [Value.kind, Value.isAbsent]
      split <;> simp
  | number number => cases number <;> simp [Value.kind, Value.isAbsent]
  | _ => simp [Value.kind, Value.isAbsent]

theorem fields_of_not_record {value : Value} (other : ¬value.IsRecord) :
    (AddressError.malformed (issues value)).fields =
      [("_", [if value.isAbsent then "Required"
        else "Expected object, received " ++ value.kind.name])] := by
  rw [AddressError.fields, issues_of_not_record other]
  change [("_", [(Defect.wrongKind .record value.kind).message])] = _
  by_cases absent : value.kind = .absent
  · rw [if_pos ((kind_eq_absent_iff value).1 absent), absent]
    rfl
  · rw [if_neg fun same => absent ((kind_eq_absent_iff value).2 same),
      record_message_of_kind absent]

theorem fields_of_record {value : Value} (record : value.IsRecord) :
    (AddressError.malformed (issues value)).fields =
      ((Level.all.filter fun level => ¬Fits (value.entry level.name)).map fun level =>
        (level.name, levelMessages (value.entry level.name))) ++
      (if unknownKeys value = [] then []
        else [("_", ["Unrecognized key(s) in object: " ++
          String.intercalate ", " ((unknownKeys value).map quote)])]) := by
  have naming : ∀ issue ∈ Level.all.flatMap fun level =>
      fieldIssues level.name (levelDefects (value.entry level.name)),
      issue.field.isSome = true := by
    intro issue member
    obtain ⟨level, _, among⟩ := List.mem_flatMap.1 member
    obtain ⟨defect, _, rfl⟩ := List.mem_map.1 among
    rfl
  have sound : ∀ level : Level, (!(levelDefects (value.entry level.name)).isEmpty) =
      decide (¬Fits (value.entry level.name)) := by
    intro level
    rw [Bool.eq_iff_iff, Bool.not_eq_true', decide_eq_true_iff, List.isEmpty_eq_false_iff, Ne,
      level_defects_eq_nil_iff]
  rw [AddressError.fields, issues_of_record record, field_messages_append_whole,
    whole_messages_append_whole _ naming, field_messages_of_fields Level.name _ _ (by decide)]
  simp only [sound, level_messages_eq]
  congr 1
  by_cases unknown : unknownKeys value = []
  · rw [unknownDefects, unknown]
    rfl
  · have defects : unknownDefects value = [.unknownKeys (unknownKeys value)] :=
      if_neg (by rwa [List.isEmpty_iff])
    rw [defects, if_neg unknown]
    rfl

theorem mem_requirements_iff (level above : Level) :
    (level, above) ∈ requirements ↔ above.rank + 1 = level.rank := by
  cases level <;> cases above <;> decide

/-- Below a gap no level is missing, so without one the levels that are set start at the top. -/
theorem gapless_iff (value : Value) : Gapless value ↔ ∀ level above, ¬GapAt value level above := by
  constructor
  · intro gapless level above gap
    obtain ⟨count, counted⟩ := gapless
    apply gap.missing
    rw [counted]
    have deep := (counted level).1 gap.set
    have next := gap.next
    omega
  · intro none
    have upward : ∀ level above, above.rank + 1 = level.rank →
        IsSet value level → IsSet value above := by
      intro level above next set
      exact Classical.byContradiction fun missing => none level above ⟨next, set, missing⟩
    have hub := upward .hub .net rfl
    have ap := upward .ap .hub rfl
    have rt := upward .rt .ap rfl
    by_cases isNet : IsSet value .net
    · by_cases isHub : IsSet value .hub
      · by_cases isAp : IsSet value .ap
        · by_cases isRt : IsSet value .rt
          · exact ⟨4, fun level => by cases level <;> simp [Level.rank, *]⟩
          · exact ⟨3, fun level => by cases level <;> simp [Level.rank, *]⟩
        · exact ⟨2, fun level => by cases level <;> simp_all [Level.rank]⟩
      · exact ⟨1, fun level => by cases level <;> simp_all [Level.rank]⟩
    · exact ⟨0, fun level => by cases level <;> simp_all [Level.rank]⟩

theorem entry_of_fits {item : Value} (fits : Fits item) :
    ((levelNumber item).map .number).getD .absent = item := by
  rcases fits with rfl | ⟨count, rfl⟩ <;> rfl

theorem is_set_iff {value : Value} (well : WellFormed value) (level : Level) :
    IsSet value level ↔ ((ofRecord value).level level).isSome = true := by
  have spelled := entry_of_fits (well.fits level)
  rw [IsSet, ofRecord, level_of_levels, ← spelled]
  cases levelNumber (value.entry level.name) <;> simp [levelNumber]

theorem gap_at_iff {value : Value} (well : WellFormed value) (level above : Level) :
    GapAt value level above ↔ (level, above) ∈ requirements ∧
      (((ofRecord value).level level).isSome && ((ofRecord value).level above).isNone) = true := by
  rw [mem_requirements_iff, Bool.and_eq_true, ← is_set_iff well, ← Option.not_isSome,
    Bool.not_eq_true', ← Bool.not_eq_true, ← is_set_iff well]
  exact ⟨fun gap => ⟨gap.next, gap.set, gap.missing⟩, fun gap => ⟨gap.1, gap.2.1, gap.2.2⟩⟩

theorem gap_eq_none_iff {value : Value} (well : WellFormed value) :
    (ofRecord value).gap? = none ↔ Gapless value := by
  rw [gapless_iff, gap?, List.find?_eq_none]
  constructor
  · intro none level above gap
    obtain ⟨member, gaping⟩ := (gap_at_iff well level above).1 gap
    exact none (level, above) member gaping
  · intro none pair member gaping
    exact none pair.1 pair.2 ((gap_at_iff well pair.1 pair.2).2 ⟨member, gaping⟩)

/-- The gap that is reported is the deepest one. -/
theorem gap_eq_some {value : Value} (well : WellFormed value) {level above : Level}
    (found : (ofRecord value).gap? = some (level, above)) :
    GapAt value level above ∧
      ∀ lower upper, GapAt value lower upper → lower.rank ≤ level.rank := by
  have descending : requirements.Pairwise fun first second =>
      second.1.rank < first.1.rank := by decide
  obtain ⟨first, before, after, split, closed⟩ := List.find?_eq_some_iff_append.1 found
  refine ⟨(gap_at_iff well level above).2 ⟨List.mem_of_find?_eq_some found, first⟩, ?_⟩
  intro lower upper gap
  obtain ⟨member, gaping⟩ := (gap_at_iff well lower upper).1 gap
  rw [split] at member descending
  rcases List.mem_append.1 member with earlier | later
  · have shut := closed (lower, upper) earlier
    rw [gaping] at shut
    contradiction
  · rcases List.mem_cons.1 later with same | deeper
    · exact Nat.le_of_eq (congrArg Level.rank (Prod.mk.inj same).1)
    · exact Nat.le_of_lt
        (List.rel_of_pairwise_cons (List.pairwise_append.1 descending).2.1 deeper)

theorem parse_of_ill_formed {value : Value} (ill : ¬WellFormed value) :
    parse value = .error (.malformed (issues value)) := by
  have faulty : ¬(issues value).isEmpty = true := by
    rw [List.isEmpty_iff]
    exact fun clean => ill ((issues_eq_nil_iff value).1 clean)
  rw [parse, validate, if_neg faulty]

theorem validate_of_well_formed {value : Value} (well : WellFormed value) :
    validate value = .ok (ofRecord value) := by
  have clean : (issues value).isEmpty = true := by
    rw [List.isEmpty_iff]
    exact (issues_eq_nil_iff value).2 well
  rw [validate, if_pos clean]

theorem parse_of_gapless {value : Value} (well : WellFormed value) (gapless : Gapless value) :
    parse value = .ok (ofRecord value) := by
  simp only [parse, validate_of_well_formed well, (gap_eq_none_iff well).2 gapless]

theorem parse_of_gap {value : Value} (well : WellFormed value) (gaping : ¬Gapless value) :
    ∃ level above, GapAt value level above ∧
      (∀ lower upper, GapAt value lower upper → lower.rank ≤ level.rank) ∧
      parse value = .error (.gap level above) := by
  cases found : (ofRecord value).gap? with
  | none => exact (gaping ((gap_eq_none_iff well).1 found)).elim
  | some gap =>
      obtain ⟨level, above⟩ := gap
      obtain ⟨gap, deepest⟩ := gap_eq_some well found
      refine ⟨level, above, gap, deepest, ?_⟩
      simp only [parse, validate_of_well_formed well, found]

theorem parse_eq_ok_iff (value : Value) (address : Address Number) :
    parse value = .ok address ↔
      (WellFormed value ∧ Gapless value) ∧ ofRecord value = address := by
  by_cases well : WellFormed value
  · by_cases gapless : Gapless value
    · simp [parse_of_gapless well gapless, well, gapless]
    · obtain ⟨level, above, _, _, refused⟩ := parse_of_gap well gapless
      simp [refused, gapless]
  · simp [parse_of_ill_formed well, well]

/-- A record that sets the levels of an address and has no other entries, in whatever order. -/
structure Shown (address : Address Number) (value : Value) : Prop where
  record : value.IsRecord
  known : ∀ key, value.HasKey key → key ∈ Level.names
  levels : ∀ level : Level,
    value.entry level.name = ((address.level level).map .number).getD .absent

theorem shown_of_record {value : Value} (well : WellFormed value) :
    (ofRecord value).Shown value where
  record := well.record
  known := well.known
  levels level := by
    rw [ofRecord, level_of_levels]
    exact (entry_of_fits (well.fits level)).symm

theorem of_record_of_shown {address : Address Number} {value : Value}
    (shown : address.Shown value) : ofRecord value = address := by
  rw [← of_levels_level address, ofRecord]
  congr 1
  funext level
  rw [shown.levels]
  cases address.level level <;> rfl

theorem parse_of_shown {address : Address Number} {value again : Value}
    (accepted : parse value = .ok address) (shown : address.Shown again) :
    parse again = .ok address := by
  obtain ⟨⟨well, count, counted⟩, same⟩ := (parse_eq_ok_iff value address).1 accepted
  have entries : ∀ level : Level, again.entry level.name = value.entry level.name := by
    intro level
    have shows : address.Shown value := same ▸ shown_of_record well
    rw [shown.levels, shows.levels]
  rw [parse_eq_ok_iff]
  refine ⟨⟨⟨shown.record, shown.known, fun level => ?_⟩, count, fun level => ?_⟩,
    of_record_of_shown shown⟩
  · rw [entries]
    exact well.fits level
  · rw [IsSet, entries]
    exact counted level

/-- Accepted are the records of levels without a gap, and an address comes back from every record
that shows it. An error is about the value alone if that is no record, else about every level that
is ill-formed and about unknown entries, else about the deepest gap. -/
theorem parse_accepts_grammar (value : Value) :
    ((∃ address, parse value = .ok address) ↔ WellFormed value ∧ Gapless value) ∧
    (∀ address, parse value = .ok address →
      address.Shown value ∧ ∀ again, address.Shown again → parse again = .ok address) ∧
    (∀ error, parse value = .error error →
      (¬value.IsRecord →
        error.message = "Invalid address" ∧
        error.fields = [("_", [if value.isAbsent then "Required"
          else "Expected object, received " ++ value.kind.name])]) ∧
      (value.IsRecord → ¬WellFormed value →
        error.message = "Invalid address" ∧
        error.fields =
          ((Level.all.filter fun level => ¬Fits (value.entry level.name)).map fun level =>
            (level.name, levelMessages (value.entry level.name))) ++
          (if unknownKeys value = [] then []
            else [("_", ["Unrecognized key(s) in object: " ++
              String.intercalate ", " ((unknownKeys value).map quote)])])) ∧
      (WellFormed value → ∃ level above, GapAt value level above ∧
        (∀ lower upper, GapAt value lower upper → lower.rank ≤ level.rank) ∧
        error.message =
          "If " ++ quote level.name ++ " is set, " ++ quote above.name ++ " must also be set" ∧
        error.fields = [(level.name, ["requires " ++ above.name])])) := by
  refine ⟨?_, ?_, ?_⟩
  · simp only [parse_eq_ok_iff, exists_and_left, exists_eq', and_true]
  · intro address accepted
    obtain ⟨⟨well, _⟩, same⟩ := (parse_eq_ok_iff value address).1 accepted
    exact ⟨same ▸ shown_of_record well, fun again => parse_of_shown accepted⟩
  · intro error refused
    have malformed : ¬WellFormed value → error = .malformed (issues value) := by
      intro ill
      rw [parse_of_ill_formed ill] at refused
      exact (Except.error.inj refused).symm
    refine ⟨?_, ?_, ?_⟩
    · intro other
      rw [malformed fun well => other well.record]
      exact ⟨rfl, fields_of_not_record other⟩
    · intro record ill
      rw [malformed ill]
      exact ⟨rfl, fields_of_record record⟩
    · intro well
      have gaping : ¬Gapless value := by
        intro gapless
        rw [parse_of_gapless well gapless] at refused
        contradiction
      obtain ⟨level, above, gap, deepest, parsed⟩ := parse_of_gap well gaping
      obtain rfl := Except.error.inj (parsed.symm.trans refused)
      exact ⟨level, above, gap, deepest, rfl, rfl⟩

end Address

end AccessNetwork
