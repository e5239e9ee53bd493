import AccessNetwork.Address.Loose

/-!
Tags read back. No letter of a level is a digit, not even `A`, because digits are lower case; so in
a tag the digits of a level are what stands between its letter and the next letter or the end, and
they have one value, however many zeros come first. A tag therefore determines each level of an
address of whole numbers, whichever levels are set and however large their numbers are.
-/

namespace AccessNetwork

open AccessNetwork.Numeral

set_option autoImplicit false

namespace Numeral

/-- The digits that numbers are written with in base sixteen. None of them is upper case. -/
def isHexDigit (char : Char) : Bool := "0123456789abcdef".toList.contains char

theorem is_hex_digit_of_digit {digit : Nat} (small : digit < 16) :
    isHexDigit digit.digitChar = true := by
  revert digit
  decide

theorem digit_value_of_digit {digit : Nat} (small : digit < 16) :
    digitValue digit.digitChar = digit := by
  revert digit
  decide

theorem hex_digits_step {count : Nat} (large : 16 ≤ count) :
    hexDigits count = hexDigits (count / 16) ++ [(count % 16).digitChar] := by
  rw [hexDigits, Nat.toDigits_eq_if (by decide), if_neg (Nat.not_lt.2 large)]
  rfl

theorem hex_digits_small {count : Nat} (small : count < 16) :
    hexDigits count = [count.digitChar] :=
  Nat.toDigits_of_lt_base small

theorem is_hex_digit_of_mem (count : Nat) : ∀ char ∈ hexDigits count, isHexDigit char = true := by
  induction count using Nat.strongRecOn with
  | ind count induction =>
      intro char member
      rcases Nat.lt_or_ge count 16 with small | large
      · rw [hex_digits_small small, List.mem_singleton] at member
        exact member ▸ is_hex_digit_of_digit small
      · rw [hex_digits_step large, List.mem_append, List.mem_singleton] at member
        rcases member with earlier | last
        · exact induction (count / 16) (by omega) char earlier
        · exact last ▸ is_hex_digit_of_digit (Nat.mod_lt count (by decide))

theorem value_in_snoc (base : Nat) (digits : List Char) (last : Char) :
    valueIn base (digits ++ [last]) = valueIn base digits * base + digitValue last := by
  simp [valueIn]

theorem value_hex_digits (count : Nat) : valueIn 16 (hexDigits count) = count := by
  induction count using Nat.strongRecOn with
  | ind count induction =>
      rcases Nat.lt_or_ge count 16 with small | large
      · rw [hex_digits_small small, ← List.nil_append [count.digitChar], value_in_snoc,
          digit_value_of_digit small]
        exact Nat.zero_add count
      · rw [hex_digits_step large, value_in_snoc, induction (count / 16) (by omega),
          digit_value_of_digit (Nat.mod_lt count (by decide))]
        omega

theorem value_leftpad (base width : Nat) (digits : List Char) :
    valueIn base (List.leftpad width '0' digits) = valueIn base digits := by
  have none : ∀ zeros, valueIn base (List.replicate zeros '0') = 0 := by
    intro zeros
    induction zeros with
    | zero => rfl
    | succ zeros induction =>
        rw [List.replicate_succ', value_in_snoc, induction, Nat.zero_mul]
        decide
  have start := none (width - digits.length)
  unfold valueIn at start
  rw [List.leftpad, valueIn, List.foldl_append, start]
  rfl

end Numeral

namespace Level

theorem letter_injective {level other : Level} (same : level.letter = other.letter) :
    level = other := by
  cases level <;> cases other <;> first | rfl | exact absurd same (by decide)

theorem is_hex_digit_letter (level : Level) : isHexDigit level.letter = false := by
  cases level <;> decide

end Level

namespace Address

def HoldsNaturals (address : Address Number) : Prop :=
  ∀ level number, address.level level = some number → ∃ count : Nat, number = Number.ofInt count

/-- The number after the letter of a level, if the letter occurs. -/
def levelIn? (level : Level) (chars : List Char) : Option Number :=
  match chars.dropWhile (· != level.letter) with
  | [] => none
  | _ :: rest => some (.ofInt (valueIn 16 (rest.takeWhile isHexDigit)))

/-- The address that a tag stands for. -/
def ofTag (tag : String) : Address Number := ofLevels fun level => levelIn? level tag.toList

theorem is_hex_digit_of_mem_digits {count : Nat} {char : Char}
    (member : char ∈ digits (.ofInt count)) : isHexDigit char = true := by
  rw [digits, Number.hex_of_nat, List.leftpad, List.mem_append] at member
  rcases member with padding | digit
  · rw [List.eq_of_mem_replicate padding]
    decide
  · exact is_hex_digit_of_mem count char digit

theorem value_digits (count : Nat) : valueIn 16 (digits (.ofInt count)) = count := by
  rw [digits, Number.hex_of_nat, value_leftpad, value_hex_digits]

def field (address : Address Number) (level : Level) : List Char :=
  ((address.level level).map fun number => level.letter :: digits number).getD []

theorem tag_chars_eq (address : Address Number) :
    address.tagChars = Level.all.flatMap address.field := rfl

/-- Behind the digits of a level comes a letter, or nothing. -/
theorem take_digits_of_fields (address : Address Number) (levels : List Level) :
    (levels.flatMap address.field).takeWhile isHexDigit = [] := by
  induction levels with
  | nil => rfl
  | cons first rest induction =>
      rw [List.flatMap_cons, field]
      cases address.level first with
      | none => exact induction
      | some number => simp [Level.is_hex_digit_letter]

theorem letter_not_mem_field {address : Address Number} (natural : address.HoldsNaturals)
    {level other : Level} (apart : other ≠ level) : level.letter ∉ address.field other := by
  intro member
  rw [field] at member
  cases found : address.level other with
  | none => simp [found] at member
  | some number =>
      obtain ⟨count, rfl⟩ := natural other number found
      rw [found, Option.map_some, Option.getD_some, List.mem_cons] at member
      rcases member with letter | digit
      · exact apart (Level.letter_injective letter).symm
      · have lower := is_hex_digit_of_mem_digits digit
        rw [Level.is_hex_digit_letter] at lower
        contradiction

theorem level_in_fields {address : Address Number} (natural : address.HoldsNaturals)
    (level : Level) (levels : List Level) (distinct : levels.Nodup) :
    levelIn? level (levels.flatMap address.field) =
      if level ∈ levels then address.level level else none := by
  induction levels with
  | nil => rfl
  | cons first rest induction =>
      obtain ⟨fresh, others⟩ := List.nodup_cons.1 distinct
      have later := induction others
      by_cases here : first = level
      · subst here
        rw [if_neg fresh] at later
        rw [List.flatMap_cons, if_pos List.mem_cons_self]
        cases found : address.level first with
        | none =>
            rw [field, found]
            exact later
        | some number =>
            obtain ⟨count, rfl⟩ := natural first number found
            have read : ((digits (.ofInt count)) ++ rest.flatMap address.field).takeWhile
                isHexDigit = digits (.ofInt count) := by
              rw [List.takeWhile_append_of_pos fun char => is_hex_digit_of_mem_digits,
                take_digits_of_fields, List.append_nil]
            simp [levelIn?, field, found, read, value_digits]
      · have passed : ∀ char ∈ address.field first, (char != level.letter) = true := by
          intro char member
          rw [bne_iff_ne]
          intro same
          exact letter_not_mem_field natural here (same ▸ member)
        have elsewhere : level ∈ first :: rest ↔ level ∈ rest := by
          simp [Ne.symm here]
        rw [List.flatMap_cons, levelIn?, List.dropWhile_append_of_pos passed]
        simp only [elsewhere]
        exact later

theorem of_tag_tag {address : Address Number} (natural : address.HoldsNaturals) :
    ofTag address.tag = address := by
  have read : ∀ level, levelIn? level address.tag.toList = address.level level := by
    intro level
    rw [tag, String.toList_ofList, tag_chars_eq,
      level_in_fields natural level Level.all (by decide)]
    cases level <;> rfl
  rw [ofTag, funext read]
  exact address.of_levels_level

theorem eq_of_levels {Item : Type} {left right : Address Item}
    (same : ∀ level, left.level level = right.level level) : left = right := by
  rw [← left.of_levels_level, ← right.of_levels_level, funext same]

/-- One reading of tags recovers every address of whole numbers, so two of them have equal tags
exactly if each level is set in both to the same number or in neither. What an unchecked value
holds beside such levels makes no difference. -/
theorem tag_identifies_address {left right : Address Number} (leftNatural : left.HoldsNaturals)
    (rightNatural : right.HoldsNaturals) :
    ofTag left.tag = left ∧
      (left.equals right = true ↔ ∀ level, left.level level = right.level level) ∧
      ∀ leftOthers rightOthers,
        LooseAddress.equals ⟨left.mapItems .number, leftOthers⟩
          ⟨right.mapItems .number, rightOthers⟩ = left.equals right := by
  refine ⟨of_tag_tag leftNatural, ?_, ?_⟩
  · rw [equals, beq_iff_eq]
    constructor
    · intro same level
      have read := congrArg ofTag same
      rw [of_tag_tag leftNatural, of_tag_tag rightNatural] at read
      rw [read]
    · intro same
      rw [eq_of_levels same]
  · intro leftOthers rightOthers
    rw [equals, ← LooseAddress.tag_of_address left, ← LooseAddress.tag_of_address right]
    rfl

/-- The letter of a level and a digit next to each other: a net with an `A` behind it, and a larger
net. Both have levels left out. -/
theorem tag_identifies_neighbouring_fields :
    let split : Address Number := ⟨some (.ofInt 1), none, some (.ofInt 10), none⟩
    let joined : Address Number := ⟨some (.ofInt 0x1a0a), none, none, none⟩
    split.HoldsNaturals ∧ joined.HoldsNaturals ∧ ofTag split.tag = split ∧
      split.equals joined = false := by
  intro split joined
  have splitNatural : split.HoldsNaturals := by
    intro level number found
    cases level <;> cases found
    · exact ⟨1, rfl⟩
    · exact ⟨10, rfl⟩
  have joinedNatural : joined.HoldsNaturals := by
    intro level number found
    cases level <;> cases found
    exact ⟨0x1a0a, rfl⟩
  have identified := tag_identifies_address splitNatural joinedNatural
  refine ⟨splitNatural, joinedNatural, identified.1, ?_⟩
  rw [← Bool.not_eq_true, identified.2.1]
  intro same
  exact absurd (same .ap) (by decide)

end Address

end AccessNetwork
