import AccessNetwork.Text.Flag
import Mathlib.Data.Bool.AllAny
import Mathlib.Data.List.Forall2

/-!
How a text comes to be one of the words that mean on once it is in lower case. No letter beyond
ASCII has a letter of these words in its lower case, so each letter comes from itself or from its
ASCII capital, and the form that a capital sigma takes plays no part.
-/

namespace AccessNetwork.Text

set_option autoImplicit false

def SpellsLetter (char letter : Char) : Prop := char = letter ∨ char = letter.toUpper

def Spells (chars : List Char) (word : List Char) : Prop := List.Forall₂ SpellsLetter chars word

def switchLetters : List Char := ['1', 't', 'r', 'u', 'e', 'y', 's', 'o', 'n']

theorem letters_of_switch_words :
    ∀ word ∈ switchWords, ∀ letter ∈ word.toList, letter ∈ switchLetters := by
  -- The list is gone through, and not the characters, which can be decided one by one as well.
  simp only [← List.all_iff_forall_prop]
  decide

/-- The forms that a character may take in a text in lower case. A capital sigma has two, of which
the second stands at the end of a word. -/
def lowerForms (char : Char) : List (List Char) :=
  if char = 'Σ' then [['σ'], ['ς']] else [lowerForm char]

/-- The lower case of a text, whichever form its capital sigmas take. -/
def InLowerCase (chars lowered : List Char) : Prop :=
  ∃ forms, List.Forall₂ (fun char form => form ∈ lowerForms char) chars forms ∧
    lowered = forms.flatten

def asciiRun : CaseRun := ⟨0x41, 0x5A, 1, 0x61⟩

/-- A run within ASCII, the Kelvin sign, whose lower case is k, and runs that stay beyond ASCII. -/
theorem runs_beyond_ascii :
    ∀ run ∈ caseRuns, run = asciiRun ∨ run = ⟨0x212A, 0x212A, 1, 0x6B⟩ ∨ 0x80 ≤ run.lower := by
  decide +kernel

theorem lower_forms_of_spelled {char letter : Char} (plain : letter ∈ switchLetters)
    (spelled : SpellsLetter char letter) : lowerForms char = [[letter]] := by
  have own : ∀ letter ∈ switchLetters, lowerForms letter = [[letter]] ∧
      lowerForms letter.toUpper = [[letter]] := List.all_iff_forall_prop.1 (by decide +kernel)
  rcases spelled with same | upper
  · rw [same]
    exact (own letter plain).1
  · rw [upper]
    exact (own letter plain).2

theorem not_plain_of_special :
    ∀ special ∈ ['σ', 'ς', 'i', '\u0307', 'k'], special ∉ switchLetters :=
  List.all_iff_forall_prop.1 (by decide)

theorem plain_is_ascii :
    ∀ letter ∈ switchLetters, 0 < letter.toNat ∧ letter.toNat < 0x80 :=
  List.all_iff_forall_prop.1 (by decide)

theorem to_nat_of_nat_or_zero (code : Nat) :
    (Char.ofNat code).toNat = code ∨ (Char.ofNat code).toNat = 0 := by
  by_cases valid : code.isValidChar
  · have taken : Char.ofNat code = Char.ofNatAux code valid := dif_pos valid
    rw [taken]
    exact .inl rfl
  · have refused : Char.ofNat code = Char.ofNat 0 := dif_neg valid
    rw [refused]
    exact .inr rfl

theorem spelled_of_run {char letter : Char} {run : CaseRun} (plain : letter ∈ switchLetters)
    (listed : run ∈ caseRuns) (covered : run.covers char.toNat = true)
    (lower : letter = Char.ofNat (run.lowerOf char.toNat)) : SpellsLetter char letter := by
  simp only [CaseRun.covers, Bool.and_eq_true, decide_eq_true_eq] at covered
  rcases runs_beyond_ascii run listed with ascii | kelvin | beyond
  · have upper : ∀ offset < 26,
        (Char.ofNat (0x61 + offset)).toUpper = Char.ofNat (0x41 + offset) := by decide
    rw [ascii] at covered lower
    have low : 0x41 ≤ char.toNat := covered.1.1
    have high : char.toNat ≤ 0x5A := covered.1.2
    have spelled := upper (char.toNat - 0x41) (by omega)
    rw [Nat.add_sub_cancel' low, Char.ofNat_toNat] at spelled
    rw [lower]
    exact .inr spelled.symm
  · rw [kelvin] at covered lower
    have sign : char.toNat = 0x212A := Nat.le_antisymm covered.1.2 covered.1.1
    rw [sign] at lower
    exact absurd plain (not_plain_of_special letter (by rw [lower]; decide))
  · have bounds := plain_is_ascii letter plain
    have code : run.lower ≤ run.lowerOf char.toNat := Nat.le_add_right _ _
    rcases to_nat_of_nat_or_zero (run.lowerOf char.toNat) with same | zero <;>
      rw [lower] at bounds <;> omega

theorem spelled_of_mem_lower_form {char letter : Char} {form : List Char}
    (plain : letter ∈ switchLetters) (among : form ∈ lowerForms char) (member : letter ∈ form) :
    SpellsLetter char letter := by
  have special : letter ∉ ['σ', 'ς', 'i', '\u0307', 'k'] := fun special =>
    not_plain_of_special letter special plain
  by_cases sigma : char = 'Σ'
  · rw [lowerForms, if_pos sigma] at among
    have small : letter = 'σ' ∨ letter = 'ς' := by
      rcases List.mem_cons.1 among with first | second
      · exact .inl (by simpa [first] using member)
      · exact .inr (by simpa [List.mem_singleton.1 second] using member)
    rcases small with rfl | rfl <;> exact absurd special (by decide)
  · rw [lowerForms, if_neg sigma, List.mem_singleton] at among
    rw [among, lowerForm] at member
    split at member
    · rcases List.mem_cons.1 member with rfl | dot
      · exact absurd special (by decide)
      · exact absurd special (by rw [List.mem_singleton.1 dot]; decide)
    · split at member
      · rename_i run found
        have covered : run.covers char.toNat = true := by simpa using List.find?_some found
        exact spelled_of_run plain (List.mem_of_find?_eq_some found) covered
          (List.mem_singleton.1 member)
      · exact .inl (List.mem_singleton.1 member).symm

theorem lower_forms_nonempty {char : Char} {form : List Char} (among : form ∈ lowerForms char) :
    form ≠ [] := by
  by_cases sigma : char = 'Σ'
  · rw [lowerForms, if_pos sigma] at among
    rcases List.mem_cons.1 among with first | second
    · simp [first]
    · simp [List.mem_singleton.1 second]
  · rw [lowerForms, if_neg sigma, List.mem_singleton] at among
    rw [among, lowerForm]
    split
    · simp
    · split <;> simp

theorem in_lower_case_iff {chars lowered letters : List Char} (lowers : InLowerCase chars lowered)
    (plain : ∀ letter ∈ letters, letter ∈ switchLetters) :
    lowered = letters ↔ Spells chars letters := by
  obtain ⟨forms, formed, rfl⟩ := lowers
  induction formed generalizing letters with
  | nil => cases letters <;> simp [Spells]
  | @cons char form chars forms among formed induction =>
      rw [List.flatten_cons, Spells]
      constructor
      · intro same
        cases form with
        | nil => exact absurd rfl (lower_forms_nonempty among)
        | cons letter others =>
            cases letters with
            | nil => simp at same
            | cons first rest =>
                obtain ⟨rfl, tails⟩ : letter = first ∧ others ++ forms.flatten = rest := by
                  simpa using same
                have known := plain letter List.mem_cons_self
                have spelled := spelled_of_mem_lower_form known among List.mem_cons_self
                rw [lower_forms_of_spelled known spelled, List.mem_singleton] at among
                rw [(List.cons.inj among).2, List.nil_append] at tails
                have later := induction fun other member =>
                  plain other (List.mem_cons_of_mem _ member)
                exact .cons spelled (later.1 tails)
      · intro spelled
        cases spelled with
        | @cons _ letter _ rest first others =>
            have later := induction fun other member =>
              plain other (List.mem_cons_of_mem _ member)
            rw [lower_forms_of_spelled (plain letter List.mem_cons_self) first,
              List.mem_singleton] at among
            rw [among, later.2 others, List.singleton_append]

theorem in_lower_case_lower_case (chars : List Char) : InLowerCase chars (lowerCase chars) := by
  have own : ∀ char, lowerForm char ∈ lowerForms char := by
    intro char
    by_cases sigma : char = 'Σ'
    · rw [sigma]
      decide +kernel
    · rw [lowerForms, if_neg sigma]
      exact List.mem_singleton_self _
  refine ⟨chars.map lowerForm, ?_, List.flatMap_def⟩
  rw [List.forall₂_map_right_iff]
  exact List.forall₂_same.2 fun char _ => own char

/-- A text in lower case is a word exactly if the text spells it, whatever its sigmas do. -/
theorem lowered_is_word_iff {chars lowered : List Char} (lowers : InLowerCase chars lowered) :
    String.ofList lowered ∈ switchWords ↔ ∃ word ∈ switchWords, Spells chars word.toList := by
  constructor
  · intro member
    refine ⟨_, member, (in_lower_case_iff lowers ?_).1 String.toList_ofList.symm⟩
    exact letters_of_switch_words _ member
  · intro spelled
    obtain ⟨word, member, spells⟩ := spelled
    rw [(in_lower_case_iff lowers (letters_of_switch_words word member)).2 spells,
      String.ofList_toList]
    exact member

theorem to_lower_eq_or_capital (char : Char) :
    char.toLower = char ∨ ∃ offset < 26, char = Char.ofNat (0x41 + offset) := by
  by_cases capital : char.val ≥ 'A'.val ∧ char.val ≤ 'Z'.val
  · have low : 0x41 ≤ char.toNat := capital.1
    have high : char.toNat ≤ 0x5A := capital.2
    refine .inr ⟨char.toNat - 0x41, by omega, ?_⟩
    rw [Nat.add_sub_cancel' low, Char.ofNat_toNat]
  · exact .inl (dif_neg capital)

theorem lower_form_to_lower (char : Char) : lowerForm char.toLower = lowerForm char := by
  have capitals : ∀ offset < 26, lowerForm (Char.ofNat (0x41 + offset)).toLower =
      lowerForm (Char.ofNat (0x41 + offset)) := by decide +kernel
  rcases to_lower_eq_or_capital char with same | ⟨offset, bound, rfl⟩
  · rw [same]
  · exact capitals offset bound

theorem plain_not_mem_lower_form {char letter : Char} {form : List Char}
    (beyond : 0x80 ≤ char.toNat) (among : form ∈ lowerForms char)
    (plain : letter ∈ switchLetters) : letter ∉ form := by
  have upper : ∀ letter ∈ switchLetters, letter.toUpper.toNat < 0x80 :=
    List.all_iff_forall_prop.1 (by decide)
  intro member
  rcases spelled_of_mem_lower_form plain among member with rfl | rfl
  · exact Nat.not_lt_of_le beyond (plain_is_ascii char plain).2
  · exact Nat.not_lt_of_le beyond (upper letter plain)

theorem lower_case_map_to_lower (chars : List Char) :
    lowerCase (chars.map Char.toLower) = lowerCase chars := by
  rw [lowerCase, List.flatMap_map, lowerCase]
  simp only [lower_form_to_lower]

end AccessNetwork.Text
