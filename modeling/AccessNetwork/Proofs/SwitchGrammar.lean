import AccessNetwork.Proofs.Casing
import Mathlib.Data.List.TakeWhile

/-!
The grammar of switches, said of texts without a word on how they are read: blanks, one of four
words in any mix of upper and lower case, and blanks again. The reader cuts the blanks off first and
compares what is left in lower case, so it accepts exactly the texts that follow the grammar.
-/

namespace AccessNetwork.Text

set_option autoImplicit false

def whiteSpace : List Char :=
  ['\t', '\u000b', '\u000c', '\ufeff', ' ', '\u00a0', '\u1680', '\u2000', '\u2001', '\u2002',
   '\u2003', '\u2004', '\u2005', '\u2006', '\u2007', '\u2008', '\u2009', '\u200a', '\u202f',
   '\u205f', '\u3000']

def lineEnds : List Char := ['\n', '\r', '\u2028', '\u2029']

def IsBlank (char : Char) : Prop := char ∈ whiteSpace ∨ char ∈ lineEnds

def SaysOn (text : String) : Prop :=
  ∃ before spelled after, text.toList = before ++ spelled ++ after ∧
    (∀ char ∈ before, IsBlank char) ∧
    (∃ word ∈ ["1", "true", "yes", "on"], Spells spelled word.toList) ∧
    (∀ char ∈ after, IsBlank char)

theorem is_blank_iff (char : Char) : isBlank char = true ↔ IsBlank char := by
  have listed : ∀ code, blankRanges.any (fun range => range.1 ≤ code && code ≤ range.2) = true ↔
      code ∈ (whiteSpace ++ lineEnds).map Char.toNat := by
    intro code
    simp [blankRanges, whiteSpace, lineEnds]
    omega
  rw [isBlank, listed, IsBlank, ← List.mem_append, List.mem_map]
  constructor
  · intro found
    obtain ⟨other, member, same⟩ := found
    rwa [← Char.toNat_inj.1 same]
  · intro member
    exact ⟨char, member, rfl⟩

section Cutting

variable {chars before after : List Char}

theorem strip_left_append (blank : ∀ char ∈ before, isBlank char = true) :
    stripLeft (before ++ chars) = stripLeft chars :=
  List.dropWhile_append_of_pos blank

theorem strip_right_append (blank : ∀ char ∈ after, isBlank char = true) :
    stripRight (chars ++ after) = stripRight chars := by
  rw [stripRight, List.reverse_append, strip_left_append (by simpa using blank), stripRight]

theorem strip_append (blankBefore : ∀ char ∈ before, isBlank char = true)
    (blankAfter : ∀ char ∈ after, isBlank char = true) :
    strip (before ++ chars ++ after) = strip chars := by
  have left : stripLeft (chars ++ after) =
      if (stripLeft chars).isEmpty then [] else stripLeft chars ++ after := by
    rw [stripLeft, List.dropWhile_append, List.dropWhile_eq_nil_iff.2 blankAfter]
    rfl
  rw [strip, List.append_assoc, strip_left_append blankBefore, strip, left]
  split
  · rename_i empty
    rw [List.isEmpty_iff.1 empty]
  · exact strip_right_append blankAfter

theorem strip_of_no_blank (solid : ∀ char ∈ chars, isBlank char = false) :
    strip chars = chars := by
  have left : ∀ kept : List Char, (∀ char ∈ kept, isBlank char = false) →
      stripLeft kept = kept := by
    intro kept solid
    cases kept with
    | nil => rfl
    | cons first rest => exact List.dropWhile_cons_of_neg (by simp [solid first])
  rw [strip, left chars solid, stripRight, left chars.reverse (by simpa using solid),
    List.reverse_reverse]

theorem strip_splits (chars : List Char) :
    ∃ before after, chars = before ++ strip chars ++ after ∧
      (∀ char ∈ before, isBlank char = true) ∧ (∀ char ∈ after, isBlank char = true) := by
  refine ⟨chars.takeWhile isBlank, ((stripLeft chars).reverse.takeWhile isBlank).reverse, ?_,
    fun char => List.mem_takeWhile_imp, ?_⟩
  · have right : strip chars ++ ((stripLeft chars).reverse.takeWhile isBlank).reverse =
        stripLeft chars := by
      rw [strip, stripRight, ← List.reverse_append]
      conv => rhs; rw [← List.reverse_reverse (stripLeft chars)]
      exact congrArg List.reverse List.takeWhile_append_dropWhile
    rw [List.append_assoc, right]
    exact List.takeWhile_append_dropWhile.symm
  · intro char member
    exact List.mem_takeWhile_imp (List.mem_reverse.1 member)

end Cutting

theorem not_blank_of_spelled {chars : List Char} {word : String} (member : word ∈ switchWords)
    (spelled : Spells chars word.toList) : ∀ char ∈ chars, isBlank char = false := by
  have solid : ∀ letter ∈ switchLetters, isBlank letter = false ∧
      isBlank letter.toUpper = false := List.all_iff_forall_prop.1 (by decide)
  have plain := letters_of_switch_words word member
  generalize word.toList = letters at spelled plain
  induction spelled with
  | nil => simp
  | @cons char letter chars letters first others induction =>
      intro other among
      rcases List.mem_cons.1 among with rfl | later
      · have both := solid letter (plain letter List.mem_cons_self)
        rcases first with rfl | rfl
        · exact both.1
        · exact both.2
      · exact induction (fun letter listed => plain letter (List.mem_cons_of_mem _ listed)) other
          later

theorem is_on_iff_spells (text : String) :
    isOn text = true ↔ ∃ word ∈ switchWords, Spells (strip text.toList) word.toList := by
  rw [isOn, List.contains_iff_mem, lowered_is_word_iff (in_lower_case_lower_case _)]

/-- A text means on exactly if the grammar says so. -/
theorem is_on_iff (text : String) : isOn text = true ↔ SaysOn text := by
  rw [is_on_iff_spells, SaysOn]
  simp only [← is_blank_iff]
  constructor
  · intro spelled
    obtain ⟨before, after, split, blankBefore, blankAfter⟩ := strip_splits text.toList
    exact ⟨before, strip text.toList, after, split, blankBefore, spelled, blankAfter⟩
  · intro grammar
    obtain ⟨before, spelled, after, split, blankBefore, ⟨word, member, spells⟩, blankAfter⟩ :=
      grammar
    refine ⟨word, member, ?_⟩
    rw [split, strip_append blankBefore blankAfter,
      strip_of_no_blank (not_blank_of_spelled member spells)]
    exact spells

theorem is_on_eq_iff (text : String) (on : Bool) : isOn text = on ↔ (on = true ↔ SaysOn text) := by
  rw [Bool.eq_iff_iff, is_on_iff]
  exact iff_comm

theorem is_on_of_blanks_around {text other : String} {before after : List Char}
    (around : other.toList = before ++ text.toList ++ after)
    (blankBefore : ∀ char ∈ before, IsBlank char) (blankAfter : ∀ char ∈ after, IsBlank char) :
    isOn other = isOn text := by
  simp only [← is_blank_iff] at blankBefore blankAfter
  rw [isOn, isOn, around, strip_append blankBefore blankAfter]

theorem is_blank_to_lower (char : Char) : isBlank char.toLower = isBlank char := by
  have capitals : ∀ offset < 26, isBlank (Char.ofNat (0x41 + offset)).toLower =
      isBlank (Char.ofNat (0x41 + offset)) := by decide +kernel
  rcases to_lower_eq_or_capital char with same | ⟨offset, bound, rfl⟩
  · rw [same]
  · exact capitals offset bound

theorem strip_map_to_lower (chars : List Char) :
    strip (chars.map Char.toLower) = (strip chars).map Char.toLower := by
  have left : ∀ kept : List Char,
      stripLeft (kept.map Char.toLower) = (stripLeft kept).map Char.toLower := by
    intro kept
    have same : isBlank ∘ Char.toLower = isBlank := funext is_blank_to_lower
    rw [stripLeft, List.dropWhile_map, same, stripLeft]
  rw [strip, left, stripRight, ← List.map_reverse, left, ← List.map_reverse]
  rfl

theorem is_on_of_same_letters {text other : String}
    (same : other.toList.map Char.toLower = text.toList.map Char.toLower) :
    isOn other = isOn text := by
  rw [isOn, isOn, ← lower_case_map_to_lower, ← strip_map_to_lower, same, strip_map_to_lower,
    lower_case_map_to_lower]

end AccessNetwork.Text
