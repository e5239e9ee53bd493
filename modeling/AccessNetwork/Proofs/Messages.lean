import AccessNetwork.Schema.Issue

/-!
Messages by field, for issues that were found one field after another. Every field with a defect
gets one key, in the order of the fields, with one message for each of its defects.
-/

namespace AccessNetwork.Schema

set_option autoImplicit false

def namedFields (issues : List Issue) : List String := issues.filterMap (·.field)

def messagesOf (field : String) (issues : List Issue) : List String :=
  (issues.filter (·.field == some field)).map (·.defect.message)

theorem field_messages_eq (issues : List Issue) :
    fieldMessages issues =
      (namedFields issues).eraseDups.map fun field => (field, messagesOf field issues) := rfl

theorem messages_of_eq_nil {field : String} {issues : List Issue}
    (unnamed : field ∉ namedFields issues) : messagesOf field issues = [] := by
  have silent : issues.filter (·.field == some field) = [] := by
    rw [List.filter_eq_nil_iff]
    intro issue member named
    exact unnamed (List.mem_filterMap.2 ⟨issue, member, by simpa using named⟩)
  rw [messagesOf, silent, List.map_nil]

theorem named_fields_append (first second : List Issue) :
    namedFields (first ++ second) = namedFields first ++ namedFields second :=
  List.filterMap_append

theorem messages_of_append (field : String) (first second : List Issue) :
    messagesOf field (first ++ second) = messagesOf field first ++ messagesOf field second := by
  rw [messagesOf, List.filter_append, List.map_append]
  rfl

theorem field_messages_append {first second : List Issue}
    (apart : ∀ field ∈ namedFields first, field ∉ namedFields second) :
    fieldMessages (first ++ second) = fieldMessages first ++ fieldMessages second := by
  have others : (namedFields second).removeAll (namedFields first) = namedFields second := by
    rw [List.removeAll, List.filter_eq_self]
    intro field member
    have fresh : field ∉ namedFields first := fun earlier => apart field earlier member
    simpa using fresh
  rw [field_messages_eq, field_messages_eq first, field_messages_eq second, named_fields_append,
    List.eraseDups_append, others, List.map_append]
  congr 1
  · apply List.map_congr_left
    intro field member
    rw [messages_of_append, messages_of_eq_nil (apart field (List.mem_eraseDups.1 member)),
      List.append_nil]
  · apply List.map_congr_left
    intro field member
    have fresh : field ∉ namedFields first := fun earlier =>
      apart field earlier (List.mem_eraseDups.1 member)
    rw [messages_of_append, messages_of_eq_nil fresh, List.nil_append]

def fieldIssues (field : String) (defects : List Defect) : List Issue :=
  defects.map fun defect => ⟨some field, defect⟩

theorem eq_of_mem_named_fields {field other : String} {defects : List Defect}
    (named : other ∈ namedFields (fieldIssues field defects)) : other = field := by
  simp only [namedFields, fieldIssues, List.filterMap_map, List.mem_filterMap] at named
  obtain ⟨_, _, same⟩ := named
  exact (Option.some.inj same).symm

theorem field_messages_of_field (field : String) (defects : List Defect) :
    fieldMessages (fieldIssues field defects) =
      if defects.isEmpty then [] else [(field, defects.map Defect.message)] := by
  cases defects with
  | nil => rfl
  | cons first rest =>
      have once : (namedFields (fieldIssues field (first :: rest))).eraseDups = [field] := by
        have repeated :
            (namedFields (fieldIssues field rest)).filter (fun other => !other == field) = [] := by
          rw [List.filter_eq_nil_iff]
          intro other named
          simp [eq_of_mem_named_fields named]
        change (field :: namedFields (fieldIssues field rest)).eraseDups = [field]
        rw [List.eraseDups_cons, repeated, List.eraseDups_nil]
      have every : (fieldIssues field (first :: rest)).filter (·.field == some field) =
          fieldIssues field (first :: rest) := by
        rw [List.filter_eq_self]
        intro issue member
        obtain ⟨defect, _, rfl⟩ := List.mem_map.1 member
        exact beq_self_eq_true _
      rw [field_messages_eq, once, List.map_singleton, messagesOf, every, fieldIssues,
        List.map_map]
      rfl

theorem field_messages_of_fields {Field : Type} (name : Field → String)
    (defects : Field → List Defect) (fields : List Field) (distinct : (fields.map name).Nodup) :
    fieldMessages (fields.flatMap fun field => fieldIssues (name field) (defects field)) =
      (fields.filter fun field => !(defects field).isEmpty).map fun field =>
        (name field, (defects field).map Defect.message) := by
  induction fields with
  | nil => rfl
  | cons first rest induction =>
      rw [List.map_cons, List.nodup_cons] at distinct
      rw [List.flatMap_cons, field_messages_append, field_messages_of_field,
        induction distinct.2]
      · by_cases sound : (defects first).isEmpty <;> simp [sound]
      · intro field named later
        apply distinct.1
        rw [← eq_of_mem_named_fields named]
        obtain ⟨issue, member, naming⟩ := List.mem_filterMap.1 later
        obtain ⟨other, listed, among⟩ := List.mem_flatMap.1 member
        have same := eq_of_mem_named_fields (List.mem_filterMap.2 ⟨issue, among, naming⟩)
        exact List.mem_map.2 ⟨other, listed, same.symm⟩

def wholeIssues (defects : List Defect) : List Issue := defects.map fun defect => ⟨none, defect⟩

theorem field_messages_append_whole (named : List Issue) (defects : List Defect) :
    fieldMessages (named ++ wholeIssues defects) = fieldMessages named := by
  have unnamed : namedFields (wholeIssues defects) = [] := by
    simp [namedFields, wholeIssues, List.filterMap_map]
  rw [field_messages_append (by simp [unnamed]), field_messages_eq (wholeIssues defects), unnamed]
  exact List.append_nil _

theorem whole_messages_append_whole {named : List Issue} (defects : List Defect)
    (naming : ∀ issue ∈ named, issue.field.isSome = true) :
    wholeMessages (named ++ wholeIssues defects) = defects.map Defect.message := by
  have silent : named.filter (·.field.isNone) = [] := by
    rw [List.filter_eq_nil_iff]
    intro issue member
    rw [Option.isNone_iff_eq_none]
    exact Option.isSome_iff_ne_none.1 (naming issue member)
  have every : (wholeIssues defects).filter (·.field.isNone) = wholeIssues defects := by
    rw [List.filter_eq_self]
    intro issue member
    obtain ⟨defect, _, rfl⟩ := List.mem_map.1 member
    rfl
  rw [wholeMessages, List.filter_append, silent, every, List.nil_append, wholeIssues, List.map_map]
  rfl

end AccessNetwork.Schema
