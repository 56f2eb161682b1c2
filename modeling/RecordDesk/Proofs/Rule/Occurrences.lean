import RecordDesk.Proofs.Rule.Operators
import RecordDesk.Proofs.Text.Lowering
set_option autoImplicit false

namespace RecordDesk.Condition

variable {nans : NaNs} {fields : Fields} {field : String}

/-- The search operators find a text in a field that holds another. -/
def Finds (nans : NaNs) (field needle text : String) : Prop :=
  ∀ fields : Fields, fields.lookup field = some (.text text) →
    verdict nans fields field (.text needle) .contains = .ok true ∧
      verdict nans fields field (.text needle) .notContains = .ok false

theorem found_texts {needle text : String} : found (.text text) (.text needle) = true ↔
    Casing.lowerFrom [] needle.toList <:+: Casing.lowerFrom [] text.toList := by
  rw [found, occursIn_iff, Value.asText, Value.asText, lower, lower, String.toList_ofList,
    String.toList_ofList]

theorem finds_iff {needle text : String} :
    Finds nans field needle text ↔ found (.text text) (.text needle) = true := by
  have hverdict {fields : Fields} (hfield : fields.lookup field = some (.text text)) (op : Operator) :
      verdict nans fields field (.text needle) op = decision nans (.text text) (.text needle) op :=
    verdict_present hfield nofun rfl rfl op
  constructor
  · intro h
    have hfield : [(field, Value.text text)].lookup field = some (.text text) := List.lookup_cons_self
    have hcontains := (h _ hfield).1
    rw [hverdict hfield] at hcontains
    exact Except.ok.inj hcontains
  · intro h fields hfield
    rw [hverdict hfield, hverdict hfield]
    exact ⟨congrArg Except.ok h, congrArg (fun b => Except.ok !b) h⟩

/-- A literal occurrence is found where the sigmas of the needle have the form that they have alone. The
needles that are found wherever they occur are those whose sigmas are settled. -/
theorem occurrences_found (nans : NaNs) (field needle : String) :
    (∀ before after : String, Casing.KeepsSigmas before.toList.reverse needle.toList after.toList →
      Finds nans field needle (before ++ needle ++ after)) ∧
    ((∀ before after : String, Finds nans field needle (before ++ needle ++ after)) ↔
      Casing.Settled needle.toList) := by
  have hlowered (before after : String) : Finds nans field needle (before ++ needle ++ after) ↔
      Casing.lowerFrom [] needle.toList <:+:
        Casing.lowerFrom [] (before.toList ++ needle.toList ++ after.toList) := by
    rw [finds_iff, found_texts, String.toList_append, String.toList_append]
  refine ⟨fun before after hkeeps => (hlowered before after).2 (Casing.infix_of_keeps hkeeps), ?_⟩
  rw [← Casing.infix_everywhere_iff]
  constructor
  · intro h a b
    have hab := (hlowered (String.ofList a) (String.ofList b)).1 (h _ _)
    rwa [String.toList_ofList, String.toList_ofList] at hab
  · intro h before after
    exact (hlowered before after).2 (h before.toList after.toList)

theorem isLetter_iota : Casing.IsLetter 'Ι' := by
  have hbounds : Casing.isIgnorable 'Ι' = false := by
    rw [Casing.isIgnorable_eq]
    decide +kernel
  have hlower : Casing.lowerChar 'Ι' = ['ι'] := by decide +kernel
  exact ⟨hbounds, by decide +kernel, by decide, by rw [hlower]; decide, by rw [hlower]; decide⟩

/-- The sigma of an island stands before a letter: no text around it changes that. -/
theorem island_found : Casing.Settled "ΝΗΣΙ".toList ∧
    Finds .alike "home" "ΝΗΣΙ" ("" ++ "ΝΗΣΙ" ++ "ΩΤΗΣ") := by
  have hsettled : Casing.Settled "ΝΗΣΙ".toList := by
    intro p q hsplit
    obtain ⟨rfl, rfl⟩ : p = ['Ν', 'Η'] ∧ q = ['Ι'] := by simpa [List.cons_eq_append_iff] using hsplit
    exact .inl (isLetter_iota.meetsCased [])
  exact ⟨hsettled, (occurrences_found .alike "home" "ΝΗΣΙ").2.2 hsettled "" "ΩΤΗΣ"⟩

/-- The beginning of an island in capitals is not found in the island: alone it ends in a final sigma. -/
theorem beginning_lost : ¬ ∀ (nans : NaNs) (field before needle after : String),
    Finds nans field needle (before ++ needle ++ after) := by
  intro hall
  have hcased : Casing.meetsCased ['Η', 'Ν'] = true := by
    have hbounds : Casing.isIgnorable 'Η' = false := by
      rw [Casing.isIgnorable_eq]
      decide +kernel
    rw [Casing.meetsCased_stop hbounds]
    decide +kernel
  have hfound := found_texts.1 (finds_iff.1 (hall .alike "home" "" "ΝΗΣ" "Ι"))
  exact Casing.lost_before_letter (p := ['Ν', 'Η']) (q := []) isLetter_iota hcased rfl (by simpa using hfound)

end RecordDesk.Condition
