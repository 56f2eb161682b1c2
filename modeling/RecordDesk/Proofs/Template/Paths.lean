import RecordDesk.Proofs.Text.Numerals
import RecordDesk.Template
set_option autoImplicit false

/-!
Where the path of a placeholder leads. The blanks around it do not count, full stops stand between its keys,
and each key leads from an object to the member that it names.
-/

namespace RecordDesk

namespace Template

/-- The text without the blanks at its two ends. -/
structure Trimmed (s t : List Char) : Prop where
  within : ∃ before after, s = before ++ t ++ after ∧ (∀ c ∈ before, isBlank c) ∧ ∀ c ∈ after, isBlank c
  first : ∀ c, t.head? = some c → ¬ isBlank c
  last : ∀ c, t.getLast? = some c → ¬ isBlank c

/-- The text with full stops between keys that have none. -/
structure Dotted (t : List Char) (keys : List String) : Prop where
  nonempty : keys ≠ []
  undotted : ∀ key ∈ keys, '.' ∉ key.toList
  joined : t = ['.'].intercalate (keys.map String.toList)

/-- Keys lead down from a document to another, object by object. -/
inductive Leads : Document → List String → Document → Prop where
  | here {d : Document} : Leads d [] d
  | down {members : Members} {key : String} {keys : List String} {d e : Document} :
      members.lookup key = some d → Leads d keys e → Leads (.object members) (key :: keys) e

/-- The keys of a path lead to a document. -/
def Resolves (scope : Document) (path : List Char) (d : Document) : Prop :=
  ∃ t keys, Trimmed path t ∧ Dotted t keys ∧ Leads scope keys d

theorem trimmed_stripWhere (s : List Char) : Trimmed s (stripWhere isBlank s) := by
  have hstrip : stripWhere isBlank s = (s.dropWhile isBlank).rdropWhile isBlank := rfl
  have hprefix : stripWhere isBlank s <+: s.dropWhile isBlank := List.rdropWhile_prefix isBlank _
  refine ⟨⟨s.takeWhile isBlank, (s.dropWhile isBlank).rtakeWhile isBlank, ?_, fun c => List.mem_takeWhile_imp,
    fun c => List.mem_rtakeWhile_imp⟩, fun c hc => ?_, fun c hc => ?_⟩
  · rw [hstrip, List.append_assoc, List.rdropWhile_append_rtakeWhile, List.takeWhile_append_dropWhile]
  · -- What is left at the end begins as what was left at the front.
    obtain ⟨more, hmore⟩ := hprefix
    have hhead : (s.dropWhile isBlank).head? = some c := by rw [← hmore, List.head?_append, hc]; rfl
    have hnot := List.head?_dropWhile_not isBlank s
    rw [hhead] at hnot
    simpa using hnot
  · have hne : (s.dropWhile isBlank).rdropWhile isBlank ≠ [] := by
      rintro hnil
      rw [hstrip, hnil] at hc
      cases hc
    have hlast := List.rdropWhile_last_not isBlank _ hne
    rw [hstrip, List.getLast?_eq_some_getLast hne] at hc
    rwa [Option.some.inj hc] at hlast

theorem Trimmed.eq_stripWhere {s t : List Char} (h : Trimmed s t) : t = stripWhere isBlank s := by
  obtain ⟨⟨before, after, rfl, hbefore, hafter⟩, hfirst, hlast⟩ := h
  exact (stripWhere_padded hbefore hafter hfirst hlast).symm

theorem splitDots_dot (s : List Char) : splitDots ('.' :: s) = [] :: splitDots s := rfl

theorem splitDots_cons {c : Char} (h : c ≠ '.') (s : List Char) :
    splitDots (c :: s) = (splitDots s).modifyHead (c :: ·) := by
  have hne : splitDots s ≠ [] := by fun_cases splitDots s <;> simp_all
  rw [splitDots]
  · cases hs : splitDots s with
    | nil => exact absurd hs hne
    | cons part parts => rfl
  · exact h

theorem splitDots_eq_splitOn (s : List Char) : splitDots s = s.splitOn '.' := by
  induction s with
  | nil => rfl
  | cons c rest ih =>
    rw [List.splitOn, List.splitOnP_cons_eq_if_modifyHead, ← List.splitOn, ← ih]
    split
    · rename_i hc
      rw [beq_iff_eq.1 hc, splitDots_dot]
    · rename_i hc
      exact splitDots_cons (fun heq => hc (beq_iff_eq.2 heq)) rest

theorem not_mem_of_mem_splitDots {s part : List Char} (h : part ∈ splitDots s) : '.' ∉ part := by
  induction s generalizing part with
  | nil =>
    rw [List.mem_singleton.1 h]
    exact List.not_mem_nil
  | cons c rest ih =>
    by_cases hc : c = '.'
    · subst hc
      rw [splitDots_dot, List.mem_cons] at h
      rcases h with rfl | h
      · exact List.not_mem_nil
      · exact ih h
    · rw [splitDots_cons hc] at h
      cases hs : splitDots rest with
      | nil => rw [hs] at h; cases h
      | cons first parts =>
        rw [hs] at h ih
        rcases List.mem_cons.1 h with rfl | h
        · rw [List.mem_cons, not_or]
          exact ⟨Ne.symm hc, ih List.mem_cons_self⟩
        · exact ih (List.mem_cons_of_mem first h)

theorem dotted_iff {t : List Char} {keys : List String} :
    Dotted t keys ↔ keys = (splitDots t).map String.ofList := by
  constructor
  · rintro ⟨hne, hundotted, rfl⟩
    rw [splitDots_eq_splitOn, List.splitOn_intercalate '.' (by simpa using hundotted) (by simpa using hne),
      List.map_map]
    simp
  · rintro rfl
    refine ⟨?_, fun key hkey => ?_, ?_⟩
    · rw [splitDots_eq_splitOn]
      simp
    · obtain ⟨part, hpart, rfl⟩ := List.mem_map.1 hkey
      rw [String.toList_ofList]
      exact not_mem_of_mem_splitDots hpart
    · rw [List.map_map, splitDots_eq_splitOn]
      simp [List.intercalate_splitOn]

theorem leads_iff {d e : Document} {keys : List String} : Leads d keys e ↔ follow keys d = some e := by
  constructor
  · intro h
    induction h with
    | here => rfl
    | down hlookup _ ih => rw [follow, Document.get?, hlookup, Option.bind_some, ih]
  · intro h
    induction keys generalizing d with
    | nil =>
      cases h
      exact .here
    | cons key keys ih =>
      rw [follow, Option.bind_eq_some_iff] at h
      obtain ⟨inner, hget, hfollow⟩ := h
      cases d with
      | object members => exact .down hget (ih hfollow)
      | _ => cases hget

/-- There is one reading of a path, and it leads where its keys are followed to. -/
theorem resolves_iff {scope d : Document} {path : List Char} :
    Resolves scope path d ↔ follow (keys path) scope = some d := by
  constructor
  · rintro ⟨t, keys, htrimmed, hdotted, hleads⟩
    rw [Template.keys, ← htrimmed.eq_stripWhere, ← dotted_iff.1 hdotted, leads_iff.1 hleads]
  · exact fun h => ⟨_, _, trimmed_stripWhere path, dotted_iff.2 rfl, leads_iff.2 h⟩

end Template

end RecordDesk
