import RecordDesk.Proofs.Template.Payload
import RecordDesk.Proofs.Template.Paths
set_option autoImplicit false

/-!
Filling as one pass over a template. The template alone decides where its placeholders are: from the left,
wherever two opening braces, a path without closing brace and two closing braces stand. Each is replaced on
its own, all else stays, and nothing that was put in is looked at again.
-/

namespace RecordDesk

namespace Template

/-- What may stand between the braces of a placeholder. -/
def IsPath (path : List Char) : Prop := path ≠ [] ∧ '\x7d' ∉ path

def braced (path : List Char) : List Char := '\x7b' :: '\x7b' :: path ++ ['\x7d', '\x7d']

/-- A placeholder begins at the front of a text. -/
def Opens (s : List Char) : Prop := ∃ path rest, IsPath path ∧ s = braced path ++ rest

/-- No placeholder begins in a text that goes on as given. -/
def Clear (lead rest : List Char) : Prop := ∀ s, s <:+ lead → s ≠ [] → ¬ Opens (s ++ rest)

/-- A placeholder and the text that stands between it and the one before it. -/
structure Segment where
  lead : List Char
  path : List Char

/-- A text cut at its leftmost placeholders that do not overlap, with the text behind the last of them. -/
inductive Cut : List Char → List Segment → List Char → Prop where
  | tail {s : List Char} : Clear s [] → Cut s [] s
  | next {lead path rest tail : List Char} {segments : List Segment} : IsPath path →
    Clear lead (braced path ++ rest) →
      Cut rest segments tail → Cut (lead ++ (braced path ++ rest)) (⟨lead, path⟩ :: segments) tail

/-- What stands for a placeholder: the text of the document that its path leads to, or the placeholder
itself where it leads nowhere. -/
inductive Replaced (scope : Document) (path : List Char) : List Char → Prop where
  | found {d : Document} : Resolves scope path d → Replaced scope path (Value.of d).asText.toList
  | kept : (∀ d, ¬ Resolves scope path d) → Replaced scope path (braced path)

/-- A text that was cut, put together again with each placeholder replaced. -/
inductive Filled (scope : Document) (tail : List Char) : List Segment → List Char → Prop where
  | tail : Filled scope tail [] tail
  | next {g : Segment} {segments : List Segment} {out more : List Char} : Replaced scope g.path out →
      Filled scope tail segments more → Filled scope tail (g :: segments) (g.lead ++ out ++ more)

theorem replaced_iff {scope : Document} {path out : List Char} :
    Replaced scope path out ↔ out = substitute scope path := by
  unfold substitute
  constructor
  · rintro (⟨hd⟩ | hnone)
    · rw [resolves_iff.1 hd]
    · have hfollow : follow (keys path) scope = none :=
        Option.eq_none_iff_forall_not_mem.2 fun d hd => hnone d (resolves_iff.2 hd)
      rw [hfollow]
      rfl
  · rintro rfl
    cases hfollow : follow (keys path) scope with
    | some d => exact .found (resolves_iff.2 hfollow)
    | none =>
      refine .kept fun d hd => ?_
      rw [resolves_iff, hfollow] at hd
      cases hd

theorem filled_iff {scope : Document} {segments : List Segment} {tail out : List Char} :
    Filled scope tail segments out ↔
      out = segments.flatMap (fun g => g.lead ++ substitute scope g.path) ++ tail := by
  constructor
  · intro h
    induction h with
    | tail => rfl
    | next hout _ ih => rw [List.flatMap_cons, ih, replaced_iff.1 hout, List.append_assoc (_ ++ _)]
  · rintro rfl
    induction segments with
    | nil => exact .tail
    | cons g segments ih =>
      rw [List.flatMap_cons, List.append_assoc]
      exact .next (replaced_iff.2 rfl) ih

/-! Where placeholders are. -/

theorem braced_append (path rest : List Char) :
    braced path ++ rest = '\x7b' :: '\x7b' :: (path ++ '\x7d' :: '\x7d' :: rest) := by
  simp [braced]

theorem IsPath.placeholder? {path : List Char} (h : IsPath path) (rest : List Char) :
    placeholder? (path ++ '\x7d' :: '\x7d' :: rest) = some (path, rest) :=
  placeholder?_append h.1 (fun _ hc heq => h.2 (heq ▸ hc)) rest

theorem opens_braced {path : List Char} (h : IsPath path) (rest : List Char) : Opens (braced path ++ rest) :=
  ⟨path, rest, h, rfl⟩

/-- The first closing braces end a placeholder, so it can be read in one way only. -/
theorem braced_injective {path path' rest rest' : List Char} (h : IsPath path) (h' : IsPath path')
    (heq : braced path ++ rest = braced path' ++ rest') : path = path' ∧ rest = rest' := by
  rw [braced_append, braced_append] at heq
  have hread := congrArg Template.placeholder? (List.cons.inj (List.cons.inj heq).2).2
  rw [h.placeholder?, h'.placeholder?] at hread
  exact Prod.mk.inj (Option.some.inj hread)

theorem clear_nil (rest : List Char) : Clear [] rest := fun _ hs hne => absurd (List.suffix_nil.1 hs) hne

theorem clear_cons {c : Char} {lead rest : List Char} :
    Clear (c :: lead) rest ↔ ¬ Opens (c :: (lead ++ rest)) ∧ Clear lead rest := by
  constructor
  · intro h
    exact ⟨h _ (List.suffix_refl _) (List.cons_ne_nil _ _), fun s hs =>
      h s (hs.trans (List.suffix_cons c lead))⟩
  · rintro ⟨hc, hlead⟩ s hs hne
    rcases List.suffix_cons_iff.1 hs with rfl | hs
    · exact hc
    · exact hlead s hs hne

theorem Cut.cons {c : Char} {s tail : List Char} {segments : List Segment} (hc : ¬ Opens (c :: s))
    (h : Cut s segments tail) : ∃ segments' tail', Cut (c :: s) segments' tail' := by
  cases h with
  | tail hclear =>
    refine ⟨[], c :: s, .tail (clear_cons.2 ⟨?_, hclear⟩)⟩
    rwa [List.append_nil]
  | @next lead path rest tail segments hpath hclear hmore =>
    exact ⟨⟨c :: lead, path⟩ :: segments, tail, .next hpath (clear_cons.2 ⟨hc, hclear⟩) hmore⟩

/-- Every text can be cut. -/
theorem exists_cut (s : List Char) : ∃ segments tail, Cut s segments tail := by
  induction hn : s.length using Nat.strong_induction_on generalizing s with
  | _ n ih =>
    subst hn
    by_cases hopens : Opens s
    · obtain ⟨path, rest, hpath, rfl⟩ := hopens
      obtain ⟨segments, tail, hcut⟩ := ih rest.length (by simp [braced_append]; omega) rest rfl
      exact ⟨_, tail, Cut.next hpath (clear_nil _) hcut⟩
    · cases s with
      | nil => exact ⟨[], [], .tail (clear_nil [])⟩
      | cons c rest =>
        obtain ⟨segments, tail, hcut⟩ := ih rest.length (by simp) rest rfl
        exact hcut.cons hopens

theorem Clear.unique {lead lead' path path' rest rest' : List Char} (h : Clear lead (braced path ++ rest))
    (hpath : IsPath path) (h' : Clear lead' (braced path' ++ rest')) (hpath' : IsPath path')
    (heq : lead ++ (braced path ++ rest) = lead' ++ (braced path' ++ rest')) :
    lead = lead' ∧ path = path' ∧ rest = rest' := by
  rcases List.append_eq_append_iff.1 heq with ⟨more, rfl, hmore⟩ | ⟨more, rfl, hmore⟩
  · by_cases hne : more = []
    · subst hne
      rw [List.append_nil]
      exact ⟨rfl, braced_injective hpath hpath' hmore⟩
    · exact absurd (hmore ▸ opens_braced hpath rest) (h' more (List.suffix_append lead more) hne)
  · by_cases hne : more = []
    · subst hne
      rw [List.append_nil]
      exact ⟨rfl, braced_injective hpath hpath' hmore.symm⟩
    · exact absurd (hmore ▸ opens_braced hpath' rest') (h more (List.suffix_append lead' more) hne)

theorem Clear.not_mem {s lead path rest : List Char} (h : Clear s []) (hpath : IsPath path) :
    s ≠ lead ++ (braced path ++ rest) := by
  rintro rfl
  have hnot := h (braced path ++ rest) (List.suffix_append lead _) (by simp [braced_append])
  rw [List.append_nil] at hnot
  exact hnot (opens_braced hpath rest)

theorem Cut.unique {s s' tail tail' : List Char} {segments segments' : List Segment} (h : Cut s segments tail)
    (h' : Cut s' segments' tail') (heq : s = s') : segments' = segments ∧ tail' = tail := by
  induction h generalizing s' segments' tail' with
  | tail hclear =>
    cases h' with
    | tail => exact ⟨rfl, heq.symm⟩
    | next hpath => exact absurd heq (hclear.not_mem hpath)
  | next hpath hclear _ ih =>
    cases h' with
    | tail hclear' => exact absurd heq.symm (hclear'.not_mem hpath)
    | next hpath' hclear' hmore' =>
      obtain ⟨rfl, rfl, rfl⟩ := hclear.unique hpath hclear' hpath' heq
      obtain ⟨rfl, rfl⟩ := ih hmore' rfl
      exact ⟨rfl, rfl⟩

/-! Filling follows the cut. -/

theorem fillAll_braced {path : List Char} (scope : Document) (h : IsPath path) (rest : List Char) :
    fillAll scope (braced path ++ rest) = substitute scope path ++ fillAll scope rest := by
  rw [braced_append]
  exact fillAll_hole scope h.1 (fun _ hc heq => h.2 (heq ▸ hc)) rest

theorem opens_of_placeholder? {s path rest : List Char} (h : placeholder? s = some (path, rest)) :
    Opens ('\x7b' :: '\x7b' :: s) := by
  obtain ⟨rfl, hne, hclosed⟩ := placeholder?_some h
  exact ⟨path, rest, ⟨hne, fun hmem => hclosed _ hmem rfl⟩, (braced_append path rest).symm⟩

/-- A character where no placeholder begins is passed over. -/
theorem fillAll_of_not_opens {c : Char} {s : List Char} (scope : Document) (h : ¬ Opens (c :: s)) :
    fillAll scope (c :: s) = c :: fillAll scope s := by
  by_cases hbraces : c = '\x7b' ∧ s.head? = some '\x7b'
  · obtain ⟨rfl, hhead⟩ := hbraces
    obtain ⟨rest, rfl⟩ := List.head?_eq_some_iff.1 hhead
    have hnone : placeholder? rest = none := by
      cases hread : placeholder? rest with
      | none => rfl
      | some found => exact absurd (opens_of_placeholder? hread) h
    rw [fillAll, List.length_cons, fill, hnone]
    rfl
  · exact fillAll_cons scope fun hc hhead => hbraces ⟨hc, hhead⟩

theorem fillAll_clear {lead rest : List Char} (scope : Document) (h : Clear lead rest) :
    fillAll scope (lead ++ rest) = lead ++ fillAll scope rest := by
  induction lead with
  | nil => rfl
  | cons c lead ih =>
    obtain ⟨hc, hlead⟩ := clear_cons.1 h
    rw [List.cons_append, fillAll_of_not_opens scope hc, ih hlead, List.cons_append]

theorem fillAll_cut {s tail : List Char} {segments : List Segment} (scope : Document)
    (h : Cut s segments tail) :
    fillAll scope s = segments.flatMap (fun g => g.lead ++ substitute scope g.path) ++ tail := by
  induction h with
  | @tail s hclear =>
    have hfill := fillAll_clear scope hclear
    rwa [List.append_nil, fillAll_nil, List.append_nil] at hfill
  | next hpath hclear _ ih =>
    rw [fillAll_clear scope hclear, fillAll_braced scope hpath, ih, List.flatMap_cons, List.append_assoc,
      List.append_assoc]

theorem filled_kept {scope : Document} {s tail : List Char} {segments : List Segment}
    (h : Cut s segments tail) (hkept : ∀ g ∈ segments, ∀ d, ¬ Resolves scope g.path d) :
    Filled scope tail segments s := by
  induction h with
  | tail => exact .tail
  | next _ _ _ ih =>
    obtain ⟨hg, hsegments⟩ := List.forall_mem_cons.1 hkept
    rw [← List.append_assoc]
    exact .next (.kept hg) (ih hsegments)

theorem Filled.congr {scope scope' : Document} {segments : List Segment} {tail out : List Char}
    (hsame : ∀ g ∈ segments, ∀ out, Replaced scope g.path out → Replaced scope' g.path out)
    (h : Filled scope tail segments out) : Filled scope' tail segments out := by
  induction h with
  | tail => exact .tail
  | next hout _ ih =>
    obtain ⟨hg, hsegments⟩ := List.forall_mem_cons.1 hsame
    exact .next (hg _ hout) (ih hsegments)

/-- Filling a template is one pass over it. There is one way to cut it at its leftmost placeholders that do
not overlap, and whatever the scope, the result is the cut text with each placeholder replaced on its own.
So a template that has nothing to replace stays as it is, and only what its own placeholders lead to has a
part in the result. -/
theorem interpolate_single_pass (template : String) : ∃ segments tail,
    (∀ segments' tail', Cut template.toList segments' tail' ↔ segments' = segments ∧ tail' = tail) ∧
    (∀ (scope : Document) (out : List Char),
      Filled scope tail segments out ↔ interpolate scope template = String.ofList out) ∧
    (∀ scope : Document, (∀ g ∈ segments, ∀ d, ¬ Resolves scope g.path d) →
      interpolate scope template = template) ∧ ∀ scope scope' : Document,
      (∀ g ∈ segments, ∀ out, Replaced scope g.path out ↔ Replaced scope' g.path out) →
        interpolate scope template = interpolate scope' template := by
  obtain ⟨segments, tail, hcut⟩ := exists_cut template.toList
  have hfilled (scope : Document) (out : List Char) :
      Filled scope tail segments out ↔ interpolate scope template = String.ofList out := by
    have hall : interpolate scope template = String.ofList (fillAll scope template.toList) := rfl
    rw [filled_iff, hall, fillAll_cut scope hcut, String.ofList_inj, eq_comm]
  refine ⟨segments, tail, fun segments' tail' => ⟨fun h => hcut.unique h rfl, ?_⟩, hfilled,
    fun scope hkept => ?_, fun scope scope' hsame => ?_⟩
  · rintro ⟨rfl, rfl⟩
    exact hcut
  · rw [(hfilled scope _).1 (filled_kept hcut hkept), String.ofList_toList]
  · have hout := (hfilled scope (interpolate scope template).toList).2 String.ofList_toList.symm
    rw [(hfilled scope' _).1 (hout.congr fun g hg out => (hsame g hg out).1), String.ofList_toList]

/-! Three opening braces in a row, and a field whose text looks like a placeholder. -/

def threeBraces : String := "\x7b\x7b\x7brule.id\x7d\x7d"

def lookalike : String := threeBraces ++ "\x7b\x7brecord.fields.x\x7d\x7d"

theorem Cut.here {path rest tail : List Char} {segments : List Segment} (hpath : IsPath path)
    (h : Cut rest segments tail) : Cut (braced path ++ rest) (⟨[], path⟩ :: segments) tail :=
  .next hpath (clear_nil _) h

theorem cut_threeBraces {rest tail : List Char} {segments : List Segment} (h : Cut rest segments tail) :
    Cut (threeBraces.toList ++ rest) (⟨[], "\x7brule.id".toList⟩ :: segments) tail :=
  show Cut (braced "\x7brule.id".toList ++ rest) _ _ from Cut.here ⟨by decide, by decide⟩ h

theorem cut_field : Cut "\x7b\x7brecord.fields.x\x7d\x7d".toList [⟨[], "record.fields.x".toList⟩] [] :=
  show Cut (braced "record.fields.x".toList ++ []) _ _ from Cut.here ⟨by decide, by decide⟩
    (.tail (clear_nil []))

theorem no_braced_rule (x : String) (d : Document) :
    ¬ Resolves (contextOf x).scope "\x7brule.id".toList d := by
  rw [resolves_iff]
  exact nofun

theorem resolves_field (x : String) : Resolves (contextOf x).scope "record.fields.x".toList (.text x) :=
  resolves_iff.2 (follow_greeting x)

/-- The first placeholder begins at the first brace, so its path is no rule's; the text of the field is put
in as it is, and what it names, which is there, is not. -/
theorem lookalike_kept : interpolate (contextOf "\x7b\x7btenant.name\x7d\x7d").scope lookalike
      = threeBraces ++ "\x7b\x7btenant.name\x7d\x7d" ∧
    interpolate (contextOf "").scope threeBraces = threeBraces := by
  constructor
  · obtain ⟨segments, tail, hcut, hfilled, -, -⟩ := interpolate_single_pass lookalike
    obtain ⟨rfl, rfl⟩ := (hcut _ _).1 (cut_threeBraces cut_field)
    have hout := (hfilled (contextOf "\x7b\x7btenant.name\x7d\x7d").scope _).1
      (.next (.kept (no_braced_rule _)) (.next (.found (resolves_field _)) .tail))
    exact hout.trans rfl
  · obtain ⟨segments, tail, hcut, -, hkept, -⟩ := interpolate_single_pass threeBraces
    obtain ⟨rfl, rfl⟩ := (hcut _ _).1 (cut_threeBraces (.tail (clear_nil [])))
    refine hkept _ fun g hg d => ?_
    rw [List.mem_singleton.1 hg]
    exact no_braced_rule "" d

end Template

end RecordDesk
