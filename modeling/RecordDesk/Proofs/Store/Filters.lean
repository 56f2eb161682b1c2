import RecordDesk.Proofs.Store.Answering
import RecordDesk.Proofs.Store.Cells
import RecordDesk.Proofs.Widget.Predicates
import RecordDesk.Proofs.Widget.References
set_option autoImplicit false

/-!
Filters. A query takes the records that hold an equal value under the key of each filter, but for values
that the store confuses; and the keys of filters that work so are those that are written down as they are.
-/

namespace RecordDesk

namespace Document

/-- A document that the store can write down and read back. -/
structure Stored (d : Document) : Prop where
  json : d.IsJson
  portable : d.isPortable = true

theorem Stored.get? {d found : Document} (h : d.Stored) {key : String} (hfound : d.get? key = some found) :
    found.Stored := by
  cases d with
  | object members =>
    obtain ⟨before, after, rfl, -⟩ := List.lookup_eq_some_iff.1 hfound
    have hm : (key, found) ∈ before ++ (key, found) :: after := List.mem_append_right _ List.mem_cons_self
    exact ⟨everyMember_mem h.json.2 hm, portableMembers_iff.1 h.portable (key, found) hm⟩
  | _ => cases hfound

end Document

namespace Path

open Quoted (encode encodeChar)

/-- A key that is written down as it is. -/
def Plain (key : String) : Prop := encode key.toList = key.toList

instance (key : String) : Decidable (Plain key) := inferInstanceAs (Decidable (_ = _))

variable {key : String}

theorem length_le_encode (s : List Char) : s.length ≤ (encode s).length := by
  induction s with
  | nil => exact Nat.le_refl 0
  | cons c s ih =>
    have hc := List.length_pos_of_ne_nil (Document.encodeChar_ne_nil c)
    rw [encode, List.flatMap_cons, List.length_append, List.length_cons]
    rw [encode] at ih
    omega

theorem encodeChar_of_plain {s : List Char} (h : encode s = s) : ∀ c ∈ s, encodeChar c = [c] := by
  induction s with
  | nil => exact fun c hc => (List.not_mem_nil hc).elim
  | cons c s ih =>
    -- Each character takes at least its own place, so in equal lengths none takes more.
    have hsplit : encodeChar c ++ encode s = [c] ++ s := h
    have hlength := congrArg List.length hsplit
    rw [List.length_append, List.length_append, List.length_singleton] at hlength
    have hc := List.length_pos_of_ne_nil (Document.encodeChar_ne_nil c)
    have hs := length_le_encode s
    obtain ⟨hhead, htail⟩ := List.append_inj hsplit (by rw [List.length_singleton]; omega)
    exact List.forall_mem_cons.2 ⟨hhead, ih htail⟩

theorem Plain.nameable (h : Plain key) : Nameable key := by
  intro c hc
  have hwritten := encodeChar_of_plain h c hc
  refine ⟨?_, fun hzero => ?_⟩
  · rintro rfl
    exact absurd hwritten (by decide)
  · obtain rfl : c = Char.ofNat 0 := by rw [← hzero, Char.ofNat_toNat]
    exact absurd hwritten (by decide)

/-- What is held under a key, if the key and the name of a member as it is written are compared in some
way. -/
def heldBy (alike : List Char → List Char → Bool) (key : String) : Document → Option Document
  | .object members => (members.find? fun m => alike key.toList (encode m.1.toList)).map (·.2)
  | _ => none

def writtenAlike (label written : List Char) : Bool := written == label

theorem held?_eq_heldBy (key : String) (d : Document) :
    held? key d = heldBy writtenAlike key d := by cases d <;> rfl

/-- A key finds its own member if it is compared as alike with no written name but its own. -/
theorem heldBy_of_alike {alike : List Char → List Char → Bool}
    (h : ∀ name : String, alike key.toList (encode name.toList) = (key == name)) (d : Document) :
    heldBy alike key d = d.get? key := by
  cases d with
  | object members =>
    change (members.find? fun m => alike key.toList (encode m.1.toList)).map (·.2) = members.lookup key
    induction members with
    | nil => rfl
    | cons m rest ih =>
      rw [List.find?_cons, h, List.lookup_cons]
      cases key == m.1 with
      | true => rfl
      | false => exact ih
  | _ => rfl

theorem writtenAlike_plain (h : Plain key) (name : String) :
    writtenAlike key.toList (encode name.toList) = (key == name) := by
  rw [Bool.eq_iff_iff, writtenAlike, beq_iff_eq, beq_iff_eq]
  refine ⟨fun hname => (Document.encode_inj (hname.trans h.symm)).symm, ?_⟩
  rintro rfl
  exact h

theorem held?_plain (h : Plain key) (d : Document) : held? key d = d.get? key := by
  rw [held?_eq_heldBy, heldBy_of_alike (writtenAlike_plain h)]

theorem ofKey_cut (hkey : ¬ Nameable key) (hquote : '"' ∉ key.toList) :
    ofKey key = '.' :: '"' :: key.toList.takeWhile fun c => c.toNat != 0 := by
  have hnul : ∃ c ∈ key.toList, c.toNat = 0 := by
    by_contra hnone
    refine hkey fun c hc => ⟨fun heq => hquote (heq ▸ hc), fun hzero => hnone ⟨c, hc, hzero⟩⟩
  have hshort : (key.toList.takeWhile fun c => c.toNat != 0).length ≠ key.toList.length := by
    intro hlength
    obtain ⟨c, hc, hzero⟩ := hnul
    have hall := (List.takeWhile_prefix _).eq_of_length hlength
    have hkept := List.takeWhile_eq_self_iff.1 hall c hc
    simp [hzero] at hkept
  rw [ofKey, List.takeWhile_cons_of_pos (by decide), List.takeWhile_cons_of_pos (by decide),
    List.takeWhile_append, if_neg hshort]

theorem name?_open {s : List Char} (h : '"' ∉ s) : name? ('"' :: s) = none := by
  have hspan : s.span (· != '"') = (s, []) := by
    rw [List.span_eq_takeWhile_dropWhile, List.takeWhile_eq_self_iff.2, List.dropWhile_eq_nil_iff.2]
    all_goals
      intro c hc
      exact bne_iff_ne.2 fun heq => h (heq ▸ hc)
  simp only [name?, hspan]

/-- Under a key that is written in another way a path does not even find a member of the key's own. -/
theorem find_not_plain (hquote : '"' ∉ key.toList) (h : ¬ Plain key) {d : Document}
    (hd : d.isPortable = true) :
    find key (.object [(key, d)]) = .ok none ∨ ∃ fault, find key (.object [(key, d)]) = .error fault := by
  have hobject : (Document.object [(key, d)]).isPortable = true := by
    simp [Document.isPortable, Document.portableMembers, hd]
  by_cases hkey : Nameable key
  · left
    rw [find_nameable hkey hobject, held?, member?, List.find?_cons, beq_false_of_ne h]
    rfl
  · right
    have hopen : name? ('"' :: key.toList.takeWhile fun c => c.toNat != 0) = none :=
      name?_open fun hc => hquote ((List.takeWhile_prefix _).subset hc)
    rw [find, hobject, ofKey_cut hkey hquote]
    simp only [List.length_cons, follow, hopen]
    exact ⟨_, rfl⟩

end Path

theorem Cell.field_plain {key : String} {d : Document} (view : Document → Cell) (hkey : Path.Plain key)
    (hd : d.isPortable = true) : Cell.field view key d = .ok (Cell.seen view (d.get? key)) := by
  rw [Cell.field_nameable view hkey.nameable hd, Path.held?_plain hkey]

namespace Widget

/-- Whether a document has a value under the key of a filter that is equal to the filter's. -/
def Filter.Holds (f : Filter) (fields : Document) : Prop :=
  ∃ d, fields.get? f.key = some d ∧ d.equals f.value = true

def Filter.Confuses (f : Filter) (fields : Document) : Prop :=
  ∃ d, fields.get? f.key = some d ∧ d.Confused f.value

end Widget

namespace Store

open Widget

variable {fields : Document} {f : Filter}

theorem passes_one (fields : Document) (f : Filter) : passes fields [f] = (do
    let found ← Cell.field Cell.of f.key fields
    let wanted ← wantedCell f
    return found.matches? wanted) := by
  rw [passes]
  refine bind_congr fun found => bind_congr fun wanted => ?_
  cases found.matches? wanted <;> rfl

theorem passes_cons_iff {filters : List Filter} :
    passes fields (f :: filters) = .ok true ↔
    passes fields [f] = .ok true ∧ passes fields filters = .ok true := by
  rw [passes_one, passes]
  cases Cell.field Cell.of f.key fields with
  | error fault => simp [Except.bind, bind]
  | ok found =>
    cases wantedCell f with
    | error fault => simp [Except.bind, bind]
    | ok wanted =>
      cases hmatch : found.matches? wanted <;> simp [Except.bind, bind, hmatch, pure, Except.pure]

theorem passes_iff_each {filters : List Filter} :
    passes fields filters = .ok true ↔ ∀ f ∈ filters, passes fields [f] = .ok true := by
  induction filters with
  | nil => exact iff_of_true rfl fun f hf => (List.not_mem_nil hf).elim
  | cons f rest ih => rw [passes_cons_iff, List.forall_mem_cons, ih]

theorem wantedCell_stored (h : f.value.Stored) : wantedCell f = .ok (Cell.of f.value) := by
  rw [wantedCell, Document.toDocument_writable _ h.json]
  exact if_pos h.portable

theorem passes_one_plain (hkey : Path.Plain f.key) (hvalue : f.value.Stored) (hfields : fields.Stored) :
    passes fields [f] = .ok ((Cell.seen Cell.of (fields.get? f.key)).matches? (Cell.of f.value)) := by
  rw [passes_one, Cell.field_plain Cell.of hkey hfields.portable, wantedCell_stored hvalue]
  rfl

/-- A document passes a filter if and only if it has an equal value, but for values that are confused. -/
theorem passes_one_iff (hkey : Path.Plain f.key) (hvalue : f.value.Stored) (hfull : f.value ≠ .null)
    (hfields : fields.Stored) : passes fields [f] = .ok true ↔ (f.Holds fields ↔ ¬ f.Confuses fields) := by
  rw [passes_one_plain hkey hvalue hfields, Except.ok.injEq, Filter.Holds, Filter.Confuses]
  cases hfound : fields.get? f.key with
  | none => simp [Cell.seen, Cell.matches?]
  | some d =>
    have hd := hfields.get? hfound
    rw [Cell.seen, Cell.matches?_of_iff hd.json hvalue.json hd.portable hfull]
    simp

theorem holds_own (hvalue : f.value.Stored) : (Document.object [(f.key, f.value)]).Stored ∧
    f.Holds (.object [(f.key, f.value)]) ∧ ¬ f.Confuses (.object [(f.key, f.value)]) := by
  have hself := Document.equals_self f.value hvalue.json hvalue.portable
  have hfound : (Document.object [(f.key, f.value)]).get? f.key = some f.value := List.lookup_cons_self
  refine ⟨⟨⟨List.nodup_singleton f.key, hvalue.json, trivial⟩, ?_⟩, ⟨f.value, hfound, hself⟩, ?_⟩
  · simp [Document.isPortable, Document.portableMembers, hvalue.portable]
  · rintro ⟨d, hd, hconfused⟩
    obtain rfl := Option.some.inj (hfound.symm.trans hd)
    rcases hconfused with hblurred | hrewritten
    · rw [(Cell.matches?_of_blurred hblurred).2] at hself
      cases hself
    · exact hrewritten.2.2 rfl

theorem plain_iff (hvalue : f.value.Stored) (hfull : f.value ≠ .null) (hquote : '"' ∉ f.key.toList) :
    Path.Plain f.key ↔ ∀ fields : Document, fields.Stored →
      ((passes fields [f] = .ok true ↔ f.Holds fields) ↔ ¬ f.Confuses fields) := by
  constructor
  · intro hkey fields hfields
    rw [passes_one_iff hkey hvalue hfull hfields]
    tauto
  · intro hall
    by_contra hkey
    -- A document with nothing but the filter's own value is missed.
    obtain ⟨hstored, hholds, hclear⟩ := holds_own hvalue
    have hpasses := ((hall _ hstored).2 hclear).2 hholds
    rw [passes_one, Cell.field] at hpasses
    rcases Path.find_not_plain hquote hkey hvalue.portable with hnone | ⟨fault, herror⟩
    · rw [hnone, wantedCell_stored hvalue] at hpasses
      cases hpasses
    · rw [herror] at hpasses
      cases hpasses

end Store

namespace Widget

open Store

theorem full_of_wanted {m : String × Document} {f : Filter} (h : wanted? m = some f) : f.value ≠ .null := by
  unfold wanted? at h
  split at h
  · cases h
  · cases h
  · rename_i hnull _
    cases h
    exact hnull

theorem Plan.filters_of_ofRaw {fields : List FieldMeta} {spec : RawSpec} {cap : Int}
    {now : Moment} {plan : Plan} (h : ofRaw fields spec cap now = .ok plan) : ∀ p ∈ plan.predicates,
      p.filters = spec.filterMembers.filterMap wanted? ∧ ∀ f ∈ p.filters, '"' ∉ f.key.toList ∧
      f.value ≠ .null := by
  obtain ⟨base, hbase, hscope⟩ := ofRaw_scope h
  obtain ⟨hfits, -⟩ := predicate_ok hbase
  intro p hp
  rw [(hscope p hp).2.2]
  refine ⟨hfits.filters, fun f hf => ⟨(hfits.queryable f hf).2, ?_⟩⟩
  rw [hfits.filters] at hf
  obtain ⟨m, -, hm⟩ := List.mem_filterMap.1 hf
  exact full_of_wanted hm

/-- Each query of a plan is narrowed by the filters of its specification. Over stored documents a filter
says what the equality of documents says if and only if their values are not confused, and this for every
document if and only if its key is plain; a query of such filters takes the records that pass them all. -/
theorem Plan.filters_compare {fields : List FieldMeta} {spec : RawSpec} {cap : Int}
    {now : Moment} {plan : Plan} (h : ofRaw fields spec cap now = .ok plan) : ∀ p ∈ plan.predicates,
      p.filters = spec.filterMembers.filterMap wanted? ∧
      (∀ f ∈ p.filters, f.value.Stored → (Path.Plain f.key ↔ ∀ d : Document, d.Stored →
        ((passes d [f] = .ok true ↔ f.Holds d) ↔ ¬ f.Confuses d))) ∧
      ∀ (s : Store) (all : List RecordRow), s.records.rows = some all →
        (∀ r ∈ all, p.Meets r → r.fields.Stored) →
        (∀ f ∈ p.filters, f.value.Stored ∧ Path.Plain f.key) → ∃ rows, s.select p = .ok rows ∧
          ∀ r, r ∈ rows ↔ r ∈ all ∧ p.Meets r ∧ ∀ f ∈ p.filters,
          (f.Holds r.fields ↔ ¬ f.Confuses r.fields) := by
  intro p hp
  obtain ⟨hfilters, hplanned⟩ := filters_of_ofRaw h p hp
  refine ⟨hfilters, fun f hf hvalue => plain_iff hvalue (hplanned f hf).2 (hplanned f hf).1, ?_⟩
  intro s all hall hstored hclear
  obtain ⟨rows, hrows⟩ := select_ok_iff.2
    ⟨all, hall, fun r hr hmeets => passes_total (hstored r hr hmeets).portable
    fun f hf => ⟨(hclear f hf).2.nameable, _, wantedCell_stored (hclear f hf).1⟩⟩
  refine ⟨rows, hrows, fun r => ?_⟩
  rw [(select_perm hrows).mem_iff, matching, hall, Option.getD_some, List.mem_filter, Predicate.takes_iff,
    passes_iff_each]
  refine and_congr_right fun hr => and_congr_right fun hmeets => forall₂_congr fun f hf => ?_
  exact passes_one_iff (hclear f hf).2 (hclear f hf).1 (hplanned f hf).2 (hstored r hr hmeets)

def markedCount (mark : Document) : Spec where
  tenantId := "t"
  entityId := "e"
  widgetType := "kpi"
  metricType := "count"
  targetField := none
  groupBy := none
  filters := [("won", mark)]
  dateRange := none
  limit := none
  sortOrder := "desc"
  sortBy := none
  paging := none
  showTrend := false
  trendPeriodDays := 7
  columns := []
  titleField := none
  subtitleField := none

def markedQuery (mark : Document) : AggregateQuery :=
  ⟨⟨.text "t", .text "e", [⟨"won", mark⟩], none, none, true⟩, .count, none, none, none, .desc⟩

def wonFields : List FieldMeta := [⟨"won", "boolean", true, true, none⟩]

theorem marked_planned (now : Moment) : Plan.ofRaw wonFields (markedCount (.boolean true)).raw 100 now
    = .ok (.kpi (markedQuery (.boolean true)) none (.ofInt 7)) := rfl

def marked (mark : Document) : RecordRow := ⟨"r", "t", "e", .object [("won", mark)], none, ⟨0, none⟩, none⟩

theorem stored_marked {mark : Document} (h : mark.Stored) : (marked mark).fields.Stored :=
  (Store.holds_own (f := ⟨"won", mark⟩) h).1

theorem plain_won : Path.Plain "won" := by decide

/-- The deals marked with a truth value are told apart from those marked with its word. -/
theorem truth_and_word : Plan.ofRaw wonFields (markedCount (.boolean true)).raw 100 ⟨0, some 0⟩
      = .ok (.kpi (markedQuery (.boolean true)) none (.ofInt 7)) ∧
    ∃ rows, ({ records := ⟨"entity_records", some [marked (.boolean true), marked (.text "true")]⟩ } :
      Store).select
        (markedQuery (.boolean true)).predicate = .ok rows ∧
      marked (.boolean true) ∈ rows ∧ marked (.text "true") ∉ rows := by
  have hplan := marked_planned ⟨0, some 0⟩
  have hstored : ∀ r ∈ [marked (.boolean true), marked (.text "true")], r.fields.Stored := by
    simp only [List.forall_mem_cons]
    exact ⟨stored_marked ⟨trivial, rfl⟩, stored_marked ⟨trivial, rfl⟩, fun _ h => (List.not_mem_nil h).elim⟩
  have hclear : ∀ f ∈ (markedQuery (.boolean true)).predicate.filters, f.value.Stored ∧ Path.Plain f.key :=
    List.forall_mem_singleton.2 ⟨⟨trivial, rfl⟩, plain_won⟩
  obtain ⟨rows, hrows, hmem⟩ := (Plan.filters_compare hplan _ List.mem_cons_self).2.2
    { records := ⟨"entity_records", some [marked (.boolean true), marked (.text "true")]⟩ } _ rfl
    (fun r hr _ => hstored r hr) hclear
  refine ⟨hplan, rows, hrows,
    (hmem _).2 ⟨List.mem_cons_self, ⟨rfl, rfl, rfl⟩, List.forall_mem_singleton.2 ?_⟩,
    fun hr => ?_⟩
  · obtain ⟨-, hholds, hown⟩ := Store.holds_own (f := ⟨"won", .boolean true⟩) ⟨trivial, rfl⟩
    exact iff_of_true hholds hown
  · have hword := ((hmem _).1 hr).2.2 ⟨"won", .boolean true⟩ List.mem_cons_self
    have hapart : ¬ (⟨"won", .boolean true⟩ : Filter).Confuses (marked (.text "true")).fields := by
      rintro ⟨d, hd, hblurred | hrewritten⟩
      · cases hd
        cases hblurred with
        | spelled hcollection _ => cases hcollection
      · cases hd
        cases hrewritten.1
    obtain ⟨d, hd, hequal⟩ := hword.2 hapart
    cases hd
    cases hequal

/-- A one is taken for the truth. -/
theorem one_for_truth : ¬ ∀ (fields : List FieldMeta) (spec : RawSpec) (cap : Int)
    (now : Moment) (plan : Plan), Plan.ofRaw fields spec cap now = .ok plan → ∀ p ∈ plan.predicates,
    ∀ f ∈ p.filters, f.value.Stored →
      ∀ d : Document, d.Stored → (passes d [f] = .ok true ↔ f.Holds d) := by
  intro hall
  have hone : (marked (.ofInt 1)).fields.Stored := stored_marked ⟨trivial, rfl⟩
  have hpasses : passes (marked (.ofInt 1)).fields [⟨"won", .boolean true⟩] = .ok true := rfl
  obtain ⟨d, hd, hequal⟩ := (hall wonFields _ 100 ⟨0, some 0⟩ _ (marked_planned _) _ List.mem_cons_self _
    List.mem_cons_self ⟨trivial, rfl⟩ _ hone).1 hpasses
  cases hd
  cases hequal

end Widget

end RecordDesk
