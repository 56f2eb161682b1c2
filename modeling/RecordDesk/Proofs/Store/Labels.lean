import RecordDesk.Proofs.Document.PlainTexts
import RecordDesk.Proofs.Store.Unmeasured
set_option autoImplicit false

/-!
Labels. A chart has one bar for the records whose group values are shown alike and are numbers all or none:
a number and a text of its digits are shown alike and have a bar each.
-/

namespace RecordDesk

open Std Widget

namespace Cell

def isNumber : Cell → Bool
  | .number _ => true
  | _ => false

def Legible : Cell → Prop
  | .number n => n.Shown
  | _ => True

theorem Legible.ordered {c : Cell} (h : c.Legible) : c.Ordered := by
  cases c with
  | number n => exact Number.Shown.number h
  | null | text s => trivial

theorem shown_of_word {i : Int} (h : fitsWord i = true) : i.natAbs < Number.wholeBound := by
  have hbound : Number.wholeBound = 1000000000000000000000 := by decide
  unfold fitsWord wordLimit at h
  simp only [Bool.and_eq_true, decide_eq_true_eq] at h
  omega

theorem legible_label {d : Document} (h : (label d).Ordered) : (label d).Legible := by
  cases d with
  | number n =>
    refine ⟨h, fun i hi => ?_⟩
    cases n with
    | float x => cases hi
    | int j =>
      cases hfits : fitsWord j with
      | true =>
        rw [ofNumber_int hfits] at hi
        obtain rfl := Number.int.inj hi
        exact shown_of_word hfits
      | false =>
        rw [ofNumber_wide hfits] at hi
        cases hi
  | _ => trivial

theorem matches?_iff_shown {a b : Cell} (ha : a.Legible) (hb : b.Legible) (hfull : a ≠ .null)
    (hfull' : b ≠ .null) : a.matches? b = true ↔ a.shown = b.shown ∧ a.isNumber = b.isNumber := by
  cases a with
  | null => exact absurd rfl hfull
  | number m =>
    cases b with
    | null => exact absurd rfl hfull'
    | number n => exact (Number.plainText_inj ha hb).symm.trans (and_iff_left rfl).symm
    | text t => exact iff_of_false Bool.false_ne_true fun h => Bool.noConfusion h.2
  | text s =>
    cases b with
    | null => exact absurd rfl hfull'
    | number n => exact iff_of_false Bool.false_ne_true fun h => Bool.noConfusion h.2
    | text t => exact beq_iff_eq.trans (and_iff_left rfl).symm

end Cell

namespace Document

def isNumber : Document → Bool
  | .number _ => true
  | _ => false

/-- A truth value, a number of 64 bits, or a text without NUL. -/
def isGroupable : Document → Bool
  | .boolean _ => true
  | .number (.int i) => Cell.fitsWord i
  | .number (.float _) => true
  | .text s => s.toList.all fun c => c.toNat != 0
  | _ => false

theorem untilNul_eq {s : String} (h : s.toList.all (fun c => c.toNat != 0) = true) : untilNul s = s := by
  rw [untilNul, List.takeWhile_eq_self_iff.2 (List.all_eq_true.1 h), String.ofList_toList]

theorem label_of_groupable {d : Document} (h : d.isGroupable = true) :
    (Cell.label d).shown = (Value.of d).asText ∧
    (Cell.label d).isNumber = d.isNumber ∧ Cell.label d ≠ .null := by
  cases d with
  | boolean b => exact ⟨rfl, rfl, Cell.noConfusion⟩
  | number n =>
    refine ⟨?_, rfl, Cell.noConfusion⟩
    cases n with
    | float x => rfl
    | int i =>
      change (Cell.ofNumber (.int i)).plainText = _
      rw [Cell.ofNumber_int h]
      rfl
  | text s => exact ⟨untilNul_eq h, rfl, Cell.noConfusion⟩
  | null | date t | decimal e | wrapped v | list items | object members => cases h

end Document

theorem flatMap_filter_perm {α β : Type} {belongs : β → α → Bool} {bs : List β} {as : List α}
    (hcover : ∀ a ∈ as, ∃ b ∈ bs, belongs b a = true)
    (hapart : bs.Pairwise fun b c => ∀ a ∈ as, belongs b a = true → belongs c a = false) :
    (bs.flatMap fun b => as.filter (belongs b)).Perm as := by
  induction bs generalizing as with
  | nil =>
    obtain rfl : as = [] := List.eq_nil_iff_forall_not_mem.2 fun a ha => by
      obtain ⟨b, hb, -⟩ := hcover a ha
      exact List.not_mem_nil hb
    exact .refl _
  | cons b rest ih =>
    obtain ⟨hb, hrest⟩ := List.pairwise_cons.1 hapart
    -- None of the others has anything of what the first one has.
    have hothers : (rest.flatMap fun c => as.filter (belongs c)) =
        rest.flatMap fun c => (as.filter fun a => !belongs b a).filter (belongs c) := by
      refine List.flatMap_congr fun c hc => ?_
      rw [List.filter_filter]
      refine List.filter_congr fun a ha => ?_
      cases hba : belongs b a with
      | false => simp
      | true => simp [hb c hc a ha hba]
    rw [List.flatMap_cons, hothers]
    refine ((ih (fun a ha => ?_) ?_).append_left _).trans (List.filter_append_perm (belongs b) as)
    · obtain ⟨ha, hnot⟩ := List.mem_filter.1 ha
      obtain ⟨c, hc, hca⟩ := hcover a ha
      rcases List.mem_cons.1 hc with rfl | hc
      · rw [hca] at hnot
        cases hnot
      · exact ⟨c, hc, hca⟩
    · exact hrest.imp fun hcd a ha => hcd a (List.mem_filter.1 ha).1

namespace Store

open Cell

variable {s : Store} {q : AggregateQuery} {key : String} {rows : List RecordRow}

theorem legible_label_of (r : RecordRow) : (r.label key).Legible := by
  unfold RecordRow.label RecordRow.sortCell
  dsimp only
  split
  · rename_i c hc
    have hordered := ordered_field hc
    obtain ⟨found, -, hc⟩ := ok_of_bind hc
    cases hc
    cases found with
    | none => trivial
    | some d => exact legible_label hordered
  · trivial

/-- A bar of a chart: its label, the records that it stands for, and their figure. -/
structure Bar where
  label : Cell
  records : List RecordRow
  figure : Cell

/-- Labels that can be told apart: a number and a text can, and others that are not shown alike. -/
def Bar.Apart (a b : Bar) : Prop := a.label.isNumber = b.label.isNumber → a.label.shown ≠ b.label.shown

instance : Std.Symm Bar.Apart := ⟨fun _ _ h hkind => (h hkind.symm).symm⟩

/-- The records that take part, split up into bars. -/
structure Parted (q : AggregateQuery) (key : String) (rows : List RecordRow) (bars : List Bar) : Prop where
  split : (bars.flatMap (·.records)).Perm (rows.filter (takesPart q key))
  full : ∀ b ∈ bars, b.records ≠ []
  named : ∀ b ∈ bars, ∀ r ∈ b.records,
    (r.label key).shown = b.label.shown ∧ (r.label key).isNumber = b.label.isNumber
  apart : bars.Pairwise Bar.Apart
  figures : ∀ b ∈ bars, compute q.metric (b.records.map (weight q)) = .ok b.figure

theorem label_ne_null {r : RecordRow} (h : takesPart q key r = true) : r.label key ≠ .null := by
  rw [takesPart, Bool.and_eq_true] at h
  exact bne_iff_ne.1 h.1

theorem members_eq (rows : List RecordRow) (label : Cell) : members q key rows label =
    (rows.filter (takesPart q key)).filter fun r => (r.label key).matches? label := by
  rw [members, List.filter_filter]
  exact List.filter_congr fun r _ => Bool.and_comm _ _

section

variable {cells : List (Cell × Cell)} (h : figures q key rows = .ok cells)

include h

theorem labels_of_figures : cells.map (·.1) = (gather (labelled q key rows)).map (·.1) := by
  rw [← List.filterMap_eq_map, ← List.filterMap_eq_map]
  refine filterMap_of_mapM (fun g c hgc => ?_) h
  obtain ⟨figure, -, hgc⟩ := ok_of_bind hgc
  cases hgc
  rfl

theorem figure_of_members {c : Cell × Cell} (hc : c ∈ cells) :
    (∃ r ∈ members q key rows c.1, r.label key = c.1) ∧
      compute q.metric ((members q key rows c.1).map (weight q)) = .ok c.2 := by
  have hgathered := gathered_labelled q key rows
  obtain ⟨g, hg, hfigure⟩ := mem_of_mapM h c hc
  obtain ⟨figure, hcompute, hfigure⟩ := ok_of_bind hfigure
  cases hfigure
  rw [(hgathered.cells g hg).2] at hcompute
  exact ⟨members_ne_nil hgathered hg, hcompute⟩

theorem legible_of_figures {c : Cell × Cell} (hc : c ∈ cells) : c.1.Legible ∧ c.1 ≠ .null := by
  obtain ⟨⟨r, hr, hlabel⟩, -⟩ := figure_of_members h hc
  rw [← hlabel]
  exact ⟨legible_label_of r, label_ne_null (mem_members.1 hr).2.1⟩

theorem apart_of_figures : cells.Pairwise fun c d => standing c.1 d.1 = .lt := by
  have hgathered := gathered_labelled q key rows
  have hgroups : ((gather (labelled q key rows)).map (·.1)).Pairwise fun a b => standing a b = .lt :=
    List.pairwise_map.2 hgathered.apart
  rw [← labels_of_figures h] at hgroups
  exact List.pairwise_map.1 hgroups

theorem split_of_figures :
    (cells.flatMap fun c => members q key rows c.1).Perm (rows.filter (takesPart q key)) := by
  have hgathered := gathered_labelled q key rows
  simp only [members_eq]
  refine flatMap_filter_perm (fun r hr => ?_)
    ((apart_of_figures h).imp_of_mem fun {c d} hc hd hlt r hr hmatch => ?_)
  · obtain ⟨g, hg, hsame⟩ := hgathered.covers (r.label key, weight q r) (List.mem_map_of_mem hr)
    obtain ⟨c, hc, hlabel⟩ :=
      List.mem_map.1 (labels_of_figures h ▸ List.mem_map_of_mem hg : g.1 ∈ cells.map (·.1))
    refine ⟨c, hc, ?_⟩
    rw [matches?_label (legible_of_figures h hc).1.ordered (List.mem_filter.1 hr).2, hlabel]
    exact hsame
  · have htakes := (List.mem_filter.1 hr).2
    rw [matches?_label (legible_of_figures h hc).1.ordered htakes] at hmatch
    rw [Bool.eq_false_iff, ne_eq, matches?_label (legible_of_figures h hd).1.ordered htakes,
      TransCmp.congr_left hmatch, hlt]
    exact Ordering.noConfusion

theorem parted_of_figures : Parted q key rows (cells.map fun c => ⟨c.1, members q key rows c.1, c.2⟩) where
  split := by
    rw [List.flatMap_map]
    exact split_of_figures h
  full := List.forall_mem_map.2 fun c hc => by
    obtain ⟨⟨r, hr, -⟩, -⟩ := figure_of_members h hc
    exact List.ne_nil_of_mem hr
  named := List.forall_mem_map.2 fun c hc r hr => by
    obtain ⟨-, htakes, hmatch⟩ := mem_members.1 hr
    obtain ⟨hlegible, hfull⟩ := legible_of_figures h hc
    exact (matches?_iff_shown (legible_label_of r) hlegible (label_ne_null htakes) hfull).1 hmatch
  apart := List.pairwise_map.2 <| (apart_of_figures h).imp_of_mem fun {c d} hc hd hlt hkind hshown => by
    obtain ⟨hlegible, hfull⟩ := legible_of_figures h hc
    obtain ⟨hlegible', hfull'⟩ := legible_of_figures h hd
    have hmatch := (matches?_iff_shown hlegible hlegible' hfull hfull').2 ⟨hshown, hkind⟩
    rw [matches?_iff hlegible.ordered hlegible'.ordered hfull, hlt] at hmatch
    cases hmatch
  figures := List.forall_mem_map.2 fun c hc => (figure_of_members h hc).2

end

theorem Parted.together {bars : List Bar} (h : Parted q key rows bars) {r r' : RecordRow} (hr : r ∈ rows)
    (hr' : r' ∈ rows) (htakes : takesPart q key r = true) (htakes' : takesPart q key r' = true) :
    (∃ b ∈ bars, r ∈ b.records ∧ r' ∈ b.records) ↔
      (r.label key).shown = (r'.label key).shown ∧ (r.label key).isNumber = (r'.label key).isNumber := by
  have hfound {a : RecordRow} (ha : a ∈ rows) (htakes : takesPart q key a = true) :
      ∃ b ∈ bars, a ∈ b.records :=
    List.mem_flatMap.1 (h.split.mem_iff.2 (List.mem_filter.2 ⟨ha, htakes⟩))
  constructor
  · rintro ⟨b, hb, hrb, hrb'⟩
    obtain ⟨hshown, hkind⟩ := h.named b hb r hrb
    obtain ⟨hshown', hkind'⟩ := h.named b hb r' hrb'
    exact ⟨hshown.trans hshown'.symm, hkind.trans hkind'.symm⟩
  · rintro ⟨hshown, hkind⟩
    obtain ⟨b, hb, hrb⟩ := hfound hr htakes
    obtain ⟨b', hb', hrb'⟩ := hfound hr' htakes'
    obtain ⟨htext, hnumber⟩ := h.named b hb r hrb
    obtain ⟨htext', hnumber'⟩ := h.named b' hb' r' hrb'
    have hsame : b = b' := by
      by_contra hne
      exact h.apart.forall hb hb' hne (hnumber.symm.trans (hkind.trans hnumber'))
        (htext.symm.trans (hshown.trans htext'))
    exact ⟨b, hb, hrb, hsame ▸ hrb'⟩

theorem Parted.perm {bars bars' : List Bar} (hperm : bars.Perm bars') (h : Parted q key rows bars) :
    Parted q key rows bars' where
  split := (hperm.flatMap_right _).symm.trans h.split
  full b hb := h.full b (hperm.mem_iff.2 hb)
  named b hb := h.named b (hperm.mem_iff.2 hb)
  apart := (hperm.pairwise_iff fun {_ _} => Std.Symm.symm _ _).1 h.apart
  figures b hb := h.figures b (hperm.mem_iff.2 hb)

theorem parted_of_grouped {groups : List Group} (h : s.grouped q key = .ok groups) : ∃ limit bars,
    q.limit.mapM Quantity.whole = .ok limit ∧ Parted q key (s.chosen q.predicate) bars ∧
      groups = (bounded limit bars).map fun b => ⟨b.label.shown, shownFigure b.figure⟩ := by
  obtain ⟨limit, rows, found, cells, hlimit, -, hrows, -, hcells, rfl⟩ := grouped_ok h
  obtain rfl := select_eq hrows
  have hperm := (List.mergeSort_perm cells (groupBefore q.sortOrder)).symm
  refine ⟨limit, _, hlimit, (parted_of_figures hcells).perm (hperm.map _), ?_⟩
  rw [bounded_map, List.map_map]
  rfl

theorem portable_of_field {view : Document → Cell} {d : Document} {c : Cell}
    (h : Cell.field view key d = .ok c) : d.isPortable = true := by
  obtain ⟨found, hfound, -⟩ := ok_of_bind h
  unfold Path.find at hfound
  split at hfound
  · cases hfound
  · rename_i hportable
    simpa using hportable

theorem label_plain (hkey : Path.Plain key) {r : RecordRow} (h : ∃ entry, labelled? q key r = .ok entry) :
    r.label key = Cell.seen Cell.label (r.fields.get? key) := by
  obtain ⟨entry, h⟩ := h
  obtain ⟨c, hc, -⟩ := ok_of_bind h
  refine label_of_field ?_
  rw [Cell.field_plain Cell.label hkey (portable_of_field hc)]

theorem takesPart_iff {r : RecordRow} (h : r.label key ≠ .null) :
    takesPart q key r = true ↔ q.metric = .count ∨ (numberOf q.targetField r).isSome = true := by
  rw [takesPart, bne_iff_ne.2 h, Bool.true_and, Bool.or_eq_true, beq_iff_eq, numberOf]
  refine or_congr_right ?_
  cases hm : measureOf q.targetField r with
  | error fault => rfl
  | ok c => rcases measureOf_ok hm with rfl | ⟨n, rfl⟩ <;> rfl

/-- A chart shows bars into which the records that take part are split up. Two records share a bar just if
they are labelled alike and with numbers both or neither, and no two bars are labelled alike with numbers
both or neither. Under a plain key a truth value, a number of 64 bits and a text without NUL are labelled
with their text. -/
theorem grouped_labelled (s : Store) (q : AggregateQuery) (key : String) (groups : List Group)
    (h : s.grouped q key = .ok groups) : ∃ limit bars, q.limit.mapM Quantity.whole = .ok limit ∧
      groups = (bounded limit bars).map (fun b => ⟨b.label.shown, shownFigure b.figure⟩) ∧
      Parted q key (s.chosen q.predicate) bars ∧
      (∀ r ∈ s.chosen q.predicate, ∀ r' ∈ s.chosen q.predicate, takesPart q key r = true →
        takesPart q key r' = true → ((∃ b ∈ bars, r ∈ b.records ∧ r' ∈ b.records) ↔
          (r.label key).shown = (r'.label key).shown ∧ (r.label key).isNumber = (r'.label key).isNumber)) ∧
      (Path.Plain key → ∀ r ∈ s.chosen q.predicate, ∀ d, r.fields.get? key = some d → d.isGroupable = true →
        (takesPart q key r = true ↔ q.metric = .count ∨ (numberOf q.targetField r).isSome = true) ∧
        (r.label key).shown = (Value.of d).asText ∧ (r.label key).isNumber = d.isNumber) := by
  obtain ⟨limit, bars, hlimit, hparted, hgroups⟩ := parted_of_grouped h
  refine ⟨limit, bars, hlimit, hgroups, hparted,
    fun r hr r' hr' htakes htakes' => hparted.together hr hr' htakes htakes', fun hkey r hr d hd hgroup => ?_⟩
  obtain ⟨-, rows, found, -, -, -, hrows, hfound, -⟩ := grouped_ok h
  obtain rfl := select_eq hrows
  have hlabel := label_plain hkey (ok_of_mapM hfound r hr)
  obtain ⟨hshown, hkind, hfull⟩ := Document.label_of_groupable hgroup
  rw [hd] at hlabel
  rw [hlabel]
  exact ⟨takesPart_iff (hlabel ▸ hfull), hshown, hkind⟩

def alikeStages : List Document :=
  [.ofInt 1, .number (.float (Binary64.ofInt 1)), .text "1", .boolean true, .text "true"]

def everyStage : AggregateQuery := ⟨everything, .count, none, some "stage", none, .desc⟩

theorem portable_of_stages (stages : List Document) (h : ∀ d ∈ stages, d.isPortable = true) :
    Portable (holding (stages.map atStage)) everyStage "stage" where
  limit := ⟨none, rfl, rfl⟩
  records := ⟨_, rfl, fun r hr _ => by
    obtain ⟨d, hd, rfl⟩ := List.mem_map.1 hr
    simpa [atStage, Document.isPortable, Document.portableMembers] using h d hd⟩
  key := by simp [Path.Nameable]
  target := fun _ h => by cases h
  filters := fun _ hf => (List.not_mem_nil hf).elim

theorem grouped_stages (stages : List Document) (h : ∀ d ∈ stages, d.isPortable = true) :
    ∃ groups, (holding (stages.map atStage)).grouped everyStage "stage" = .ok groups :=
  grouped_of_answerable (portable_of_stages stages h).answerable (.inl rfl) fun hsum =>
    Metric.noConfusion hsum

theorem chosen_stages (stages : List Document) :
    (holding (stages.map atStage)).chosen everything = stages.map atStage := by
  refine chosen_holding (fun r hr => ?_) fun r hr => ?_ <;> obtain ⟨d, -, rfl⟩ := List.mem_map.1 hr <;> rfl

/-- The integer and the fraction share a bar, and so do the truth value and its word; the digit as a text
has its own. -/
theorem alike_labelled : ∃ groups bars, (holding (alikeStages.map atStage)).grouped everyStage "stage" =
    .ok groups ∧ groups = bars.map (fun b => ⟨b.label.shown, shownFigure b.figure⟩) ∧
    Parted everyStage "stage" (alikeStages.map atStage) bars ∧
    (∃ b ∈ bars, atStage (.ofInt 1) ∈ b.records ∧ atStage (.number (.float (Binary64.ofInt 1))) ∈ b.records) ∧
    (∃ b ∈ bars, atStage (.boolean true) ∈ b.records ∧ atStage (.text "true") ∈ b.records) ∧
    ¬ ∃ b ∈ bars, atStage (.ofInt 1) ∈ b.records ∧ atStage (.text "1") ∈ b.records := by
  obtain ⟨groups, hgroups⟩ := grouped_stages alikeStages (by decide +kernel)
  obtain ⟨limit, bars, hlimit, hshown, hparted, htogether, hplain⟩ :=
    grouped_labelled _ everyStage "stage" groups hgroups
  obtain rfl := Except.ok.inj hlimit
  have hchosen : (holding (alikeStages.map atStage)).chosen everyStage.predicate = alikeStages.map atStage :=
    chosen_stages alikeStages
  rw [hchosen] at hparted htogether hplain
  have hat {d : Document} (hd : d ∈ alikeStages) : atStage d ∈ alikeStages.map atStage :=
    List.mem_map_of_mem hd
  have hshare {d e : Document} (hd : d ∈ alikeStages) (he : e ∈ alikeStages) (hgroup : d.isGroupable = true)
      (hgroup' : e.isGroupable = true) : (∃ b ∈ bars, atStage d ∈ b.records ∧ atStage e ∈ b.records) ↔
        (Value.of d).asText = (Value.of e).asText ∧ d.isNumber = e.isNumber := by
    obtain ⟨htakes, htext, hkind⟩ := hplain (by decide) _ (hat hd) d rfl hgroup
    obtain ⟨htakes', htext', hkind'⟩ := hplain (by decide) _ (hat he) e rfl hgroup'
    rw [htogether _ (hat hd) _ (hat he) (htakes.2 (.inl rfl)) (htakes'.2 (.inl rfl)), htext,
      htext', hkind, hkind']
  have hgroup : ∀ d ∈ alikeStages, d.isGroupable = true := by decide +kernel
  have hmem : Document.ofInt 1 ∈ alikeStages ∧ .number (.float (Binary64.ofInt 1)) ∈ alikeStages ∧
      .text "1" ∈ alikeStages ∧ .boolean true ∈ alikeStages ∧ .text "true" ∈ alikeStages := by
      simp [alikeStages]
  obtain ⟨hint, hfraction, hdigit, htrue, hword⟩ := hmem
  refine ⟨groups, bars, hgroups, hshown, hparted, ?_, ?_, ?_⟩
  · exact (hshare hint hfraction (hgroup _ hint) (hgroup _ hfraction)).2 (by decide +kernel)
  · exact (hshare htrue hword (hgroup _ htrue) (hgroup _ hword)).2 (by decide +kernel)
  · rw [hshare hint hdigit (hgroup _ hint) (hgroup _ hdigit)]
    exact fun h => Bool.noConfusion h.2

/-- A number and its digits have two bars of one label. -/
theorem digit_labelled_twice : ¬ ∀ (s : Store) (q : AggregateQuery) (key : String) (groups : List Group),
    q.limit = none → s.grouped q key = .ok groups → (groups.map (·.label)).Nodup := by
  intro hall
  obtain ⟨groups, hgroups⟩ := grouped_stages [.ofInt 1, .text "1"] (by decide +kernel)
  have hnodup := hall _ everyStage "stage" groups rfl hgroups
  obtain ⟨limit, bars, hlimit, hparted, rfl⟩ := parted_of_grouped hgroups
  obtain rfl := Except.ok.inj hlimit
  have hchosen : (holding ([.ofInt 1, .text "1"].map atStage)).chosen everyStage.predicate =
      [atStage (.ofInt 1), atStage (.text "1")] := chosen_stages _
  rw [hchosen] at hparted
  rw [bounded, List.map_map] at hnodup
  have hfound {d : Document} (hd : atStage d ∈ [atStage (.ofInt 1), atStage (.text "1")])
      (htakes : takesPart everyStage "stage" (atStage d) = true) : ∃ b ∈ bars, atStage d ∈ b.records :=
    List.mem_flatMap.1 (hparted.split.mem_iff.2 (List.mem_filter.2 ⟨hd, htakes⟩))
  obtain ⟨b, hb, hone⟩ := hfound (d := .ofInt 1) (by simp) (by decide +kernel)
  obtain ⟨c, hc, hdigit⟩ := hfound (d := .text "1") (by simp) (by decide +kernel)
  obtain ⟨htext, hkind⟩ := hparted.named b hb _ hone
  obtain ⟨htext', hkind'⟩ := hparted.named c hc _ hdigit
  have halike : ((atStage (.ofInt 1)).label "stage").shown = ((atStage (.text "1")).label "stage").shown := by
    decide +kernel
  -- Bars of one label would be one bar, which is then of a number and of a text.
  obtain rfl := List.inj_on_of_nodup_map hnodup hb hc (htext.symm.trans (halike.trans htext'))
  have hmixed : ((atStage (.ofInt 1)).label "stage").isNumber =
    ((atStage (.text "1")).label "stage").isNumber :=
    hkind.trans hkind'.symm
  revert hmixed
  decide +kernel

end Store

end RecordDesk
