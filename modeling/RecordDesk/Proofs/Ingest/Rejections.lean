import RecordDesk.Proofs.Ingest.Checks
set_option autoImplicit false

/-!
Which writes are rejected. The checks of a write only look, and they come before everything else that it
does; so a write that does not pass them leaves no trace, and no rule hears of it.
-/

namespace RecordDesk

namespace Ingest

def insertion (engine : Engine) (tenantId entityId : String) (fields : Document) (userId : Option String) :
    Job Written := do
  let creator ← knownUser userId
  let stored ← (storedFields fields : Except Fault Document)
  let now := (← get).now.naive
  let row ← insertRecord none ⟨"", tenantId, entityId, stored, creator, now, none⟩
  return ⟨row, ← applyRules engine row "create" userId⟩

def replacement (engine : Engine) (nans : NaNs) (r : RecordRow) (fields : Document) (userId : Option String) :
    Job Written := do
  let stored ← (storedFields fields : Except Fault Document)
  let row ← replaceFields nans r stored
  return ⟨row, ← applyRules engine row "update" userId⟩

theorem create_eq (engine : Engine) (tenantId entityId : String) (fields : Document)
    (userId : Option String) : create engine tenantId entityId fields userId = (do
      let _ ← requireEntity tenantId entityId
      requireFields entityId fields
      insertion engine tenantId entityId fields userId) := rfl

theorem update_eq (engine : Engine) (nans : NaNs) (tenantId entityId id : String) (fields : Document)
    (userId : Option String) : update engine tenantId entityId id fields userId nans = (do
      let _ ← requireEntity tenantId entityId
      let r ← requireRecord tenantId entityId id
      requireFields entityId fields
      let _ ← (r.fields.pairsOrNone : Except Fault Entries)
      replacement engine nans r fields userId) := rfl

theorem failsOnly_insertion (engine : Engine) (tenantId entityId : String) (members : Members)
    (userId : Option String) :
    Job.FailsOnly (¬ Fault.Rejects ·) (insertion engine tenantId entityId (.object members) userId) :=
  .bind (failsOnly_knownUser userId) fun _ => .bind (failsOnly_storedFields members) fun _ =>
    .bind .get fun _ => .bind (failsOnly_insertRecord _) fun _ => .bind (.state _) fun _ => .pure _

theorem failsOnly_replacement (engine : Engine) (nans : NaNs) (r : RecordRow) (members : Members)
    (userId : Option String) :
    Job.FailsOnly (¬ Fault.Rejects ·) (replacement engine nans r (.object members) userId) :=
  .bind (failsOnly_storedFields members) fun _ => .bind (failsOnly_replaceFields nans r _) fun _ =>
    .bind (.state _) fun _ => .pure _

namespace Operation

variable (tenantId entityId : String) (members : Members) (s : Store)

/-- What a write is about is there: the entity in the tenant, and the record that is replaced in both. -/
def Found : Operation → Prop
  | .create => s.entities.Has (EntityOf tenantId entityId)
  | .update id _ =>
    s.entities.Has (EntityOf tenantId entityId) ∧ s.records.Has (RecordOf tenantId entityId id)

def NotFound : Operation → Prop
  | .create => s.entities.Lacks (EntityOf tenantId entityId)
  | .update id _ => s.entities.Lacks (EntityOf tenantId entityId) ∨
      s.entities.Has (EntityOf tenantId entityId) ∧ s.records.Lacks (RecordOf tenantId entityId id)

/-- The fields that are replaced are no object, and none can be made of them. -/
def Stuck : Operation → Prop
  | .create => False
  | .update id _ => s.records.Has fun r => RecordOf tenantId entityId id r ∧ Unpaired r.fields

/-- What a write is about is there, but a required field is missing; or none is, and yet the replaced fields
are in its way. -/
def Unfit (op : Operation) : Prop := op.Found tenantId entityId s ∧ (s.fields.Has (Missed entityId members) ∨
  s.fields.Lacks (Missed entityId members) ∧ op.Stuck tenantId entityId s)

theorem Stuck.has_other {op : Operation} (h : op.Stuck tenantId entityId s) :
    s.records.Has fun r => ∀ own, r.fields ≠ .object own := by
  cases op with
  | create => exact h.elim
  | update id nans =>
    obtain ⟨rows, hrows, r, hr, -, i, n, hpairs⟩ := h
    refine ⟨rows, hrows, r, hr, fun own hown => ?_⟩
    rw [hown, Document.pairsOrNone] at hpairs
    split at hpairs <;> cases hpairs

theorem NotFound.not_found {op : Operation} (h : op.NotFound tenantId entityId s) :
    ¬ op.Found tenantId entityId s := by
  cases op with
  | create => exact fun hfound => Table.Has.not_lacks hfound h
  | update id nans =>
    rintro ⟨hentity, hrecord⟩
    obtain hlacks | ⟨-, hlacks⟩ := h
    · exact hentity.not_lacks hlacks
    · exact hrecord.not_lacks hlacks

end Operation

/-- What some part of a write comes to, whatever the engine: it is rejected under one of two conditions,
with the desk as it was; or it goes on, and what it may still fail with is no rejection. -/
inductive Screening (d : Desk) (work : Engine → Job Written) (absent unfit : Prop) : Prop
  | absent {what : String} (h : absent) (hfit : ¬ unfit)
    (hrun : ∀ engine, (work engine).run d = (.error (.notFound what), d))
  | unfit {fault : Fault} (hthere : ¬ absent) (h : unfit) (hvalue : fault.OfValue)
    (hrun : ∀ engine, (work engine).run d = (.error fault, d))
  | passed (hthere : ¬ absent) (hfit : ¬ unfit)
    (hrun : ∀ engine fault, ((work engine).run d).1 = .error fault → ¬ fault.Rejects)

namespace Screening

variable {α : Type} {d : Desk} {work : Engine → Job Written} {absent unfit : Prop}

theorem congr (h : Screening d work absent unfit) {absent' unfit' : Prop} (ha : absent ↔ absent')
    (hu : unfit ↔ unfit') : Screening d work absent' unfit' := by
  cases h with
  | absent h hfit hrun => exact .absent (ha.1 h) (mt hu.2 hfit) hrun
  | unfit hthere h hvalue hrun => exact .unfit (mt ha.2 hthere) (hu.1 h) hvalue hrun
  | passed hthere hfit hrun => exact .passed (mt ha.2 hthere) (mt hu.2 hfit) hrun

theorem clean (h : ∀ engine, Job.FailsOnly (¬ Fault.Rejects ·) (work engine)) :
    Screening d work False False :=
  .passed not_false not_false fun engine fault => h engine d fault

theorem after {look : Job α} {a : α} (rest : α → Engine → Job Written) (hlook : look.run d = (.ok a, d))
    (h : Screening d (rest a) absent unfit) :
    Screening d (fun engine => look >>= fun a => rest a engine) absent unfit := by
  have hrest (engine : Engine) : (look >>= fun a => rest a engine).run d = (rest a engine).run d :=
    Job.run_bind hlook
  cases h with
  | absent h hfit hrun => exact .absent h hfit fun engine => (hrest engine).trans (hrun engine)
  | unfit hthere h hvalue hrun =>
    exact .unfit hthere h hvalue fun engine => (hrest engine).trans (hrun engine)
  | passed hthere hfit hrun =>
    exact .passed hthere hfit fun engine fault h => hrun engine fault (hrest engine ▸ h)

theorem failed {look : Job α} {fault : Fault} (rest : α → Engine → Job Written)
    (hlook : look.run d = (.error fault, d)) (hfault : ¬ fault.Rejects) (hthere : ¬ absent)
    (hfit : ¬ unfit) : Screening d (fun engine => look >>= fun a => rest a engine) absent unfit := by
  refine .passed hthere hfit fun engine fault' h => ?_
  rw [Job.run_bind_error hlook] at h
  cases h
  exact hfault

theorem entity (hkeys : d.store.entities.KeyedBy (·.id)) (tenantId entityId : String)
    (rest : EntityRow → Engine → Job Written) (h : ∀ e, Screening d (rest e) absent unfit) :
    Screening d (fun engine => requireEntity tenantId entityId >>= fun e => rest e engine)
      (d.store.entities.Lacks (EntityOf tenantId entityId) ∨
        d.store.entities.Has (EntityOf tenantId entityId) ∧ absent)
      (d.store.entities.Has (EntityOf tenantId entityId) ∧ unfit) := by
  rcases requireEntity_cases hkeys tenantId entityId with
    ⟨hgone, hrun⟩ | ⟨hlacks, hrun⟩ | ⟨hhas, e, hrun⟩
  · refine .failed rest hrun not_false ?_ fun hboth => Table.not_has_of_gone hgone hboth.1
    rintro (hlacks | ⟨hhas, -⟩)
    · exact Table.not_lacks_of_gone hgone hlacks
    · exact Table.not_has_of_gone hgone hhas
  · exact .absent (.inl hlacks) (fun hboth => hboth.1.not_lacks hlacks) fun engine => Job.run_bind_error hrun
  · refine (Screening.after rest hrun (h e)).congr ⟨fun ha => .inr ⟨hhas, ha⟩, ?_⟩ (and_iff_right hhas).symm
    rintro (hlacks | ⟨-, ha⟩)
    · exact absurd hlacks hhas.not_lacks
    · exact ha

theorem record {unfit : RecordRow → Prop} (hkeys : d.store.records.KeyedBy (·.id))
    (tenantId entityId id : String) (rest : RecordRow → Engine → Job Written)
    (h : ∀ r, Screening d (rest r) False (unfit r)) :
    Screening d (fun engine => requireRecord tenantId entityId id >>= fun r => rest r engine)
      (d.store.records.Lacks (RecordOf tenantId entityId id))
      (d.store.records.Has fun r => RecordOf tenantId entityId id r ∧ unfit r) := by
  rcases requireRecord_cases hkeys tenantId entityId id with
    ⟨hgone, hrun⟩ | ⟨hlacks, hrun⟩ | ⟨hhas, rows, r, hrows, hr, hof, hrun⟩
  · exact .failed rest hrun not_false (Table.not_lacks_of_gone hgone) (Table.not_has_of_gone hgone)
  · refine .absent hlacks (fun hhas => ?_) fun engine => Job.run_bind_error hrun
    obtain ⟨rows, hrows, r, hr, hof, -⟩ := hhas
    exact Table.Has.not_lacks ⟨rows, hrows, r, hr, hof⟩ hlacks
  · refine (Screening.after rest hrun (h r)).congr (iff_of_false not_false hhas.not_lacks) ?_
    constructor
    · exact fun hu => ⟨rows, hrows, r, hr, hof, hu⟩
    · -- There is only one record of that name.
      rintro ⟨rows', hrows', r', hr', hof', hu⟩
      cases hrows.symm.trans hrows'
      rwa [List.inj_on_of_nodup_map (hkeys rows hrows) hr hr' (hof.1.trans hof'.1.symm)]

theorem fields (entityId : String) (members : Members) (h : Screening d work False unfit) :
    Screening d (fun engine => requireFields entityId (.object members) >>= fun _ => work engine) False
      (d.store.fields.Has (Missed entityId members) ∨
        d.store.fields.Lacks (Missed entityId members) ∧ unfit) := by
  rcases requireFields_cases d entityId members with ⟨hgone, hrun⟩ | ⟨hmissed, keys, hrun⟩ | ⟨hcomplete, hrun⟩
  · refine .failed (fun _ => work) hrun not_false not_false ?_
    rintro (hmissed | ⟨hcomplete, -⟩)
    · exact Table.not_has_of_gone hgone hmissed
    · exact Table.not_lacks_of_gone hgone hcomplete
  · have hvalue : Fault.OfValue (.missingRequired keys) := trivial
    exact .unfit not_false (.inl hmissed) hvalue fun engine => Job.run_bind_error hrun
  · refine (Screening.after (fun _ => work) hrun h).congr Iff.rfl ⟨fun hu => .inr ⟨hcomplete, hu⟩, ?_⟩
    rintro (hmissed | ⟨-, hu⟩)
    · exact absurd hcomplete hmissed.not_lacks
    · exact hu

theorem pairs (old : Document) (h : Screening d work False False) :
    Screening d (fun engine => (liftM old.pairsOrNone : Job Entries) >>= fun _ => work engine) False
      (Unpaired old) := by
  cases hpairs : old.pairsOrNone with
  | ok entries =>
    have hrun : (liftM (.ok entries : Except Fault Entries) : Job Entries).run d = (.ok entries, d) := rfl
    refine (Screening.after (fun _ => work) hrun h).congr Iff.rfl (iff_of_false not_false ?_)
    rintro ⟨i, n, herror⟩
    cases hpairs.symm.trans herror
  | error fault =>
    have hrun : (liftM (.error fault : Except Fault Entries) : Job Entries).run d = (.error fault, d) := rfl
    obtain ⟨text, rfl⟩ | ⟨i, n, rfl⟩ := pairsOrNone_error hpairs
    · refine .failed (fun _ => work) hrun not_false not_false ?_
      rintro ⟨i, n, herror⟩
      cases hpairs.symm.trans herror
    · have hvalue : Fault.OfValue (.unpaired i n) := trivial
      exact .unfit not_false ⟨i, n, hpairs⟩ hvalue fun engine => Job.run_bind_error hrun

/-! What a screening says of a run. -/

theorem absent_iff (h : Screening d work absent unfit) (engine : Engine) :
    (∃ what, ((work engine).run d).1 = .error (.notFound what)) ↔ absent := by
  cases h with
  | absent h hfit hrun => exact iff_of_true ⟨_, congrArg Prod.fst (hrun engine)⟩ h
  | unfit hthere h hvalue hrun =>
    refine iff_of_false ?_ hthere
    rintro ⟨what, hwhat⟩
    rw [hrun engine] at hwhat
    cases hwhat
    exact hvalue
  | passed hthere hfit hrun => exact iff_of_false (fun ⟨what, hwhat⟩ => hrun engine _ hwhat trivial) hthere

theorem unfit_iff (h : Screening d work absent unfit) (engine : Engine) :
    (∃ fault, fault.OfValue ∧ ((work engine).run d).1 = .error fault) ↔ unfit := by
  cases h with
  | absent h hfit hrun =>
    refine iff_of_false ?_ hfit
    rintro ⟨fault, hvalue, hfault⟩
    rw [hrun engine] at hfault
    cases hfault
    exact hvalue
  | unfit hthere h hvalue hrun => exact iff_of_true ⟨_, hvalue, congrArg Prod.fst (hrun engine)⟩ h
  | passed hthere hfit hrun =>
    exact iff_of_false (fun ⟨fault, hvalue, hfault⟩ => hrun engine fault hfault hvalue.rejects) hfit

/-- What is rejected is rejected for every engine, and with the desk as it was. -/
theorem without_trace (h : Screening d work absent unfit) {engine : Engine} {fault : Fault}
    (hrejects : fault.Rejects) (hfault : ((work engine).run d).1 = .error fault) (engine' : Engine) :
    (work engine').run d = (.error fault, d) := by
  have hsame {fault' : Fault} (hrun : ∀ engine, (work engine).run d = (.error fault', d)) :
      (work engine').run d = (.error fault, d) := by
    rw [hrun engine] at hfault
    cases hfault
    exact hrun engine'
  cases h with
  | absent h hfit hrun => exact hsame hrun
  | unfit hthere h hvalue hrun => exact hsame hrun
  | passed hthere hfit hrun => exact absurd hrejects (hrun engine fault hfault)

end Screening

section

variable {d : Desk} (hentities : d.store.entities.KeyedBy (·.id))
  (hrecords : d.store.records.KeyedBy (·.id)) (tenantId entityId : String) (members : Members)
  (userId : Option String)

include hentities in
theorem screening_create :
    Screening d (fun engine => create engine tenantId entityId (.object members) userId)
    (Operation.create.NotFound tenantId entityId d.store)
      (Operation.create.Unfit tenantId entityId members d.store) := by
  have hrest : Screening d (fun engine => insertion engine tenantId entityId (.object members) userId)
      False False :=
    .clean fun engine => failsOnly_insertion engine tenantId entityId members userId
  have hentity := Screening.entity hentities tenantId entityId (fun _ engine => _) fun _ =>
    hrest.fields entityId members
  simp only [create_eq]
  exact hentity.congr ⟨fun h => h.resolve_right And.right, .inl⟩ Iff.rfl

include hentities hrecords in
theorem screening_update (id : String) (nans : NaNs) :
    Screening d (fun engine => update engine tenantId entityId id (.object members) userId nans)
      ((Operation.update id nans).NotFound tenantId entityId d.store)
      ((Operation.update id nans).Unfit tenantId entityId members d.store) := by
  have hrest (r : RecordRow) :
      Screening d (fun engine => replacement engine nans r (.object members) userId) False False :=
    .clean fun engine => failsOnly_replacement engine nans r members userId
  have hrecord := Screening.record hrecords tenantId entityId id (fun r engine => _) fun r =>
    ((hrest r).pairs r.fields).fields entityId members
  have hentity := Screening.entity hentities tenantId entityId (fun _ engine => _) fun _ => hrecord
  simp only [update_eq]
  refine hentity.congr Iff.rfl ?_
  constructor
  · rintro ⟨hentity, rows, hrows, r, hr, hof, hunfit⟩
    refine ⟨⟨hentity, rows, hrows, r, hr, hof⟩, hunfit.imp_right fun ⟨hcomplete, hunpaired⟩ => ?_⟩
    exact ⟨hcomplete, rows, hrows, r, hr, hof, hunpaired⟩
  · rintro ⟨⟨hentity, rows, hrows, r, hr, hof⟩,
      hmissed | ⟨hcomplete, rows', hrows', r', hr', hof', hunpaired⟩⟩
    · exact ⟨hentity, rows, hrows, r, hr, hof, .inl hmissed⟩
    · exact ⟨hentity, rows', hrows', r', hr', hof', .inr ⟨hcomplete, hunpaired⟩⟩

include hentities hrecords in
theorem screening (op : Operation) :
    Screening d (fun engine => op.run engine tenantId entityId (.object members) userId)
      (op.NotFound tenantId entityId d.store) (op.Unfit tenantId entityId members d.store) := by
  cases op with
  | create => exact screening_create hentities tenantId entityId members userId
  | update id nans => exact screening_update hentities hrecords tenantId entityId members userId id nans

end

namespace Operation

theorem notFound_iff {op : Operation} {tenantId entityId : String} {s : Store}
    (hentities : s.entities.rows.isSome) (hrecords : s.records.rows.isSome) :
    op.NotFound tenantId entityId s ↔ ¬ op.Found tenantId entityId s := by
  have hlacks {α : Type} {t : Table α} {p : α → Prop} (ht : t.rows.isSome) (h : ¬ t.Has p) : t.Lacks p := by
    obtain ⟨rows, hrows⟩ := Option.isSome_iff_exists.1 ht
    exact ⟨rows, hrows, fun a ha hp => h ⟨rows, hrows, a, ha, hp⟩⟩
  refine ⟨NotFound.not_found tenantId entityId s, fun h => ?_⟩
  cases op with
  | create => exact hlacks hentities h
  | update id nans =>
    by_cases hentity : s.entities.Has (EntityOf tenantId entityId)
    · exact .inr ⟨hentity, hlacks hrecords fun hrecord => h ⟨hentity, hrecord⟩⟩
    · exact .inl (hlacks hentities hentity)

/-- A write is rejected as not found just if what it is about does not exist, and for its fields just if one
that is required is missing or, of an update, the replaced fields are in its way. Whatever it is rejected
for, nothing at all has changed, and no engine has any part in it. -/
theorem rejected_without_trace (engine : Engine) (op : Operation) (tenantId entityId : String)
    (members : Members) (userId : Option String) (d : Desk) (hentities : d.store.entities.KeyedBy (·.id))
    (hrecords : d.store.records.KeyedBy (·.id)) :
    ((∃ what, ((op.run engine tenantId entityId (.object members) userId).run d).1 =
      .error (.notFound what)) ↔ op.NotFound tenantId entityId d.store) ∧
    (d.store.entities.rows.isSome → d.store.records.rows.isSome →
      (op.NotFound tenantId entityId d.store ↔ ¬ op.Found tenantId entityId d.store)) ∧
    ((∃ fault, fault.OfValue ∧ ((op.run engine tenantId entityId (.object members) userId).run d).1 =
      .error fault) ↔ op.Unfit tenantId entityId members d.store) ∧
    (op.Stuck tenantId entityId d.store → d.store.records.Has fun r => ∀ own, r.fields ≠ .object own) ∧
    ∀ fault, fault.Rejects → ((op.run engine tenantId entityId (.object members) userId).run d).1 =
      .error fault →
      ∀ engine', (op.run engine' tenantId entityId (.object members) userId).run d = (.error fault, d) := by
  have hscreening := screening hentities hrecords tenantId entityId members userId op
  exact ⟨hscreening.absent_iff engine, notFound_iff, hscreening.unfit_iff engine,
    Stuck.has_other tenantId entityId d.store, fun fault hrejects hfault =>
    hscreening.without_trace hrejects hfault⟩

def deskOfNamed (fields : Document) : Desk :=
  { deskWith fields with store := { (deskWith fields).store with
      fields := ⟨"entity_fields", some [⟨"e", ⟨"name", "text", true, true, none⟩, true, 0⟩]⟩ } }

theorem keyed_deskWith (fields : Document) : (deskWith fields).store.entities.KeyedBy (·.id) ∧
    (deskWith fields).store.records.KeyedBy (·.id) := by
  constructor <;> intro rows hrows <;> cases hrows <;> exact List.nodup_singleton _

theorem nameless_rejected :
    (∃ what, ((run standardEngine "u" "e" (.object []) none .create).run (deskOfNamed (.object []))).1
      = .error (.notFound what)) ∧
    ∃ fault, fault.OfValue ∧
    (run standardEngine "t" "e" (.object [("name", .text "")]) none (.update "r" .alike)).run
      (deskOfNamed (.object [])) = (.error fault, deskOfNamed (.object [])) := by
  obtain ⟨hentities, hrecords⟩ := keyed_deskWith (.object [])
  constructor
  · obtain ⟨hnotFound, -⟩ :=
      rejected_without_trace standardEngine .create "u" "e" [] none (deskOfNamed (.object []))
      hentities hrecords
    refine hnotFound.2 ⟨_, rfl, fun e he hof => ?_⟩
    cases List.mem_singleton.1 he
    exact absurd hof.2 (by decide)
  · obtain ⟨-, -, hunfit, -, htrace⟩ :=
      rejected_without_trace standardEngine (.update "r" .alike) "t" "e" [("name", .text "")] none
      (deskOfNamed (.object [])) hentities hrecords
    obtain ⟨fault, hvalue, hfault⟩ := hunfit.2 ⟨⟨⟨_, rfl, _, List.mem_cons_self, rfl, rfl⟩,
      _, rfl, _, List.mem_cons_self, rfl, rfl, rfl⟩, .inl ⟨_, rfl, _, List.mem_cons_self, rfl, rfl,
      .inr (.inr rfl)⟩⟩
    exact ⟨fault, hvalue, htrace fault hvalue.rejects hfault standardEngine⟩

/-- Where the stored fields are a text, a write that has all that is required is rejected too. -/
theorem text_in_the_way :
    ¬ ∀ (engine : Engine) (op : Operation) (tenantId entityId : String) (members : Members)
    (userId : Option String) (d : Desk), d.store.entities.KeyedBy (·.id) → d.store.records.KeyedBy (·.id) →
    ((∃ fault, fault.OfValue ∧ ((op.run engine tenantId entityId (.object members) userId).run d).1 =
      .error fault) ↔
      op.Found tenantId entityId d.store ∧ d.store.fields.Has (Missed entityId members)) := by
  intro hall
  obtain ⟨hentities, hrecords⟩ := keyed_deskWith (.text "text")
  have hrun : ((run standardEngine "t" "e" (.object [("a", .ofInt 1)]) none (.update "r" .alike)).run
      (deskWith (.text "text"))).1 = .error (.unpaired 0 1) := rfl
  obtain ⟨-, rows, hrows, f, hf, -⟩ :=
    (hall standardEngine (.update "r" .alike) "t" "e" _ none _ hentities hrecords).1
      ⟨.unpaired 0 1, trivial, hrun⟩
  cases hrows
  cases hf

end Operation

end Ingest

end RecordDesk
