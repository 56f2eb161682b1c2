import RecordDesk.Proofs.Ingest.Stored
set_option autoImplicit false

/-!
The checks of a write, one by one. Each looks at one table and does nothing else; what it comes to is said
by the rows that the table has or lacks. What comes after the checks can fail too, but then it is the store
that fails.
-/

namespace RecordDesk

namespace Table

variable {α : Type} {t : Table α} {p : α → Prop} {rows : List α}

/-- The table has such a row. A table that is gone neither has one nor lacks it. -/
def Has (t : Table α) (p : α → Prop) : Prop := ∃ rows, t.rows = some rows ∧ ∃ a ∈ rows, p a

/-- The table is there and has no such row. -/
def Lacks (t : Table α) (p : α → Prop) : Prop := ∃ rows, t.rows = some rows ∧ ∀ a ∈ rows, ¬ p a

theorem Has.not_lacks (h : t.Has p) : ¬ t.Lacks p := by
  rintro ⟨rows, hrows, hnone⟩
  obtain ⟨rows', hrows', a, ha, hp⟩ := h
  cases hrows.symm.trans hrows'
  exact hnone a ha hp

theorem not_lacks_of_gone (h : t.rows = none) : ¬ t.Lacks p := by
  rintro ⟨rows, hrows, -⟩
  cases h.symm.trans hrows

theorem not_has_of_gone (h : t.rows = none) : ¬ t.Has p := by
  rintro ⟨rows, hrows, -⟩
  cases h.symm.trans hrows

theorem KeyedBy.find?_eq {key : α → String} (hkeys : t.KeyedBy key) (hrows : t.rows = some rows) {a : α}
    (ha : a ∈ rows) : rows.find? (key · == key a) = some a := by
  cases hf : rows.find? (key · == key a) with
  | none => exact absurd (List.find?_eq_none.1 hf a ha) (by simp)
  | some b =>
    have hkey : key b = key a := by simpa using List.find?_some hf
    rw [List.inj_on_of_nodup_map (hkeys rows hrows) (List.mem_of_find?_eq_some hf) ha hkey]

/-- Where rows are told apart by a key, looking one up and then checking it finds out whether there is one
that passes. -/
theorem KeyedBy.find?_cases {key : α → String} (hkeys : t.KeyedBy key)
    (hrows : t.rows = some rows) (k : String) {q : α → Bool} (hq : ∀ a, q a = true ↔ p a) :
    ((t.Has fun a => key a = k ∧ p a) ∧ ∃ a, a ∈ rows ∧ q a = true ∧ rows.find? (key · == k) = some a) ∨
      (t.Lacks fun a => key a = k ∧ p a) ∧ ∀ a, rows.find? (key · == k) = some a → q a = false := by
  by_cases h : ∃ a ∈ rows, key a = k ∧ p a
  · obtain ⟨a, ha, rfl, hp⟩ := h
    exact .inl ⟨⟨rows, hrows, a, ha, rfl, hp⟩, a, ha, (hq a).2 hp, hkeys.find?_eq hrows ha⟩
  · refine .inr ⟨⟨rows, hrows, fun a ha hboth => h ⟨a, ha, hboth⟩⟩, fun a hfound => Bool.eq_false_iff.2
      fun hpass => ?_⟩
    have hkey : key a = k := by simpa using List.find?_some hfound
    exact h ⟨a, List.mem_of_find?_eq_some hfound, hkey, (hq a).1 hpass⟩

end Table

/-- The faults of a value that cannot be taken for what it should be. -/
def Fault.OfValue : Fault → Prop
  | .nanToInteger | .nanDecimalToInteger | .notInteger _ | .numeralTooLong _ | .missingRequired _
  | .nullInLabel | .unpaired .. | .notNumeric _ | .unwritableNumber | .nanToFloat => True
  | _ => False

/-- The faults that a write is rejected with: what it is about is not found, or a value is not what it
should be. -/
def Fault.Rejects : Fault → Prop
  | .notFound _ => True
  | fault => fault.OfValue

theorem Fault.OfValue.rejects {fault : Fault} (h : fault.OfValue) : fault.Rejects := by
  cases fault <;> first | exact h | trivial

namespace Job

variable {α β : Type}

theorem run_bind_error {m : Job α} {f : α → Job β} {d d' : Desk} {fault : Fault}
    (h : m.run d = (.error fault, d')) : (m >>= f).run d = (.error fault, d') := by
  rw [run_bind_cont, h]
  rfl

/-- A job that fails in such ways only. -/
def FailsOnly (P : Fault → Prop) (m : Job α) : Prop := ∀ d fault, (m.run d).1 = .error fault → P fault

namespace FailsOnly

variable {P : Fault → Prop}

theorem bind {m : Job α} {f : α → Job β} (hm : FailsOnly P m) (hf : ∀ a, FailsOnly P (f a)) :
    FailsOnly P (m >>= f) := by
  intro d fault h
  rw [run_bind_cont] at h
  cases hrun : (m.run d).1 with
  | ok a =>
    rw [hrun] at h
    exact hf a _ _ h
  | error fault' =>
    rw [hrun] at h
    cases h
    exact hm d fault hrun

theorem pure (a : α) : FailsOnly P (Pure.pure a : Job α) := fun _ _ h => nomatch h

theorem throw {fault : Fault} (h : P fault) : FailsOnly P (MonadExcept.throw fault : Job α) := by
  intro d fault' hrun
  cases hrun
  exact h

theorem throw_bind {fault : Fault} (h : P fault) (f : α → Job β) :
    FailsOnly P ((MonadExcept.throw fault : Job α) >>= f) := by
  intro d fault' hrun
  cases hrun
  exact h

theorem lift {x : Except Fault α} (h : ∀ fault, x = .error fault → P fault) :
    FailsOnly P (liftM x : Job α) := by
  intro d fault hrun
  cases x with
  | ok a => cases hrun
  | error fault' =>
    cases hrun
    exact h fault rfl

theorem state (m : StateM Desk α) : FailsOnly P (liftM m : Job α) := by
  intro d fault h
  rw [run_liftState] at h
  cases h

theorem get : FailsOnly P (MonadState.get : Job Desk) := fun _ _ h => nomatch h

theorem set (d : Desk) : FailsOnly P (MonadStateOf.set d : Job PUnit) := fun _ _ h => nomatch h

theorem query {question : Store → Except Fault α} (h : ∀ s fault, question s = .error fault → P fault) :
    FailsOnly P (Desk.query question) := by
  intro d fault hrun
  rw [run_query] at hrun
  exact h d.store fault hrun

end FailsOnly

end Job

namespace Ingest

def EntityOf (tenantId entityId : String) (e : EntityRow) : Prop := e.id = entityId ∧ e.tenantId = tenantId

def RecordOf (tenantId entityId id : String) (r : RecordRow) : Prop :=
  r.id = id ∧ r.tenantId = tenantId ∧ r.entityId = entityId

def Missing (members : Members) (key : String) : Prop :=
  members.lookup key = none ∨ members.lookup key = some .null ∨ members.lookup key = some (.text "")

/-- A field that the entity requires and the members miss. -/
def Missed (entityId : String) (members : Members) (f : FieldRow) : Prop :=
  f.entityId = entityId ∧ f.isRequired = true ∧ Missing members f.field.key

/-- Fields that are neither an object nor empty, and that no object can be made of for want of a pair. -/
def Unpaired (fields : Document) : Prop :=
  ∃ index length, fields.pairsOrNone = .error (.unpaired index length)

theorem isMissing_iff {members : Members} {key : String} : isMissing members key = true ↔
    Missing members key := by
  unfold isMissing Missing
  generalize members.lookup key = found
  split
  · exact iff_of_true rfl (.inl rfl)
  · exact iff_of_true rfl (.inr (.inl rfl))
  · exact iff_of_true rfl (.inr (.inr rfl))
  · rename_i hnone hnull hempty
    refine iff_of_false Bool.false_ne_true ?_
    rintro (h | h | h)
    · exact hnone h
    · exact hnull h
    · exact hempty h

theorem require_cases {α : Type} {t : Table α} {key : α → String} {k : String} {q : α → Bool} {p : α → Prop}
    {question : Store → Except Fault (Option α)} {fault : Fault} {d : Desk} (hkeys : t.KeyedBy key)
    (hq : ∀ a, q a = true ↔ p a) (hquestion : question d.store = t.read.map (·.find? (key · == k)))
    {job : Job α} (hjob : job = Desk.query question >>= fun found => found.elim (throw fault) fun a =>
      if q a then return a else throw fault) :
    (t.rows = none ∧ job.run d = (.error (Table.noSuch t.name), d)) ∨
      ((t.Lacks fun a => key a = k ∧ p a) ∧ job.run d = (.error fault, d)) ∨
      (t.Has fun a => key a = k ∧ p a) ∧ ∃ rows a, t.rows = some rows ∧ a ∈ rows ∧ key a = k ∧ p a ∧
        job.run d = (.ok a, d) := by
  subst hjob
  cases hrows : t.rows with
  | none =>
    have hrun : (Desk.query question).run d = (.error (Table.noSuch t.name), d) := by
      rw [Job.run_query, hquestion, Table.read, hrows]
      rfl
    exact .inl ⟨rfl, Job.run_bind_error hrun⟩
  | some rows =>
    have hrun : (Desk.query question).run d = (.ok (rows.find? (key · == k)), d) := by
      rw [Job.run_query, hquestion, Table.read_of_rows hrows]
      rfl
    rw [Job.run_bind hrun]
    rcases hkeys.find?_cases hrows k hq with ⟨hhas, a, ha, hpass, hfound⟩ | ⟨hlacks, hother⟩
    · have hkey : key a = k := by simpa using List.find?_some hfound
      refine .inr (.inr ⟨hhas, rows, a, rfl, ha, hkey, (hq a).1 hpass, ?_⟩)
      rw [hfound, Option.elim_some, if_pos hpass]
      rfl
    · refine .inr (.inl ⟨hlacks, ?_⟩)
      cases hfound : rows.find? (key · == k) with
      | none => rfl
      | some a =>
        rw [Option.elim_some, if_neg (Bool.eq_false_iff.1 (hother a hfound))]
        rfl

section

variable {entityId : String} {members : Members} {d : Desk}

theorem requireEntity_cases (hkeys : d.store.entities.KeyedBy (·.id)) (tenantId entityId : String) :
    (d.store.entities.rows = none ∧
        (requireEntity tenantId entityId).run d = (.error (Table.noSuch d.store.entities.name), d)) ∨
      (d.store.entities.Lacks (EntityOf tenantId entityId) ∧
        (requireEntity tenantId entityId).run d = (.error (.notFound "Entity"), d)) ∨
      d.store.entities.Has (EntityOf tenantId entityId) ∧
        ∃ e, (requireEntity tenantId entityId).run d = (.ok e, d) := by
  have hquestion : d.store.entity? entityId = d.store.entities.read.map (·.find? (·.id == entityId)) := by
    rw [Store.entity?]
    cases d.store.entities.read <;> rfl
  have hjob : requireEntity tenantId entityId = Desk.query (·.entity? entityId) >>= fun found =>
      found.elim (throw (.notFound "Entity")) fun e =>
        if e.tenantId == tenantId then return e else throw (.notFound "Entity") :=
    bind_congr fun found => by cases found <;> rfl
  rcases require_cases hkeys (fun e => beq_iff_eq) hquestion hjob
    with hgone | hlacks | ⟨hhas, rows, e, -, -, -, -, hrun⟩
  · exact .inl hgone
  · exact .inr (.inl hlacks)
  · exact .inr (.inr ⟨hhas, e, hrun⟩)

theorem requireRecord_cases (hkeys : d.store.records.KeyedBy (·.id)) (tenantId entityId id : String) :
    (d.store.records.rows = none ∧
        (requireRecord tenantId entityId id).run d = (.error (Table.noSuch d.store.records.name), d)) ∨
      (d.store.records.Lacks (RecordOf tenantId entityId id) ∧
        (requireRecord tenantId entityId id).run d = (.error (.notFound "Record"), d)) ∨
      d.store.records.Has (RecordOf tenantId entityId id) ∧ ∃ rows r, d.store.records.rows = some rows ∧
        r ∈ rows ∧
        RecordOf tenantId entityId id r ∧ (requireRecord tenantId entityId id).run d = (.ok r, d) := by
  have hquestion : d.store.record? id = d.store.records.read.map (·.find? (·.id == id)) := by
    rw [Store.record?]
    cases d.store.records.read <;> rfl
  have howned (r : RecordRow) : (r.tenantId == tenantId && r.entityId == entityId) = true ↔
      r.tenantId = tenantId ∧ r.entityId = entityId := by
    rw [Bool.and_eq_true, beq_iff_eq, beq_iff_eq]
  have hjob : requireRecord tenantId entityId id = Desk.query (·.record? id) >>= fun found =>
      found.elim (throw (.notFound "Record")) fun r =>
        if r.tenantId == tenantId && r.entityId == entityId then return r else throw (.notFound "Record") :=
    bind_congr fun found => by cases found <;> rfl
  rcases require_cases hkeys howned hquestion hjob
    with hgone | hlacks | ⟨hhas, rows, r, hrows, hr, hid, hp, hrun⟩
  · exact .inl hgone
  · exact .inr (.inl hlacks)
  · exact .inr (.inr ⟨hhas, rows, r, hrows, hr, ⟨hid, hp⟩, hrun⟩)

theorem requireFields_run {keys : List String} (hkeys : d.store.requiredKeys entityId = .ok keys) :
    (requireFields entityId (.object members)).run d = (match keys.filter (isMissing members) with
      | [] => .ok ()
      | missing => .error (.missingRequired missing), d) := by
  have hrun : (Desk.query (·.requiredKeys entityId)).run d = (.ok keys, d) := by
    rw [Job.run_query, hkeys]
  rw [requireFields, Job.run_bind hrun]
  cases keys with
  | nil => rfl
  | cons key more =>
    dsimp only
    cases (key :: more).filter (isMissing members) <;> rfl

theorem mem_missing_iff (entityId : String) (members : Members) (rows : List FieldRow) (key : String) :
    key ∈ ((rows.filter fun f => f.entityId == entityId && f.isRequired).map (·.field.key)).filter
      (isMissing members) ↔ ∃ f ∈ rows, Missed entityId members f ∧ f.field.key = key := by
  simp only [List.mem_filter, List.mem_map, Bool.and_eq_true, beq_iff_eq, isMissing_iff, Missed]
  constructor
  · rintro ⟨⟨f, ⟨hf, hentity, hrequired⟩, rfl⟩, hmissing⟩
    exact ⟨f, hf, ⟨hentity, hrequired, hmissing⟩, rfl⟩
  · rintro ⟨f, hf, ⟨hentity, hrequired, hmissing⟩, rfl⟩
    exact ⟨⟨f, ⟨hf, hentity, hrequired⟩, rfl⟩, hmissing⟩

theorem requireFields_cases (d : Desk) (entityId : String) (members : Members) :
    (d.store.fields.rows = none ∧
        (requireFields entityId (.object members)).run d = (.error (Table.noSuch d.store.fields.name), d)) ∨
      (d.store.fields.Has (Missed entityId members) ∧
        ∃ keys, (requireFields entityId (.object members)).run d = (.error (.missingRequired keys), d)) ∨
      d.store.fields.Lacks (Missed entityId members) ∧
        (requireFields entityId (.object members)).run d = (.ok (), d) := by
  cases hrows : d.store.fields.rows with
  | none =>
    have hrun : (Desk.query (·.requiredKeys entityId)).run d =
        (.error (Table.noSuch d.store.fields.name), d) := by
      rw [Job.run_query, Store.requiredKeys, Table.read, hrows]
      rfl
    exact .inl ⟨rfl, Job.run_bind_error hrun⟩
  | some rows =>
    have hkeys : d.store.requiredKeys entityId
        = .ok ((rows.filter fun f => f.entityId == entityId && f.isRequired).map (·.field.key)) := by
      rw [Store.requiredKeys, Table.read_of_rows hrows]
      rfl
    rw [requireFields_run hkeys]
    have hmissed := mem_missing_iff entityId members rows
    generalize ((rows.filter fun f => f.entityId == entityId && f.isRequired).map (·.field.key)).filter
      (isMissing members) = missing at hmissed
    cases missing with
    | nil =>
      refine .inr (.inr ⟨⟨rows, hrows, fun f hf hmiss => ?_⟩, rfl⟩)
      cases (hmissed f.field.key).2 ⟨f, hf, hmiss, rfl⟩
    | cons key more =>
      obtain ⟨f, hf, hmiss, -⟩ := (hmissed key).1 List.mem_cons_self
      exact .inr (.inl ⟨⟨rows, hrows, f, hf, hmiss⟩, key :: more, rfl⟩)

end

theorem storedFields_total (members : Members) : ∃ stored, storedFields (.object members) = .ok stored := by
  have hpairs : (Document.object members).pairs = .ok (members.map fun m => (Document.text m.1, m.2)) := rfl
  have hwritten : Entries.written? (members.map fun m => (Document.text m.1, m.2)) =
      some (Members.ofPairs members) := by
    rw [Entries.written?, mapM_keyText, Option.map_some]
  refine ⟨.object (Members.ofPairs members), ?_⟩
  simp only [storedFields, hpairs, bind, Except.bind, hwritten]
  rfl

theorem failsOnly_storedFields {P : Fault → Prop} (members : Members) :
    Job.FailsOnly P (liftM (storedFields (.object members)) : Job Document) := by
  obtain ⟨stored, hstored⟩ := storedFields_total members
  exact .lift fun fault h => nomatch hstored.symm.trans h

theorem failsOnly_knownUser (userId : Option String) :
    Job.FailsOnly (¬ Fault.Rejects ·) (knownUser userId) := by
  have hquery (id : String) : Job.FailsOnly (¬ Fault.Rejects ·) (Desk.query (·.user? id)) := by
    refine .query fun s fault h => ?_
    unfold Store.user? Table.read at h
    cases hrows : s.users.rows with
    | none =>
      rw [hrows] at h
      cases h
      exact not_false
    | some rows =>
      rw [hrows] at h
      cases h
  unfold knownUser
  split
  · exact .pure _
  · exact .pure _
  · exact .bind (hquery _) fun _ => .pure _

theorem insert_not_rejects {α : Type} {t : Table α} {clash : α → α → Bool} {row : α} {fault : Fault}
    (h : t.insert clash row = .error fault) : ¬ fault.Rejects := by
  cases hrows : t.rows with
  | none =>
    cases h.symm.trans (Table.insert_missing hrows clash row)
    exact not_false
  | some rows =>
    unfold Table.insert at h
    rw [Table.read_of_rows hrows] at h
    by_cases hclash : rows.any (clash · row) = true
    · cases h.symm.trans (if_pos hclash)
      exact not_false
    · cases h.symm.trans (if_neg hclash)

theorem failsOnly_insertRecord (row : RecordRow) :
    Job.FailsOnly (¬ Fault.Rejects ·) (insertRecord none row) := by
  refine .bind .get fun d => .bind (.set _) fun _ => ?_
  dsimp only
  split
  · exact .throw_bind not_false _
  · exact .bind (.lift fun _ => insert_not_rejects) fun _ => .bind (.set _) fun _ => .pure _

theorem failsOnly_replaceFields (nans : NaNs) (r : RecordRow) (fields : Document) :
    Job.FailsOnly (¬ Fault.Rejects ·) (replaceFields nans r fields) := by
  unfold replaceFields
  split
  · exact .pure _
  · split
    · exact .throw not_false
    · exact .bind .get fun _ => .bind (.set _) fun _ => .pure _

theorem pair_error {index : Nat} {d : Document} {fault : Fault} (h : d.pair index = .error fault) :
    (∃ text, fault = .unsuitable text) ∨ ∃ i n, fault = .unpaired i n := by
  unfold Document.pair at h
  split at h
  · cases h
    exact .inl ⟨_, rfl⟩
  · split at h
    · cases h
    · cases h
      exact .inl ⟨_, rfl⟩
  · cases h
    exact .inr ⟨_, _, rfl⟩

theorem pairsFrom_error {items : List Document} {done : Entries} {index : Nat} {fault : Fault}
    (h : Document.pairsFrom done index items = .error fault) :
    (∃ text, fault = .unsuitable text) ∨ ∃ i n, fault = .unpaired i n := by
  induction items generalizing done index with
  | nil => cases h
  | cons d rest ih =>
    rw [Document.pairsFrom] at h
    cases hpair : d.pair index with
    | error fault' =>
      rw [hpair] at h
      cases h
      exact pair_error hpair
    | ok entry =>
      rw [hpair] at h
      exact ih h

theorem pairsOrNone_error {d : Document} {fault : Fault} (h : d.pairsOrNone = .error fault) :
    (∃ text, fault = .unsuitable text) ∨ ∃ i n, fault = .unpaired i n := by
  have hpairs : d.pairs = .error fault := by
    unfold Document.pairsOrNone at h
    split at h
    · exact h
    · cases h
  unfold Document.pairs at hpairs
  split at hpairs
  · cases hpairs
  · rename_i hno
    unfold Document.sequence at hpairs
    cases hitems : d.sequence? with
    | none =>
      rw [hitems] at hpairs
      cases hpairs
      exact .inl ⟨_, rfl⟩
    | some items =>
      rw [hitems] at hpairs
      exact pairsFrom_error hpairs

end Ingest

end RecordDesk
