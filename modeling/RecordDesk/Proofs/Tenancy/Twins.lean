import RecordDesk.Proofs.Tenancy.Queries
set_option autoImplicit false

namespace RecordDesk

namespace Store

namespace SoundFor

variable {tenant : String} {s : Store} (h : s.SoundFor tenant)

include h

theorem withName : SoundFor tenant { s with named := s.named + 1 } :=
  { h with
    newRecord := fun rows hrows r hr hne n hn => h.newRecord rows hrows r hr hne n (Nat.lt_of_succ_lt hn)
    newLog := fun rows hrows l hl hne n hn => h.newLog rows hrows l hl hne n (Nat.lt_of_succ_lt hn) }

theorem record_ne_next {n : Nat} (hn : s.named = n) (rows : List RecordRow)
    (hrows : s.records.rows = some rows) (r : RecordRow) (hr : r ∈ rows)
    (hkeep : (r.tenantId == tenant) = false) : (r.id == rowName (n + 1)) = false :=
  beq_eq_false_iff_ne.2 (h.newRecord rows hrows r hr (beq_eq_false_iff_ne.1 hkeep) _
    (hn ▸ Nat.lt_succ_self _))

theorem log_ne_next {n : Nat} (hn : s.named = n) (rows : List LogRow) (hrows : s.logs.rows = some rows)
    (l : LogRow) (hl : l ∈ rows) (hkeep : (l.tenantId == tenant) = false) :
    (l.id == rowName (n + 1)) = false :=
  beq_eq_false_iff_ne.2 (h.newLog rows hrows l hl (beq_eq_false_iff_ne.1 hkeep) _ (hn ▸ Nat.lt_succ_self _))

theorem addLog {rows : List LogRow} (hrows : s.logs.rows = some rows) {row : LogRow}
    (hrow : row.tenantId = tenant) :
    SoundFor tenant { s with logs := { s.logs with rows := some (rows ++ [row]) } } := by
  refine { h with newLog := ?_ }
  intro _ hnow l hl hne n hn
  obtain rfl := Option.some.inj hnow
  rcases List.mem_append.1 hl with hl | hl
  · exact h.newLog rows hrows l hl hne n hn
  · exact absurd (List.mem_singleton.1 hl ▸ hrow) hne

theorem addRecord {rows : List RecordRow} (hrows : s.records.rows = some rows) {row : RecordRow}
    (hrow : row.tenantId = tenant) (hnew : rows.any (·.id == row.id) = false) :
    SoundFor tenant { s with records := { s.records with rows := some (rows ++ [row]) } } := by
  refine { h with records := ?_, newRecord := ?_ }
  · intro _ hnow
    obtain rfl := Option.some.inj hnow
    rw [List.map_append, List.nodup_append]
    refine ⟨h.records rows hrows, by simp, ?_⟩
    simp only [List.mem_map, List.map_cons, List.map_nil, List.mem_singleton]
    rintro _ ⟨r, hr, rfl⟩ _ rfl heq
    exact List.any_eq_false.1 hnew r hr (beq_iff_eq.2 heq)
  · intro _ hnow r hr hne n hn
    obtain rfl := Option.some.inj hnow
    rcases List.mem_append.1 hr with hr | hr
    · exact h.newRecord rows hrows r hr hne n hn
    · exact absurd (List.mem_singleton.1 hr ▸ hrow) hne

theorem replaceRecord {r row : RecordRow} (hown : r.tenantId = tenant) (hid : row.id = r.id)
    (htenant : row.tenantId = r.tenantId) :
    SoundFor tenant { s with records := s.records.map fun other =>
      if other.id == r.id then row else other } := by
  refine { h with records := ?_, newRecord := ?_ }
  · intro rows hrows
    obtain ⟨old, hold, rfl⟩ := Option.map_eq_some_iff.1 hrows
    have hids : (fun other : RecordRow => other.id) ∘ (fun other => if other.id == r.id then row else other)
        = fun other => other.id := by
      funext other
      by_cases heq : other.id = r.id <;> simp [heq, hid]
    rw [List.map_map, hids]
    exact h.records old hold
  · intro rows hrows other hother hne n hn
    obtain ⟨old, hold, rfl⟩ := Option.map_eq_some_iff.1 hrows
    obtain ⟨a, ha, rfl⟩ := List.mem_map.1 hother
    by_cases heq : a.id = r.id
    · rw [if_pos (beq_iff_eq.2 heq), htenant] at hne
      exact absurd hown hne
    · rw [if_neg (by simpa using heq)] at hne ⊢
      exact h.newRecord old hold a ha hne n hn

theorem eq_of_record? {rows : List RecordRow} (hrows : s.records.rows = some rows) {r other : RecordRow}
    (hr : s.record? r.id = .ok (some r)) (hmem : other ∈ rows) (hid : other.id = r.id) : other = r := by
  rw [record?, Table.read_of_rows hrows] at hr
  have hfind : rows.find? (·.id == r.id) = some r := Except.ok.inj hr
  exact List.inj_on_of_nodup_map (h.records rows hrows) hmem (List.mem_of_find?_eq_some hfind) hid

theorem tenant_replaced {rows : List RecordRow} (hrows : s.records.rows = some rows) {r row other : RecordRow}
    (hr : s.record? r.id = .ok (some r)) (htenant : row.tenantId = r.tenantId) (hother : other ∈ rows) :
    ((if other.id == r.id then row else other).tenantId == tenant) = (other.tenantId == tenant) := by
  by_cases heq : other.id = r.id
  · rw [if_pos (beq_iff_eq.2 heq), h.eq_of_record? hrows hr hother heq, htenant]
  · rw [if_neg (by simpa using heq)]

end SoundFor

namespace MadeBy

variable {tenant : String} {named : String → Prop} {s : Store} (h : s.MadeBy tenant named)

include h

theorem addRecord {rows : List RecordRow} (hrows : s.records.rows = some rows) {row : RecordRow}
    (hby : ∀ id, row.createdBy = some id → named id) :
    MadeBy tenant named { s with records := { s.records with rows := some (rows ++ [row]) } } := by
  intro _ hnow r hr hown id hid
  obtain rfl := Option.some.inj hnow
  rcases List.mem_append.1 hr with hr | hr
  · exact h rows hrows r hr hown id hid
  · exact hby id (List.mem_singleton.1 hr ▸ hid)

theorem replaceRecord (hs : s.SoundFor tenant) {r row : RecordRow} (hr : s.record? r.id = .ok (some r))
    (hown : r.tenantId = tenant) (hby : row.createdBy = r.createdBy) : MadeBy tenant named
      { s with records := s.records.map fun other => if other.id == r.id then row else other } := by
  intro rows hrows other hother htenant id hcreator
  obtain ⟨old, hold, rfl⟩ := Option.map_eq_some_iff.1 hrows
  obtain ⟨a, ha, rfl⟩ := List.mem_map.1 hother
  by_cases heq : a.id = r.id
  · rw [if_pos (beq_iff_eq.2 heq), hby] at hcreator
    have har := hs.eq_of_record? hold hr ha heq
    exact h old hold a ha (har ▸ hown) id (har ▸ hcreator)
  · rw [if_neg (by simpa using heq)] at htenant hcreator
    exact h old hold a ha htenant id hcreator

end MadeBy

/-- Stores that a tenant cannot tell apart by asking for its own rows and for users of certain names.
Entities that are listed are the tenant's. -/
structure Twins (tenant : String) (named : String → Prop) (own : List String) (s s' : Store) : Prop where
  same : s.SameFor tenant s'
  sound : s.SoundFor tenant
  sound' : s'.SoundFor tenant
  users : s.SameUsers named s'
  made : s.MadeBy tenant named
  owned : ∀ id ∈ own, s.owns tenant id = true

namespace Twins

variable {tenant : String} {named : String → Prop} {own : List String} {s s' : Store}

theorem forget {id : String} (h : Twins tenant named (id :: own) s s') : Twins tenant named own s s' :=
  { h with owned := fun id hid => h.owned id (List.mem_cons_of_mem _ hid) }

theorem withName (h : Twins tenant named own s s') :
    Twins tenant named own { s with named := s.named + 1 } { s' with named := s'.named + 1 } where
  same := { h.same with named := by rw [h.same.named] }
  sound := h.sound.withName
  sound' := h.sound'.withName
  users := h.users
  made := h.made
  owned := h.owned

theorem addLog (h : Twins tenant named own s s') {rows rows' : List LogRow} (hrows : s.logs.rows = some rows)
    (hrows' : s'.logs.rows = some rows') {row : LogRow} (hrow : row.tenantId = tenant) :
    Twins tenant named own { s with logs := { s.logs with rows := some (rows ++ [row]) } }
      { s' with logs := { s'.logs with rows := some (rows' ++ [row]) } } where
  same := { h.same with logs := Table.only_append h.same.logs hrows hrows' row }
  sound := h.sound.addLog hrows hrow
  sound' := h.sound'.addLog hrows' hrow
  users := h.users
  made := h.made
  owned := h.owned

theorem addRecord (h : Twins tenant named own s s') {rows rows' : List RecordRow}
    (hrows : s.records.rows = some rows) (hrows' : s'.records.rows = some rows') (row : RecordRow)
    (hrow : row.tenantId = tenant) (hby : ∀ id, row.createdBy = some id → named id)
    (hnew : rows.any (·.id == row.id) = false) (hnew' : rows'.any (·.id == row.id) = false) :
    Twins tenant named own { s with records := { s.records with rows := some (rows ++ [row]) } }
      { s' with records := { s'.records with rows := some (rows' ++ [row]) } } where
  same := { h.same with records := Table.only_append h.same.records hrows hrows' row }
  sound := h.sound.addRecord hrows hrow hnew
  sound' := h.sound'.addRecord hrows' hrow hnew'
  users := h.users
  made := h.made.addRecord hrows hby
  owned := h.owned

theorem replaceRecord (h : Twins tenant named own s s') {r : RecordRow} (row : RecordRow)
    (hr : s.record? r.id = .ok (some r)) (hr' : s'.record? r.id = .ok (some r)) (hown : r.tenantId = tenant)
    (hid : row.id = r.id) (htenant : row.tenantId = r.tenantId) (hby : row.createdBy = r.createdBy) :
    Twins tenant named own { s with records := s.records.map fun other =>
      if other.id == r.id then row else other }
      { s' with records := s'.records.map fun other => if other.id == r.id then row else other } where
  same := { h.same with
    records := Table.only_map h.same.records
      (fun _ hrows _ hmem => h.sound.tenant_replaced hrows hr htenant hmem)
      fun _ hrows _ hmem => h.sound'.tenant_replaced hrows hr' htenant hmem }
  sound := h.sound.replaceRecord hown hid htenant
  sound' := h.sound'.replaceRecord hown hid htenant
  users := h.users
  made := h.made.replaceRecord h.sound hr hown hby
  owned := h.owned

end Twins

end Store

end RecordDesk
