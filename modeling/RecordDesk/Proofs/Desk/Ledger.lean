import RecordDesk.Proofs.Desk.Sessions
import RecordDesk.Proofs.Rule.Outcomes
import RecordDesk.Proofs.Store.Names
set_option autoImplicit false

/-!
What becomes of executions that are handed over. Each has a row of its own under the next name, and the
table gains exactly the rows that the database takes.
-/

namespace RecordDesk

def Rule.Execution.row (x : Rule.Execution) (n : Nat) (time : Moment) : LogRow :=
  ⟨Store.rowName n, x.tenantId, x.ruleId, x.recordId, x.status.name,
    (Document.object x.output).writable.toDocument, time.naive⟩

def Rule.Execution.rows (time : Moment) : Nat → List Rule.Execution → List LogRow
  | _, [] => []
  | n, x :: rest => x.row (n + 1) time :: rows time (n + 1) rest

/-- Whether the database takes a row: it does not refuse it, and it has none of that name. -/
def Store.takes (refuses : LogRow → Option Fault) (s : Store) (row : LogRow) : Bool :=
  (refuses row).isNone && s.logs.rows.any fun rows => !rows.any (·.id == row.id)

namespace Rule.Execution

variable {time : Moment}

theorem rows_append (n : Nat) (xs ys : List Execution) :
    rows time n (xs ++ ys) = rows time n xs ++ rows time (n + xs.length) ys := by
  induction xs generalizing n with
  | nil => rfl
  | cons x rest ih =>
    simp only [List.cons_append, rows, ih, List.length_cons]
    rw [Nat.add_right_comm, Nat.add_assoc]

theorem name_of_mem_rows {n : Nat} {xs : List Execution} {row : LogRow} (h : row ∈ rows time n xs) :
    ∃ k, n < k ∧ k ≤ n + xs.length ∧ row.id = Store.rowName k := by
  induction xs generalizing n with
  | nil => cases h
  | cons x rest ih =>
    rcases List.mem_cons.1 h with rfl | h
    · exact ⟨n + 1, Nat.lt_succ_self n, by simp, rfl⟩
    · obtain ⟨k, hlt, hle, hid⟩ := ih h
      exact ⟨k, by omega, by rw [List.length_cons]; omega, hid⟩

theorem map_id_rows (n : Nat) (xs : List Execution) :
    (rows time n xs).map (·.id) = (List.range' (n + 1) xs.length).map Store.rowName := by
  induction xs generalizing n with
  | nil => rfl
  | cons x rest ih => simp [rows, ih, List.range'_succ, row]

theorem forall₂_rows {α β : Type} {p : α → β → Prop} {q : α → LogRow → Prop} {f : β → Execution}
    (h : ∀ a c n, p a c → q a ((f c).row n time)) {as : List α} {cs : List β}
    (hp : List.Forall₂ p as cs) (n : Nat) : List.Forall₂ q as (rows time n (cs.map f)) := by
  induction hp generalizing n with
  | nil => exact .nil
  | cons hac _ ih => exact .cons (h _ _ _ hac) (ih (n + 1))

theorem countP_rows (n : Nat) (xs : List Execution) :
    (rows time n xs).countP (·.status == Status.matched.name) = xs.countP (·.status = .matched) := by
  induction xs generalizing n with
  | nil => rfl
  | cons x rest ih =>
    have hstatus : ((x.row (n + 1) time).status == Status.matched.name) = decide (x.status = .matched) := by
      rw [row]
      cases x.status <;> rfl
    rw [rows, List.countP_cons, List.countP_cons, ih, hstatus]

end Rule.Execution

open Rule (Execution)

namespace Store

variable {refuses : LogRow → Option Fault} {time : Moment}

/-- The store that has gained the rows of executions, as far as the database takes them. -/
def gained (refuses : LogRow → Option Fault) (time : Moment) (s : Store) (xs : List Execution) : Store :=
  { s with
    named := s.named + xs.length
    logs := { s.logs with
      rows := s.logs.rows.map (· ++ (Execution.rows time s.named xs).filter (s.takes refuses)) } }

theorem gained_nil (s : Store) : s.gained refuses time [] = s := by
  simp [gained, Execution.rows]

theorem takes_gained (s : Store) (xs : List Execution) {row : LogRow} {k : Nat} (hid : row.id = rowName k)
    (hk : s.named + xs.length < k) : (s.gained refuses time xs).takes refuses row = s.takes refuses row := by
  have hclear : ((Execution.rows time s.named xs).filter (s.takes refuses)).any (·.id == row.id) = false := by
    refine List.any_eq_false.2 fun other hother heq => ?_
    obtain ⟨j, -, hj, hname⟩ := Execution.name_of_mem_rows (List.mem_of_mem_filter hother)
    rw [hid, hname] at heq
    exact absurd (rowName_injective (eq_of_beq heq)) (by omega)
  unfold takes gained
  cases s.logs.rows with
  | none => rfl
  | some rows => simp only [Option.map_some, Option.any_some, List.any_append, hclear, Bool.or_false]

theorem gained_append (s : Store) (xs ys : List Execution) :
    (s.gained refuses time xs).gained refuses time ys = s.gained refuses time (xs ++ ys) := by
  have hsame : (Execution.rows time (s.named + xs.length) ys).filter
    ((s.gained refuses time xs).takes refuses)
      = (Execution.rows time (s.named + xs.length) ys).filter (s.takes refuses) := by
    refine List.filter_congr fun row hrow => ?_
    obtain ⟨k, hk, -, hid⟩ := Execution.name_of_mem_rows hrow
    exact takes_gained s xs hid hk
  have hrows : (s.gained refuses time xs).logs.rows.map
        (· ++ (Execution.rows time (s.named + xs.length) ys).filter
          ((s.gained refuses time xs).takes refuses))
      = (s.gained refuses time (xs ++ ys)).logs.rows := by
    rw [hsame]
    simp only [gained, Execution.rows_append, List.filter_append, Option.map_map]
    congr 1
    funext rows
    simp
  rw [gained, show (s.gained refuses time xs).named = s.named + xs.length from rfl, hrows]
  simp only [gained, List.length_append, Nat.add_assoc]

theorem not_takes_of_insert {s : Store} {row : LogRow} {fault : Fault}
    (h : s.logs.insert (·.id == ·.id) row = .error fault) : s.takes refuses row = false := by
  unfold takes
  cases hrows : s.logs.rows with
  | none => simp
  | some rows =>
    cases hclash : rows.any (·.id == row.id) with
    | true => simp [hclash]
    | false =>
      simp only [Table.insert, Table.read, hrows, bind, Except.bind, hclash] at h
      cases h

theorem gained_taken {s : Store} {x : Execution} {rows : List LogRow} (hrows : s.logs.rows = some rows)
    (h : s.takes refuses (x.row (s.named + 1) time) = true) : s.gained refuses time [x]
      = { s with
        named := s.named + 1
        logs := { s.logs with rows := some (rows ++ [x.row (s.named + 1) time]) } } := by
  simp [gained, Execution.rows, hrows, h]

theorem gained_untaken {s : Store} {x : Execution} (h : s.takes refuses (x.row (s.named + 1) time) = false) :
    s.gained refuses time [x] = { s with named := s.named + 1 } := by
  simp [gained, Execution.rows, h]

end Store

namespace Session

variable {refuses : LogRow → Option Fault} {s : Session}

/-- A session in which executions were handed over to be kept, and nothing else was done to the store. -/
structure Gained (refuses : LogRow → Option Fault) (s s' : Session) (xs : List Execution) : Prop where
  now : s'.desk.now = s.desk.now
  store : s'.desk.store = s.desk.store.gained refuses s.desk.now xs
  settled : Settled s'.desk s'

theorem rolledBack_named (h : Settled s.desk s) {store : Store}
    (hnamed : store.named = s.desk.store.named + 1) :
    (rollback ⟨{ s.desk with store := store }, s.committed⟩).2
      = ⟨{ s.desk with store := { s.desk.store with named := s.desk.store.named + 1 } }, s.committed⟩ := by
  -- What was committed is what was there before, but for the names.
  have hrun : (rollback ⟨{ s.desk with store := store }, s.committed⟩).2
    = ⟨{ s.desk with store := { s.committed with named := store.named } }, s.committed⟩ := rfl
  rw [hrun, hnamed, h.committed]

theorem gained_untaken (h : Settled s.desk s) {x : Execution}
    (huntaken : s.desk.store.takes refuses (x.row (s.desk.store.named + 1) s.desk.now) = false) :
    Gained refuses s ⟨{ s.desk with store := { s.desk.store with named := s.desk.store.named + 1 } },
      s.committed⟩ [x] where
  now := rfl
  store := (Store.gained_untaken huntaken).symm
  settled := ⟨rfl, by rw [h.committed]⟩

theorem gained_persist (h : Settled s.desk s) (x : Execution) :
    Gained refuses s (persist refuses x s).2 [x] := by
  have hrow : Desk.logRow s.desk x = x.row (s.desk.store.named + 1) s.desk.now := rfl
  rw [persist_eq, Desk.persist_eq, hrow]
  cases hinsert : s.desk.store.logs.insert (·.id == ·.id) (x.row (s.desk.store.named + 1) s.desk.now) with
  | error fault =>
    show Gained refuses s (rollback ⟨{ s.desk with store := _ }, s.committed⟩).2 [x]
    rw [rolledBack_named h rfl]
    exact gained_untaken h (Store.not_takes_of_insert hinsert)
  | ok logs =>
    obtain ⟨rows, hrows, hclash, rfl⟩ := Table.insert_ok hinsert
    cases hrefused : refuses (x.row (s.desk.store.named + 1) s.desk.now) with
    | some fault =>
      have huntaken : s.desk.store.takes refuses (x.row (s.desk.store.named + 1) s.desk.now) = false := by
        simp [Store.takes, hrefused]
      show Gained refuses s (rollback ⟨{ s.desk with store := _ }, s.committed⟩).2 [x]
      rw [rolledBack_named h rfl]
      exact gained_untaken h huntaken
    | none =>
      have htaken : s.desk.store.takes refuses (x.row (s.desk.store.named + 1) s.desk.now) = true := by
        simp [Store.takes, hrefused, hrows, hclash]
      exact ⟨rfl, (Store.gained_taken hrows htaken).symm, rfl, rfl⟩

def Keeping (refuses : LogRow → Option Fault) (w w' : Session × List Execution) : Prop :=
  Settled w.1.desk w.1 → ∃ xs, w'.2 = w.2 ++ xs ∧ Gained refuses w.1 w'.1 xs

theorem frame_keeping : Frame (Keeping refuses) where
  refl w h := ⟨[], by simp, rfl, (Store.gained_nil _).symm, h⟩
  trans := by
    intro u v w huv hvw hu
    obtain ⟨xs, hxs, hv⟩ := huv hu
    obtain ⟨ys, hys, hw⟩ := hvw hv.settled
    refine ⟨xs ++ ys, by rw [hys, hxs, List.append_assoc], hw.now.trans hv.now, ?_, hw.settled⟩
    rw [hw.store, hv.store, hv.now, Store.gained_append]

theorem keeping_beside {α : Type} {m : StateM Desk α} (hstore : ∀ d, (m d).2.store = d.store)
    (hnow : ∀ d, (m d).2.now = d.now) : Keeps (Keeping refuses) (Rule.beside (work m)) := by
  rintro ⟨s, xs⟩ h
  refine ⟨[], (List.append_nil xs).symm, hnow s.desk, ?_, rfl, ?_⟩
  · rw [Store.gained_nil]
    exact hstore s.desk
  · show (m s.desk).2.store = { s.committed with named := (m s.desk).2.store.named }
    rw [hstore]
    exact h.committed

theorem now_execute (document : Document) (c : Context) (d : Desk) :
    (Desk.execute document c d).2.now = d.now := by
  have hframe : Frame fun d d' : Desk => d'.now = d.now := ⟨fun _ => rfl, fun h h' => h'.trans h⟩
  have hout : Desk.outlets.All fun _ => Keeps fun d d' : Desk => d'.now = d.now :=
    ⟨fun _ _ => rfl, fun _ _ => rfl, fun _ _ => rfl⟩
  exact Action.closed_execute hframe.closed hout (Desk.actionOptions d.settings) c document d

theorem surroundings_keeping : (surroundings refuses).recorded.All fun _ => Keeps (Keeping refuses) where
  activeRules _ _ _ := keeping_beside (fun _ => rfl) fun _ => rfl
  tenant _ := keeping_beside (fun _ => rfl) fun _ => rfl
  entity _ := keeping_beside (fun _ => rfl) fun _ => rfl
  user _ := keeping_beside (fun _ => rfl) fun _ => rfl
  persist x _ h := ⟨[x], rfl, gained_persist h x⟩
  execute d c := keeping_beside (Desk.storeless_execute d c).store_eq (now_execute d c)
  log _ := keeping_beside (fun _ => rfl) fun _ => rfl

/-- The store gains the executions that a batch hands over, as far as the database takes them, and no
others. -/
theorem gained_applyAll (refuses : LogRow → Option Fault) (h : Settled s.desk s) (e : Rule.Event) : ∃ xs,
    Gained refuses s (Rule.applyAll (surroundings refuses) e s).2 xs ∧
      Rule.Settled e ((surroundings refuses).activeRules e.tenantId e.entityId e.operation s).1
        (Rule.applyAll (surroundings refuses) e s).1 xs := by
  obtain ⟨xs, hrun, hsettled⟩ := Rule.traced_applyAll (surroundings refuses) e s []
  -- The account of the batch and what the store has gained are read off one recorded run.
  obtain ⟨ys, hys, hgained⟩ := Rule.closed_applyAll frame_keeping.closed surroundings_keeping e (s, []) h
  rw [hrun] at hys hgained
  cases List.append_cancel_left hys
  exact ⟨xs, hgained, hsettled⟩

end Session

end RecordDesk
