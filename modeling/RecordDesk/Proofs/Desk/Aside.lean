import RecordDesk.Proofs.Desk.Steps
import RecordDesk.Proofs.Rule.Aside
import RecordDesk.Proofs.Store.Names
import RecordDesk.Proofs.Store.Selection
set_option autoImplicit false

/-!
The service with a rule and without it. As long as the rule only fails, the two desks differ in nothing but
its own rows and what rules have logged.
-/

namespace RecordDesk

def LogRow.nameless (row : LogRow) : LogRow := { row with id := "" }

/-- The executions of all rules but one, whatever their names. -/
def Store.othersLogs (ruleId : String) (s : Store) : Table LogRow :=
  (s.logs.only (·.ruleId != ruleId)).map LogRow.nameless

namespace Desk

def without (ruleId : String) (d : Desk) : Desk :=
  { d with store := { d.store with rules := d.store.rules.only (·.id != ruleId) } }

def kept (d : Desk) (rows : List LogRow) (row : LogRow) : Desk :=
  { d with store := { d.store with
      named := d.store.named + 1
      logs := { d.store.logs with rows := some (rows ++ [row]) } } }

theorem persist_fresh {d : Desk} {rows : List LogRow} (h : d.store.Fresh)
    (hrows : d.store.logs.rows = some rows) (x : Rule.Execution) :
    persist x d = (.ok (), d.kept rows (logRow d x)) := by
  rw [persist_eq, h.insert hrows rfl]
  rfl

theorem othersLogs_kept {d : Desk} {rows : List LogRow} (hrows : d.store.logs.rows = some rows)
    (ruleId : String)
    (row : LogRow) : (d.kept rows row).store.othersLogs ruleId = { d.store.othersLogs ruleId with
      rows := (d.store.othersLogs ruleId).rows.map
        (· ++ if row.ruleId = ruleId then [] else [row.nameless]) } := by
  by_cases hid : row.ruleId = ruleId <;> simp [Store.othersLogs, Table.only, Table.map, kept, hrows, hid]

/-- Desks that differ only by the rows of a rule, by names of executions and by what rules have logged. -/
structure SameBut (ruleId : String) (d d' : Desk) : Prop where
  rest : d' = { d with
    store := { d.store with rules := d'.store.rules, logs := d'.store.logs, named := d'.store.named }
    logs := d'.logs }
  executions : d'.store.othersLogs ruleId = d.store.othersLogs ruleId
  entries : d'.logs.filter (·.logger != Rule.loggerName) = d.logs.filter (·.logger != Rule.loggerName)

/-- Such desks at which no name is taken that was not given out. -/
structure Beyond (ruleId : String) (d d' : Desk) : Prop extends SameBut ruleId d d' where
  fresh : d.store.Fresh
  fresh' : d'.store.Fresh

namespace Beyond

variable {ruleId : String} {d d' : Desk}

theorem start (h : d.store.Fresh) : Beyond ruleId d (d.without ruleId) := ⟨⟨rfl, rfl, rfl⟩, h, h⟩

theorem moved (h : Beyond ruleId d d') (exchanges : List Http.Exchange) (requests : List Http.Request)
    (clock : Binary64) (entries : List Log.Entry) :
    Beyond ruleId { d with exchanges, requests, clock, logs := d.logs ++ entries }
      { d' with exchanges, requests, clock, logs := d'.logs ++ entries } where
  rest := by
    rw [h.rest]
  executions := h.executions
  entries := by
    rw [List.filter_append, List.filter_append, h.entries]
  fresh := h.fresh
  fresh' := h.fresh'

theorem logged (h : Beyond ruleId d d') (entries : List Log.Entry) :
    Beyond ruleId { d with logs := d.logs ++ entries } { d' with logs := d'.logs ++ entries } := by
  have hrest : { d' with logs := d'.logs ++ entries }
      = { d' with
        exchanges := d.exchanges
        requests := d.requests
        clock := d.clock
        logs := d'.logs ++ entries } := by
    rw [h.rest]
  rw [hrest]
  exact h.moved d.exchanges d.requests d.clock entries

theorem both (h : Beyond ruleId d d') : (d.store.logs.rows = none ∧ d'.store.logs.rows = none) ∨
    ∃ rows rows', d.store.logs.rows = some rows ∧ d'.store.logs.rows = some rows' := by
  have hrows := congrArg Table.rows h.executions
  simp only [Store.othersLogs, Table.map, Table.only] at hrows
  cases hd : d.store.logs.rows with
  | none =>
    cases hd' : d'.store.logs.rows with
    | none => exact .inl ⟨rfl, rfl⟩
    | some rows' => simp [hd, hd'] at hrows
  | some rows =>
    cases hd' : d'.store.logs.rows with
    | none => simp [hd, hd'] at hrows
    | some rows' => exact .inr ⟨rows, rows', rfl, rfl⟩

theorem named (h : Beyond ruleId d d') :
    Beyond ruleId { d with store := { d.store with named := d.store.named + 1 } }
    { d' with store := { d'.store with named := d'.store.named + 1 } } where
  rest := by
    rw [h.rest]
  executions := h.executions
  entries := h.entries
  fresh := h.fresh.next
  fresh' := h.fresh'.next

theorem kept (h : Beyond ruleId d d') {rows rows' : List LogRow} (hrows : d.store.logs.rows = some rows)
    (hrows' : d'.store.logs.rows = some rows') (x : Rule.Execution) :
    Beyond ruleId (d.kept rows (logRow d x)) (d'.kept rows' (logRow d' x)) where
  rest := by
    rw [h.rest]
    rfl
  executions := by
    -- Under another name it is still the same execution.
    have hid : (logRow d' x).ruleId = (logRow d x).ruleId := rfl
    have hrow : (logRow d' x).nameless = (logRow d x).nameless := by
      rw [h.rest]
      rfl
    rw [othersLogs_kept hrows, othersLogs_kept hrows', h.executions, hid, hrow]
  entries := h.entries
  fresh := h.fresh.append hrows rfl
  fresh' := h.fresh'.append hrows' rfl

theorem persist (h : Beyond ruleId d d') (x : Rule.Execution) : (Desk.persist x d).1 = (Desk.persist x d').1 ∧
    Beyond ruleId (Desk.persist x d).2 (Desk.persist x d').2 := by
  have hname : d'.store.logs.name = d.store.logs.name :=
    show (d'.store.othersLogs ruleId).name =
      (d.store.othersLogs ruleId).name from congrArg Table.name h.executions
  rcases h.both with ⟨hrows, hrows'⟩ | ⟨rows, rows', hrows, hrows'⟩
  · rw [persist_eq, persist_eq, Table.insert_missing hrows, Table.insert_missing hrows', hname]
    exact ⟨rfl, h.named⟩
  · rw [persist_fresh h.fresh hrows, persist_fresh h.fresh' hrows']
    exact ⟨rfl, h.kept hrows hrows' x⟩

theorem persistAlone (h : Beyond ruleId d d') {x : Rule.Execution} (hx : x.ruleId = ruleId) :
    Beyond ruleId (Desk.persist x d).2 d' := by
  cases hrows : d.store.logs.rows with
  | none =>
    rw [persist_eq, Table.insert_missing hrows]
    refine ⟨⟨?_, h.executions, h.entries⟩, h.fresh.next, h.fresh'⟩
    rw [h.rest]
  | some rows =>
    rw [persist_fresh h.fresh hrows]
    refine ⟨⟨?_, ?_, h.entries⟩, h.fresh.append hrows rfl, h.fresh'⟩
    · rw [h.rest]
      rfl
    · rw [othersLogs_kept hrows, if_pos (show (logRow d x).ruleId = ruleId from hx), h.executions]
      simp

theorem loggedAlone (h : Beyond ruleId d d') {entry : Log.Entry} (hlogger : entry.logger = Rule.loggerName) :
    Beyond ruleId { d with logs := d.logs ++ [entry] } d' where
  rest := by
    rw [h.rest]
  executions := h.executions
  entries := by
    rw [h.entries, List.filter_append, List.filter_cons_of_neg (by simp [hlogger])]
    simp
  fresh := h.fresh
  fresh' := h.fresh'

end Beyond

variable {ruleId : String}

theorem outlets_beyond : outlets.Alike (Beyond ruleId) outlets where
  call c d d' h := by
    let account := Http.callWith Encoding.codecs d.clock c (d.exchanges.head?.getD standardExchange)
    have hcall : callWith Encoding.codecs c d' = (account.result, { d' with
        exchanges := if account.request.isSome then d.exchanges.tail else d.exchanges
        requests := d.requests ++ account.request.toList
        clock := account.clock
        logs := d'.logs ++ account.logs }) := by
      rw [h.rest]
      rfl
    change (callWith Encoding.codecs c d).1 = (callWith Encoding.codecs c d').1 ∧
      Beyond ruleId (callWith Encoding.codecs c d).2 (callWith Encoding.codecs c d').2
    rw [hcall]
    exact ⟨rfl, h.moved _ _ _ _⟩
  notify n _ _ h := ⟨rfl, h.logged [n.entry]⟩
  log entry _ _ h := ⟨rfl, h.logged [entry]⟩

theorem ask_beyond {α : Type} {question : Store → Except Fault α}
    (h : ∀ d d', SameBut ruleId d d' → question d.store = question d'.store) :
    Alike (Beyond ruleId) (ask question) (ask question) :=
  fun d d' hd => ⟨h d d' hd.toSameBut, hd⟩

theorem execute_beyond (document : Document) (c : Context) :
    Alike (Beyond ruleId) (execute document c) (execute document c) := by
  intro d d' h
  have hsettings : d'.settings = d.settings := by
    rw [h.rest]
  have hrun : execute document c d' =
    (.ok (Action.execute outlets (actionOptions d'.settings) c document d').1,
      (Action.execute outlets (actionOptions d'.settings) c document d').2) := rfl
  obtain ⟨hanswer, hend⟩ := Action.alike_execute outlets_beyond (actionOptions d.settings) c document d d' h
  show (execute document c d).1 = (execute document c d').1 ∧
    Beyond ruleId (execute document c d).2 (execute document c d').2
  rw [hrun, hsettings]
  exact ⟨congrArg Except.ok hanswer, hend⟩

theorem surroundings_beyond (e : Rule.Event) : surroundings.Alike (Beyond ruleId) e surroundings where
  nans := rfl
  tenant := ask_beyond fun d d' h => by rw [h.rest]; rfl
  entity := ask_beyond fun d d' h => by rw [h.rest]; rfl
  user _ _ _ := ask_beyond fun d d' h => by rw [h.rest]; rfl
  persist _ _ _ _ _ h := h.persist _
  execute := execute_beyond
  log _ _ _ h := ⟨rfl, h.logged [_]⟩

theorem surroundings_aside (e : Rule.Event) : surroundings.Aside (Beyond ruleId) e ruleId where
  tenant _ _ h := h
  entity _ _ h := h
  user _ _ _ h := h
  persist _ hx _ _ h := h.persistAlone hx
  log _ hlogger _ _ h := h.loggedAlone hlogger

end Desk

end RecordDesk
