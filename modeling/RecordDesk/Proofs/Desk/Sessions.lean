import RecordDesk.Proofs.Desk.Steps
import RecordDesk.Proofs.Ingest.Frame
set_option autoImplicit false

/-!
Work on the store in transactions. What is kept becomes permanent when it is committed, and a rollback
undoes the rest back to the last commit; so it never reaches what was committed before the work began.
-/

namespace RecordDesk

/-- A desk as the work on it sees it, and its store as it was last committed. -/
structure Session where
  desk : Desk
  committed : Store

namespace Session

variable {α β : Type}

def work (m : StateM Desk α) : StateM Session α :=
  fun s => ((m s.desk).1, { s with desk := (m s.desk).2 })

/-- Undoes what was not committed. Names that were given out are not taken back. -/
def rollback : StateM Session Unit :=
  modify fun s => { s with desk := { s.desk with store := { s.committed with named := s.desk.store.named } } }

def undoing (r : Except Fault Unit) : StateM Session (Except Fault Unit) :=
  match r with
  | .ok () => return .ok ()
  | .error fault => do
    rollback
    return .error fault

def stage (x : Rule.Execution) : StateM Session (Except Fault Unit) := do
  undoing (← work (Desk.persist x))

/-- Makes what was done permanent, unless the database refuses that. -/
def commit (refused : Option Fault) : StateM Session (Except Fault Unit) := do
  match refused with
  | none =>
    modify fun s => { s with committed := s.desk.store }
    return .ok ()
  | some fault => undoing (.error fault)

/-- Keeps an execution for good, or not at all. -/
def persist (refuses : LogRow → Option Fault) (x : Rule.Execution) : StateM Session (Except Fault Unit) := do
  let row ← work (fun d => (Desk.logRow d x, d))
  match ← stage x with
  | .ok () => commit (refuses row)
  | .error fault => return .error fault

theorem persist_eq (refuses : LogRow → Option Fault) (x : Rule.Execution) (s : Session) :
    persist refuses x s = (match Desk.persist x s.desk, refuses (Desk.logRow s.desk x) with
      | (.ok (), d), none => (.ok (), ⟨d, d.store⟩)
      | (.ok (), d), some fault => (.error fault, (rollback ⟨d, s.committed⟩).2)
      | (.error fault, d), _ => (.error fault, (rollback ⟨d, s.committed⟩).2)) := by
  simp only [persist, stage, work, bind, StateT.bind]
  cases Desk.persist x s.desk with
  | mk answer d => cases answer <;> cases refuses (Desk.logRow s.desk x) <;> rfl

def surroundings (refuses : LogRow → Option Fault) : Rule.Surroundings Session where
  nans := Desk.surroundings.nans
  activeRules tenantId entityId operation := work (Desk.surroundings.activeRules tenantId entityId operation)
  tenant id := work (Desk.surroundings.tenant id)
  entity id := work (Desk.surroundings.entity id)
  user id := work (Desk.surroundings.user id)
  persist := persist refuses
  execute d c := work (Desk.surroundings.execute d c)
  log entry := work (Desk.surroundings.log entry)

/-- Work made of such steps in whatever order, whatever it does besides and wherever it ends. It changes the
store by staging executions only, and the changes are committed or undone. -/
inductive Orderly : {α : Type} → StateM Session α → Prop where
  | pure {α : Type} (a : α) : Orderly (Pure.pure a)
  | bind {α β : Type} {m : StateM Session α} {f : α → StateM Session β} :
      Orderly m → (∀ a, Orderly (f a)) → Orderly (m >>= f)
  | besides {α : Type} {m : StateM Desk α} : (∀ d, (m d).2.store = d.store) → Orderly (work m)
  | stage (x : Rule.Execution) : Orderly (stage x)
  | commit (refused : Option Fault) : Orderly (commit refused)
  | rollback : Orderly rollback

namespace Orderly

theorem closed : Closed fun _ m => Orderly m := ⟨.pure, .bind⟩

theorem persist (refuses : LogRow → Option Fault) (x : Rule.Execution) :
    Orderly (Session.persist refuses x) := by
  refine .bind (.besides fun _ => rfl) fun row => .bind (.stage x) fun r => ?_
  cases r with
  | ok u => exact .commit _
  | error fault => exact .pure _

theorem surroundings (refuses : LogRow → Option Fault) :
    (Session.surroundings refuses).All fun _ m => Orderly m where
  activeRules _ _ _ := .besides fun _ => rfl
  tenant _ := .besides fun _ => rfl
  entity _ := .besides fun _ => rfl
  user _ := .besides fun _ => rfl
  persist := persist refuses
  execute d c := .besides (Desk.storeless_execute d c).store_eq
  log _ := .besides fun _ => rfl

theorem applyAll (refuses : LogRow → Option Fault) (e : Rule.Event) :
    Orderly (Rule.applyAll (Session.surroundings refuses) e) :=
  Rule.closed_applyAll closed (surroundings refuses) e

end Orderly

/-- Of a store that was there before, executions at most were added to what is committed and to what is
not. -/
structure Upon (base : Store) (s : Session) : Prop where
  committed : base.LogsOnly s.committed
  present : base.LogsOnly s.desk.store

namespace Upon

variable {base : Store} {s : Session}

theorem rolledBack (h : Upon base s) : Upon base (rollback s).2 :=
  ⟨h.committed, { h.committed with }⟩

theorem undone (h : Upon base s) (r : Except Fault Unit) : Upon base (undoing r s).2 := by
  cases r with
  | ok u => exact h
  | error fault => exact h.rolledBack

theorem staged (h : Upon base s) (x : Rule.Execution) : Upon base (stage x s).2 := by
  have hput : Upon base (work (Desk.persist x) s).2 :=
    ⟨h.committed, h.present.trans (Desk.keeps_persist x s.desk)⟩
  exact hput.undone _

theorem settled (h : Upon base s) (refused : Option Fault) : Upon base (commit refused s).2 := by
  cases refused with
  | none => exact ⟨h.present, h.present⟩
  | some fault => exact h.rolledBack

theorem orderly (h : Upon base s) {m : StateM Session α} (hm : Orderly m) : Upon base (m s).2 := by
  -- A rollback goes no further back than to the last commit, and every commit was made upon the base.
  induction hm generalizing s with
  | pure a => exact h
  | bind hm hf ihm ihf => exact ihf _ (ihm h)
  | @besides α m hm =>
    refine ⟨h.committed, ?_⟩
    rw [show (work m s).2.desk.store = (m s.desk).2.store from rfl, hm]
    exact h.present
  | stage x => exact h.staged x
  | commit refused => exact h.settled refused
  | rollback => exact h.rolledBack

end Upon

/-! Without refusals. -/

/-- A session at a desk where nothing is left to be committed. -/
structure Settled (d : Desk) (s : Session) : Prop where
  desk : s.desk = d
  committed : d.store = { s.committed with named := d.store.named }

theorem Settled.rolledBack {d : Desk} {s : Session} (h : Settled d s) : (rollback s).2 = s := by
  obtain ⟨desk, committed⟩ := s
  obtain ⟨rfl, hstore⟩ := h
  show Session.mk { desk with store := { committed with named := desk.store.named } } committed =
    ⟨desk, committed⟩
  rw [← show desk.store = { committed with named := desk.store.named } from hstore]

theorem alike_work {m : StateM Desk α} (h : ∀ d, (m d).2.store = d.store) : Alike Settled m (work m) := by
  rintro d s ⟨rfl, hd⟩
  refine ⟨rfl, rfl, ?_⟩
  show (m s.desk).2.store = { s.committed with named := (m s.desk).2.store.named }
  rw [h]
  exact hd

theorem alike_persist (x : Rule.Execution) : Alike Settled (Desk.persist x) (persist (fun _ => none) x) := by
  rintro d s ⟨rfl, hd⟩
  rw [persist_eq]
  cases hp : Desk.persist x s.desk with
  | mk answer d' =>
    cases answer with
    | ok u => exact ⟨rfl, rfl, rfl⟩
    | error fault =>
      -- The name is used up, and the rollback leaves it so.
      obtain rfl := Desk.persist_error hp
      have hd' : Settled { s.desk with store := { s.desk.store with named := s.desk.store.named + 1 } }
          ⟨{ s.desk with store := { s.desk.store with named := s.desk.store.named + 1 } }, s.committed⟩ := by
        refine ⟨rfl, ?_⟩
        rw [hd]
      refine ⟨rfl, ?_⟩
      dsimp only
      rw [hd'.rolledBack]
      exact hd'

/-- Where the database takes everything, rules in a session do what they do without one. -/
theorem alike_applyAll (e : Rule.Event) :
    Alike Settled (Rule.applyAll Desk.surroundings e) (Rule.applyAll (surroundings fun _ => none) e) :=
  Rule.alike_applyAll {
    nans := rfl
    tenant := alike_work fun _ => rfl
    entity := alike_work fun _ => rfl
    user _ _ _ := alike_work fun _ => rfl
    persist x _ _ := alike_persist x
    execute d c := alike_work (Desk.storeless_execute d c).store_eq
    log _ := alike_work fun _ => rfl } (alike_work fun _ => rfl)

end Session

end RecordDesk
