import RecordDesk.Proofs.Rule.Frame
import RecordDesk.Proofs.Rule.SideBySide
import RecordDesk.Proofs.Rule.Stages
import RecordDesk.Rehearsal
set_option autoImplicit false

/-!
Surroundings that play fair. What an action comes to depends on the outside alone, and a rule that is not
matched stops before its first action, so it sends nothing and what is sent after it does not change.
-/

namespace RecordDesk

namespace Rule

variable {σ ω : Type}

/-- What is seen of a world: the calls and notices that were sent, the executions that are kept, and
whatever else actions depend on, such as the replies that are still to come. -/
structure Observer (σ ω : Type) where
  calls : σ → List HttpCall
  notices : σ → List Notice
  rest : σ → ω
  kept : σ → List Execution

namespace Observer

variable (view : Observer σ ω)

def outside (w : σ) : List HttpCall × List Notice × ω := (view.calls w, view.notices w, view.rest w)

def SameOutside (w v : σ) : Prop := view.outside w = view.outside v

def Unsent (w w' : σ) : Prop := view.outside w' = view.outside w

def Unseen (w w' : σ) : Prop := view.outside w' = view.outside w ∧ view.kept w' = view.kept w

theorem frame_unsent : Frame view.Unsent where
  refl _ := rfl
  trans h h' := h'.trans h

theorem frame_unseen : Frame view.Unseen where
  refl _ := ⟨rfl, rfl⟩
  trans h h' := ⟨h'.1.trans h.1, h'.2.trans h.2⟩

end Observer

def keptOf (keeping : String → Except Fault Unit) (xs : List Execution) : List Execution :=
  xs.filter fun x => (keeping x.ruleId).isOk

theorem keptOf_append (keeping : String → Except Fault Unit) (xs ys : List Execution) :
    keptOf keeping (xs ++ ys) = keptOf keeping xs ++ keptOf keeping ys :=
  List.filter_append xs ys

/-- Surroundings where actions depend on what is outside alone, and all else leaves that alone: lookups and
the log of the rules change nothing that is seen, and an execution is kept or not as the name of its rule
decides. -/
structure Surroundings.Steady (s : Surroundings σ) (view : Observer σ ω)
    (keeping : String → Except Fault Unit) : Prop where
  tenant : ∀ id, Keeps view.Unseen (s.tenant id)
  entity : ∀ id, Keeps view.Unseen (s.entity id)
  user : ∀ id, Keeps view.Unseen (s.user id)
  execute : ∀ d c, RecordDesk.Alike view.SameOutside (s.execute d c) (s.execute d c)
  execute_kept : ∀ d c w, view.kept (s.execute d c w).2 = view.kept w
  log : ∀ entry, RecordDesk.Alike view.SameOutside (s.log entry) (s.log entry)
  log_unsent : ∀ entry, entry.logger = loggerName → Keeps view.Unsent (s.log entry)
  log_kept : ∀ entry w, view.kept (s.log entry w).2 = view.kept w
  persist : ∀ x w, (s.persist x w).1 = keeping x.ruleId ∧ view.outside (s.persist x w).2 = view.outside w ∧
    view.kept (s.persist x w).2 = view.kept w ++ keptOf keeping [x]

/-- The same surroundings with nothing to fetch or to look up. -/
def Surroundings.unlooked (s : Surroundings σ) : Surroundings σ :=
  { s with
    activeRules := fun _ _ _ => pure (.ok [])
    tenant := fun _ => pure (.ok none)
    entity := fun _ => pure (.ok none)
    user := fun _ => pure (.ok none) }

variable {s : Surroundings σ} {e : Event} {w w' v : σ} {rule : Rule}

theorem runActions_unlooked (c : Context) (ds : List Document) :
    runActions s.unlooked c ds = runActions s c ds := by
  induction ds with
  | nil => rfl
  | cons d rest ih =>
    simp only [runActions, ih]
    rfl

theorem applyOne_unlooked (c : Context) : applyOne s.unlooked e c rule = applyOne s e c rule := by
  unfold applyOne evaluate
  simp only [runActions_unlooked]
  rfl

theorem evaluate_idle {c : Context} {answer : Except Fault Evaluation}
    (h : evaluate s rule c w = (answer, w')) (hidle : ∀ r, answer = .ok r → r.matched = false) :
    w' = w := by
  cases hread : (readConditions rule.conditions >>= fun cs =>
    Condition.evaluateAll s.nans cs c.record.fields) with
  | error fault =>
    rw [evaluate_unread hread] at h
    exact (congrArg Prod.snd h).symm
  | ok details =>
    by_cases hall : Condition.allMatched details = true
    · cases hactions : rule.actions.sequence with
      | error fault =>
        rw [evaluate_listless hread hall hactions] at h
        exact (congrArg Prod.snd h).symm
      | ok actions =>
        rw [evaluate_matched hread hall hactions] at h
        have hran := hidle _ (congrArg Prod.fst h).symm
        cases hran
    · rw [evaluate_skipped hread hall] at h
      exact (congrArg Prod.snd h).symm

section

variable {view : Observer σ ω} {keeping : String → Except Fault Unit} (h : s.Steady view keeping)

include h

theorem persist_unsent (x : Execution) : Keeps view.Unsent (s.persist x) := fun w => (h.persist x w).2.1

theorem log_unseen (entry : Log.Entry) (hlog : entry.logger = loggerName) : Keeps view.Unseen (s.log entry) :=
  fun w => ⟨h.log_unsent entry hlog w, h.log_kept entry w⟩

theorem conclusionOfFailure_unsent {error : String} {answer : Except Fault Outcome}
    (hone : conclusionOfFailure s e rule error w = (answer, w')) : view.Unsent w w' := by
  have hkeeps : Keeps view.Unsent (conclusionOfFailure s e rule error) :=
    closed_conclusionOfFailure view.frame_unsent.closed (fun x _ => persist_unsent h x) h.log_unsent e error
  have hunsent := hkeeps w
  rwa [hone] at hunsent

theorem applyOne_unsent {c : Context} {o : Outcome} (hone : applyOne s e c rule w = (.ok o, w'))
    (hidle : o.status ≠ .matched) : view.Unsent w w' := by
  cases heval : evaluate s rule c w with
  | mk answer w1 =>
    cases answer with
    | ok r =>
      rw [applyOne_decided heval] at hone
      cases hone
      have hm : r.matched = false := by simpa using hidle
      have hstill := evaluate_idle heval fun r' hr => by cases hr; exact hm
      subst hstill
      exact closed_conclude view.frame_unsent.closed (fun x _ => persist_unsent h x) h.log_unsent e _ _ w1
    | error fault =>
      have hstill := evaluate_idle heval fun r' hr => by cases hr
      subst hstill
      rw [applyOne_broken heval] at hone
      exact view.frame_unsent.trans (h.log_unsent _ rfl w1) (conclusionOfFailure_unsent h hone)

/-- What becomes of a rule depends on the outside alone, and not on what is kept. -/
theorem alike_unlooked : s.unlooked.Alike view.SameOutside e s.unlooked where
  nans := rfl
  tenant := .pure _
  entity := .pure _
  user _ _ _ := .pure _
  persist x _ _ := fun w v hwv => ⟨by
    change (s.persist x w).1 = (s.persist x v).1
    rw [(h.persist x w).1, (h.persist x v).1], by
    change view.outside (s.persist x w).2 = view.outside (s.persist x v).2
    rw [(h.persist x w).2.1, (h.persist x v).2.1, hwv]⟩
  execute := h.execute
  log := h.log

theorem alike_applyOne_self (c : Context) :
    Alike view.SameOutside (applyOne s e c rule) (applyOne s e c rule) := by
  have halike := alike_applyOne (alike_unlooked (e := e) h) c rule
  rwa [applyOne_unlooked] at halike

theorem alike_conclusionOfFailure_self (error : String) :
    Alike view.SameOutside (conclusionOfFailure s e rule error) (conclusionOfFailure s e rule error) :=
  alike_conclusionOfFailure (alike_unlooked h) rule error

end

end Rule

namespace Rehearsal

def observer : Rule.Observer Rehearsal (List (Except HttpFailure HttpReply) × Nat × List Log.Entry) where
  calls := calls
  notices := notices
  rest r := (r.replies, r.actionsRun, r.logs.filter (·.logger != Rule.loggerName))
  kept := executions

def keeping (script : Script) (ruleId : String) : Except Fault Unit :=
  if script.broken.contains "persist" || script.refusedLogs.contains ruleId then
  .error (.external "log table locked")
  else .ok ()

theorem sameOutside_iff {w v : Rehearsal} : observer.SameOutside w v ↔
    w.calls = v.calls ∧ w.notices = v.notices ∧ w.replies = v.replies ∧ w.actionsRun = v.actionsRun ∧
    w.logs.filter (·.logger != Rule.loggerName) = v.logs.filter (·.logger != Rule.loggerName) := by
  simp [Rule.Observer.SameOutside, Rule.Observer.outside, observer]

theorem alike_log (entry : Log.Entry) : Alike observer.SameOutside (log entry) (log entry) := by
  intro w v hwv
  rw [sameOutside_iff] at hwv
  obtain ⟨hcalls, hnotices, hreplies, hrun, hlogs⟩ := hwv
  refine ⟨rfl, sameOutside_iff.2 ⟨hcalls, hnotices, hreplies, hrun, ?_⟩⟩
  change (w.logs ++ [entry]).filter _ = (v.logs ++ [entry]).filter _
  rw [List.filter_append, List.filter_append, hlogs]

theorem alike_outlets (script : Script) : (outlets script).Alike observer.SameOutside (outlets script) where
  call c := by
    intro w v hwv
    rw [sameOutside_iff] at hwv
    obtain ⟨hcalls, hnotices, hreplies, hrun, hlogs⟩ := hwv
    refine ⟨?_, sameOutside_iff.2 ⟨?_, hnotices, ?_, hrun, hlogs⟩⟩
    · change w.replies.head?.getD _ = v.replies.head?.getD _
      rw [hreplies]
    · change w.calls ++ [c] = v.calls ++ [c]
      rw [hcalls]
    · change w.replies.tail = v.replies.tail
      rw [hreplies]
  notify n := by
    change Alike observer.SameOutside (notify script n) (notify script n)
    unfold notify
    split
    · exact .pure _
    · split
      · exact .bind (alike_log n.entry) fun _ => .pure _
      · intro w v hwv
        rw [sameOutside_iff] at hwv
        obtain ⟨hcalls, hnotices, hreplies, hrun, hlogs⟩ := hwv
        refine ⟨rfl, sameOutside_iff.2 ⟨hcalls, ?_, hreplies, hrun, hlogs⟩⟩
        change w.notices ++ [n] = v.notices ++ [n]
        rw [hnotices]
  log := alike_log

def runAt (script : Script) (position : Nat) (d : Document) (c : Context) :
    StateM Rehearsal (Except Fault Action.Result) :=
  if script.breaks.contains position then return .error (.external "boom")
  else return .ok (← Action.execute (outlets script) script.options c d)

theorem execute_eq_runAt (script : Script) (d : Document) (c : Context) (w : Rehearsal) : execute script d c w
    = runAt script (w.actionsRun + 1) d c { w with actionsRun := w.actionsRun + 1 } := by
  simp only [execute, runAt, bind, StateT.bind]
  rfl

theorem alike_runAt (script : Script) (position : Nat) (d : Document) (c : Context) :
    Alike observer.SameOutside (runAt script position d c) (runAt script position d c) := by
  unfold runAt
  split
  · exact .pure _
  · exact .bind (Action.alike_execute (alike_outlets script) script.options c d) fun _ => .pure _

theorem alike_execute (script : Script) (d : Document) (c : Context) :
    Alike observer.SameOutside (execute script d c) (execute script d c) := by
  intro w v hwv
  obtain ⟨hcalls, hnotices, hreplies, hrun, hlogs⟩ := sameOutside_iff.1 hwv
  have hcounted : observer.SameOutside { w with actionsRun := w.actionsRun + 1 }
      { v with actionsRun := w.actionsRun + 1 } :=
    sameOutside_iff.2 ⟨hcalls, hnotices, hreplies, rfl, hlogs⟩
  rw [execute_eq_runAt, execute_eq_runAt, ← hrun]
  exact alike_runAt script _ d c _ _ hcounted

theorem keeps_execute {R : Rehearsal → Rehearsal → Prop} (hR : Frame R)
    (hcount : ∀ w : Rehearsal, R w { w with actionsRun := w.actionsRun + 1 }) (hcall : ∀ c, Keeps R (call c))
    (hnotice : ∀ (n : Notice) (w : Rehearsal), R w { w with notices := w.notices ++ [n] })
    (hlog : ∀ entry, Keeps R (log entry)) (script : Script) (d : Document) (c : Context) :
    Keeps R (execute script d c) := by
  have hnotify (n : Notice) : Keeps R (notify script n) := by
    unfold notify
    split
    · exact hR.closed.pure _
    · split
      · exact hR.closed.bind (hlog n.entry) fun _ => hR.closed.pure _
      · exact hR.closed.bind (hnotice n) fun _ => hR.closed.pure _
  intro w
  rw [execute_eq_runAt]
  refine hR.trans (hcount w) ?_
  unfold runAt
  split
  · exact hR.refl _
  · exact hR.closed.bind (Action.closed_execute hR.closed ⟨hcall, hnotify, hlog⟩ script.options c d)
      (fun _ => hR.closed.pure _) _

def KeptStays (w w' : Rehearsal) : Prop := w'.executions = w.executions

theorem frame_keptStays : Frame KeptStays where
  refl _ := rfl
  trans h h' := h'.trans h

theorem keptStays_execute (script : Script) (d : Document) (c : Context) :
    Keeps KeptStays (execute script d c) :=
  keeps_execute frame_keptStays (fun _ => rfl) (fun _ _ => rfl) (fun _ _ => rfl) (fun _ _ => rfl) script d c

theorem steady (script : Script) : (surroundings script).Steady observer (keeping script) where
  tenant _ _ := ⟨rfl, rfl⟩
  entity _ _ := ⟨rfl, rfl⟩
  user _ _ := ⟨rfl, rfl⟩
  execute := alike_execute script
  execute_kept := keptStays_execute script
  log := alike_log
  log_unsent entry hlog w := by
    have hlogs : (w.logs ++ [entry]).filter (·.logger != Rule.loggerName)
        = w.logs.filter (·.logger != Rule.loggerName) := by
      simp [List.filter_append, hlog]
    exact congrArg (fun logs => (w.calls, w.notices, w.replies, w.actionsRun, logs)) hlogs
  log_kept _ _ := rfl
  persist x w := by
    change (persist script x w).1 = keeping script x.ruleId ∧ observer.outside (persist script x w).2
      = observer.outside w ∧ (persist script x w).2.executions =
        w.executions ++ Rule.keptOf (keeping script) [x]
    by_cases hrefused : (script.broken.contains "persist" || script.refusedLogs.contains x.ruleId) = true
    · have hfails : keeping script x.ruleId = .error (.external "log table locked") := if_pos hrefused
      have hrun : persist script x w = (.error (.external "log table locked"), w) := by
        simp only [persist, hrefused]
        rfl
      rw [hrun, hfails, Rule.keptOf, List.filter_cons_of_neg (by rw [hfails]; decide)]
      exact ⟨rfl, rfl, (List.append_nil _).symm⟩
    · have hkeeps : keeping script x.ruleId = .ok () := if_neg hrefused
      have hrun : persist script x w = (.ok (), { w with executions := w.executions ++ [x] }) := by
        simp only [persist, hrefused]
        rfl
      rw [hrun, hkeeps, Rule.keptOf, List.filter_cons_of_pos (by rw [hkeeps]; decide)]
      exact ⟨rfl, rfl, rfl⟩

end Rehearsal

end RecordDesk
