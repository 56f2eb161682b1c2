import RecordDesk.Proofs.Action.Steps
import RecordDesk.Rule
set_option autoImplicit false

/-!
Rules over two outside worlds. Where the collaborators of an event answer alike in related worlds and leave
them related, so does the whole batch; the two worlds need not be of one kind.
-/

namespace RecordDesk

variable {σ τ α β ε : Type}

/-- From related states two runs give the same answer, and the states after them are related as the answer
says. -/
def Coupled (P : σ → τ → Prop) (m : StateM σ α) (m' : StateM τ α) (Q : α → σ → τ → Prop) : Prop :=
  ∀ w v, P w v → (m w).1 = (m' v).1 ∧ Q (m w).1 (m w).2 (m' v).2

/-- Two runs with the same answers that keep their states related. -/
abbrev Alike (R : σ → τ → Prop) (m : StateM σ α) (m' : StateM τ α) : Prop :=
  Coupled R m m' fun _ => R

variable {R : σ → τ → Prop}

namespace Coupled

theorem bind {P : σ → τ → Prop} {Q : α → σ → τ → Prop} {S : β → σ → τ → Prop} {m : StateM σ α}
    {m' : StateM τ α} {f : α → StateM σ β} {f' : α → StateM τ β} (hm : Coupled P m m' Q)
    (hf : ∀ a, Coupled (Q a) (f a) (f' a) S) : Coupled P (m >>= f) (m' >>= f') S := by
  intro w v h
  obtain ⟨hfst, hsnd⟩ := hm w v h
  have hrest := hf (m w).1 (m w).2 (m' v).2 hsnd
  have hright : (m' >>= f') v = f' (m w).1 (m' v).2 := by rw [hfst]; rfl
  rw [hright]
  exact hrest

theorem mono {P P' : σ → τ → Prop} {Q Q' : α → σ → τ → Prop} {m : StateM σ α} {m' : StateM τ α}
    (h : Coupled P m m' Q) (hP : ∀ w v, P' w v → P w v) (hQ : ∀ a w v, Q a w v → Q' a w v) :
    Coupled P' m m' Q' :=
  fun w v hw => ⟨(h w v (hP w v hw)).1, hQ _ _ _ (h w v (hP w v hw)).2⟩

theorem facts {p : Prop} {P : σ → τ → Prop} {Q : α → σ → τ → Prop} {m : StateM σ α} {m' : StateM τ α}
    (h : p → Coupled P m m' Q) : Coupled (fun w v => p ∧ P w v) m m' Q :=
  fun w v hw => h hw.1 w v hw.2

/-- What holds after work that may fail: one thing if there is an answer, another if there is none. -/
def Ending (Q : α → σ → τ → Prop) (E : σ → τ → Prop) : Except ε α → σ → τ → Prop
  | .ok a => Q a
  | .error _ => E

section

variable {P E : σ → τ → Prop} {Q : α → σ → τ → Prop} {m : ExceptT ε (StateM σ) α}
  {m' : ExceptT ε (StateM τ) α}

theorem bindExcept {S : β → σ → τ → Prop} {f : α → ExceptT ε (StateM σ) β} {f' : α → ExceptT ε (StateM τ) β}
    (hm : Coupled P m.run m'.run (Ending Q E)) (hf : ∀ a, Coupled (Q a) (f a).run (f' a).run (Ending S E)) :
    Coupled P (m >>= f).run (m' >>= f').run (Ending S E) := by
  change Coupled P (m.run >>= ExceptT.bindCont f) (m'.run >>= ExceptT.bindCont f') (Ending S E)
  refine bind hm fun r => ?_
  cases r with
  | ok a => exact hf a
  | error e => exact fun w v h => ⟨rfl, h⟩

theorem weaken {E' : σ → τ → Prop} (h : Coupled P m.run m'.run (Ending Q E)) (hE : ∀ w v, E w v → E' w v) :
    Coupled P m.run m'.run (Ending Q E') :=
  h.mono (fun _ _ hP => hP) fun r _ _ hr => by
    cases r with
    | ok a => exact hr
    | error e => exact hE _ _ hr

theorem ending (h : Alike P m.run m'.run) (hE : ∀ w v, P w v → E w v) :
    Coupled P m.run m'.run (Ending (fun _ => P) E) :=
  h.mono (fun _ _ hP => hP) fun r _ _ hr => by
    cases r with
    | ok a => exact hr
    | error e => exact hE _ _ hr

theorem bindAlike {f : α → ExceptT ε (StateM σ) β} {f' : α → ExceptT ε (StateM τ) β}
    (hm : Coupled P m.run m'.run (Ending Q E)) (hf : ∀ a, Coupled (Q a) (f a).run (f' a).run fun _ => E) :
    Coupled P (m >>= f).run (m' >>= f').run fun _ => E := by
  change Coupled P (m.run >>= ExceptT.bindCont f) (m'.run >>= ExceptT.bindCont f') fun _ => E
  refine bind hm fun r => ?_
  cases r with
  | ok a => exact hf a
  | error e => exact fun w v h => ⟨rfl, h⟩

end

end Coupled

namespace Alike

theorem pure (a : α) : Alike R (Pure.pure a : StateM σ α) (Pure.pure a) := fun _ _ h => ⟨rfl, h⟩

theorem bind {m : StateM σ α} {m' : StateM τ α} {f : α → StateM σ β} {f' : α → StateM τ β} (hm : Alike R m m')
    (hf : ∀ a, Alike R (f a) (f' a)) : Alike R (m >>= f) (m' >>= f') :=
  Coupled.bind hm hf

theorem bindExcept {m : ExceptT ε (StateM σ) α} {m' : ExceptT ε (StateM τ) α} {f : α → ExceptT ε (StateM σ) β}
    {f' : α → ExceptT ε (StateM τ) β} (hm : Alike R m.run m'.run) (hf : ∀ a, Alike R (f a).run (f' a).run) :
    Alike R (m >>= f).run (m' >>= f').run :=
  Coupled.bindAlike (Coupled.ending hm fun _ _ h => h) hf

end Alike

/-- Servers, notifications and log that answer alike. -/
structure Outlets.Alike (R : σ → τ → Prop) (o : Outlets σ) (o' : Outlets τ) : Prop where
  call : ∀ c, RecordDesk.Alike R (o.call c) (o'.call c)
  notify : ∀ n, RecordDesk.Alike R (o.notify n) (o'.notify n)
  log : ∀ entry, RecordDesk.Alike R (o.log entry) (o'.log entry)

variable {o : Outlets σ} {o' : Outlets τ}

theorem Asks.alike {m : ∀ σ : Type, Outlets σ → StateM σ α} {effects : List Effect} (h : Asks α m effects)
    (hout : o.Alike R o') : RecordDesk.Alike R (m σ o) (m τ o') := by
  induction h with
  | pure a => exact .pure a
  | call h => exact hout.call h
  | notify n => exact hout.notify n
  | log entry => exact hout.log entry
  | bind _ _ ihm ihf => exact .bind ihm ihf

theorem Action.alike_execute (h : o.Alike R o') (options : Options) (c : Context) (d : Document) :
    RecordDesk.Alike R (execute o options c d) (execute o' options c d) :=
  (asks_execute options c d).alike h

namespace Rule

/-- The collaborators answer the questions of an event alike, and do alike what it asks of them. The
fetching of rules is left out: there may be others on either side. -/
structure Surroundings.Alike (R : σ → τ → Prop) (e : Event) (s : Surroundings σ) (s' : Surroundings τ) :
    Prop where
  nans : s.nans = s'.nans
  tenant : RecordDesk.Alike R (s.tenant e.tenantId) (s'.tenant e.tenantId)
  entity : RecordDesk.Alike R (s.entity e.entityId) (s'.entity e.entityId)
  user : ∀ id, id ≠ "" → e.userId = some id → RecordDesk.Alike R (s.user id) (s'.user id)
  persist : ∀ x, x.tenantId = e.tenantId → x.recordId = e.record.id →
    RecordDesk.Alike R (s.persist x) (s'.persist x)
  execute : ∀ d c, RecordDesk.Alike R (s.execute d c) (s'.execute d c)
  log : ∀ entry, RecordDesk.Alike R (s.log entry) (s'.log entry)

variable {e : Event} {s : Surroundings σ} {s' : Surroundings τ}

theorem alike_runActions (h : s.Alike R e s') (c : Context) (ds : List Document) :
    Alike R (runActions s c ds) (runActions s' c ds) := by
  induction ds with
  | nil => exact .pure _
  | cons d rest ih => exact .bind (h.execute d c) fun _ => .bind ih fun _ => .pure _

theorem alike_evaluate (h : s.Alike R e s') (rule : Rule) (c : Context) :
    Alike R (evaluate s rule c) (evaluate s' rule c) := by
  unfold evaluate
  rw [h.nans]
  dsimp only
  split
  · exact .pure _
  · split
    · split
      · exact .pure _
      · exact .bind (alike_runActions h c _) fun _ => .pure _
    · exact .pure _

theorem alike_persist (h : s.Alike R e s') (x : Execution) (ht : x.tenantId = e.tenantId)
    (hr : x.recordId = e.record.id) : Alike R (persist s x) (persist s' x) := by
  refine .bind (h.persist x ht hr) fun r => ?_
  cases r with
  | ok u => exact .pure _
  | error fault => exact h.log _

theorem alike_conclude (h : s.Alike R e s') (ruleId : String) (status : Status) (r : Evaluation) :
    Alike R (conclude s e ruleId status r) (conclude s' e ruleId status r) :=
  .bind (alike_persist h _ rfl rfl) fun _ => h.log _

theorem alike_conclusionOfFailure (h : s.Alike R e s') (rule : Rule) (error : String) :
    Alike R (conclusionOfFailure s e rule error) (conclusionOfFailure s' e rule error) := by
  unfold conclusionOfFailure
  split
  · exact .pure _
  · exact .bind (alike_conclude h _ _ _) fun _ => .pure _

theorem alike_abortAll (h : s.Alike R e s') (error : String) (rules : List Rule) :
    Alike R (abortAll s e error rules) (abortAll s' e error rules) := by
  induction rules with
  | nil => exact .pure _
  | cons rule rest ih =>
    refine .bind (alike_conclusionOfFailure h rule error) fun r => ?_
    cases r with
    | error fault => exact .pure _
    | ok outcome => exact .bind ih fun _ => .pure _

theorem alike_applyOne (h : s.Alike R e s') (c : Context) (rule : Rule) :
    Alike R (applyOne s e c rule) (applyOne s' e c rule) := by
  refine .bind (alike_evaluate h rule c) fun r => ?_
  cases r with
  | error fault => exact .bind (h.log _) fun _ => alike_conclusionOfFailure h rule _
  | ok result => exact .bind (alike_conclude h _ _ _) fun _ => .pure _

theorem alike_applyEach (h : s.Alike R e s') (c : Rule → Context) (rules : List Rule) :
    Alike R (applyEach s e c rules) (applyEach s' e c rules) := by
  induction rules with
  | nil => exact .pure _
  | cons rule rest ih =>
    refine .bind (alike_applyOne h (c rule) rule) fun r => ?_
    cases r with
    | error fault => exact .pure _
    | ok outcome => exact .bind ih fun _ => .pure _

theorem alike_scope (h : s.Alike R e s') : Alike R (scope s e) (scope s' e) := by
  refine .bind h.tenant fun r => ?_
  cases r with
  | error fault => exact .pure _
  | ok tenant =>
    refine .bind h.entity fun r => ?_
    cases r with
    | error fault => exact .pure _
    | ok entity => cases tenant <;> cases entity <;> exact .pure _

theorem alike_actor (h : s.Alike R e s') : Alike R (actor s e.userId) (actor s' e.userId) := by
  unfold actor
  split
  · exact .pure _
  · exact .pure _
  · rename_i id hne hid
    refine .bind (h.user id hne hid) fun r => ?_
    cases r with
    | ok user => exact .pure _
    | error fault => exact .bind (h.log _) fun _ => .pure _

theorem alike_applyAll (h : s.Alike R e s')
    (hrules : Alike R (s.activeRules e.tenantId e.entityId e.operation)
      (s'.activeRules e.tenantId e.entityId e.operation)) : Alike R (applyAll s e) (applyAll s' e) := by
  refine .bind hrules fun r => ?_
  cases r with
  | error fault => exact .bind (h.log _) fun _ => .pure _
  | ok rules =>
    cases rules with
    | nil => exact .pure _
    | cons rule rest =>
      refine .bind (alike_scope h) fun r => ?_
      cases r with
      | error fault => exact .bind (h.log _) fun _ => .bind (alike_abortAll h _ _) fun _ => .pure _
      | ok found =>
        refine .bind (alike_actor h) fun user => ?_
        exact .bind (alike_applyEach h _ _) fun _ => .pure _

end Rule

end RecordDesk
