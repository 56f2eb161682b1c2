import RecordDesk.Proofs.Action.Steps
import RecordDesk.Rule
set_option autoImplicit false

/-!
What rules leave alone. If all that collaborators do is of one kind, and that kind is closed under doing one
thing after another, a whole batch is of that kind, whatever the collaborators answer. One such kind are the
runs that respect a relation between states.
-/

namespace RecordDesk

variable {σ α β : Type}

/-- A kind of runs: doing nothing is of it, and so is one run of it after another. -/
structure Closed (C : (α : Type) → StateM σ α → Prop) : Prop where
  pure : ∀ {α : Type} (a : α), C α (Pure.pure a)
  bind : ∀ {α β : Type} {m : StateM σ α} {f : α → StateM σ β}, C α m → (∀ a, C β (f a)) → C β (m >>= f)

/-- A run leads from each state only to states that are related to it. -/
def Keeps (R : σ → σ → Prop) (m : StateM σ α) : Prop := ∀ w, R w (m w).2

/-- A relation that holds across no step and across two if it does across each. -/
structure Frame (R : σ → σ → Prop) : Prop where
  refl : ∀ w, R w w
  trans : ∀ {u v w}, R u v → R v w → R u w

theorem Frame.closed {R : σ → σ → Prop} (hR : Frame R) : Closed fun α => Keeps (α := α) R where
  pure _ w := hR.refl w
  bind hm hf w := hR.trans (hm w) (hf _ _)

variable {C : (α : Type) → StateM σ α → Prop}

/-- The servers, the notifications and the log do what is of one kind. -/
structure Outlets.All (C : (α : Type) → StateM σ α → Prop) (outlets : Outlets σ) : Prop where
  call : ∀ c, C _ (outlets.call c)
  notify : ∀ n, C _ (outlets.notify n)
  log : ∀ entry, C _ (outlets.log entry)

variable {outlets : Outlets σ}

theorem Asks.closed {m : ∀ σ : Type, Outlets σ → StateM σ α} {effects : List Effect} (h : Asks α m effects)
    (hC : Closed C) (hout : outlets.All C) : C α (m σ outlets) := by
  induction h with
  | pure a => exact hC.pure a
  | call h => exact hout.call h
  | notify n => exact hout.notify n
  | log entry => exact hout.log entry
  | bind _ _ ihm ihf => exact hC.bind ihm ihf

theorem Action.closed_execute (hC : Closed C) (h : outlets.All C) (options : Options) (c : Context)
    (d : Document) : C _ (execute outlets options c d) :=
  (asks_execute options c d).closed hC h

namespace Rule

/-- All collaborators do what is of one kind. -/
structure Surroundings.All (C : (α : Type) → StateM σ α → Prop) (s : Surroundings σ) : Prop where
  activeRules : ∀ tenantId entityId operation, C _ (s.activeRules tenantId entityId operation)
  tenant : ∀ id, C _ (s.tenant id)
  entity : ∀ id, C _ (s.entity id)
  user : ∀ id, C _ (s.user id)
  persist : ∀ x, C _ (s.persist x)
  execute : ∀ d c, C _ (s.execute d c)
  log : ∀ entry, C _ (s.log entry)

variable {s : Surroundings σ}

theorem closed_runActions (hC : Closed C) (h : s.All C) (c : Context) (ds : List Document) :
    C _ (runActions s c ds) := by
  induction ds with
  | nil => exact hC.pure _
  | cons d rest ih => exact hC.bind (h.execute d c) fun _ => hC.bind ih fun _ => hC.pure _

theorem closed_evaluate (hC : Closed C) (h : s.All C) (rule : Rule) (c : Context) :
    C _ (evaluate s rule c) := by
  unfold evaluate
  dsimp only
  split
  · exact hC.pure _
  · split
    · split
      · exact hC.pure _
      · exact hC.bind (closed_runActions hC h c _) fun _ => hC.pure _
    · exact hC.pure _

theorem closed_persist (hC : Closed C) {x : Execution} (hx : C _ (s.persist x))
    (hlog : ∀ entry, entry.logger = loggerName → C _ (s.log entry)) : C _ (persist s x) := by
  refine hC.bind hx fun r => ?_
  cases r with
  | ok u => exact hC.pure _
  | error fault => exact hlog _ rfl

theorem closed_conclude (hC : Closed C) {ruleId : String} (hkeep : ∀ x, x.ruleId = ruleId → C _ (s.persist x))
    (hlog : ∀ entry, entry.logger = loggerName → C _ (s.log entry)) (e : Event) (status : Status)
    (r : Evaluation) : C _ (conclude s e ruleId status r) :=
  hC.bind (closed_persist hC (hkeep _ rfl) hlog) fun _ => hlog _ rfl

theorem closed_conclusionOfFailure (hC : Closed C) {rule : Rule}
    (hkeep : ∀ x, x.ruleId = rule.id → C _ (s.persist x))
    (hlog : ∀ entry, entry.logger = loggerName → C _ (s.log entry)) (e : Event) (error : String) :
    C _ (conclusionOfFailure s e rule error) := by
  unfold conclusionOfFailure
  split
  · exact hC.pure _
  · exact hC.bind (closed_conclude hC hkeep hlog e _ _) fun _ => hC.pure _

theorem closed_abortAll (hC : Closed C) (h : s.All C) (e : Event) (error : String) (rules : List Rule) :
    C _ (abortAll s e error rules) := by
  induction rules with
  | nil => exact hC.pure _
  | cons rule rest ih =>
    refine hC.bind (closed_conclusionOfFailure hC (fun x _ => h.persist x) (fun entry _ => h.log entry)
      e error) fun r => ?_
    cases r with
    | error fault => exact hC.pure _
    | ok outcome => exact hC.bind ih fun _ => hC.pure _

theorem closed_applyOne (hC : Closed C) (h : s.All C) (e : Event) (c : Context) (rule : Rule) :
    C _ (applyOne s e c rule) := by
  refine hC.bind (closed_evaluate hC h rule c) fun r => ?_
  cases r with
  | error fault =>
    refine hC.bind (h.log _) fun _ => ?_
    exact closed_conclusionOfFailure hC (fun x _ => h.persist x) (fun entry _ => h.log entry) e _
  | ok result =>
    refine hC.bind ?_ fun _ => hC.pure _
    exact closed_conclude hC (fun x _ => h.persist x) (fun entry _ => h.log entry) e _ _

theorem closed_applyEach (hC : Closed C) (h : s.All C) (e : Event) (c : Rule → Context) (rules : List Rule) :
    C _ (applyEach s e c rules) := by
  induction rules with
  | nil => exact hC.pure _
  | cons rule rest ih =>
    refine hC.bind (closed_applyOne hC h e (c rule) rule) fun r => ?_
    cases r with
    | error fault => exact hC.pure _
    | ok outcome => exact hC.bind ih fun _ => hC.pure _

theorem closed_scope (hC : Closed C) {e : Event} (ht : C _ (s.tenant e.tenantId))
    (hn : C _ (s.entity e.entityId)) : C _ (scope s e) := by
  refine hC.bind ht fun r => ?_
  cases r with
  | error fault => exact hC.pure _
  | ok tenant =>
    refine hC.bind hn fun r => ?_
    cases r with
    | error fault => exact hC.pure _
    | ok entity => cases tenant <;> cases entity <;> exact hC.pure _

theorem closed_actor (hC : Closed C) (hu : ∀ id, C _ (s.user id))
    (hlog : ∀ entry, entry.logger = loggerName → C _ (s.log entry)) (userId : Option String) :
    C _ (actor s userId) := by
  unfold actor
  split
  · exact hC.pure _
  · exact hC.pure _
  · refine hC.bind (hu _) fun r => ?_
    cases r with
    | ok user => exact hC.pure _
    | error fault => exact hC.bind (hlog _ rfl) fun _ => hC.pure _

theorem closed_applyAll (hC : Closed C) (h : s.All C) (e : Event) : C _ (applyAll s e) := by
  refine hC.bind (h.activeRules _ _ _) fun r => ?_
  cases r with
  | error fault => exact hC.bind (h.log _) fun _ => hC.pure _
  | ok rules =>
    cases rules with
    | nil => exact hC.pure _
    | cons rule rest =>
      refine hC.bind (closed_scope hC (h.tenant _) (h.entity _)) fun r => ?_
      cases r with
      | error fault =>
        exact hC.bind (h.log _) fun _ => hC.bind (closed_abortAll hC h e _ _) fun _ => hC.pure _
      | ok found =>
        refine hC.bind (closed_actor hC h.user (fun entry _ => h.log entry) e.userId) fun user => ?_
        exact hC.bind (closed_applyEach hC h e _ _) fun _ => hC.pure _

end Rule

end RecordDesk
