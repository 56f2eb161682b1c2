import RecordDesk.Api
import RecordDesk.Proofs.Ingest.Replacement
import RecordDesk.Proofs.Rule.Turns
set_option autoImplicit false

namespace RecordDesk

/-! Conditions as they are written. -/

namespace Condition

theorem form_toDocument (notObject : IssueKind) (c : Condition) : form notObject c.toDocument = .valid c :=
    rfl

theorem items_toDocument (notObject : IssueKind) (start : Nat) (cs : List Condition) :
    Checked.items (form notObject) start (cs.map toDocument) = .valid cs := by
  induction cs generalizing start with
  | nil => rfl
  | cons c rest ih =>
    rw [List.map_cons, Checked.items, form_toDocument, ih]
    rfl

end Condition

namespace Rule

theorem readConditions_written (cs : List Condition) :
    readConditions (.list (cs.map Condition.toDocument)) = .ok cs := by
  change (Checked.items (Condition.form .modelType) 0 (cs.map Condition.toDocument)).toExcept
    "list[RuleCondition]" = _
  rw [Condition.items_toDocument]
  rfl

/-- A report says of an evaluation what it has come to. -/
structure Foretells (report : Members) (r : Evaluation) : Prop where
  matched : report.lookup "matched" = some (.boolean r.matched)
  met : report.lookup "conditions_met" = some (.ofNat r.conditionsMet)
  total : report.lookup "total_conditions" = some (.ofNat r.totalConditions)
  actions : report.lookup "actions_would_execute" = some (.ofNat (r.actionsExecuted + r.actionsFailed))
  details : ∃ details, report.lookup "evaluation_details" = some (.list details)
    ∧ r.output.lookup "condition_details" = some (.list details)

/-- Either both break on the same fault, or the report is there and so is what it foretells. -/
inductive Agree : Except Fault Members → Except Fault Evaluation → Prop
  | broken (fault : Fault) : Agree (.error fault) (.error fault)
  | foretold {report : Members} {r : Evaluation} (h : Foretells report r) : Agree (.ok report) (.ok r)

variable {σ : Type} {s : Surroundings σ} {rule : Rule} {c : Context} {cs : List Condition}
  {actions : List Document} {nans : NaNs} {fields : Fields} {details : List Condition.Detail}

theorem preview_broken {fault : Fault} (h : Condition.evaluateAll nans cs fields = .error fault) :
    preview nans cs (.list actions) fields = .error fault := by
  simp only [preview, h]
  rfl

theorem preview_ok (h : Condition.evaluateAll nans cs fields = .ok details) :
    preview nans cs (.list actions) fields
    = .ok [("matched", .boolean (Condition.allMatched details)),
      ("conditions_met", .ofNat (Condition.met details)),
      ("total_conditions", .ofNat cs.length),
      ("actions_would_execute", .ofNat (if Condition.allMatched details then actions.length else 0)),
      ("evaluation_details", .list (details.map Condition.Detail.toDocument))] := by
  simp only [preview, h, bind, Except.bind]
  cases Condition.allMatched details <;> rfl

theorem preview_agrees_of_read (hconditions : readConditions rule.conditions = .ok cs)
    (hactions : rule.actions = .list actions) (w : σ) :
    Agree (preview s.nans cs (.list actions) c.record.fields) (evaluate s rule c w).1 := by
  have hlist : rule.actions.sequence = .ok actions := by rw [hactions]; rfl
  cases heval : Condition.evaluateAll s.nans cs c.record.fields with
  | error fault =>
    rw [preview_broken heval, evaluate_unread (by rw [hconditions]; exact heval)]
    exact .broken fault
  | ok details =>
    have hread : (readConditions rule.conditions >>= fun cs =>
      Condition.evaluateAll s.nans cs c.record.fields)
        = .ok details := by rw [hconditions]; exact heval
    have htotal := length_of_evaluateAll heval
    rw [preview_ok heval]
    by_cases hall : Condition.allMatched details = true
    · rw [evaluate_matched hread hall hlist, if_pos hall]
      refine .foretold ⟨?_, rfl, ?_, ?_, _, rfl, rfl⟩
      · rw [hall]
        rfl
      · rw [htotal]
        rfl
      · rw [countP_add_countP_not, runActions_eq, List.length_map, length_turns]
        rfl
    · rw [evaluate_skipped hread hall, if_neg hall]
      refine .foretold ⟨?_, rfl, ?_, rfl, _, rfl, rfl⟩
      · rw [eq_false_of_ne_true hall]
        rfl
      · rw [htotal]
        rfl

end Rule

namespace Api

/-! Asking for a preview. -/

def Handling.Looks {α : Type} (m : Handling α) : Prop := ∀ d, (m.run d).2 = d

namespace Handling.Looks

variable {α β : Type}

theorem pure (a : α) : Looks (Pure.pure a) := fun _ => rfl

theorem bind {m : Handling α} {f : α → Handling β} (hm : m.Looks) (hf : ∀ a, (f a).Looks) : (m >>= f).Looks :=
  fun d => (Job.run_bind_desk hf d).trans (hm d)

theorem ofExcept (x : Except Fault α) : (Handling.ofExcept x).Looks := by
  cases x <;> exact fun _ => rfl

theorem ofChecked (x : Checked α) : (Handling.ofChecked x).Looks := by
  cases x <;> exact fun _ => rfl

theorem query (question : Store → Except Fault α) : (Handling.require (Desk.query question)).Looks := by
  intro d
  unfold Handling.require Handling.ofJob
  change (match (question d.store, d) with
    | (.ok a, d) => (Except.ok a, d)
    | (.error _, d) => (.error .broken, d) : Except Response α × Desk).2 = d
  cases question d.store <;> rfl

theorem caller (r : Request) : r.caller.Looks := by
  unfold Request.caller
  split <;> exact fun _ => rfl

theorem form (r : Request) (read : Form.Reader α) : (r.form read).Looks := by
  unfold Request.form
  split
  · exact fun _ => rfl
  · split
    · exact ofChecked _
    · exact fun _ => rfl

theorem entityOf (tenantId entityId : String) : (Api.entityOf tenantId entityId).Looks := by
  refine (query _).bind fun found => ?_
  cases found with
  | none => exact fun _ => rfl
  | some e =>
    dsimp only
    split <;> exact fun _ => rfl

theorem draftProblems (caller : Request.Caller) (draft : Draft) : (Api.draftProblems caller draft).Looks := by
  unfold Api.draftProblems
  split
  · exact .pure _
  · exact .pure _
  · exact (entityOf _ _).bind fun e => (query _).bind fun fields => .pure _

end Handling.Looks

theorem testRule_looks (r : Request) : (testRule r).Looks :=
  (Handling.Looks.caller r).bind fun caller => (Handling.Looks.form r draftForm).bind fun draft =>
    (Handling.Looks.draftProblems caller draft).bind fun _ => (Handling.Looks.ofExcept _).bind
      fun _ => .pure _

end Api

namespace Rule

/-- A preview agrees with what comes of a rule whose conditions are read as the same ones, as they are
wherever they are written down, and that has the same actions, whatever the surroundings do. Asking for a
preview does nothing. -/
theorem preview_agrees :
    (∀ cs : List Condition, readConditions (.list (cs.map Condition.toDocument)) = .ok cs) ∧
    (∀ {σ : Type} (s : Surroundings σ) (rule : Rule) (c : Context) (w : σ) (cs : List Condition)
      (actions : List Document) (data : Members), readConditions rule.conditions = .ok cs →
      rule.actions = .list actions → c.record.fields = Value.ofMembers data →
      Agree (preview s.nans cs (.list actions) (Value.ofMembers data)) (evaluate s rule c w).1) ∧
    ∀ (r : Api.Request) (d : Desk), ((Api.testRule r).run d).2 = d := by
  refine ⟨readConditions_written, fun s rule c w cs actions data hconditions hactions hfields => ?_,
    Api.testRule_looks⟩
  rw [← hfields]
  exact preview_agrees_of_read hconditions hactions w

def presence : List Condition := [⟨"x", "is_not_empty", .null⟩]

def welcome : Rule := ⟨"r", "Welcome", .list (presence.map Condition.toDocument),
    .list [Action.greetingDocument, .null]⟩

/-- Two actions are foretold, and both are accounted for although one has no answer and the other is
refused. -/
theorem welcome_foretold : ∃ (report : Members) (r : Evaluation),
    preview .apart presence (.list [Action.greetingDocument, .null]) [("x", .text "Ada")] = .ok report
      ∧ (evaluate (Rehearsal.surroundings Rehearsal.troubled) welcome (Template.contextOf "Ada")
        Rehearsal.unanswered).1 = .ok r
      ∧ r.matched = true ∧ r.actionsExecuted + r.actionsFailed = 2 := by
  have hagree := preview_agrees.2.1 (Rehearsal.surroundings Rehearsal.troubled) welcome
    (Template.contextOf "Ada") Rehearsal.unanswered presence [Action.greetingDocument, .null]
    [("x", .text "Ada")] (preview_agrees.1 presence) rfl rfl
  obtain ⟨details, heval, hall⟩ : ∃ details, Condition.evaluateAll .apart presence [("x", .text "Ada")] =
      .ok details ∧ Condition.allMatched details = true := ⟨_, rfl, rfl⟩
  have hpreview : preview .apart presence (.list [Action.greetingDocument, .null]) [("x", .text "Ada")] = _ :=
    preview_ok heval
  rw [if_pos hall, hall] at hpreview
  generalize (evaluate (Rehearsal.surroundings Rehearsal.troubled) welcome (Template.contextOf "Ada")
    Rehearsal.unanswered).1 = answer at hagree ⊢
  change Agree (preview .apart presence (.list [Action.greetingDocument, .null]) [("x", .text "Ada")])
    answer at hagree
  rw [hpreview] at hagree
  cases hagree with
  | @foretold _ r hforetold =>
    refine ⟨_, r, hpreview, rfl, ?_, ?_⟩
    · injection Option.some.inj hforetold.matched with hmatched
      exact hmatched.symm
    · injection Option.some.inj hforetold.actions with hnumber
      injection hnumber with hcount
      exact (Int.ofNat.inj hcount).symm

end Rule

end RecordDesk
