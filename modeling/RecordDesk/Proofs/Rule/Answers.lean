import RecordDesk.Proofs.Rule.Verdicts
import RecordDesk.Proofs.Value.Range
set_option autoImplicit false

/-!
Which conditions get an answer. Two things stand in the way: an integer past the range of binary64 numbers
that has to be compared, and a text with an integer of too many digits, which is asked for even where no
operator looks at it.
-/

namespace RecordDesk

/-- Operators whose refusals tell the rule's value. -/
def Operator.tellsValue : Operator → Bool
  | .isEmpty | .isNotEmpty | .changed => false
  | _ => true

def Check.Reasoned (c : Check) : Prop := c.matched = true ↔ c.reason = none

theorem Check.reasoned_pass : pass.Reasoned := iff_of_true rfl rfl

theorem Check.reasoned_refuse (reason : String) : (refuse reason).Reasoned :=
  iff_of_false Bool.false_ne_true (Option.some_ne_none reason)

namespace Condition

variable (nans : NaNs)

/-- A search for a member comes upon one that it cannot compare before one that it equals. -/
def Stops (v : Value) (members : List Value) : Prop :=
  ∃ passed w rest, members = passed ++ w :: rest ∧ (∀ u ∈ passed, v.strictEquals nans u = .ok false) ∧
    v.Incomparable w

theorem stops_cons {v w : Value} {rest : List Value} : Stops nans v (w :: rest) ↔
    v.Incomparable w ∨ v.strictEquals nans w = .ok false ∧ Stops nans v rest := by
  constructor
  · rintro ⟨passed, w', more, heq, hpassed, hstop⟩
    cases passed with
    | nil =>
      cases heq
      exact .inl hstop
    | cons u passed =>
      cases heq
      obtain ⟨hu, hpassed⟩ := List.forall_mem_cons.1 hpassed
      exact .inr ⟨hu, passed, w', more, rfl, hpassed, hstop⟩
  · rintro (hstop | ⟨hw, passed, w', more, rfl, hpassed, hstop⟩)
    · exact ⟨[], w, rest, rfl, fun u hu => (List.not_mem_nil hu).elim, hstop⟩
    · exact ⟨w :: passed, w', more, rfl, List.forall_mem_cons.2 ⟨hw, hpassed⟩, hstop⟩

theorem answers_isMember (v : Value) (members : List Value) :
    Answers (isMember nans v members) (Stops nans v members) := by
  induction members with
  | nil =>
    refine (Answers.ok false).congr (iff_of_false id ?_)
    rintro ⟨passed, w, rest, heq, -⟩
    exact List.append_ne_nil_of_right_ne_nil passed (List.cons_ne_nil w rest) heq.symm
  | cons w rest ih =>
    -- The search goes on only past a member that it could compare and that differs.
    rw [isMember]
    rcases Value.answers_strictEquals nans v w with ⟨hw, b, hb⟩ | ⟨hw, hb⟩
    · rw [hb]
      cases b with
      | true =>
        refine (Answers.ok true).congr (iff_of_false id ?_)
        rw [stops_cons, hb]
        rintro (hstop | ⟨⟨⟩, -⟩)
        exact hw hstop
      | false =>
        refine ih.congr ?_
        rw [stops_cons, hb, or_iff_right hw, and_iff_right rfl]
    · rw [hb]
      exact .inr ⟨(stops_cons nans).2 (.inl hw), rfl⟩

/-- An operator has to compare a number that is too wide. -/
def Overflows (current : Value) (expected : Document) : Operator → Prop
  | .equals | .notEquals => current.Incomparable (Value.of expected)
  | .gt | .lt | .gte | .lte => current.TooWide ∨ (Value.of expected).TooWide
  | .isIn | .notIn => Stops nans current (candidates expected)
  | .contains | .notContains | .isEmpty | .isNotEmpty | .changed => False

variable {nans} {current : Value} {expected : Document} {op : Operator} {fields : Fields} {fault : Fault}

theorem answers_ordered (c : Comparison) (v w : Value) : Answers (ordered c v w) (v.TooWide ∨ w.TooWide) :=
  v.answers_asNumber.bind fun _ _ => w.answers_asNumber.map _

theorem answers_decision (nans : NaNs) (current : Value) (expected : Document) (op : Operator) :
    Answers (decision nans current expected op) (Overflows nans current expected op) := by
  cases op with
  | equals => exact Value.answers_strictEquals nans current (Value.of expected)
  | notEquals => exact (Value.answers_strictEquals nans current (Value.of expected)).mapped _
  | gt => exact answers_ordered .gt current (Value.of expected)
  | lt => exact answers_ordered .lt current (Value.of expected)
  | gte => exact answers_ordered .gte current (Value.of expected)
  | lte => exact answers_ordered .lte current (Value.of expected)
  | isIn => exact answers_isMember nans current (candidates expected)
  | notIn => exact (answers_isMember nans current (candidates expected)).mapped _
  | contains | notContains | isEmpty | isNotEmpty | changed => exact .ok _

theorem printableItems_candidates (d : Document) : Value.printableItems (candidates d) =
    (Value.of d).isPrintable := by
  cases d with
  | list ds => rw [candidates, Value.of, Value.isPrintable]
  | _ => exact Bool.and_true _

theorem candidateText_eq (d : Document) : candidateText (candidates d) = if (Value.of d).isPrintable
    then .ok (String.intercalate ", " ((candidates d).map Value.asText)) else
    .error (.numeralTooLong none) := by
  rw [candidateText, Value.mapM_printed, printableItems_candidates]
  cases (Value.of d).isPrintable <;> rfl

variable {field shown : String}

theorem refusal_told (h : op.tellsValue = true → (Value.of expected).isPrintable = true) :
    ∃ text, refusal field shown expected op = .ok text := by
  cases op with
  | isEmpty | isNotEmpty | changed => exact ⟨_, rfl⟩
  | isIn | notIn => exact ⟨_, by rw [refusal, candidateText_eq, if_pos (h rfl)]; rfl⟩
  | contains | notContains => exact ⟨_, by rw [refusal, Value.printed_of_printable (h rfl)]; rfl⟩
  | equals | notEquals | gt | lt | gte | lte =>
    exact ⟨_, by rw [refusal, refusal.against, Value.printed_of_printable (h rfl)]; rfl⟩

theorem refusal_untold (hop : op.tellsValue = true) (h : (Value.of expected).isPrintable = false) :
    refusal field shown expected op = .error (.numeralTooLong none) := by
  have hne : ¬ (Value.of expected).isPrintable = true := Bool.eq_false_iff.1 h
  cases op with
  | isEmpty | isNotEmpty | changed => cases hop
  | isIn | notIn => rw [refusal, candidateText_eq, if_neg hne]; rfl
  | contains | notContains => rw [refusal, Value.printed_of_not_printable h]; rfl
  | equals | notEquals | gt | lt | gte | lte =>
    rw [refusal, refusal.against, Value.printed_of_not_printable h]
    rfl

/-- An operator asks for the text of the rule's value: before a search, and to tell it in a refusal. -/
def Tells (nans : NaNs) (current : Value) (expected : Document) (op : Operator) : Prop :=
  op.isTextual = true ∨ op.tellsValue = true ∧ decision nans current expected op = .ok false

/-- A text is asked for that cannot be written. -/
def Untold (nans : NaNs) (current : Value) (expected : Document) (op : Operator) : Prop :=
  current.isPrintable = false ∨ Tells nans current expected op ∧ (Value.of expected).isPrintable = false

/-- A check that comes to a decision and says why. -/
def Decides (check : Except Fault Check) (decision : Except Fault Bool) : Prop :=
  check.map (·.matched) = decision ∧ ∀ c, check = .ok c → c.Reasoned

theorem not_untold (h : current.isPrintable = true) (hx : (Value.of expected).isPrintable = true) :
    ¬ Untold nans current expected op := by
  rintro (hfield | ⟨-, hvalue⟩)
  · exact Bool.false_ne_true (hfield.symm.trans h)
  · exact Bool.false_ne_true (hvalue.symm.trans hx)

theorem check_printable (h : current.isPrintable = true)
    (hx : op.isTextual = true → (Value.of expected).isPrintable = true) :
    check nans field op current expected =
      decision nans current expected op >>= fun m =>
      Check.of m (refusal field current.asText expected op) := by
  rw [check, Value.printed_of_printable h]
  cases htextual : op.isTextual with
  | false => rfl
  | true =>
    change ((Value.of expected).printed >>= fun _ => _) = _
    rw [Value.printed_of_printable (hx htextual)]
    rfl

theorem check_untold (h : Untold nans current expected op) :
    check nans field op current expected = .error (.numeralTooLong none) := by
  cases hfield : current.isPrintable with
  | false => rw [check, Value.printed_of_not_printable hfield]; rfl
  | true =>
    obtain ⟨htells, hvalue⟩ := h.resolve_left (by simp [hfield])
    cases htextual : op.isTextual with
    | true =>
      rw [check, Value.printed_of_printable hfield, htextual, Value.printed_of_not_printable hvalue]
      rfl
    | false =>
      obtain ⟨htold, hrefused⟩ := htells.resolve_left (by simp [htextual])
      rw [check_printable hfield (by simp [htextual]), hrefused]
      change Check.of false (refusal field current.asText expected op) = _
      rw [refusal_untold htold hvalue]
      rfl

/-- With every text in hand that it asks for, a check says what the operator decides, and why. -/
theorem check_told (h : ¬ Untold nans current expected op) :
    Decides (check nans field op current expected) (decision nans current expected op) := by
  obtain ⟨hfield, htells⟩ := not_or.1 h
  rw [Bool.not_eq_false] at hfield
  have hvalue (ht : Tells nans current expected op) : (Value.of expected).isPrintable = true :=
    Bool.not_eq_false _ ▸ fun hx => htells ⟨ht, hx⟩
  rw [check_printable hfield fun htextual => hvalue (.inl htextual)]
  cases hdecision : decision nans current expected op with
  | error e => exact ⟨rfl, nofun⟩
  | ok matched =>
    cases matched with
    | true => exact ⟨rfl, by rintro c ⟨⟩; exact Check.reasoned_pass⟩
    | false =>
      obtain ⟨text, htext⟩ : ∃ text, refusal field current.asText expected op = .ok text :=
        refusal_told fun htold => hvalue (.inr ⟨htold, hdecision⟩)
      change Decides (Check.of false (refusal field current.asText expected op)) (.ok false)
      rw [htext]
      exact ⟨rfl, by rintro c ⟨⟩; exact Check.reasoned_refuse text⟩

/-- Why there is no answer about a field that holds something. -/
inductive Unanswerable (nans : NaNs) (current : Value) (expected : Document) (op : Operator) : Fault → Prop
  | untold (h : Untold nans current expected op) :
    Unanswerable nans current expected op (.numeralTooLong none)
  | overflow (htold : ¬ Untold nans current expected op) (h : Overflows nans current expected op) :
    Unanswerable nans current expected op .numberTooLarge

theorem Decides.error_iff {c : Except Fault Check} {d : Except Fault Bool} (h : Decides c d) :
    c = .error fault ↔ d = .error fault := by
  rw [← h.1, map_error_iff]

theorem check_error_iff :
    check nans field op current expected = .error fault ↔ Unanswerable nans current expected op fault := by
  by_cases huntold : Untold nans current expected op
  · rw [check_untold huntold]
    constructor
    · rintro ⟨⟩
      exact .untold huntold
    · rintro (- | ⟨htold, -⟩)
      · rfl
      · exact absurd huntold htold
  · rw [(check_told huntold).error_iff, (answers_decision nans current expected op).error_iff]
    constructor
    · rintro ⟨hover, rfl⟩
      exact .overflow huntold hover
    · rintro (huntold' | ⟨-, hover⟩)
      · exact absurd huntold' huntold
      · exact ⟨hover, rfl⟩

theorem evaluate_absent {operator : String}
    (h : fields.lookup field = none ∨ fields.lookup field = some .null) :
    evaluate nans ⟨field, operator, expected⟩ fields = .ok (checkNull field operator) := by
  unfold evaluate
  rcases h with h | h <;> simp only [h]

theorem evaluate_present {operator : String} {v : Value} (hv : fields.lookup field = some v)
    (hn : v ≠ .null) :
    evaluate nans ⟨field, operator, expected⟩ fields = match Operator.ofName? operator with
      | none => .ok (.refuse ("Unknown operator: " ++ operator))
      | some op => check nans field op v expected := by
  unfold evaluate
  dsimp only
  split
  · rename_i hnone
    cases hnone.symm.trans hv
  · rename_i hnull
    exact absurd (Option.some.inj (hv.symm.trans hnull)) hn
  · rename_i w hne hw
    obtain rfl : w = v := Option.some.inj (hw.symm.trans hv)
    rfl

/-- The field of a condition holds something, its operator is known, and there is no answer about it. -/
def Unanswered (nans : NaNs) (c : Condition) (fields : Fields) (fault : Fault) : Prop :=
  ∃ current op, fields.lookup c.field = some current ∧ current ≠ .null ∧
    Operator.ofName? c.operator = some op ∧ Unanswerable nans current c.value op fault

theorem evaluate_error_iff (c : Condition) :
    c.evaluate nans fields = .error fault ↔ c.Unanswered nans fields fault := by
  obtain ⟨field, operator, expected⟩ := c
  unfold Unanswered
  by_cases habsent : fields.lookup field = none ∨ fields.lookup field = some .null
  · rw [evaluate_absent habsent]
    refine iff_of_false nofun ?_
    rintro ⟨current, op, hcurrent, hpresent, -⟩
    rcases habsent with hnone | hnull
    · cases hnone.symm.trans hcurrent
    · exact hpresent (Option.some.inj (hcurrent.symm.trans hnull))
  · obtain ⟨hnone, hnull⟩ := not_or.1 habsent
    obtain ⟨current, hcurrent⟩ := Option.ne_none_iff_exists'.1 hnone
    have hpresent : current ≠ .null := fun h => hnull (h ▸ hcurrent)
    rw [evaluate_present hcurrent hpresent]
    cases hop : Operator.ofName? operator with
    | none => exact iff_of_false nofun (by simp)
    | some op => simp [hcurrent, hpresent, check_error_iff]

/-- The first condition without an answer is without it for this fault. -/
def FirstUnanswered (nans : NaNs) (cs : List Condition) (fields : Fields) (fault : Fault) : Prop :=
  ∃ passed c rest, cs = passed ++ c :: rest ∧ (∀ p ∈ passed, ∀ e, ¬ p.Unanswered nans fields e) ∧
    c.Unanswered nans fields fault

theorem evaluate_ok_iff (c : Condition) :
    (∃ check, c.evaluate nans fields = .ok check) ↔ ∀ e, ¬ c.Unanswered nans fields e := by
  simp only [ok_iff_no_error, ne_eq, evaluate_error_iff]

theorem evaluateAll_unanswered_iff {cs : List Condition} :
    evaluateAll nans cs fields = .error fault ↔ FirstUnanswered nans cs fields fault := by
  simp only [evaluateAll_error_iff, FirstUnanswered, evaluate_ok_iff, evaluate_error_iff]

theorem evaluateAll_answered_iff {cs : List Condition} :
    (∃ details, evaluateAll nans cs fields = .ok details) ↔ ∀ c ∈ cs, ∀ e, ¬ c.Unanswered nans fields e := by
  rw [evaluateAll, mapM_ok_iff]
  refine forall₂_congr fun c _ => ?_
  rw [← evaluate_ok_iff, bind_ok_iff]
  exact exists_congr fun check => and_iff_left ⟨_, rfl⟩

theorem preview_ok_iff {cs : List Condition} {actions : List Document} :
    (∃ report, Rule.preview nans cs (.list actions) fields = .ok report) ↔
      ∃ details, evaluateAll nans cs fields = .ok details := by
  rw [Rule.preview, bind_ok_iff]
  refine exists_congr fun details => and_iff_left ?_
  dsimp only
  split
  · exact ⟨_, rfl⟩
  · exact ⟨_, rfl⟩

theorem preview_error {cs : List Condition} (actions : List Document)
    (h : evaluateAll nans cs fields = .error fault) :
    Rule.preview nans cs (.list actions) fields = .error fault := by
  rw [Rule.preview, h]
  rfl

/-- Which conditions are answered, and why the others are not: a text is asked for that cannot be written,
or else a number is compared that is too wide. Lists of conditions and previews of rules are answered just
if all their conditions are, and otherwise the first that is not tells why. -/
theorem answered_iff (nans : NaNs) :
    (∀ (c : Condition) (fields : Fields),
      ((∃ check, c.evaluate nans fields = .ok check) ↔ ∀ fault, ¬ c.Unanswered nans fields fault) ∧
      ∀ fault, c.evaluate nans fields = .error fault ↔ c.Unanswered nans fields fault) ∧
    (∀ (cs : List Condition) (fields : Fields),
      ((∃ details, evaluateAll nans cs fields = .ok details) ↔
        ∀ c ∈ cs, ∀ fault, ¬ c.Unanswered nans fields fault) ∧
      ∀ fault, evaluateAll nans cs fields = .error fault ↔ FirstUnanswered nans cs fields fault) ∧
    ∀ (cs : List Condition) (actions : List Document) (data : Members),
      ((∃ report, Rule.preview nans cs (.list actions) (Value.ofMembers data) = .ok report) ↔
        ∀ c ∈ cs, ∀ fault, ¬ c.Unanswered nans (Value.ofMembers data) fault) ∧
      ∀ fault, FirstUnanswered nans cs (Value.ofMembers data) fault →
        Rule.preview nans cs (.list actions) (Value.ofMembers data) = .error fault := by
  refine ⟨fun c fields => ⟨evaluate_ok_iff c, fun fault => evaluate_error_iff c⟩,
    fun cs fields => ⟨evaluateAll_answered_iff, fun fault => evaluateAll_unanswered_iff⟩,
    fun cs actions data => ⟨?_, ?_⟩⟩
  · rw [preview_ok_iff, evaluateAll_answered_iff]
  · intro fault h
    exact preview_error actions (evaluateAll_unanswered_iff.2 h)

/-- The first integer past the range is more than zero, but there is no number to compare. -/
theorem wide_integer_unanswered : ¬ ∀ (nans : NaNs) (c : Condition) (fields : Fields),
    ∃ check, c.evaluate nans fields = .ok check := by
  intro hall
  have hatLimit : Binary64.integerLimit ≤ (Binary64.integerLimit : Int).natAbs ∧
      (Binary64.integerLimit : Int).natAbs ≤ Binary64.integerLimit :=
    ⟨(Int.natAbs_natCast _).ge, (Int.natAbs_natCast _).le⟩
  have htold : ¬ Untold .alike (.number (.int Binary64.integerLimit)) (.ofInt 0) .gt :=
    not_untold (Value.isPrintable_int hatLimit.2) (by decide)
  have hmore : Unanswered .alike ⟨"x", "gt", .ofInt 0⟩ [("x", .number (.int Binary64.integerLimit))]
      .numberTooLarge :=
    ⟨.number (.int Binary64.integerLimit), .gt, rfl, nofun, by decide, .overflow htold (.inl hatLimit.1)⟩
  exact (evaluate_ok_iff _).1 (hall .alike _ _) _ hmore

end Condition

end RecordDesk
