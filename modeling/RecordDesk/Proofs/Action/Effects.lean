import RecordDesk.Proofs.Action.Steps
import RecordDesk.Proofs.Template.Payload
set_option autoImplicit false

namespace RecordDesk

variable {σ α β : Type}

/-- The same outlets with a note of every call and of every attempt to notify, however they are answered. -/
def Outlets.noting (outlets : Outlets σ) : Outlets (σ × List Effect) where
  call h := fun w => ((outlets.call h w.1).1, (outlets.call h w.1).2, w.2 ++ [.call h])
  notify n := fun w => ((outlets.notify n w.1).1, (outlets.notify n w.1).2, w.2 ++ [.notice n])
  log entry := fun w => ((outlets.log entry w.1).1, (outlets.log entry w.1).2, w.2)

def Notes (m : StateM σ α) (m' : StateM (σ × List Effect) α) (effects : List Effect) : Prop :=
  ∀ w noted, m' (w, noted) = ((m w).1, (m w).2, noted ++ effects)

namespace Notes

theorem unnoted {m : StateM σ α} {m' : StateM (σ × List Effect) α}
    (h : ∀ w noted, m' (w, noted) = ((m w).1, (m w).2, noted)) : Notes m m' [] := by
  intro w noted
  rw [List.append_nil]
  exact h w noted

theorem pure (a : α) : Notes (Pure.pure a : StateM σ α) (Pure.pure a) [] := unnoted fun _ _ => rfl

theorem bind {m : StateM σ α} {m' : StateM (σ × List Effect) α} {f : α → StateM σ β}
    {f' : α → StateM (σ × List Effect) β} {effects more : List Effect} (hm : Notes m m' effects)
    (hf : ∀ a, Notes (f a) (f' a) more) : Notes (m >>= f) (m' >>= f') (effects ++ more) := by
  intro w noted
  change f' (m' (w, noted)).1 (m' (w, noted)).2 = _
  rw [hm, hf, List.append_assoc]
  rfl

end Notes

theorem Asks.notes {m : ∀ σ : Type, Outlets σ → StateM σ α} {effects : List Effect} (h : Asks α m effects)
    (outlets : Outlets σ) : Notes (m σ outlets) (m _ outlets.noting) effects := by
  induction h with
  | pure a => exact .pure a
  | call h => exact fun _ _ => rfl
  | notify n => exact fun _ _ => rfl
  | log entry => exact .unnoted fun _ _ => rfl
  | bind _ _ ihm ihf => exact .bind ihm ihf

namespace Action

variable (options : Options) (c : Context)

def settled (typeName : String) : Except Fault Result → Result
  | .ok r => r
  | .error fault => .failed typeName fault.message none

/-- The effects that an action asks for. -/
inductive Due : Action → Effect → Prop
  | webhook {hook : Webhook} {payload : Document} (h : sentPayload c hook = .ok payload) :
    Due (.webhook hook) (.call (webhookCall options c hook payload))
  | slack (s : Slack) : Due (.slack s) (.call (slackCall options c s))
  | notify (n : Notify) : Due (.notify n) (.notice (noticeOf c n))

/-- What the outside has to answer for an action to succeed. Any reply will do for a webhook; for a message
to a channel its status has to be one of the two hundreds. -/
inductive Accepted (outlets : Outlets σ) (w : σ) : Action → Prop
  | webhook {hook : Webhook} {payload : Document} {reply : HttpReply} (h : sentPayload c hook = .ok payload)
    (hreply : (outlets.call (webhookCall options c hook payload) w).1 = .ok reply) :
    Accepted outlets w (.webhook hook)
  | slack {s : Slack} {reply : HttpReply} (hreply : (outlets.call (slackCall options c s) w).1 = .ok reply)
    (hlow : 200 ≤ reply.status) (hhigh : reply.status < 300) : Accepted outlets w (.slack s)
  | notify {n : Notify} (htaken : (outlets.notify (noticeOf c n) w).1 = .ok ()) :
    Accepted outlets w (.notify n)
  | tag (t : Tag) : Accepted outlets w (.tag t)
  | rate (r : Rate) : Accepted outlets w (.rate r)

/-- Why nothing can be sent: the document is no action, or the payload it asks for cannot be read back. -/
inductive Refused (d : Document) (fault : Fault) : Prop
  | unread (h : read d = .error fault)
  | unfilled {hook : Webhook} (hread : read d = .ok (.webhook hook)) (h : sentPayload c hook = .error fault)

/-- What a run of a document has to come to, from a state of the outside: the effects that the action asks
for and no others, success just when the outside accepts it, and an error to show for everything else. -/
structure Executed (outlets : Outlets σ) (d : Document) (w : σ) (r : Result) (done : List Effect) : Prop where
  atMostOne : done.length ≤ 1
  due : ∀ e, e ∈ done ↔ ∃ a, read d = .ok a ∧ Due options c a e
  accepted : r.success = true ↔ ∃ a, read d = .ok a ∧ Accepted options c outlets w a
  refused : ∀ fault, Refused c d fault → r = .failed (typeOf d) fault.message none ∧ done = []
  explained : r.success = false ↔ r.error.isSome

variable (outlets : Outlets σ)

theorem notes_execute (d : Document) :
    Notes (execute outlets options c d) (execute outlets.noting options c d) (effectsOf options c d) :=
  (asks_execute options c d).notes outlets

theorem length_effects (a : Action) : (effects options c a).length ≤ 1 := by
  cases a with
  | webhook hook =>
    cases hp : sentPayload c hook with
    | ok payload => simp [effects, hp]
    | error fault => simp [effects, hp]
  | notify _ => exact le_refl 1
  | slack _ => exact le_refl 1
  | tag _ => exact Nat.zero_le 1
  | rate _ => exact Nat.zero_le 1

theorem mem_effects_iff (a : Action) (e : Effect) : e ∈ effects options c a ↔ Due options c a e := by
  cases a with
  | webhook hook =>
    cases hp : sentPayload c hook with
    | ok payload =>
      simp only [effects, hp, List.mem_singleton]
      constructor
      · rintro rfl
        exact .webhook hp
      · rintro ⟨h⟩
        cases hp.symm.trans h
        rfl
    | error fault =>
      simp only [effects, hp, List.not_mem_nil, false_iff]
      rintro ⟨h⟩
      cases hp.symm.trans h
  | notify n =>
    simp only [effects, List.mem_singleton]
    constructor
    · rintro rfl
      exact .notify n
    · rintro ⟨⟩
      rfl
  | slack s =>
    simp only [effects, List.mem_singleton]
    constructor
    · rintro rfl
      exact .slack s
    · rintro ⟨⟩
      rfl
  | tag _ => exact ⟨nofun, nofun⟩
  | rate _ => exact ⟨nofun, nofun⟩

theorem executeAs_ok (typeName : String) (a : Action) (w : σ) :
    (executeAs outlets options c typeName (.ok a) w).1 = settled typeName (run outlets options c a w).1 := by
  unfold executeAs
  dsimp only [Bind.bind, StateT.bind]
  obtain ⟨outcome, w'⟩ := run outlets options c a w
  cases outcome <;> rfl

theorem execute_of_read {d : Document} {a : Action} (h : read d = .ok a) (w : σ) :
    (execute outlets options c d w).1 = settled (typeOf d) (run outlets options c a w).1 := by
  rw [execute, h, executeAs_ok]

theorem execute_of_unread {d : Document} {fault : Fault} (h : read d = .error fault) (w : σ) :
    (execute outlets options c d w).1 = .failed (typeOf d) fault.message none := by
  rw [execute, h]
  rfl

theorem run_unfilled {hook : Webhook} {fault : Fault} (h : sentPayload c hook = .error fault) (w : σ) :
    (run outlets options c (.webhook hook) w).1 = .error fault := by
  unfold sentPayload at h
  simp only [run, runWebhook, h]
  rfl

theorem fdiv_hundred_iff (status : Int) : status.fdiv 100 = 2 ↔ 200 ≤ status ∧ status < 300 := by
  rw [Int.fdiv_eq_ediv_of_nonneg _ (by omega)]
  omega

/-- A result that succeeded under this condition only, and has an error to show otherwise. -/
structure Concluded (P : Prop) (r : Result) : Prop where
  succeeded : r.success = true ↔ P
  explained : r.success = false ↔ r.error.isSome = true

namespace Concluded

variable {P Q : Prop}

theorem ok (actionType : String) (output : Members) (h : P) : Concluded P (.ok actionType output) :=
  ⟨⟨fun _ => h, fun _ => rfl⟩, ⟨nofun, nofun⟩⟩

theorem failed (actionType error : String) (output : Option Members) (h : ¬ P) :
    Concluded P (.failed actionType error output) :=
  ⟨⟨nofun, fun hp => absurd hp h⟩, ⟨fun _ => rfl, fun _ => rfl⟩⟩

theorem congr {r : Result} (h : Concluded P r) (hpq : P ↔ Q) : Concluded Q r :=
  ⟨h.succeeded.trans hpq, h.explained⟩

theorem bind {typeName : String} {m : StateM σ α} {f : α → StateM σ (Except Fault Result)} {w : σ}
    (h : ∀ a w', (m w).1 = a → Concluded P (settled typeName (f a w').1)) :
    Concluded P (settled typeName ((m >>= f) w).1) :=
  h (m w).1 (m w).2 rfl

end Concluded

theorem accepted_webhook_iff (w : σ) {hook : Webhook} {payload : Document}
    (hp : sentPayload c hook = .ok payload) : Accepted options c outlets w (.webhook hook)
      ↔ ∃ reply, (outlets.call (webhookCall options c hook payload) w).1 = .ok reply := by
  constructor
  · rintro ⟨h, hreply⟩
    cases hp.symm.trans h
    exact ⟨_, hreply⟩
  · rintro ⟨reply, hreply⟩
    exact .webhook hp hreply

theorem accepted_slack_iff (w : σ) (s : Slack) : Accepted options c outlets w (.slack s)
    ↔ ∃ reply, (outlets.call (slackCall options c s) w).1 = .ok reply ∧ 200 ≤ reply.status ∧
    reply.status < 300 := by
  constructor
  · rintro ⟨⟩
    exact ⟨_, ‹_›, ‹_›, ‹_›⟩
  · rintro ⟨reply, hreply, hlow, hhigh⟩
    exact .slack hreply hlow hhigh

theorem accepted_notify_iff (w : σ) (n : Notify) :
    Accepted options c outlets w (.notify n) ↔ (outlets.notify (noticeOf c n) w).1 = .ok () :=
  ⟨by rintro ⟨⟩; assumption, .notify⟩

theorem concluded_run (typeName : String) (a : Action) (w : σ) :
    Concluded (Accepted options c outlets w a) (settled typeName (run outlets options c a w).1) := by
  cases a with
  | webhook hook =>
    cases hp : sentPayload c hook with
    | error fault =>
      rw [run_unfilled options c outlets hp]
      refine .failed _ _ _ ?_
      rintro ⟨h, _⟩
      cases hp.symm.trans h
    | ok payload =>
      refine .congr ?_ (accepted_webhook_iff options c outlets w hp).symm
      unfold sentPayload at hp
      unfold run runWebhook
      dsimp only
      rw [hp]
      refine .bind fun answer w' hanswer => ?_
      cases answer with
      | ok reply => exact .ok _ _ ⟨reply, hanswer⟩
      | error failure =>
        have hnone : ¬ ∃ reply, (outlets.call (webhookCall options c hook payload) w).1 = .ok reply :=
          fun ⟨_, hreply⟩ => nomatch hanswer.symm.trans hreply
        cases failure <;> exact .failed _ _ _ hnone
  | notify n =>
    refine .congr (.bind fun answer w' hanswer => ?_) (accepted_notify_iff options c outlets w n).symm
    cases answer with
    | ok _ => exact .ok _ _ hanswer
    | error fault => exact .failed _ _ _ fun htaken => nomatch hanswer.symm.trans htaken
  | slack s =>
    refine .congr (.bind fun answer w' hanswer => ?_) (accepted_slack_iff options c outlets w s).symm
    cases answer with
    | ok reply =>
      dsimp only
      simp only [fdiv_hundred_iff]
      by_cases hstatus : 200 ≤ reply.status ∧ reply.status < 300
      · rw [if_pos hstatus]
        exact .ok _ _ ⟨reply, hanswer, hstatus⟩
      · rw [if_neg hstatus]
        refine .failed _ _ _ fun ⟨_, hsame, hin⟩ => ?_
        cases hanswer.symm.trans hsame
        exact hstatus hin
    | error failure =>
      have hnone : ¬ ∃ reply, (outlets.call (slackCall options c s) w).1 = .ok reply
          ∧ 200 ≤ reply.status ∧ reply.status < 300 :=
        fun ⟨_, hreply, _⟩ => nomatch hanswer.symm.trans hreply
      cases failure <;> exact .failed _ _ _ hnone
  | tag t => exact .ok _ _ (.tag t)
  | rate r => exact .ok _ _ (.rate r)

theorem concluded_execute (d : Document) (w : σ) :
    Concluded (∃ a, read d = .ok a ∧ Accepted options c outlets w a) (execute outlets options c d w).1 := by
  cases hread : read d with
  | ok a =>
    rw [execute_of_read options c outlets hread]
    refine (concluded_run options c outlets _ a w).congr ⟨fun h => ⟨a, rfl, h⟩, ?_⟩
    rintro ⟨_, ⟨⟩, h⟩
    exact h
  | error fault =>
    rw [execute_of_unread options c outlets hread]
    refine .failed _ _ _ ?_
    rintro ⟨_, ⟨⟩, _⟩

theorem mem_effectsOf_iff (d : Document) (e : Effect) :
    e ∈ effectsOf options c d ↔ ∃ a, read d = .ok a ∧ Due options c a e := by
  cases hread : read d with
  | ok a =>
    simp only [effectsOf, hread, mem_effects_iff]
    refine ⟨fun h => ⟨a, rfl, h⟩, ?_⟩
    rintro ⟨_, ⟨⟩, h⟩
    exact h
  | error fault =>
    simp only [effectsOf, hread, List.not_mem_nil, false_iff]
    rintro ⟨_, ⟨⟩, _⟩

theorem length_effectsOf (d : Document) : (effectsOf options c d).length ≤ 1 := by
  unfold effectsOf
  split
  · exact length_effects options c _
  · exact Nat.zero_le 1

theorem execute_of_refused {d : Document} {fault : Fault} (h : Refused c d fault) (w : σ) :
    (execute outlets options c d w).1 = .failed (typeOf d) fault.message none ∧
    effectsOf options c d = [] := by
  cases h with
  | unread hread => exact ⟨execute_of_unread options c outlets hread w, by rw [effectsOf, hread]⟩
  | unfilled hread hp =>
    constructor
    · rw [execute_of_read options c outlets hread, run_unfilled options c outlets hp]
      rfl
    · simp only [effectsOf, hread, effects, hp]

/-- Every document is carried out to a result with at most one effect, and only where all that can fail
beforehand did not. -/
theorem execute_one_effect (outlets : Outlets σ) (options : Options) (c : Context) (d : Document) (w : σ) :
    ∃ r w' done, execute outlets options c d w = (r, w') ∧
    execute outlets.noting options c d (w, []) = (r, w', done)
      ∧ Executed options c outlets d w r done :=
  ⟨_, _, effectsOf options c d, rfl, notes_execute options c outlets d w [], {
    atMostOne := length_effectsOf options c d
    due := mem_effectsOf_iff options c d
    accepted := (concluded_execute options c outlets d w).succeeded
    refused := fun _ h => execute_of_refused options c outlets h w
    explained := (concluded_execute options c outlets d w).explained }⟩

/-- A server that answers everything with a redirect, and a sink that takes everything. -/
def redirecting : Outlets Unit where
  call _ := pure (.ok ⟨302, .null⟩)
  notify _ := pure (.ok ())
  log _ := pure ()

def greetingDocument : Document :=
  .object [("type", .text "slack"), ("webhook_url", .text "https://chat.example/hook"),
    ("message", .text "hello")]

theorem read_greetingDocument :
    read greetingDocument = .ok (.slack ⟨"https://chat.example/hook", "hello", none, none, none⟩) := rfl

/-- A message to a channel that is answered with a redirect was sent once, and failed. -/
theorem redirected_slack_fails : ∃ r done,
    execute redirecting.noting ⟨"SynkBoard", .ofInt 5000, .ofInt 5000⟩ (Template.contextOf "Ada")
      greetingDocument ((), [])
      = (r, (), done) ∧ r.success = false ∧ done.length = 1 := by
  obtain ⟨r, w', done, -, hrun, h⟩ :=
    execute_one_effect redirecting ⟨"SynkBoard", .ofInt 5000, .ofInt 5000⟩ (Template.contextOf "Ada")
      greetingDocument ()
  refine ⟨r, done, hrun, ?_, ?_⟩
  · rw [← Bool.not_eq_true, h.accepted]
    rintro ⟨a, hread, ha⟩
    cases read_greetingDocument.symm.trans hread
    obtain ⟨reply, hreply, -, hhigh⟩ := (accepted_slack_iff _ _ redirecting () _).mp ha
    cases hreply
    exact absurd hhigh (by decide)
  · have hmem := (h.due _).mpr ⟨_, read_greetingDocument, .slack _⟩
    exact le_antisymm h.atMostOne (List.length_pos_of_mem hmem)

end Action

end RecordDesk
