import Mathlib
import RecordDesk.Action.Execution
set_option autoImplicit false

/-!
What is asked of the outside while an action is carried out. An action is read and filled in before anything
is sent, and then there is one call or one attempt to notify, or none; whatever the outlets are, all else
follows from their answers.
-/

namespace RecordDesk

/-- One thing that is done to the outside. -/
inductive Effect where
  | call (h : HttpCall)
  | notice (n : Notice)

/-- Runs over any outlets that ask of them for just these effects, one after another, however they are
answered. Entries for the log come and go. -/
inductive Asks : (α : Type) → (∀ σ : Type, Outlets σ → StateM σ α) → List Effect → Prop where
  | pure {α : Type} (a : α) : Asks α (fun _ _ => Pure.pure a) []
  | call (h : HttpCall) : Asks _ (fun _ outlets => outlets.call h) [.call h]
  | notify (n : Notice) : Asks _ (fun _ outlets => outlets.notify n) [.notice n]
  | log (entry : Log.Entry) : Asks _ (fun _ outlets => outlets.log entry) []
  | bind {α β : Type} {m : ∀ σ : Type, Outlets σ → StateM σ α} {f : α → ∀ σ : Type, Outlets σ → StateM σ β}
      {effects more : List Effect} : Asks α m effects → (∀ a, Asks β (f a) more) →
      Asks β (fun σ outlets => m σ outlets >>= fun a => f a σ outlets) (effects ++ more)

namespace Asks

variable {α β : Type} {m : ∀ σ : Type, Outlets σ → StateM σ α}
  {f : α → ∀ σ : Type, Outlets σ → StateM σ β} {effects : List Effect}

theorem followed (hm : Asks α m effects) (hf : ∀ a, Asks β (f a) []) :
    Asks β (fun σ outlets => m σ outlets >>= fun a => f a σ outlets) effects := by
  have hboth := hm.bind hf
  rwa [List.append_nil] at hboth

end Asks

namespace Action

variable (options : Options) (c : Context)

/-- The payload of a webhook as it is sent, if what was filled in can be read back. -/
def sentPayload (hook : Webhook) : Except Fault Document :=
  Template.interpolatePayload c.scope (Document.ofOption (hook.payload.map .object))

def webhookCall (hook : Webhook) (payload : Document) : HttpCall :=
  ⟨hook.method, Template.interpolate c.scope hook.url, webhookHeaders options hook.headers, payload,
    (hook.timeoutMs.map Quantity.ofInt).getD options.defaultTimeoutMs⟩

def slackCall (s : Slack) : HttpCall :=
  ⟨"POST", s.webhookUrl, [("Content-Type", "application/json")],
    slackBody s (Template.interpolate c.scope s.message), options.slackTimeoutMs⟩

def noticeOf (n : Notify) : Notice :=
  ⟨c.tenant.id, c.rule.id, c.record.id, n.level, Template.interpolate c.scope n.message, n.channels⟩

def effects : Action → List Effect
  | .webhook hook => match sentPayload c hook with
    | .ok payload => [.call (webhookCall options c hook payload)]
    | .error _ => []
  | .notify n => [.notice (noticeOf c n)]
  | .slack s => [.call (slackCall options c s)]
  | .tag _ | .rate _ => []

def effectsOf (d : Document) : List Effect :=
  match read d with
  | .ok a => effects options c a
  | .error _ => []

theorem asks_run (a : Action) : Asks _ (fun _ outlets => run outlets options c a) (effects options c a) := by
  cases a with
  | webhook hook =>
    unfold run runWebhook effects sentPayload
    dsimp only
    cases Template.interpolatePayload c.scope (Document.ofOption (hook.payload.map .object)) with
    | error fault => exact .pure _
    | ok payload =>
      refine (Asks.call _).followed fun r => ?_
      cases r with
      | ok reply => exact .pure _
      | error failure => cases failure <;> exact .pure _
  | notify n =>
    refine (Asks.notify _).followed fun r => ?_
    cases r <;> exact .pure _
  | tag t => exact (Asks.log _).followed fun _ => .pure _
  | rate r => exact (Asks.log _).followed fun _ => .pure _
  | slack s =>
    refine (Asks.call _).followed fun r => ?_
    cases r with
    | ok reply =>
      dsimp only
      split <;> exact .pure _
    | error failure => cases failure <;> exact .pure _

theorem asks_execute (d : Document) :
    Asks _ (fun _ outlets => execute outlets options c d) (effectsOf options c d) := by
  unfold execute executeAs effectsOf
  -- A fault is only logged; by then all is done that has an effect.
  cases read d with
  | ok a =>
    refine (asks_run options c a).followed fun outcome => ?_
    cases outcome with
    | ok result => exact .pure _
    | error fault => exact (Asks.log _).followed fun _ => .pure _
  | error fault =>
    refine (Asks.pure _).followed fun outcome => ?_
    cases outcome with
    | ok result => exact .pure _
    | error fault => exact (Asks.log _).followed fun _ => .pure _

end Action

end RecordDesk
