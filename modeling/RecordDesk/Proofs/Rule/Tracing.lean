import Mathlib
import RecordDesk.Rule
set_option autoImplicit false

/-!
Runs that keep an account of themselves. Beside a run over a state there is one that also collects the
executions that were handed over to be kept, whether keeping them worked or not; it goes the same way.
-/

namespace RecordDesk

namespace Rule

variable {σ α β : Type}

def beside (m : StateM σ α) : StateM (σ × List Execution) α :=
  fun w => ((m w.1).1, (m w.1).2, w.2)

def Surroundings.recorded (s : Surroundings σ) : Surroundings (σ × List Execution) where
  nans := s.nans
  activeRules tenantId entityId operation := beside (s.activeRules tenantId entityId operation)
  tenant id := beside (s.tenant id)
  entity id := beside (s.entity id)
  user id := beside (s.user id)
  persist x := fun w => ((s.persist x w.1).1, (s.persist x w.1).2, w.2 ++ [x])
  execute d c := beside (s.execute d c)
  log entry := beside (s.log entry)

/-- From a state on, the run with an account goes as the one without, and what it gives and adds to the
account is as described. -/
def TracedAt (w : σ) (m : StateM σ α) (m' : StateM (σ × List Execution) α)
    (post : α → List Execution → Prop) : Prop :=
  ∀ xs, ∃ ys, m' (w, xs) = ((m w).1, (m w).2, xs ++ ys) ∧ post (m w).1 ys

/-- So it is from every state on. -/
def Traced (m : StateM σ α) (m' : StateM (σ × List Execution) α) (post : α → List Execution → Prop) : Prop :=
  ∀ w, TracedAt w m m' post

namespace Traced

theorem pure {a : α} {post : α → List Execution → Prop} (h : post a []) :
    Traced (Pure.pure a : StateM σ α) (Pure.pure a) post := by
  intro w xs
  refine ⟨[], ?_, h⟩
  rw [List.append_nil]
  rfl

theorem bind_at {w : σ} {m : StateM σ α} {m' : StateM (σ × List Execution) α} {f : α → StateM σ β}
    {f' : α → StateM (σ × List Execution) β} {mid : α → List Execution → Prop}
    {post : β → List Execution → Prop} (hm : TracedAt w m m' mid)
    (hf : ∀ a ys, mid a ys → Traced (f a) (f' a) fun b zs => post b (ys ++ zs)) :
    TracedAt w (m >>= f) (m' >>= f') post := by
  intro xs
  obtain ⟨ys, hrun, hmid⟩ := hm xs
  obtain ⟨zs, hrun', hpost⟩ := hf _ ys hmid (m w).2 (xs ++ ys)
  refine ⟨ys ++ zs, ?_, hpost⟩
  change f' (m' (w, xs)).1 (m' (w, xs)).2 = _
  rw [hrun, hrun', List.append_assoc]
  rfl

theorem bind {m : StateM σ α} {m' : StateM (σ × List Execution) α} {f : α → StateM σ β}
    {f' : α → StateM (σ × List Execution) β} {mid : α → List Execution → Prop}
    {post : β → List Execution → Prop} (hm : Traced m m' mid)
    (hf : ∀ a ys, mid a ys → Traced (f a) (f' a) fun b zs => post b (ys ++ zs)) :
    Traced (m >>= f) (m' >>= f') post :=
  fun w => bind_at (hm w) hf

theorem mono {m : StateM σ α} {m' : StateM (σ × List Execution) α} {mid post : α → List Execution → Prop}
    (hm : Traced m m' mid) (h : ∀ a ys, mid a ys → post a ys) : Traced m m' post := by
  intro w xs
  obtain ⟨ys, hrun, hmid⟩ := hm w xs
  exact ⟨ys, hrun, h _ _ hmid⟩

theorem beside (m : StateM σ α) : Traced m (Rule.beside m) fun _ ys => ys = [] := by
  intro w xs
  refine ⟨[], ?_, rfl⟩
  rw [List.append_nil]
  rfl

end Traced

theorem traced_handOver (s : Surroundings σ) (x : Execution) :
    Traced (s.persist x) (s.recorded.persist x) fun _ ys => ys = [x] :=
  fun _ _ => ⟨[x], rfl, rfl⟩

theorem traced_persist (s : Surroundings σ) (x : Execution) :
    Traced (persist s x) (persist s.recorded x) fun _ ys => ys = [x] := by
  unfold persist
  refine (traced_handOver s x).bind fun r ys hys => ?_
  subst hys
  cases r with
  | ok u => exact .pure rfl
  | error fault => exact (Traced.beside _).mono fun _ zs hzs => by rw [hzs]; rfl

theorem traced_conclude (s : Surroundings σ) (e : Event) (ruleId : String) (status : Status)
    (r : Evaluation) :
    Traced (conclude s e ruleId status r) (conclude s.recorded e ruleId status r) fun _ ys =>
      ys = [⟨e.tenantId, ruleId, e.record.id, status, r.output⟩] := by
  unfold conclude
  refine (traced_persist s _).bind fun _ ys hys => ?_
  exact (Traced.beside _).mono fun _ zs hzs => by rw [hys, hzs]; rfl

theorem traced_runActions (s : Surroundings σ) (c : Context) (ds : List Document) :
    Traced (runActions s c ds) (runActions s.recorded c ds) fun results ys =>
      ys = [] ∧ results.length = ds.length := by
  induction ds with
  | nil => exact .pure ⟨rfl, rfl⟩
  | cons d rest ih =>
    unfold runActions
    refine (Traced.beside _).bind fun r ys hys => ?_
    subst hys
    refine ih.bind fun more zs hzs => ?_
    obtain ⟨rfl, hlen⟩ := hzs
    exact .pure ⟨rfl, by rw [List.length_cons, List.length_cons, hlen]⟩

end Rule

end RecordDesk
