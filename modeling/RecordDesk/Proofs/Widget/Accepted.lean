import RecordDesk.Widget.Spec
set_option autoImplicit false

namespace RecordDesk

namespace Checked

variable {α β : Type}

/-- Something was read, and it is as stated. -/
def Gives (c : Checked α) (p : α → Prop) : Prop := ∃ a, c = .valid a ∧ p a

theorem gives_of_eq {c : Checked α} {a : α} (h : c = .valid a) : c.Gives (· = a) := ⟨a, h, rfl⟩

theorem gives_map {f : α → β} {c : Checked α} {p : β → Prop} : (f <$> c).Gives p ↔
    c.Gives fun a => p (f a) := by
  cases c <;> simp [Gives, Functor.map, Checked.map]

theorem gives_seq {f : Checked (α → β)} {c : Checked α} {p : β → Prop} :
    (f <*> c).Gives p ↔ f.Gives fun g => c.Gives fun a => p (g a) := by
  cases f <;> cases c <;> simp [Gives, Seq.seq, apply]

theorem eq_of_under {step : Step} {c : Checked α} {a : α} (h : c.under step = .valid a) : c = .valid a := by
  cases c with
  | valid b => exact h
  | invalid issues => cases h

end Checked

namespace Form

variable {α : Type} {read : Reader α}

theorem optional_valid {key : String} {absent a : α} {o : Members}
    (h : optional key absent read o = .valid a) : a = absent ∨ ∃ d, read d = .valid a := by
  unfold optional at h
  split at h
  · exact .inr ⟨_, Checked.eq_of_under h⟩
  · cases h
    exact .inl rfl

theorem nullable_valid {d : Document} {a : α} (h : nullable read d = .valid (some a)) :
    read d = .valid a := by
  unfold nullable at h
  split at h
  · cases h
  · obtain ⟨b, hb, hab⟩ := Checked.gives_map.1 (Checked.gives_of_eq h)
    cases hab
    exact hb

theorem optional_nullable_valid {key : String} {a : α} {o : Members}
    (h : optional key none (nullable read) o = .valid (some a)) : ∃ d, read d = .valid a := by
  rcases optional_valid h with hnone | ⟨d, hd⟩
  · cases hnone
  · exact ⟨d, nullable_valid hd⟩

theorem between_valid {low n : Int} {high : Option Int} {d : Document}
    (h : between (some low) high d = .valid n) : low ≤ n := by
  unfold between at h
  split at h
  · cases h
  · split at h
    · cases h
    · split at h
      · cases h
      · rename_i hlow
        cases h
        simpa using hlow

end Form

namespace Widget.Spec

def Accepted (spec : Spec) : Prop := ∃ notObject d, form notObject d = .valid spec

theorem paging_of_form {notObject : IssueKind} {d : Document} {spec : Spec} {p : Paging}
    (h : form notObject d = .valid spec) (hp : spec.paging = some p) :
    ∃ part, pagingForm notObject part = .valid p := by
  unfold form Form.record at h
  split at h
  · have hgives := Checked.gives_of_eq h
    simp only [Checked.gives_seq, Checked.gives_map] at hgives
    obtain ⟨tenant, -, entity, -, widget, -, metric, -, target, -, group, -, filters, -, range, -,
      limit, -, order, -, sort, -, paging, hpaging, trend, -, days, -, columns, -, title, -,
      subtitle, -, rfl⟩ := hgives
    cases hp
    exact Form.optional_nullable_valid hpaging
  · cases h

theorem Accepted.page_pos {spec : Spec} {p : Paging} (h : spec.Accepted) (hp : spec.paging = some p) :
    1 ≤ p.page := by
  obtain ⟨notObject, d, hform⟩ := h
  obtain ⟨part, hpart⟩ := paging_of_form hform hp
  unfold pagingForm Form.record at hpart
  split at hpart
  · have hgives := Checked.gives_of_eq hpart
    simp only [Checked.gives_seq, Checked.gives_map] at hgives
    obtain ⟨page, hpage, limit, -, rfl⟩ := hgives
    rcases Form.optional_valid hpage with rfl | ⟨d, hd⟩
    · exact Int.le_refl 1
    · exact Form.between_valid hd
  · cases hpart

end Widget.Spec

end RecordDesk
