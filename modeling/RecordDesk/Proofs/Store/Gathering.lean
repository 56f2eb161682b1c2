import RecordDesk.Proofs.Store.Figures
set_option autoImplicit false

namespace RecordDesk

open Std

section

variable {α : Type} {cmp : α → α → Ordering}

theorem mergeSort_agree {le le' : α → α → Bool} {rows : List α}
    (h : ∀ a ∈ rows, ∀ b ∈ rows, le a b = le' a b) : rows.mergeSort le = rows.mergeSort le' := by
  have hsame := List.map_mergeSort (s := le') (f := id) h
  rw [List.map_id, List.map_id] at hsame
  exact hsame

/-- One more row comes behind the sorted rows that it may not stand before, and in front of the others. -/
theorem mergeSort_cons_eq {le : α → α → Bool}
    (htrans : ∀ a b c, le a b = true → le b c = true → le a c = true)
    (htotal : ∀ a b, (le a b || le b a) = true) (a : α) (rows : List α) : (a :: rows).mergeSort le =
      (rows.mergeSort le).filter (fun b => !le a b) ++ a :: (rows.mergeSort le).filter (le a) := by
  obtain ⟨before, after, hall, hrows, hbefore⟩ := List.mergeSort_cons htrans htotal a rows
  have hsorted := List.pairwise_mergeSort htrans htotal (a :: rows)
  rw [hall] at hsorted
  have hafter := (List.pairwise_cons.1 (List.pairwise_append.1 hsorted).2.1).1
  have hnone : before.filter (le a) = [] := List.filter_eq_nil_iff.2 fun b hb => by simpa using hbefore b hb
  have hnone' : after.filter (fun b => !le a b) = [] := List.filter_eq_nil_iff.2 fun b hb => by
    simp [hafter b hb]
  rw [hall, hrows, List.filter_append, List.filter_append, hnone, hnone', List.filter_eq_self.2 hbefore,
    List.filter_eq_self.2 hafter, List.append_nil, List.nil_append]

theorem filter_sorted {le : α → α → Bool} (htrans : ∀ a b c, le a b = true → le b c = true → le a c = true)
    (htotal : ∀ a b, (le a b || le b a) = true) (keep : α → Bool) (rows : List α) :
    (rows.mergeSort le).filter keep = (rows.filter keep).mergeSort le := by
  induction rows with
  | nil => simp
  | cons a rest ih =>
    cases ha : keep a with
    | true =>
      rw [List.filter_cons_of_pos ha, mergeSort_cons_eq htrans htotal, mergeSort_cons_eq htrans htotal, ← ih,
        List.filter_append, List.filter_cons_of_pos ha, List.filter_comm, @List.filter_comm _ (le a)]
    | false =>
      have hout : ¬ keep a = true := by simp [ha]
      obtain ⟨before, after, hall, hrest, -⟩ := List.mergeSort_cons htrans htotal a rest
      rw [List.filter_cons_of_neg hout, ← ih, hall, hrest, List.filter_append, List.filter_append,
        List.filter_cons_of_neg hout]

theorem filter_mergeSort [TransCmp cmp] {le : α → α → Bool} {rows : List α}
    (h : ∀ a ∈ rows, ∀ b ∈ rows, le a b = (cmp a b).isLE) {keep : α → Bool}
    (hkeep : ∀ a b, keep a = true → keep b = true → cmp a b = .eq) :
    (rows.mergeSort le).filter keep = rows.filter keep := by
  have hsorted : (rows.filter keep).Pairwise fun a b => (cmp a b).isLE = true := by
    have hany : (rows.filter keep).Pairwise fun _ _ => True := List.pairwise_of_forall fun _ _ => trivial
    refine hany.imp_of_mem fun {a b} ha hb _ => ?_
    rw [hkeep a b (List.mem_filter.1 ha).2 (List.mem_filter.1 hb).2]
    rfl
  have htotal (a b : α) : ((cmp a b).isLE || (cmp b a).isLE) = true := by
    rw [@OrientedCmp.eq_swap _ cmp _ b a]
    cases cmp a b <;> rfl
  rw [mergeSort_agree h, filter_sorted (fun a b c => TransCmp.isLE_trans) htotal,
    List.mergeSort_of_pairwise hsorted]

end

namespace Cell

theorem matches?_iff {a b : Cell} (ha : a.Ordered) (hb : b.Ordered) (hfull : a ≠ .null) :
    a.matches? b = true ↔ standing a b = .eq := by
  rw [← order_eq_standing ha hb]
  cases a with
  | null => exact absurd rfl hfull
  | number m =>
    cases b with
    | number n =>
      rw [matches?, order, Number.same, Number.compare?_eq ha hb, Option.getD_some, beq_iff_eq,
        Option.some.injEq]
    | _ => exact iff_of_false Bool.false_ne_true fun h => by cases h
  | text s =>
    cases b with
    | text t => rw [matches?, order, beq_iff_eq, LawfulEqCmp.compare_eq_iff_eq]
    | _ => exact iff_of_false Bool.false_ne_true fun h => by cases h

theorem matches?_of_apart {a b : Cell} (ha : a.Ordered) (hb : b.Ordered) (h : standing a b ≠ .eq) :
    a.matches? b = false := by
  by_cases hnull : a = .null
  · subst hnull
    rfl
  · rw [Bool.eq_false_iff, ne_eq, matches?_iff ha hb hnull]
    exact h

end Cell

namespace Store

open Cell

/-- Puts a pair in front of some groups: into the first of them, if it has the label. -/
def collect (pair : Cell × Cell) (groups : List (Cell × List Cell)) : List (Cell × List Cell) :=
  match groups with
  | (next, measures) :: rest =>
    if pair.1.order next == .eq then (pair.1, pair.2 :: measures) :: rest else (pair.1, [pair.2]) :: groups
  | [] => [(pair.1, [pair.2])]

theorem gather_eq (pairs : List (Cell × Cell)) :
    gather pairs = (pairs.mergeSort fun a b => a.1.order b.1 != .gt).foldr collect [] := rfl

def hasLabel (label : Cell) (p : Cell × Cell) : Bool := standing p.1 label == .eq

theorem hasLabel_self (p : Cell × Cell) : hasLabel p.1 p = true := beq_iff_eq.2 ReflCmp.compare_self

theorem hasLabel_of_lt {label : Cell} {p : Cell × Cell} (h : standing p.1 label = .lt) :
    ¬ hasLabel label p = true := by
  rw [hasLabel, h]
  exact Bool.false_ne_true

/-- Pairs put together by their labels. -/
structure Gathered (pairs : List (Cell × Cell)) (groups : List (Cell × List Cell)) : Prop where
  apart : groups.Pairwise fun a b => standing a.1 b.1 = .lt
  named : ∀ g ∈ groups, ∃ p ∈ pairs, p.1 = g.1
  measures : ∀ g ∈ groups, g.2 = (pairs.filter (hasLabel g.1)).map (·.2)
  covers : ∀ p ∈ pairs, ∃ g ∈ groups, standing p.1 g.1 = .eq
  flat : (groups.flatMap (·.2)).Perm (pairs.map (·.2))

variable {pair : Cell × Cell} {pairs : List (Cell × Cell)} {groups : List (Cell × List Cell)}

theorem Gathered.head (pair : Cell × Cell) (h : Gathered pairs groups)
    (hbefore : ∀ g ∈ groups, standing pair.1 g.1 = .lt) :
    Gathered (pair :: pairs) ((pair.1, [pair.2]) :: groups) := by
  have hapart : ∀ p ∈ pairs, ¬ hasLabel pair.1 p = true := by
    intro p hp heq
    obtain ⟨g, hg, hpg⟩ := h.covers p hp
    have hlt := hbefore g hg
    rw [← TransCmp.congr_left (beq_iff_eq.1 heq), hpg] at hlt
    cases hlt
  refine ⟨List.pairwise_cons.2 ⟨hbefore, h.apart⟩, ?_, ?_, ?_, (h.flat.cons pair.2)⟩
  · refine List.forall_mem_cons.2 ⟨⟨pair, List.mem_cons_self, rfl⟩, fun g hg => ?_⟩
    obtain ⟨p, hp, hpg⟩ := h.named g hg
    exact ⟨p, List.mem_cons_of_mem _ hp, hpg⟩
  · refine List.forall_mem_cons.2 ⟨?_, fun g hg => ?_⟩
    · rw [List.filter_cons_of_pos (hasLabel_self pair), List.filter_eq_nil_iff.2 hapart]
      rfl
    · rw [List.filter_cons_of_neg (hasLabel_of_lt (hbefore g hg))]
      exact h.measures g hg
  · refine List.forall_mem_cons.2 ⟨⟨_, List.mem_cons_self, ReflCmp.compare_self⟩, fun p hp => ?_⟩
    obtain ⟨g, hg, hpg⟩ := h.covers p hp
    exact ⟨g, List.mem_cons_of_mem _ hg, hpg⟩

theorem Gathered.into {next : Cell} {measures : List Cell} {rest : List (Cell × List Cell)}
    (pair : Cell × Cell) (h : Gathered pairs ((next, measures) :: rest))
    (heq : standing pair.1 next = .eq) :
    Gathered (pair :: pairs) ((pair.1, pair.2 :: measures) :: rest) := by
  obtain ⟨hnext, hrest⟩ := List.pairwise_cons.1 h.apart
  have hbefore : ∀ g ∈ rest, standing pair.1 g.1 = .lt := fun g hg =>
    (TransCmp.congr_left heq).trans (hnext g hg)
  refine ⟨List.pairwise_cons.2 ⟨hbefore, hrest⟩, ?_, ?_, ?_, h.flat.cons pair.2⟩
  · refine List.forall_mem_cons.2 ⟨⟨pair, List.mem_cons_self, rfl⟩, fun g hg => ?_⟩
    obtain ⟨p, hp, hpg⟩ := h.named g (List.mem_cons_of_mem _ hg)
    exact ⟨p, List.mem_cons_of_mem _ hp, hpg⟩
  · refine List.forall_mem_cons.2 ⟨?_, fun g hg => ?_⟩
    · have hsame : hasLabel pair.1 = hasLabel next := by
        funext p
        rw [hasLabel, hasLabel, TransCmp.congr_right heq]
      have hold : measures = (pairs.filter (hasLabel next)).map (·.2) := h.measures _ List.mem_cons_self
      rw [List.filter_cons_of_pos (hasLabel_self pair), List.map_cons, hsame, ← hold]
    · rw [List.filter_cons_of_neg (hasLabel_of_lt (hbefore g hg))]
      exact h.measures g (List.mem_cons_of_mem _ hg)
  · refine List.forall_mem_cons.2 ⟨⟨_, List.mem_cons_self, ReflCmp.compare_self⟩, fun p hp => ?_⟩
    obtain ⟨g, hg, hpg⟩ := h.covers p hp
    rcases List.mem_cons.1 hg with rfl | hg
    · exact ⟨_, List.mem_cons_self, (TransCmp.congr_right heq).trans hpg⟩
    · exact ⟨g, List.mem_cons_of_mem _ hg, hpg⟩

theorem Gathered.collect (h : Gathered pairs groups) (hpair : pair.1.Ordered)
    (hpairs : ∀ p ∈ pairs, p.1.Ordered) (hle : ∀ p ∈ pairs, (standing pair.1 p.1).isLE = true) :
    Gathered (pair :: pairs) (collect pair groups) := by
  cases groups with
  | nil => exact h.head pair fun g hg => (List.not_mem_nil hg).elim
  | cons g rest =>
    obtain ⟨next, measures⟩ := g
    -- The first group has its label from a pair, and a pair's label can be ordered.
    obtain ⟨p, hp, rfl⟩ := h.named _ List.mem_cons_self
    have horder := order_eq_standing hpair (hpairs p hp)
    rw [Store.collect, horder]
    cases hcmp : standing pair.1 p.1 with
    | eq =>
      rw [if_pos (by decide)]
      exact h.into pair hcmp
    | lt =>
      rw [if_neg (by decide)]
      refine h.head pair (List.forall_mem_cons.2 ⟨hcmp, fun g hg => ?_⟩)
      exact TransCmp.lt_trans hcmp ((List.pairwise_cons.1 h.apart).1 g hg)
    | gt =>
      have hsorted := hle p hp
      rw [hcmp] at hsorted
      cases hsorted

theorem gathered_sorted (hpairs : ∀ p ∈ pairs, p.1.Ordered)
    (hsorted : pairs.Pairwise fun a b => (standing a.1 b.1).isLE = true) :
    Gathered pairs (pairs.foldr collect []) := by
  induction pairs with
  | nil =>
    exact ⟨.nil, fun g hg => (List.not_mem_nil hg).elim, fun g hg => (List.not_mem_nil hg).elim,
      fun p hp => (List.not_mem_nil hp).elim, .nil⟩
  | cons pair rest ih =>
    -- From the back: the pair comes to the groups of those behind it, none of which stands before it.
    obtain ⟨hpair, hrest⟩ := List.forall_mem_cons.1 hpairs
    obtain ⟨hle, hmore⟩ := List.pairwise_cons.1 hsorted
    exact (ih hrest hmore).collect hpair hrest hle

/-- Gathering sorts the pairs by their labels first, which keeps those of one label in their order. -/
theorem gathered_gather (hpairs : ∀ p ∈ pairs, p.1.Ordered) : Gathered pairs (gather pairs) := by
  have hcmp : TransCmp fun a b : Cell × Cell => standing a.1 b.1 := transCmp_on standing Prod.fst
  have hagree : ∀ a ∈ pairs, ∀ b ∈ pairs, (a.1.order b.1 != .gt) = (standing a.1 b.1).isLE := by
    intro a ha b hb
    rw [order_eq_standing (hpairs a ha) (hpairs b hb)]
    cases standing a.1 b.1 <;> rfl
  have hperm := List.mergeSort_perm pairs fun a b => a.1.order b.1 != .gt
  have hsorted := gathered_sorted (fun p hp => hpairs p (hperm.mem_iff.1 hp))
    (pairwise_mergeSort_of_agree hagree)
  rw [gather_eq]
  refine ⟨hsorted.apart, fun g hg => ?_, fun g hg => ?_, fun p hp => ?_, hsorted.flat.trans (hperm.map _)⟩
  · obtain ⟨p, hp, hpg⟩ := hsorted.named g hg
    exact ⟨p, hperm.mem_iff.1 hp, hpg⟩
  · rw [hsorted.measures g hg, filter_mergeSort hagree]
    exact fun a b ha hb => TransCmp.eq_trans (beq_iff_eq.1 ha) (OrientedCmp.eq_symm (beq_iff_eq.1 hb))
  · exact hsorted.covers p (hperm.mem_iff.2 hp)

end Store

end RecordDesk
