import RecordDesk.Proofs.Document.Parts
set_option autoImplicit false

/-!
Compact texts. Two documents with one compact text are the same document: what a text begins with tells its
kind, and no text goes on where another one ends.
-/

namespace RecordDesk

namespace Document

/-! Where a text ends. -/

/-- What may stand behind a document inside of others. -/
def Closes (rest : List Char) : Prop := ∀ c ∈ rest.head?, c = ',' ∨ c = ']' ∨ c = '\x7d'

theorem closes_cons {c : Char} (h : c = ',' ∨ c = ']' ∨ c = '\x7d') (rest : List Char) :
    Closes (c :: rest) := by
  intro x hx
  cases hx
  exact h

theorem Closes.endsNumber {rest : List Char} (h : Closes rest) : EndsNumber rest := by
  intro c hc
  rcases h c hc with rfl | rfl | rfl <;> decide

theorem quote_cancel {s t : String} {ra rb : List Char}
    (h : (Quoted.quote s).toList ++ ra = (Quoted.quote t).toList ++ rb) : s = t ∧ ra = rb := by
  rw [toList_quote, toList_quote, List.cons_append, List.cons_append, List.cons_inj_right, List.append_assoc,
    List.append_assoc] at h
  -- Both are read from the same characters, with fuel for either.
  have hs := (spells_encode s.toList).readText [] (show _ < (encoded s).length + (encoded t).length + 1 by
    rw [encoded]; omega) [] ra
  have ht := (spells_encode t.toList).readText [] (show _ < (encoded s).length + (encoded t).length + 1 by
    rw [← encoded]; omega) [] rb
  change readText _ _ _ (encoded t ++ (['"'] ++ rb)) = _ at ht
  rw [← h] at ht
  have hread := Except.ok.inj (hs.symm.trans ht)
  simpa using hread

theorem encode_inj {s t : String} (h : Quoted.encode s.toList = Quoted.encode t.toList) : s = t := by
  have hquotes : (Quoted.quote s).toList ++ [] = (Quoted.quote t).toList ++ [] := by
    rw [toList_quote, toList_quote, encoded, encoded, h]
  exact (quote_cancel hquotes).1

theorem toDigits_inj {m n : Nat} (h : Nat.toDigits 10 m = Nat.toDigits 10 n) : m = n := by
  rw [← Nat.ofDigitChars_ten_toDigits (n := m), h, Nat.ofDigitChars_ten_toDigits]

theorem int_cancel {i j : Int} {ra rb : List Char} (ha : EndsNumber ra) (hb : EndsNumber rb)
    (h : (toString i).toList ++ ra = (toString j).toList ++ rb) : i = j ∧ ra = rb := by
  have hminus (k : Int) (rest : List Char) :
    minusSign (signed (decide (k < 0)) (Nat.toDigits 10 k.natAbs ++ rest))
      = (decide (k < 0), Nat.toDigits 10 k.natAbs ++ rest) :=
    minusSign_signed _ (ne_minus_of_isDigit Nat.toDigits_ne_nil (fun c hc => isDigit_of_mem_toDigits hc) rest)
  have hdigits (n : Nat) {rest : List Char} (hr : EndsNumber rest) :
      takeDigits (Nat.toDigits 10 n ++ rest) = (Nat.toDigits 10 n, rest) :=
    takeDigits_append (fun c hc => isDigit_of_mem_toDigits hc) (not_isDigit_of_ends hr)
  rw [toList_toString_int, toList_toString_int, signed_append, signed_append] at h
  have hsigns := congrArg minusSign h
  rw [hminus, hminus, Prod.mk.injEq] at hsigns
  have hparts := congrArg takeDigits hsigns.2
  rw [hdigits _ ha, hdigits _ hb, Prod.mk.injEq] at hparts
  have habs : i.natAbs = j.natAbs := toDigits_inj hparts.1
  have hneg : i < 0 ↔ j < 0 := decide_eq_decide.1 hsigns.1
  exact ⟨by omega, hparts.2⟩

theorem reads_unique {p q : Prop} {a b : Document} {ra rb : List Char} {found : Scan Document}
    (ha : Reads p a ra found) (hb : Reads q b rb found) (h : p ∨ q) : a = b ∧ ra = rb := by
  rcases ha with ha | ⟨hp, stop, ha⟩ <;> rcases hb with hb | ⟨hq, stop', hb⟩
  · exact Prod.mk.inj (Except.ok.inj (ha.symm.trans hb))
  · cases ha.symm.trans hb
  · cases ha.symm.trans hb
  · exact (h.elim hp hq).elim

/-- Integers of any size are told apart by their digits, and all other numbers are read back. -/
theorem number_cancel {n m : Number} {ra rb : List Char} (ha : EndsNumber ra) (hb : EndsNumber rb)
    (h : (n.text Number.documentNames).toList ++ ra = (m.text Number.documentNames).toList ++ rb) :
    n = m ∧ ra = rb := by
  have hn := readValue_number 0 n ha
  have hm := readValue_number 0 m hb
  rw [h] at hn
  have hread : n.Fits ∨ m.Fits → n = m ∧ ra = rb := fun hfits =>
    (reads_unique hn hm hfits).imp_left Document.number.inj
  cases n with
  | float x => exact hread (.inl trivial)
  | int i =>
    cases m with
    | float y => exact hread (.inr trivial)
    | int j => exact (int_cancel ha hb h).imp_left (congrArg Number.int)

/-! What a text begins with. -/

def kindOf (c : Char) : Option Kind :=
  if c = 'n' then some .null
  else if c = 't' ∨ c = 'f' then some .boolean
  else if c = '"' then some .text
  else if c = '[' then some .array
  else if c = '\x7b' then some .object
  else if c.isDigit ∨ c = '-' ∨ c = 'N' ∨ c = 'I' then some .number
  else none

theorem kindOf_digit {c : Char} (h : c.isDigit = true) : kindOf c = some .number := by
  obtain ⟨hquote, hlist, hobject, -, hnull, htrue, hfalse, -⟩ := head_of_isDigit h
  simp [kindOf, hquote, hlist, hobject, hnull, htrue, hfalse, h]

theorem kindOf_signed (minus : Bool) {c : Char} (h : c.isDigit = true) (r : List Char) :
    ∃ c' r', signed minus (c :: r) = c' :: r' ∧ kindOf c' = some .number := by
  cases minus with
  | true => exact ⟨'-', c :: r, rfl, by decide⟩
  | false => exact ⟨c, r, rfl, kindOf_digit h⟩

theorem kindOf_number (n : Number) :
    ∃ c r, (n.text Number.documentNames).toList = c :: r ∧ kindOf c = some .number := by
  cases n with
  | int i =>
    obtain ⟨d, ds, hd⟩ := List.exists_cons_of_ne_nil (Nat.toDigits_ne_nil (n := i.natAbs) (b := 10))
    have hdig : d.isDigit = true :=
      isDigit_of_mem_toDigits (n := i.natAbs) (by rw [hd]; exact List.mem_cons_self)
    rw [show ((Number.int i).text Number.documentNames) = toString i from rfl, toList_toString_int, hd]
    exact kindOf_signed _ hdig ds
  | float x =>
    cases x with
    | nan => exact ⟨'N', ['a', 'N'], rfl, by decide⟩
    | infinite negative =>
      cases negative
      · exact ⟨'I', "nfinity".toList, rfl, by decide⟩
      · exact ⟨'-', "Infinity".toList, rfl, by decide⟩
    | finite negative units h =>
      obtain ⟨c, r, hc, hdig⟩ := head_layout (Binary64.shortest (.finite negative units h))
      rw [toList_text_finite, hc]
      exact kindOf_signed negative hdig r

def compact (d : Document) : List Char := (d.written .compact).toList

/-- The items of a list in its compact text, and what closes it. -/
def compactItems (items : List Document) : List Char :=
  (String.intercalate "," (items.map (·.written .compact))).toList ++ [']']

def compactMembers (members : Members) : List Char :=
  (String.intercalate "," (members.map fun m => Quoted.quote m.1 ++ ":" ++ m.2.written .compact)).toList ++
    ['\x7d']

theorem writtenItems_eq (sep : Separators) (items : List Document) :
    Value.writtenItems sep (writableItems items) = items.map (·.written sep) := by
  induction items with
  | nil => rfl
  | cons d rest ih => rw [writableItems, Value.writtenItems, ih, List.map_cons, written]

theorem writtenMembers_eq (sep : Separators) (members : Members) :
    Value.writtenMembers sep (writableMembers members)
      = members.map fun m => Quoted.quote m.1 ++ sep.member ++ m.2.written sep := by
  induction members with
  | nil => rfl
  | cons m rest ih => rw [writableMembers, Value.writtenMembers, ih, List.map_cons, written]

theorem compact_list (items : List Document) : compact (.list items) = '[' :: compactItems items := by
  rw [compact, written, writable, Value.written, writtenItems_eq, String.toList_append, String.toList_append]
  rfl

theorem compact_object (members : Members) :
    compact (.object members) = '\x7b' :: compactMembers members := by
  rw [compact, written, writable, Value.written, writtenMembers_eq, String.toList_append,
    String.toList_append]
  rfl

theorem kindOf_compact {d : Document} (h : d.IsJson) : ∃ c r, d.compact = c :: r ∧
    kindOf c = some d.writable.kind := by
  cases d with
  | null => exact ⟨'n', "ull".toList, rfl, by decide⟩
  | boolean b =>
    cases b
    · exact ⟨'f', "alse".toList, rfl, by decide⟩
    · exact ⟨'t', "rue".toList, rfl, by decide⟩
  | number n => exact kindOf_number n
  | text s => exact ⟨'"', encoded s ++ ['"'], toList_quote s, rfl⟩
  | list items => exact ⟨'[', _, compact_list items, rfl⟩
  | object members => exact ⟨'\x7b', _, compact_object members, rfl⟩
  | date t => exact h.elim
  | decimal x => exact h.elim
  | wrapped v => exact h.elim

theorem kind_cancel {a b : Document} {ra rb : List Char} (ha : a.IsJson) (hb : b.IsJson)
    (h : a.compact ++ ra = b.compact ++ rb) : a.writable.kind = b.writable.kind := by
  obtain ⟨c, r, hc, hkind⟩ := kindOf_compact ha
  obtain ⟨c', r', hc', hkind'⟩ := kindOf_compact hb
  rw [hc, hc', List.cons_append, List.cons_append, List.cons.injEq] at h
  rw [h.1] at hkind
  exact Option.some.inj (hkind.symm.trans hkind')

/-- What stands behind an item: more of them, or what closes the list. -/
def afterItem (rest : List Document) : List Char := if rest.isEmpty then [']'] else ',' :: compactItems rest

def afterMember (rest : Members) : List Char := if rest.isEmpty then ['\x7d'] else ',' :: compactMembers rest

theorem compactItems_cons (d : Document) (rest : List Document) :
    compactItems (d :: rest) = d.compact ++ afterItem rest := by
  rw [compactItems, List.map_cons, toList_intercalate_cons, afterItem, compact]
  cases rest with
  | nil => simp
  | cons e rest => simp [compactItems]

theorem compactMembers_cons (m : String × Document) (rest : Members) :
    compactMembers (m :: rest) = (Quoted.quote m.1).toList ++ ':' :: (m.2.compact ++ afterMember rest) := by
  rw [compactMembers, List.map_cons, toList_intercalate_cons, afterMember, compact]
  cases rest with
  | nil => simp
  | cons e rest => simp [compactMembers]

theorem closes_afterItem (rest : List Document) (more : List Char) : Closes (afterItem rest ++ more) := by
  rw [afterItem]
  split
  · exact closes_cons (.inr (.inl rfl)) _
  · exact closes_cons (.inl rfl) _

theorem closes_afterMember (rest : Members) (more : List Char) : Closes (afterMember rest ++ more) := by
  rw [afterMember]
  split
  · exact closes_cons (.inr (.inr rfl)) _
  · exact closes_cons (.inl rfl) _

/-- Past an item two texts go on alike only if both lists end there or both have more. -/
theorem afterItem_cancel {as bs : List Document} {ra rb : List Char}
    (h : afterItem as ++ ra = afterItem bs ++ rb) :
    compactItems as ++ ra = compactItems bs ++ rb := by
  cases as with
  | nil =>
    cases bs with
    | nil => exact h
    | cons b bs => cases h
  | cons a as =>
    cases bs with
    | nil => cases h
    | cons b bs => exact (List.cons.inj h).2

theorem afterMember_cancel {as bs : Members} {ra rb : List Char}
    (h : afterMember as ++ ra = afterMember bs ++ rb) :
    compactMembers as ++ ra = compactMembers bs ++ rb := by
  cases as with
  | nil =>
    cases bs with
    | nil => exact h
    | cons b bs => cases h
  | cons a as =>
    cases bs with
    | nil => cases h
    | cons b bs => exact (List.cons.inj h).2

theorem compactItems_ne {d : Document} (h : d.IsJson) (rest : List Document) (ra rb : List Char) :
    compactItems [] ++ ra ≠ compactItems (d :: rest) ++ rb := by
  obtain ⟨c, r, hc, hkind⟩ := kindOf_compact h
  rw [compactItems_cons, hc]
  intro heq
  have hbracket : ']' = c := (List.cons.inj heq).1
  rw [← hbracket] at hkind
  cases hkind

theorem compactMembers_ne (m : String × Document) (rest : Members) (ra rb : List Char) :
    compactMembers [] ++ ra ≠ compactMembers (m :: rest) ++ rb := by
  rw [compactMembers_cons, toList_quote]
  intro heq
  exact absurd (List.cons.inj heq).1 (by decide)

mutual

/-- A compact text ends where its document ends, and it is the text of no other document. -/
theorem compact_cancel (a b : Document) (ha : a.IsJson) (hb : b.IsJson) (ra rb : List Char) (hra : Closes ra)
    (hrb : Closes rb) (h : a.compact ++ ra = b.compact ++ rb) : a = b ∧ ra = rb := by
  have hkind := kind_cancel ha hb h
  -- The kinds agree, so of each kind only the case against itself is left.
  cases a with
  | null =>
    cases b with
    | null => exact ⟨rfl, List.append_cancel_left h⟩
    | _ => cases hkind
  | boolean x =>
    cases b with
    | boolean y =>
      cases x <;> cases y
      · exact ⟨rfl, List.append_cancel_left h⟩
      · exact absurd (List.cons.inj h).1 (by decide)
      · exact absurd (List.cons.inj h).1 (by decide)
      · exact ⟨rfl, List.append_cancel_left h⟩
    | _ => cases hkind
  | number n =>
    cases b with
    | number m => exact (number_cancel hra.endsNumber hrb.endsNumber h).imp_left (congrArg Document.number)
    | _ => cases hkind
  | text s =>
    cases b with
    | text t => exact (quote_cancel h).imp_left (congrArg Document.text)
    | date t | decimal x | wrapped v => exact hb.elim
    | _ => cases hkind
  | list as =>
    cases b with
    | list bs =>
      rw [compact_list, compact_list, List.cons_append, List.cons_append, List.cons_inj_right] at h
      exact (compactItems_cancel as bs ha.2 hb.2 ra rb h).imp_left (congrArg Document.list)
    | _ => cases hkind
  | object as =>
    cases b with
    | object bs =>
      rw [compact_object, compact_object, List.cons_append, List.cons_append, List.cons_inj_right] at h
      exact (compactMembers_cancel as bs ha.2 hb.2 ra rb h).imp_left (congrArg Document.object)
    | _ => cases hkind
  | date t => exact ha.elim
  | decimal x => exact ha.elim
  | wrapped v => exact ha.elim

theorem compactItems_cancel (as bs : List Document) (ha : EveryItem IsJsonPart as)
    (hb : EveryItem IsJsonPart bs) (ra rb : List Char) (h : compactItems as ++ ra = compactItems bs ++ rb) :
    as = bs ∧ ra = rb := by
  cases as with
  | nil =>
    cases bs with
    | nil => exact ⟨rfl, List.append_cancel_left h⟩
    | cons b bs => exact absurd h (compactItems_ne hb.1 bs ra rb)
  | cons a as =>
    cases bs with
    | nil => exact absurd h.symm (compactItems_ne ha.1 as rb ra)
    | cons b bs =>
      rw [compactItems_cons, compactItems_cons, List.append_assoc, List.append_assoc] at h
      obtain ⟨rfl, hrest⟩ := compact_cancel a b ha.1 hb.1 _ _ (closes_afterItem as ra)
        (closes_afterItem bs rb) h
      have hmore := compactItems_cancel as bs ha.2 hb.2 ra rb (afterItem_cancel hrest)
      exact hmore.imp_left (congrArg (List.cons a))

theorem compactMembers_cancel (as bs : Members) (ha : EveryMember IsJsonPart as)
    (hb : EveryMember IsJsonPart bs)
    (ra rb : List Char) (h : compactMembers as ++ ra = compactMembers bs ++ rb) : as = bs ∧ ra = rb := by
  cases as with
  | nil =>
    cases bs with
    | nil => exact ⟨rfl, List.append_cancel_left h⟩
    | cons b bs => exact absurd h (compactMembers_ne b bs ra rb)
  | cons a as =>
    cases bs with
    | nil => exact absurd h.symm (compactMembers_ne a as rb ra)
    | cons b bs =>
      obtain ⟨k, a⟩ := a
      obtain ⟨l, b⟩ := b
      rw [compactMembers_cons, compactMembers_cons, List.append_assoc, List.append_assoc] at h
      obtain ⟨rfl, hvalue⟩ := quote_cancel h
      rw [List.cons_append, List.cons_append, List.cons_inj_right, List.append_assoc, List.append_assoc]
        at hvalue
      obtain ⟨rfl, hrest⟩ := compact_cancel a b ha.1 hb.1 _ _ (closes_afterMember as ra)
        (closes_afterMember bs rb) hvalue
      have hmore := compactMembers_cancel as bs ha.2 hb.2 ra rb (afterMember_cancel hrest)
      exact hmore.imp_left (congrArg (List.cons (k, a)))

end

mutual

theorem toDocument_writable (d : Document) (h : d.IsJson) : d.writable.toDocument = d := by
  cases d with
  | list items => rw [writable, Value.toDocument, toItems_writable items h.2]
  | object members => rw [writable, Value.toDocument, toMembers_writable members h.2]
  | date t => exact h.elim
  | decimal x => exact h.elim
  | wrapped v => exact h.elim
  | _ => rfl

theorem toItems_writable (items : List Document) (h : EveryItem IsJsonPart items) :
    Value.toItems (writableItems items) = items := by
  cases items with
  | nil => rfl
  | cons d rest => rw [writableItems, Value.toItems, toDocument_writable d h.1, toItems_writable rest h.2]

theorem toMembers_writable (members : Members) (h : EveryMember IsJsonPart members) :
    Value.toMembers (writableMembers members) = members := by
  cases members with
  | nil => rfl
  | cons m rest =>
    obtain ⟨k, d⟩ := m
    rw [writableMembers, Value.toMembers, toDocument_writable d h.1, toMembers_writable rest h.2]

end

theorem written_compact_inj {a b : Document} (ha : a.IsJson) (hb : b.IsJson) :
    a.written .compact = b.written .compact ↔ a = b := by
  refine ⟨fun h => ?_, congrArg _⟩
  exact (compact_cancel a b ha hb [] [] (by simp [Closes]) (by simp [Closes]) (by rw [compact, h, compact])).1

end Document

end RecordDesk
