import RecordDesk.Http
import Mathlib.Data.List.Basic
set_option autoImplicit false

/-!
How the body of an answer is read. Three things can stop it: its end, the most that is read of any body, and
the clock. What a body comes to can be said without the loop, from its bytes, from the times they come at
and from what breaks it.
-/

namespace RecordDesk.Http

namespace Part

variable {α β : Type} (p : Progress)

theorem run_bind (m : Part α) (next : α → Part β) : (m >>= next) p = match m p with
    | (.ok a, q) => next a q
    | (.error failure, q) => (.error failure, q) := by
  change ExceptT.bindCont next (m p).1 (m p).2 = _
  obtain ⟨r, q⟩ := m p
  cases r <;> rfl

/-- What is done at the end is done whether a part failed or not. -/
theorem run_closing (m : Part α) :
    tryFinally m close p = ((m p).1, { (m p).2 with closed := some true }) := by
  obtain ⟨r, q, hm⟩ : ∃ r q, m p = (r, q) := ⟨_, _, rfl⟩
  rw [hm]
  cases r <;>
  · simp only [tryFinally, tryFinally', Functor.map, ExceptT.map, ExceptT.mk, StateT.bind, bind, pure, hm]
    rfl

theorem run_pass (seconds : Binary64) : pass seconds p = (.ok (), { p with clock := p.clock + seconds }) :=
    rfl

theorem run_note (entry : Log.Entry) : note entry p = (.ok (), { p with logs := p.logs ++ [entry] }) := rfl

theorem run_inTime (c : HttpCall) (deadline : Binary64) :
    inTime c deadline p = (if deadline.less p.clock then .error (timedOut c) else .ok (), p) := by
  change (if deadline.less p.clock = true then throw (timedOut c) else pure () : Part Unit) p = _
  split <;> rfl

end Part

namespace Body

def bytes : Body → List UInt8
  | .ends _ | .breaks _ _ => []
  | .byte _ b rest => b :: rest.bytes

def arrivals (clock : Binary64) : Body → List Binary64
  | .ends _ | .breaks _ _ => []
  | .byte wait _ rest => (clock + wait) :: rest.arrivals (clock + wait)

def endTime (clock : Binary64) : Body → Binary64
  | .ends wait | .breaks wait _ => clock + wait
  | .byte wait _ rest => rest.endTime (clock + wait)

def trouble? : Body → Option Trouble
  | .ends _ => none
  | .breaks _ trouble => some trouble
  | .byte _ _ rest => rest.trouble?

/-- What stops the reading of so many bytes before they are read. -/
def troubleWithin (room : Nat) (body : Body) : Option Trouble :=
  if body.bytes.length < room then body.trouble? else none

/-- When the clock is read, as long as nothing is late: after each byte that there is room for, and once
more where the body has not broken by then. That is when it has ended, or when its last byte that there is
room for is there. -/
def readings (room : Nat) (clock : Binary64) (body : Body) : List Binary64 :=
  let during := (body.arrivals clock).take room
  let after := if body.bytes.length < room then body.endTime clock else during.getLastD clock
  during ++ if (body.troubleWithin room).isSome then [] else [after]

/-- A body that goes on in some way after these bytes, each with the seconds before it. -/
def after (timed : List (Binary64 × UInt8)) (rest : Body) : Body :=
  timed.foldr (fun p body => .byte p.1 p.2 body) rest

variable (room : Nat) (clock wait : Binary64) (b : UInt8) (body rest : Body)

theorem troubleWithin_zero : body.troubleWithin 0 = none := rfl

theorem readings_zero : body.readings 0 clock = [clock] := rfl

theorem troubleWithin_byte : (byte wait b rest).troubleWithin (room + 1) = rest.troubleWithin room := by
  simp only [troubleWithin, bytes, trouble?, List.length_cons, Nat.add_lt_add_iff_right]

theorem readings_byte :
    (byte wait b rest).readings (room + 1) clock = (clock + wait) :: rest.readings room (clock + wait) := by
  simp only [readings, troubleWithin_byte, bytes, arrivals, endTime, List.length_cons,
    Nat.add_lt_add_iff_right, List.take_succ_cons, List.getLastD_cons, List.cons_append]

end Body

/-- What a body with room for so many bytes comes to: the first bytes, where no reading of the clock is late
and nothing breaks before they are read. -/
def outcome (c : HttpCall) (deadline clock : Binary64) (room : Nat) (taken : List UInt8) (body : Body) :
    Except HttpFailure (List UInt8) :=
  if (body.readings room clock).any deadline.less then .error (timedOut c)
  else match body.troubleWithin room with
  | some trouble => .error (trouble.failure c)
  | none => .ok (taken.reverse ++ body.bytes.take room)

variable (c : HttpCall) (deadline clock : Binary64) (p : Progress)

theorem conclude_fst (bytes : List UInt8) : (conclude c deadline bytes p).1 =
    if deadline.less p.clock then .error (timedOut c) else .ok bytes.reverse := by
  rw [conclude, Part.run_bind, Part.run_inTime]
  cases deadline.less p.clock <;> rfl

theorem outcome_zero (taken : List UInt8) (body : Body) : outcome c deadline clock 0 taken body =
    if deadline.less clock then .error (timedOut c) else .ok taken.reverse := by
  simp only [outcome, Body.readings_zero, Body.troubleWithin_zero, List.any_cons, List.any_nil, Bool.or_false,
    List.take_zero, List.append_nil]

theorem outcome_byte (room : Nat) (taken : List UInt8) (wait : Binary64) (b : UInt8) (rest : Body) :
    outcome c deadline clock (room + 1) taken (.byte wait b rest) =
      if deadline.less (clock + wait) then .error (timedOut c)
      else outcome c deadline (clock + wait) room (b :: taken) rest := by
  simp only [outcome, Body.readings_byte, Body.troubleWithin_byte, Body.bytes, List.any_cons,
    List.take_succ_cons, List.reverse_cons, List.append_assoc, List.singleton_append]
  cases deadline.less (clock + wait) <;> rfl

theorem outcome_ends (room : Nat) (taken : List UInt8) (wait : Binary64) :
    outcome c deadline clock (room + 1) taken (.ends wait) =
      if deadline.less (clock + wait) then .error (timedOut c) else .ok taken.reverse := by
  simp only [outcome, Body.readings, Body.troubleWithin, Body.arrivals, Body.bytes, Body.endTime,
    Body.trouble?, List.length_nil, Nat.zero_lt_succ, if_true, List.take_nil, List.nil_append,
    Option.isSome_none, Bool.false_eq_true, if_false, List.any_cons, List.any_nil, Bool.or_false,
    List.append_nil]

theorem takeBytes_byte (room : Nat) (taken : List UInt8) (wait : Binary64) (b : UInt8) (rest : Body) :
    takeBytes c deadline (room + 1) taken (.byte wait b rest) p =
      if deadline.less (p.clock + wait) then (.error (timedOut c), { p with clock := p.clock + wait })
      else if room = 0 then (.ok (b :: taken), ⟨p.clock + wait, p.closed, p.logs ++ [truncation c.url]⟩)
      else takeBytes c deadline room (b :: taken) rest { p with clock := p.clock + wait } := by
  rw [takeBytes, Part.run_bind, Part.run_pass]
  dsimp only
  rw [Part.run_bind, Part.run_inTime]
  by_cases hlate : deadline.less (p.clock + wait) = true
  · rw [if_pos hlate, if_pos hlate]
  · rw [if_neg hlate, if_neg hlate]
    cases room <;> rfl

/-- The loop and the last look at the clock come to what the body as a whole comes to. -/
theorem read_fst (body : Body) (room : Nat) (taken : List UInt8) :
    ((takeBytes c deadline (room + 1) taken body >>= conclude c deadline) p).1
      = outcome c deadline p.clock (room + 1) taken body := by
  rw [Part.run_bind]
  induction body generalizing p room taken with
  | ends wait =>
    exact (conclude_fst c deadline _ taken).trans (outcome_ends c deadline _ room taken wait).symm
  | breaks wait trouble => rfl
  | byte wait b rest ih =>
    rw [outcome_byte, takeBytes_byte]
    by_cases hlate : deadline.less (p.clock + wait) = true
    · rw [if_pos hlate, if_pos hlate]
    · rw [if_neg hlate, if_neg hlate]
      cases room with
      | zero =>
        rw [if_pos rfl, outcome_zero]
        exact conclude_fst c deadline _ (b :: taken)
      | succ room =>
        rw [if_neg (Nat.succ_ne_zero room)]
        exact ih { p with clock := p.clock + wait } room (b :: taken)

theorem readBody_fst (body : Body) :
    (readBody c deadline body p).1 = outcome c deadline p.clock maxBodyBytes [] body :=
  read_fst c deadline p body (maxBodyBytes - 1) []

theorem takeBytes_after (rest rest' : Body) (timed : List (Binary64 × UInt8)) (room : Nat)
    (taken : List UInt8) (h : room + 1 ≤ timed.length) :
    takeBytes c deadline (room + 1) taken (.after timed rest) p
      = takeBytes c deadline (room + 1) taken (.after timed rest') p := by
  induction timed generalizing p room taken with
  | nil => simp at h
  | cons first timed ih =>
    change takeBytes c deadline (room + 1) taken (.byte first.1 first.2 (.after timed rest)) p
      = takeBytes c deadline (room + 1) taken (.byte first.1 first.2 (.after timed rest')) p
    rw [takeBytes_byte, takeBytes_byte]
    cases room with
    | zero => rfl
    | succ room => rw [ih _ room (first.2 :: taken) (Nat.le_of_succ_le_succ h)]

theorem readBody_after (rest rest' : Body) {timed : List (Binary64 × UInt8)}
    (h : maxBodyBytes ≤ timed.length) :
    readBody c deadline (.after timed rest) = readBody c deadline (.after timed rest') := by
  have htaken : takeBytes c deadline maxBodyBytes [] (.after timed rest)
      = takeBytes c deadline maxBodyBytes [] (.after timed rest') :=
    funext fun p => takeBytes_after c deadline p rest rest' timed (maxBodyBytes - 1) [] h
  rw [readBody, readBody, htaken]

end RecordDesk.Http
