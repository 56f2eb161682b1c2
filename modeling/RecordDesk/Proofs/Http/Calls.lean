import RecordDesk.Proofs.Http.Bodies
import RecordDesk.Proofs.Numeric.Order
set_option autoImplicit false

namespace RecordDesk.Http

/-- The troubles that a call reports as its own failure; any other one is passed on as it is. -/
inductive Trouble.Reported : Trouble → Prop
  | timeout : Reported .timeout
  | request (text : String) : Reported (.request text)

theorem Trouble.Reported.failure {trouble : Trouble} (h : trouble.Reported) (c : HttpCall) :
    ∃ message, trouble.failure c = .failed message none .null := by
  cases h with
  | timeout => exact ⟨_, rfl⟩
  | request text => exact ⟨_, rfl⟩

def replyOf (codecs : Codecs) (status : Int) (encoding : Option String) (bytes : List UInt8) :
    Except HttpFailure HttpReply :=
  match decodeBody codecs bytes encoding with
  | .ok d => .ok ⟨status, d⟩
  | .error fault => .error (.broken fault)

variable {codecs : Codecs}

theorem replyOf_ok_iff {status : Int} {encoding : Option String} {bytes : List UInt8} {reply : HttpReply} :
    replyOf codecs status encoding bytes = .ok reply ↔
      reply.status = status ∧ decodeBody codecs bytes encoding = .ok reply.body := by
  obtain ⟨replied, body⟩ := reply
  unfold replyOf
  cases decodeBody codecs bytes encoding with
  | ok d => simp [eq_comm]
  | error fault => simp

variable {clock : Binary64} {c : HttpCall} {timeout : Binary64}

theorem timeoutSeconds_of {ms : Quantity} {n : Number} {x : Binary64}
    (hleast : ms.atLeast 1 = .ok (.number n)) (hexact : n.toBinary64 = .ok x) :
    timeoutSeconds ms = .ok (x / Binary64.ofInt 1000) := by
  rw [timeoutSeconds, hleast]
  change (n.toBinary64 >>= fun y => .ok (y / Binary64.ofInt 1000)) = _
  rw [hexact]
  rfl

theorem timeoutSeconds_ofInt {ms : Int} (hlow : 1 ≤ ms) (hhigh : ms.natAbs < Binary64.integerLimit) :
    timeoutSeconds (.ofInt ms) = .ok (Binary64.ofInt ms / Binary64.ofInt 1000) := by
  have hbelow : (Quantity.ofInt ms).isBelow 1 = .ok false := by
    change Except.ok (some (compare ms 1) == some .lt) = .ok false
    rw [Int.compare_eq_ite_lt, if_neg (not_lt.2 hlow)]
    split <;> rfl
  have hleast : (Quantity.ofInt ms).atLeast 1 = .ok (.number (.int ms)) := by
    rw [Quantity.atLeast, hbelow]
    rfl
  exact timeoutSeconds_of hleast (Number.intToBinary64_ok hhigh)

theorem request_timeout (c : HttpCall) (timeout : Binary64) : (request c timeout).timeout = timeout := by
  unfold request
  dsimp only
  split <;> rfl

/-- What comes of an answer: the reading of its body, then the closing, then the reply. -/
theorem receive_answered (request : Request) (latency : Binary64) (status : Int) (encoding : Option String)
    (body : Body) (p : Progress) : receive codecs c request (.answered latency status encoding body) p =
      match readBody c (p.clock + request.timeout) body ⟨p.clock + latency, some false, p.logs⟩ with
      | (.error failure, q) => (.error failure, { q with closed := some true })
      | (.ok bytes, q) => (replyOf codecs status encoding bytes,
          ⟨q.clock, some true, q.logs ++ [arrival request.method c.url status]⟩) := by
  change (tryFinally (readBody c (p.clock + request.timeout) body) Part.close >>= fun bytes => do
    Part.note (arrival request.method c.url status)
    match decodeBody codecs bytes encoding with
    | .ok d => return ⟨status, d⟩
    | .error fault => throw (.broken fault) : Part HttpReply) ⟨p.clock + latency, some false, p.logs⟩ = _
  rw [Part.run_bind, Part.run_closing]
  obtain ⟨reading, q⟩ := readBody c (p.clock + request.timeout) body ⟨p.clock + latency, some false, p.logs⟩
  cases reading with
  | error failure => rfl
  | ok bytes =>
    dsimp only [replyOf]
    rw [Part.run_bind, Part.run_note]
    dsimp only
    cases decodeBody codecs bytes encoding <;> rfl

theorem callWith_sent (h : timeoutSeconds c.timeoutMs = .ok timeout) (exchange : Exchange) :
    callWith codecs clock c exchange =
      let came := receive codecs c (request c timeout) exchange { clock }
      ⟨came.1, some (request c timeout), came.2.closed, came.2.logs, came.2.clock⟩ := by
  rw [callWith, h]
  rfl

theorem call_unsent {fault : Fault} (h : timeoutSeconds c.timeoutMs = .error fault) (exchange : Exchange) :
    (callWith codecs clock c exchange).result = .error (.broken fault) := by
  rw [callWith, h]

theorem call_refused (h : timeoutSeconds c.timeoutMs = .ok timeout) (latency : Binary64) (trouble : Trouble) :
    (callWith codecs clock c (.refused latency trouble)).result = .error (trouble.failure c) := by
  rw [callWith_sent h]
  rfl

variable (latency : Binary64) (status : Int) (encoding : Option String) (body : Body)

theorem call_answered (h : timeoutSeconds c.timeoutMs = .ok timeout) :
    (callWith codecs clock c (.answered latency status encoding body)).result
      = outcome c (clock + timeout) (clock + latency) maxBodyBytes [] body >>=
      replyOf codecs status encoding := by
  have hread := readBody_fst c (clock + timeout) ⟨clock + latency, some false, []⟩ body
  rw [callWith_sent h, receive_answered, request_timeout, ← hread]
  obtain ⟨reading, q⟩ := readBody c (clock + timeout) body ⟨clock + latency, some false, []⟩
  cases reading <;> rfl

theorem closed_answered (h : timeoutSeconds c.timeoutMs = .ok timeout) :
    (callWith codecs clock c (.answered latency status encoding body)).closed = some true := by
  rw [callWith_sent h, receive_answered]
  dsimp only
  split <;> rfl

/-- Nothing is late, and nothing breaks the body before its end or the last byte that is read. -/
structure InTime (deadline clock : Binary64) (body : Body) : Prop where
  readings : ∀ t ∈ body.readings maxBodyBytes clock, deadline.less t = false
  untroubled : body.troubleWithin maxBodyBytes = none

theorem any_late_eq_false {deadline : Binary64} {readings : List Binary64} :
    readings.any deadline.less = false ↔ ∀ t ∈ readings, deadline.less t = false := by
  simp only [List.any_eq_false, Bool.not_eq_true]

theorem call_in_time (h : timeoutSeconds c.timeoutMs = .ok timeout)
    (hin : InTime (clock + timeout) (clock + latency) body) :
    (callWith codecs clock c (.answered latency status encoding body)).result
      = replyOf codecs status encoding (body.bytes.take maxBodyBytes) := by
  rw [call_answered latency status encoding body h, outcome, any_late_eq_false.2 hin.readings, hin.untroubled]
  rfl

theorem call_late (h : timeoutSeconds c.timeoutMs = .ok timeout)
    (hlate : ∃ t ∈ body.readings maxBodyBytes (clock + latency), (clock + timeout).less t = true) :
    (callWith codecs clock c (.answered latency status encoding body)).result = .error (timedOut c) := by
  rw [call_answered latency status encoding body h, outcome, List.any_eq_true.2 hlate, if_pos rfl]
  rfl

theorem call_troubled (h : timeoutSeconds c.timeoutMs = .ok timeout) {trouble : Trouble}
    (hintime : ∀ t ∈ body.readings maxBodyBytes (clock + latency), (clock + timeout).less t = false)
    (htrouble : body.troubleWithin maxBodyBytes = some trouble) :
    (callWith codecs clock c (.answered latency status encoding body)).result =
      .error (trouble.failure c) := by
  rw [call_answered latency status encoding body h, outcome, any_late_eq_false.2 hintime, htrouble]
  rfl

theorem inTime_of_ok (h : timeoutSeconds c.timeoutMs = .ok timeout) {reply : HttpReply}
    (hreply : (callWith codecs clock c (.answered latency status encoding body)).result = .ok reply) :
    InTime (clock + timeout) (clock + latency) body := by
  have hreadings : ∀ t ∈ body.readings maxBodyBytes (clock + latency), (clock + timeout).less t = false := by
    intro t ht
    by_contra hlate
    rw [Bool.not_eq_false] at hlate
    cases hreply.symm.trans (call_late latency status encoding body h ⟨t, ht, hlate⟩)
  refine ⟨hreadings, Option.eq_none_iff_forall_ne_some.2 fun trouble htrouble => ?_⟩
  cases hreply.symm.trans (call_troubled latency status encoding body h hreadings htrouble)

theorem call_failed (h : timeoutSeconds c.timeoutMs = .ok timeout)
    (hbad : (∃ t ∈ body.readings maxBodyBytes (clock + latency), (clock + timeout).less t = true) ∨
      ∃ trouble, trouble.Reported ∧ body.troubleWithin maxBodyBytes = some trouble) :
    ∃ message, (callWith codecs clock c (.answered latency status encoding body)).result =
      .error (.failed message none .null) := by
  by_cases hlate : ∃ t ∈ body.readings maxBodyBytes (clock + latency), (clock + timeout).less t = true
  · exact ⟨_, call_late latency status encoding body h hlate⟩
  · obtain ⟨trouble, hreported, htrouble⟩ := hbad.resolve_left hlate
    obtain ⟨message, hmessage⟩ := hreported.failure c
    have hintime : ∀ t ∈ body.readings maxBodyBytes (clock + latency), (clock + timeout).less t = false :=
      fun t ht => Bool.eq_false_iff.2 fun hless => hlate ⟨t, ht, hless⟩
    exact ⟨message, by rw [call_troubled latency status encoding body h hintime htrouble, hmessage]⟩

theorem call_after {timed : List (Binary64 × UInt8)} (h : maxBodyBytes ≤ timed.length) (rest rest' : Body) :
    callWith codecs clock c (.answered latency status encoding (.after timed rest))
      = callWith codecs clock c (.answered latency status encoding (.after timed rest')) := by
  cases htimeout : timeoutSeconds c.timeoutMs with
  | error fault => rw [callWith, callWith, htimeout]
  | ok timeout =>
    rw [callWith_sent htimeout, callWith_sent htimeout, receive_answered, receive_answered,
      readBody_after c _ rest rest' h]

/-- What a call does with whatever a server does, whatever encodings the platform has. A reply comes from an
answer of which every reading of the clock was in time, that after its end included, and holds its first
bytes. What is late is the call's own failure, and so is every timeout and every request error up to the
last byte that is read; nothing behind that byte matters. An answer is always closed. -/
theorem call_keeps_deadline (codecs : Codecs) (clock : Binary64) (c : HttpCall) :
    (∀ exchange reply, (callWith codecs clock c exchange).result = .ok reply →
      ∃ timeout latency encoding body, timeoutSeconds c.timeoutMs = .ok timeout ∧
        exchange = .answered latency reply.status encoding body ∧
        (∀ t ∈ body.readings maxBodyBytes (clock + latency), (clock + timeout).less t = false) ∧
        body.troubleWithin maxBodyBytes = none ∧
        decodeBody codecs (body.bytes.take maxBodyBytes) encoding = .ok reply.body) ∧
    (∀ timeout, timeoutSeconds c.timeoutMs = .ok timeout →
      (∀ latency trouble, trouble.Reported →
        ∃ message, (callWith codecs clock c (.refused latency trouble)).result
          = .error (.failed message none .null)) ∧
      ∀ latency status encoding body,
        (callWith codecs clock c (.answered latency status encoding body)).closed = some true ∧
        ((∃ t ∈ body.readings maxBodyBytes (clock + latency), (clock + timeout).less t = true) ∨
            (∃ trouble, trouble.Reported ∧ body.troubleWithin maxBodyBytes = some trouble) →
          ∃ message, (callWith codecs clock c (.answered latency status encoding body)).result
            = .error (.failed message none .null))) ∧
    ∀ latency status encoding timed, maxBodyBytes ≤ timed.length → ∀ rest rest',
      callWith codecs clock c (.answered latency status encoding (.after timed rest))
        = callWith codecs clock c (.answered latency status encoding (.after timed rest')) := by
  refine ⟨fun exchange reply hreply => ?_, fun timeout h => ⟨fun latency trouble hreported => ?_, ?_⟩, ?_⟩
  · cases htimeout : timeoutSeconds c.timeoutMs with
    | error fault => cases hreply.symm.trans (call_unsent htimeout exchange)
    | ok timeout =>
      cases exchange with
      | refused latency trouble => cases hreply.symm.trans (call_refused htimeout latency trouble)
      | answered latency status encoding body =>
        have hin := inTime_of_ok latency status encoding body htimeout hreply
        rw [call_in_time latency status encoding body htimeout hin, replyOf_ok_iff] at hreply
        obtain ⟨rfl, hbody⟩ := hreply
        exact ⟨timeout, latency, encoding, body, rfl, rfl, hin.readings, hin.untroubled, hbody⟩
  · obtain ⟨message, hmessage⟩ := hreported.failure c
    exact ⟨message, by rw [call_refused h, hmessage]⟩
  · exact fun latency status encoding body =>
      ⟨closed_answered latency status encoding body h, call_failed latency status encoding body h⟩
  · exact fun latency status encoding timed hlength rest rest' =>
      call_after latency status encoding hlength rest rest'

def knock : HttpCall := ⟨"POST", "https://hooks.test", [], .null, .ofInt 1000⟩

theorem knock_timeout : timeoutSeconds knock.timeoutMs = .ok (Binary64.ofInt 1000 / Binary64.ofInt 1000) :=
  timeoutSeconds_ofInt (by decide) (Binary64.lt_integerLimit_of_exact (by decide))

def hello : Body := .after [(Binary64.zero, 104), (Binary64.zero, 105)] .done

theorem hello_in_time :
    InTime (Binary64.zero + Binary64.ofInt 1000 / Binary64.ofInt 1000)
      (Binary64.zero + Binary64.zero) hello :=
  ⟨by decide +kernel, by decide +kernel⟩

theorem decode_hello : decodeBody Encoding.codecs (hello.bytes.take maxBodyBytes) (some "utf-8") =
    .ok (.text "hi") := by
  have hbytes : hello.bytes.take maxBodyBytes = [104, 105] := by decide +kernel
  rw [hbytes]
  cbv

theorem knock_hello : (call Binary64.zero knock (.answered Binary64.zero 200 (some "utf-8") hello)).result
    = .ok ⟨200, .text "hi"⟩ := by
  rw [call, call_in_time _ _ _ _ knock_timeout hello_in_time, replyOf_ok_iff]
  exact ⟨rfl, decode_hello⟩

/-- The same letters, and the end when two seconds have gone by. -/
def openHello : Body := .after [(Binary64.zero, 104), (Binary64.zero, 105)] (.ends (Binary64.ofInt 2))

theorem openHello_late : ∃ t ∈ openHello.readings maxBodyBytes (Binary64.zero + Binary64.zero),
    (Binary64.zero + Binary64.ofInt 1000 / Binary64.ofInt 1000).less t = true := by decide +kernel

theorem knock_keeps_deadline :
    (∃ timeout latency encoding body, timeoutSeconds knock.timeoutMs = .ok timeout ∧
      Exchange.answered Binary64.zero 200 (some "utf-8") hello = .answered latency 200 encoding body ∧
      (∀ t ∈ body.readings maxBodyBytes (Binary64.zero + latency), (Binary64.zero + timeout).less t = false) ∧
      body.troubleWithin maxBodyBytes = none ∧
      decodeBody Encoding.codecs (body.bytes.take maxBodyBytes) encoding = .ok (.text "hi")) ∧
    (∃ message, (call Binary64.zero knock (.refused Binary64.zero .timeout)).result
      = .error (.failed message none .null)) ∧
    (∃ message, (call Binary64.zero knock (.answered Binary64.zero 200 none openHello)).result
      = .error (.failed message none .null)) ∧
    call Binary64.zero knock (.answered Binary64.zero 200 none
        (.after (List.replicate maxBodyBytes (Binary64.zero, 104)) .done))
      = call Binary64.zero knock (.answered Binary64.zero 200 none
        (.after (List.replicate maxBodyBytes (Binary64.zero, 104)) (.broken .timeout))) := by
  obtain ⟨hreply, hsent, hrest⟩ := call_keeps_deadline Encoding.codecs Binary64.zero knock
  obtain ⟨hrefused, hanswered⟩ := hsent _ knock_timeout
  have hlong : maxBodyBytes ≤ (List.replicate maxBodyBytes (Binary64.zero, (104 : UInt8))).length :=
    List.length_replicate.ge
  refine ⟨hreply _ _ knock_hello, ?_, ?_, ?_⟩
  · exact hrefused Binary64.zero .timeout .timeout
  · exact (hanswered Binary64.zero 200 none openHello).2 (.inl openHello_late)
  · exact hrest Binary64.zero 200 none _ hlong .done (.broken .timeout)

end RecordDesk.Http
