import RecordDesk.Desk
import RecordDesk.Proofs.Action.Effects
import RecordDesk.Proofs.Http.Calls
set_option autoImplicit false

namespace RecordDesk

namespace Document

def openings (s : List Char) : Nat := s.countP fun c => c == '[' || c == '\x7b'

theorem tooDeep?_of_few {s : List Char} {depth : Nat} (h : depth + openings s ≤ nestingLimit)
    (quoted : Bool) : tooDeep? depth quoted s = none := by
  unfold openings at h
  fun_induction tooDeep? depth quoted s with
  | case1 depth _ rest ih =>
    simp only [List.countP_cons] at h
    exact ih (by omega)
  | case2 depth c rest _ ih =>
    rw [List.countP_cons] at h
    exact ih (by omega)
  | case3 depth c rest hopen hfull =>
    rw [List.countP_cons, if_pos hopen] at h
    omega
  | case4 depth c rest hopen hroom ih =>
    rw [List.countP_cons, if_pos hopen] at h
    exact ih (by omega)
  | case5 depth c rest hopen hclose ih =>
    rw [List.countP_cons] at h
    exact ih (by omega)
  | case6 depth c rest hopen hclose ih =>
    rw [List.countP_cons] at h
    exact ih (by omega)
  | case7 => rfl

theorem read_of_few {s : List Char} (h : openings s ≤ nestingLimit) (collection : String) :
    read (String.ofList s) ≠ .error (.tooDeep collection) := by
  have hnone {t : List Char} (ht : t.Sublist s) : tooDeep? 0 false t = none := by
    refine tooDeep?_of_few ?_ false
    rw [Nat.zero_add]
    exact ht.countP_le.trans h
  rw [read, String.toList_ofList]
  cases hscan : scan s with
  | ok d =>
    simp only [hnone (List.Sublist.refl s)]
    intro hdeep
    cases hdeep
  | error stop =>
    simp only [hnone (List.take_sublist _ s)]
    cases stop <;> intro hdeep <;> cases hdeep

end Document

namespace Http

/-- The text that some bytes stand for under a label; without a label they are UTF-8. -/
structure Reads (codecs : Codecs) (label : Option String) (bytes : List UInt8) (text : String) : Prop where
  plain : (Action.textOr "utf-8" label).toList.contains (Char.ofNat 0) = false
  decodes : ∃ codec, codecs (Action.textOr "utf-8" label) = some codec ∧ codec bytes = .ok text.toList

/-- What the bytes of a body are worth under a label: a document where their text is one, else the text, and
nothing where there are none. -/
inductive Decoded (codecs : Codecs) (label : Option String) : List UInt8 → Document → Prop
  | empty : Decoded codecs label [] .null
  | document {bytes : List UInt8} {text : String} {d : Document} (hsome : bytes ≠ [])
    (hreads : Reads codecs label bytes text) (hread : Document.read text = .ok d) :
    Decoded codecs label bytes d
  | text {bytes : List UInt8} {text : String} {fault : Document.ReadError} (hsome : bytes ≠ [])
    (hreads : Reads codecs label bytes text) (hread : Document.read text = .error fault)
    (hdepth : ∀ collection, fault ≠ .tooDeep collection) : Decoded codecs label bytes (.text text)

/-- Why the bytes of a body are worth nothing under a label. -/
inductive Undecoded (codecs : Codecs) (label : Option String) (bytes : List UInt8) : Fault → Prop
  | nullInLabel (h : (Action.textOr "utf-8" label).toList.contains (Char.ofNat 0) = true) :
    Undecoded codecs label bytes .nullInLabel
  | unknownLabel (hplain : (Action.textOr "utf-8" label).toList.contains (Char.ofNat 0) = false)
    (h : codecs (Action.textOr "utf-8" label) = none) :
    Undecoded codecs label bytes (.unknownEncoding (Action.textOr "utf-8" label))
  | refused {codec : Codec} {reason : String}
    (hplain : (Action.textOr "utf-8" label).toList.contains (Char.ofNat 0) = false)
    (hknown : codecs (Action.textOr "utf-8" label) = some codec) (h : codec bytes = .error reason) :
    Undecoded codecs label bytes (.external reason)
  | tooDeep {text : String} {collection : String} (hreads : Reads codecs label bytes text)
    (hread : Document.read text = .error (.tooDeep collection)) :
    Undecoded codecs label bytes (.nestedTooDeep collection)

/-- Whether the bytes of a body can be read: always where there are none, and otherwise where the label
names an encoding that has a text for them, and the text does not nest too deep. -/
def Decodable (codecs : Codecs) (label : Option String) (bytes : List UInt8) : Prop :=
  bytes = [] ∨ ∃ text, Reads codecs label bytes text ∧
    ∀ collection, Document.read text ≠ .error (.tooDeep collection)

variable {codecs : Codecs} {label : Option String} {bytes : List UInt8} {text : String} {d : Document}
  {fault : Fault}

theorem Reads.unique (h : Reads codecs label bytes text) {text' : String}
    (h' : Reads codecs label bytes text') : text = text' := by
  obtain ⟨codec, hknown, hchars⟩ := h.decodes
  obtain ⟨codec', hknown', hchars'⟩ := h'.decodes
  cases hknown.symm.trans hknown'
  exact String.toList_injective (Except.ok.inj (hchars.symm.trans hchars'))

theorem decodeBody_reads (hsome : bytes ≠ []) (hreads : Reads codecs label bytes text) :
    decodeBody codecs bytes label = contentOf text := by
  obtain ⟨codec, hknown, hchars⟩ := hreads.decodes
  rw [decodeBody, if_neg (by simpa using hsome)]
  simp only [hreads.plain, hknown, hchars, Bool.false_eq_true, if_false, String.ofList_toList]

theorem Decoded.decodeBody (h : Decoded codecs label bytes d) : decodeBody codecs bytes label = .ok d := by
  cases h with
  | empty => rfl
  | document hsome hreads hread => rw [decodeBody_reads hsome hreads, contentOf, hread]
  | @text _ text fault hsome hreads hread hdepth =>
    rw [decodeBody_reads hsome hreads, contentOf, hread]
    cases fault with
    | tooDeep collection => exact absurd rfl (hdepth collection)
    | malformed _ => rfl
    | numeralTooLong _ => rfl

theorem Decoded.decodable (h : Decoded codecs label bytes d) : Decodable codecs label bytes := by
  cases h with
  | empty => exact .inl rfl
  | document hsome hreads hread => exact .inr ⟨_, hreads, fun _ hdeep => nomatch hread.symm.trans hdeep⟩
  | text hsome hreads hread hdepth =>
    refine .inr ⟨_, hreads, fun collection hdeep => hdepth collection ?_⟩
    exact Except.error.inj (hread.symm.trans hdeep)

theorem decoded_or_tooDeep (hsome : bytes ≠ []) (hreads : Reads codecs label bytes text) :
    (∃ d, Decoded codecs label bytes d) ∨
      ∃ fault, decodeBody codecs bytes label = .error fault ∧ Undecoded codecs label bytes fault := by
  cases hread : Document.read text with
  | ok d => exact .inl ⟨d, .document hsome hreads hread⟩
  | error fault =>
    cases fault with
    | tooDeep collection =>
      refine .inr ⟨_, ?_, .tooDeep hreads hread⟩
      rw [decodeBody_reads hsome hreads, contentOf, hread]
    | malformed _ => exact .inl ⟨_, .text hsome hreads hread fun _ hdeep => by cases hdeep⟩
    | numeralTooLong _ => exact .inl ⟨_, .text hsome hreads hread fun _ hdeep => by cases hdeep⟩

theorem decoded_or_undecoded (codecs : Codecs) (label : Option String) (bytes : List UInt8) :
    (∃ d, Decoded codecs label bytes d) ∨
      ∃ fault, decodeBody codecs bytes label = .error fault ∧ Undecoded codecs label bytes fault := by
  by_cases hsome : bytes = []
  · subst hsome
    exact .inl ⟨.null, .empty⟩
  have hbytes : ¬ bytes.isEmpty = true := by simpa using hsome
  cases hplain : (Action.textOr "utf-8" label).toList.contains (Char.ofNat 0) with
  | true =>
    refine .inr ⟨_, ?_, .nullInLabel hplain⟩
    rw [decodeBody, if_neg hbytes]
    simp only [hplain, if_true]
  | false =>
    cases hknown : codecs (Action.textOr "utf-8" label) with
    | none =>
      refine .inr ⟨_, ?_, .unknownLabel hplain hknown⟩
      rw [decodeBody, if_neg hbytes]
      simp only [hplain, hknown, Bool.false_eq_true, if_false]
    | some codec =>
      cases hchars : codec bytes with
      | error reason =>
        refine .inr ⟨_, ?_, .refused hplain hknown hchars⟩
        rw [decodeBody, if_neg hbytes]
        simp only [hplain, hknown, hchars, Bool.false_eq_true, if_false]
      | ok chars =>
        have hreads : Reads codecs label bytes (String.ofList chars) :=
          ⟨hplain, codec, hknown, by rw [String.toList_ofList, hchars]⟩
        exact decoded_or_tooDeep hsome hreads

theorem decodeBody_ok_iff : decodeBody codecs bytes label = .ok d ↔ Decoded codecs label bytes d := by
  constructor
  · intro h
    obtain ⟨d', hd⟩ | ⟨fault, herror, -⟩ := decoded_or_undecoded codecs label bytes
    · cases h.symm.trans hd.decodeBody
      exact hd
    · cases h.symm.trans herror
  · exact Decoded.decodeBody

theorem decodeBody_error (h : decodeBody codecs bytes label = .error fault) :
    Undecoded codecs label bytes fault := by
  obtain ⟨d, hd⟩ | ⟨fault', herror, hundecoded⟩ := decoded_or_undecoded codecs label bytes
  · cases h.symm.trans hd.decodeBody
  · cases h.symm.trans herror
    exact hundecoded

theorem decodable_iff : Decodable codecs label bytes ↔ ∃ d, Decoded codecs label bytes d := by
  constructor
  · intro h
    obtain hd | ⟨fault, herror, hundecoded⟩ := decoded_or_undecoded codecs label bytes
    · exact hd
    · rcases h with rfl | ⟨text, hreads, hdepth⟩
      · exact ⟨.null, .empty⟩
      · obtain ⟨codec, hknown, hchars⟩ := hreads.decodes
        cases hundecoded with
        | nullInLabel hnull => cases hnull.symm.trans hreads.plain
        | unknownLabel _ hunknown => cases hunknown.symm.trans hknown
        | refused _ hknown' hrefused =>
          cases hknown.symm.trans hknown'
          cases hrefused.symm.trans hchars
        | tooDeep hreads' hread =>
          rw [hreads'.unique hreads] at hread
          exact absurd hread (hdepth _)
  · rintro ⟨d, hd⟩
    exact hd.decodable

theorem decodable_of_few (hreads : Reads codecs label bytes text)
    (h : Document.openings text.toList ≤ Document.nestingLimit) : Decodable codecs label bytes := by
  refine .inr ⟨text, hreads, fun collection => ?_⟩
  have hfew := Document.read_of_few h collection
  rwa [String.ofList_toList] at hfew

variable {clock timeout latency : Binary64} {c : HttpCall} {status : Int} {encoding : Option String}
  {body : Body}

theorem reply_in_time (h : timeoutSeconds c.timeoutMs = .ok timeout)
    (hin : InTime (clock + timeout) (clock + latency) body) (reply : HttpReply) :
    (callWith codecs clock c (.answered latency status encoding body)).result = .ok reply ↔
      reply.status = status ∧ Decoded codecs encoding (body.bytes.take maxBodyBytes) reply.body := by
  rw [call_in_time latency status encoding body h hin, replyOf_ok_iff, decodeBody_ok_iff]

theorem replied_in_time (h : timeoutSeconds c.timeoutMs = .ok timeout)
    (hin : InTime (clock + timeout) (clock + latency) body) :
    (∃ reply, (callWith codecs clock c (.answered latency status encoding body)).result = .ok reply) ↔
      Decodable codecs encoding (body.bytes.take maxBodyBytes) := by
  rw [decodable_iff]
  constructor
  · rintro ⟨reply, hreply⟩
    exact ⟨reply.body, ((reply_in_time h hin reply).1 hreply).2⟩
  · rintro ⟨d, hd⟩
    exact ⟨⟨status, d⟩, (reply_in_time h hin _).2 ⟨rfl, hd⟩⟩

theorem unreplied_in_time (h : timeoutSeconds c.timeoutMs = .ok timeout)
    (hin : InTime (clock + timeout) (clock + latency) body) {failure : HttpFailure}
    (hfailure : (callWith codecs clock c (.answered latency status encoding body)).result = .error failure) :
    ∃ fault, failure = .broken fault ∧ Undecoded codecs encoding (body.bytes.take maxBodyBytes) fault := by
  rw [call_in_time latency status encoding body h hin, replyOf] at hfailure
  cases hdecoded : decodeBody codecs (body.bytes.take maxBodyBytes) encoding with
  | ok d =>
    rw [hdecoded] at hfailure
    cases hfailure
  | error fault =>
    rw [hdecoded] at hfailure
    exact ⟨fault, (Except.error.inj hfailure).symm, decodeBody_error hdecoded⟩

/-- A webhook that is sent succeeds just if there is a reply to its call. -/
theorem webhook_success_iff {options : Action.Options} {context : Context} {document : Document}
    {hook : Webhook} {payload : Document} (hread : Action.read document = .ok (.webhook hook))
    (hpayload : Action.sentPayload context hook = .ok payload) (desk : Desk) :
    (Action.execute (Desk.outletsWith codecs) options context document desk).1.success = true ↔
      ∃ reply, (callWith codecs desk.clock (Action.webhookCall options context hook payload)
        (desk.exchanges.head?.getD Desk.standardExchange)).result = .ok reply := by
  rw [(Action.concluded_execute options context (Desk.outletsWith codecs) document desk).succeeded]
  constructor
  · rintro ⟨a, ha, haccepted⟩
    cases hread.symm.trans ha
    exact (Action.accepted_webhook_iff options context (Desk.outletsWith codecs) desk hpayload).1 haccepted
  · exact fun hreply => ⟨_, hread,
      (Action.accepted_webhook_iff options context (Desk.outletsWith codecs) desk hpayload).2 hreply⟩

/-- An answer that comes in time is replied just if it can be read: the label has to name an encoding that
the platform has and that takes the bytes, and their text must not nest too deep. Its status does not
matter, and neither do the bytes otherwise. On the same condition a webhook succeeds that is answered in
time. -/
theorem replied_iff_decodable (codecs : Codecs) (timeout latency : Binary64) (status : Int)
    (encoding : Option String) (body : Body) :
    (∀ (clock : Binary64) (c : HttpCall), timeoutSeconds c.timeoutMs = .ok timeout →
      InTime (clock + timeout) (clock + latency) body →
      ((∃ reply, (callWith codecs clock c (.answered latency status encoding body)).result = .ok reply) ↔
        Decodable codecs encoding (body.bytes.take maxBodyBytes)) ∧
      (∀ reply, (callWith codecs clock c (.answered latency status encoding body)).result = .ok reply →
        reply.status = status ∧ Decoded codecs encoding (body.bytes.take maxBodyBytes) reply.body) ∧
      ∀ failure, (callWith codecs clock c (.answered latency status encoding body)).result = .error failure →
        ∃ fault, failure = .broken fault ∧ Undecoded codecs encoding (body.bytes.take maxBodyBytes) fault) ∧
    ∀ (options : Action.Options) (context : Context) (document : Document) (hook : Webhook)
      (payload : Document) (desk : Desk), Action.read document = .ok (.webhook hook) →
      Action.sentPayload context hook = .ok payload →
      timeoutSeconds (Action.webhookCall options context hook payload).timeoutMs = .ok timeout →
      desk.exchanges.head?.getD Desk.standardExchange = .answered latency status encoding body →
      InTime (desk.clock + timeout) (desk.clock + latency) body →
      ((Action.execute (Desk.outletsWith codecs) options context document desk).1.success = true ↔
        Decodable codecs encoding (body.bytes.take maxBodyBytes)) := by
  constructor
  · intro clock c h hin
    exact ⟨replied_in_time h hin, fun reply => (reply_in_time h hin reply).1, fun failure =>
      unreplied_in_time h hin⟩
  · intro options context document hook payload desk hread hpayload h hexchange hin
    rw [webhook_success_iff hread hpayload, hexchange]
    exact replied_in_time h hin

def knockDocument : Document :=
  .object [("type", .text "webhook"), ("url", .text "https://hooks.test")]

def knockHook : Webhook := ⟨"https://hooks.test", "POST", none, none, none⟩

theorem read_knockDocument : Action.read knockDocument = .ok (.webhook knockHook) := rfl

def oneSecond : Action.Options := ⟨"SynkBoard", .ofInt 1000, .ofInt 1000⟩

theorem knockHook_timeout :
    timeoutSeconds (Action.webhookCall oneSecond (Template.contextOf "Ada") knockHook (.object [])).timeoutMs
      = .ok (Binary64.ofInt 1000 / Binary64.ofInt 1000) := by
  have hms : (Action.webhookCall oneSecond (Template.contextOf "Ada") knockHook (.object [])).timeoutMs
      = knock.timeoutMs := rfl
  rw [hms, knock_timeout]

def greetedDesk : Desk :=
  { now := ⟨0, none⟩, exchanges := [.answered Binary64.zero 418 (some "utf-8") hello] }

theorem greeted_in_time : InTime (greetedDesk.clock + Binary64.ofInt 1000 / Binary64.ofInt 1000)
    (greetedDesk.clock + Binary64.zero) hello := by
  have hclock : greetedDesk.clock = Binary64.zero := by rw [greetedDesk]
  rw [hclock]
  exact hello_in_time

theorem hello_decodable : Decodable Encoding.codecs (some "utf-8") (hello.bytes.take maxBodyBytes) := by
  have hbytes : hello.bytes.take maxBodyBytes = [104, 105] := by decide +kernel
  have hlabel : Encoding.ofLabel? "utf-8" = some .utf8 := by decide +kernel
  have hreads : Reads Encoding.codecs (some "utf-8") [104, 105] "hi" :=
    ⟨by decide +kernel, _, congrArg (Option.map _) hlabel, by rfl⟩
  rw [hbytes]
  exact decodable_of_few hreads (by decide +kernel)

theorem hello_replied :
    (∃ reply, (call Binary64.zero knock (.answered Binary64.zero 418 (some "utf-8") hello)).result =
      .ok reply) ∧
    (Action.execute Desk.outlets oneSecond (Template.contextOf "Ada") knockDocument greetedDesk).1.success =
      true := by
  obtain ⟨hcall, hhook⟩ := replied_iff_decodable Encoding.codecs (Binary64.ofInt 1000 / Binary64.ofInt 1000)
    Binary64.zero 418 (some "utf-8") hello
  rw [call, Desk.outlets]
  constructor
  · exact (hcall Binary64.zero knock knock_timeout hello_in_time).1.2 hello_decodable
  · exact (hhook oneSecond _ knockDocument knockHook (.object []) greetedDesk read_knockDocument rfl
      knockHook_timeout rfl greeted_in_time).2 hello_decodable

/-- Under a label that names nothing an answer that came in time is no reply. -/
theorem unknown_label_unreplied :
    ¬ ∀ (clock : Binary64) (c : HttpCall) (timeout latency : Binary64) (status : Int)
    (encoding : Option String) (body : Body), timeoutSeconds c.timeoutMs = .ok timeout →
    InTime (clock + timeout) (clock + latency) body →
    ∃ reply, (call clock c (.answered latency status encoding body)).result = .ok reply := by
  intro hall
  have hreply := hall Binary64.zero knock _ Binary64.zero 200 (some "x-unknown")
    hello knock_timeout hello_in_time
  have hbytes : hello.bytes.take maxBodyBytes = [104, 105] := by decide +kernel
  rw [call, replied_in_time knock_timeout hello_in_time, hbytes] at hreply
  obtain hnil | ⟨text, hreads, -⟩ := hreply
  · cases hnil
  · obtain ⟨codec, hknown, -⟩ := hreads.decodes
    have hlabel : Encoding.ofLabel? "x-unknown" = none := by decide +kernel
    have hunknown : Encoding.codecs "x-unknown" = none := congrArg (Option.map _) hlabel
    cases hunknown.symm.trans hknown

end Http

end RecordDesk
