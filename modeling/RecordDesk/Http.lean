import RecordDesk.Action.Execution
import RecordDesk.Document.Reader
import RecordDesk.Text.Encoding
set_option autoImplicit false

/-!
Calls to servers. The time limit of a call covers its answer as a whole: the body comes byte by byte, and
the clock is read after each. Only the first bytes of a long body are read.
-/

namespace RecordDesk.Http

inductive Trouble where
  | timeout
  | request (text : String)
  | other (text : String)
  deriving DecidableEq, Repr

/-- A body as it arrives: each byte after some seconds, and after some more its end or what breaks it. -/
inductive Body where
  | ends (wait : Binary64)
  | breaks (wait : Binary64) (trouble : Trouble)
  | byte (wait : Binary64) (b : UInt8) (rest : Body)

/-- A body that ends, or breaks, with its last byte. -/
def Body.done : Body := .ends Binary64.zero
def Body.broken (trouble : Trouble) : Body := .breaks Binary64.zero trouble

/-- What a server does with a call after some seconds: nothing useful, or an answer. -/
inductive Exchange where
  | refused (latency : Binary64) (trouble : Trouble)
  | answered (latency : Binary64) (status : Int) (encoding : Option String) (body : Body)

/-- A request as it leaves. A query goes with the address, any other payload in the body. -/
structure Request where
  method : String
  url : String
  headers : List (String × String)
  timeout : Binary64
  params : Option Document
  json : Option Document

def loggerName : String := "http_client"

def maxBodyBytes : Nat := 64 * 1024

/-- The time limit in seconds; it is never less than a millisecond. -/
def timeoutSeconds (ms : Quantity) : Except Fault Binary64 := do
  let ms ← (← ms.atLeast 1).toNumber?
  return (← ms.toBinary64) / Binary64.ofInt 1000

def request (c : HttpCall) (timeout : Binary64) : Request :=
  let method := upper c.method
  if method = "GET" then
    ⟨method, c.url, c.headers, timeout, if c.body.isTruthy then some c.body else none, none⟩
  else ⟨method, c.url, c.headers, timeout, none, some c.body⟩

def timedOut (c : HttpCall) : HttpFailure :=
  .failed s!"timeout of {c.timeoutMs.toDocument.shown}ms exceeded" none .null

def Trouble.failure (c : HttpCall) : Trouble → HttpFailure
  | .timeout => timedOut c
  | .request text => .failed ("request failed: " ++ text) none .null
  | .other text => .broken (.external text)

def truncation (url : String) : Log.Entry :=
  ⟨loggerName, .warning, s!"HTTP response truncated at {maxBodyBytes} bytes url={url}"⟩

def arrival (method url : String) (status : Int) : Log.Entry :=
  ⟨loggerName, .debug, s!"HTTP {method} {url} -> {status}"⟩

structure Progress where
  clock : Binary64
  /-- Whether the response was closed, if one came. -/
  closed : Option Bool := none
  logs : List Log.Entry := []

/-- A part of a call. What was done before a failure stays done. -/
abbrev Part (α : Type) := ExceptT HttpFailure (StateM Progress) α

namespace Part

def pass (seconds : Binary64) : Part Unit := modify fun p => { p with clock := p.clock + seconds }

def note (entry : Log.Entry) : Part Unit := modify fun p => { p with logs := p.logs ++ [entry] }

def opened : Part Unit := modify fun p => { p with closed := some false }

def close : Part Unit := modify fun p => { p with closed := some true }

def inTime (c : HttpCall) (deadline : Binary64) : Part Unit := do
  if deadline.less (← get).clock then throw (timedOut c)

end Part

open Part

/-- Takes bytes off a body while there is room for them; of the bytes taken the last comes first. -/
def takeBytes (c : HttpCall) (deadline : Binary64) : Nat → List UInt8 → Body → Part (List UInt8)
  | _, bytes, .ends wait => do
    pass wait
    return bytes
  | _, _, .breaks wait trouble => do
    pass wait
    throw (trouble.failure c)
  | room, bytes, .byte wait b rest => do
    pass wait
    inTime c deadline
    if room ≤ 1 then
      note (truncation c.url)
      return b :: bytes
    takeBytes c deadline (room - 1) (b :: bytes) rest

/-- The clock has the last word on the bytes that were taken, since the end of a body may be late too. -/
def conclude (c : HttpCall) (deadline : Binary64) (bytes : List UInt8) : Part (List UInt8) := do
  inTime c deadline
  return bytes.reverse

def readBody (c : HttpCall) (deadline : Binary64) (body : Body) : Part (List UInt8) :=
  takeBytes c deadline maxBodyBytes [] body >>= conclude c deadline

/-- A document where the text is one, else the text. Of texts only those that nest too deep are refused. -/
def contentOf (text : String) : Except Fault Document :=
  match Document.read text with
  | .ok d => .ok d
  | .error (.tooDeep collection) => .error (.nestedTooDeep collection)
  | .error _ => .ok (.text text)

/-- What some bytes say; nothing where nothing came. -/
def decodeBody (codecs : Codecs) (bytes : List UInt8) (label : Option String) : Except Fault Document :=
  if bytes.isEmpty then .ok .null
  else
    let name := Action.textOr "utf-8" label
    if name.toList.contains (Char.ofNat 0) then .error .nullInLabel
    else match codecs name with
    | none => .error (.unknownEncoding name)
    | some codec => match codec bytes with
      | .error reason => .error (.external reason)
      | .ok chars => contentOf (String.ofList chars)

variable (codecs : Codecs)

/-- What comes of a request that is sent. A response is closed whatever becomes of its body. -/
def receive (c : HttpCall) (request : Request) : Exchange → Part HttpReply
  | .refused latency trouble => do
    pass latency
    throw (trouble.failure c)
  | .answered latency status encoding body => do
    let deadline := (← get).clock + request.timeout
    pass latency
    opened
    let bytes ← try readBody c deadline body finally close
    note (arrival request.method c.url status)
    match decodeBody codecs bytes encoding with
    | .ok d => return ⟨status, d⟩
    | .error fault => throw (.broken fault)

structure Account where
  result : Except HttpFailure HttpReply
  /-- The request, if one was sent. -/
  request : Option Request
  closed : Option Bool
  logs : List Log.Entry
  clock : Binary64

/-- Makes a call at a time of the clock; without a time limit nothing is sent. -/
def callWith (clock : Binary64) (c : HttpCall) (exchange : Exchange) : Account :=
  match timeoutSeconds c.timeoutMs with
  | .error fault => ⟨.error (.broken fault), none, none, [], clock⟩
  | .ok timeout =>
    let request := request c timeout
    let (result, p) := receive codecs c request exchange { clock }
    ⟨result, some request, p.closed, p.logs, p.clock⟩

def call : Binary64 → HttpCall → Exchange → Account := callWith Encoding.codecs

end RecordDesk.Http
