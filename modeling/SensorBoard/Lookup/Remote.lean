import SensorBoard.Lookup.Address
import SensorBoard.Lookup.Gateway

/-!
# Remote gateways

The gateway to a device server that answers over HTTP. Every question is one request below the base
address, and every answer is a JSON object with the data as its member `data`.
-/

namespace SensorBoard

/-- What a server sends back. -/
structure Reply where
  status : Nat
  /-- The body, unless the connection broke before its end. -/
  body : Option ByteArray

/-- The way to servers: what a request to an address brings back, if anything. -/
abbrev Transport : Type := Address → Option Reply

namespace Transport

/-- There is no way to any server. -/
def unreachable : Transport := fun _ => none

end Transport

/-- A device server by its base address, which ends with a slash. -/
structure Remote where
  base : String

namespace Remote

/-- The server with a base address, as it is configured. -/
def ofBase (text : String) : Remote :=
  let base := Text.trim text
  ⟨if base.toList.getLast? = some '/' then base else base ++ "/"⟩

/-- The address of a question, as it is composed. -/
def url (r : Remote) (lookup : Lookup) : String := r.base ++ lookup.path

def readAnswer {α : Type} (read : Reader α) : Reader α :=
  Json.readRecord
    [{ name := "data"
       isSet := Option.isSome
       read := fun _ cs => do let (a, rest) ← read cs; return (some a, rest)
       isOptional := false }]
    none id

def decodeBody {α : Type} (read : Reader α) (url : String) (body : ByteArray) :
    Except LookupError α :=
  match String.fromUTF8? body with
  | none => .error (.undecodable url)
  | some text => (Json.readWhole (readAnswer read) text).mapError fun _ => .undecodable url

/-- Asks a question. Only the statuses from 200 to 299 bring data. -/
def fetch {α : Type} (r : Remote) (transport : Transport) (read : Reader α) (lookup : Lookup) :
    Except LookupError α :=
  let url := r.url lookup
  match (Address.parse? url).bind transport with
  | none => .error (.unreachable url)
  | some reply =>
    if reply.status < 200 ∨ 299 < reply.status then .error (.status url reply.status)
    else
      match reply.body with
      | none => .error (.unreachable url)
      | some body => decodeBody read url body

/-- A reader of a value that is kept and then taken apart. -/
def readAs {α : Type} (take? : Json → Option α) : Reader α := fun cs => do
  let (j, rest) ← Json.readValue 1 cs
  match take? j with
  | some a => return (a, rest)
  | none => .error .mismatched

def gateway (r : Remote) (transport : Transport) : Gateway where
  devices := r.fetch transport (readAs Json.texts?) .devices
  sensors device := r.fetch transport (readAs Json.texts?) (.sensors device)
  value device resource := r.fetch transport Reading.read (.value device resource)
  history device resource := do
    LookupError.pointsOf
      (← r.fetch transport (readAs History.entries?) (.history device resource))

end Remote

end SensorBoard
