import CrashReporter.Payload
import CrashReporter.Remote.Broker
import CrashReporter.Remote.Credentials
import CrashReporter.Remote.Url
import CrashReporter.Settings
import CrashReporter.Text.Charset
import CrashReporter.Usage.Policy

/-!
# The remote API

What is asked of the remote API over the web, and what its responses mean. Each request carries the
application's key. A response counts if its status lies from 200 to 299; another is a failure, whose
reason is the response's text.
-/

namespace CrashReporter

/-- How a request is made. -/
inductive Method where
  | get
  | post
  deriving DecidableEq, Inhabited

/-- The word for a method. -/
def Method.name : Method → String
  | .get => "GET"
  | .post => "POST"

/-- A request to the remote API. -/
structure Request where
  method : Method
  url : Url
  authorization : String
  contentType : Option String := none
  body : Bytes := []

/-- A response of the remote API. -/
structure Response where
  status : Nat
  contentType : Option String := none
  body : Bytes := []

/-- Why an exchange with the remote API came to nothing. -/
inductive Obstacle where
  /-- The request cannot be made: its address is not absolute, or the key cannot be sent. -/
  | unmakeable
  /-- No request can be sent to an address of that kind. -/
  | unsuitable (url : Url)
  /-- The request is not answered. -/
  | unanswered (url : Url)
  /-- The response's document is not of the form expected. -/
  | undecodable

/-- The text an obstacle is shown by. -/
def Obstacle.message : Obstacle → String
  | .unmakeable => "builder error"
  | .unsuitable url => s!"builder error for url ({url.text})"
  | .unanswered url => s!"error sending request for url ({url.text})"
  | .undecodable => "error decoding response body"

/-- A response, or why there is none. -/
abbrev Reply := Except Obstacle Response

namespace Response

/-- Whether what was asked for is done. -/
def isSuccess (r : Response) : Bool := 200 ≤ r.status && r.status < 300

/-- The bytes that the response brings; some statuses leave no room for any. -/
def content (r : Response) : Bytes := if r.status = 204 ∨ r.status = 304 then [] else r.body

/-- The response's text, without blanks around it. -/
def text (r : Response) : String :=
  Text.trim ((Text.Charset.ofMediaType r.contentType).decode r.content)

end Response

/-- Where the remote API is, and the key it knows the application by. -/
structure Api where
  base : String
  key : String

namespace Api

open Json

/-- What the agent names itself to the remote API. -/
def userAgent : String := "faultline/" ++ agentVersion

/-- The address of a resource: slashes at the base's end do not count. -/
def address (api : Api) (resource : String) : String :=
  trimSlashes api.base ++ "/" ++ resource

/-- Whether a key can be sent: it may hold no control character other than a tab. -/
def isSendable (key : String) : Bool := key.toList.all fun c => c == '\t' || !Text.Percent.isControl c

/-- A request for a resource. -/
def request (api : Api) (method : Method) (resource : String) (contentType : Option String := none)
    (body : Bytes := []) : Except Obstacle Request := do
  let some url := Url.parse? (api.address resource) | throw .unmakeable
  if ! url.authority.any (!·.host.isEmpty) then throw (.unsuitable url)
  if ! isSendable api.key then throw .unmakeable
  if ! url.isWeb then throw (.unsuitable url)
  return { method, url, authorization := "JWT " ++ api.key, contentType, body }

/-- Asks for credentials for an application on the machine of that fingerprint. -/
def registration (api : Api) (fingerprint application : String) : Except Obstacle Request :=
  api.request .post "devices" (some "application/json") <| Text.utf8 <|
    (Value.object [("mac_address_hash", .text fingerprint), ("application", .text application)]).compact

/-- Asks for the policy. -/
def policy (api : Api) : Except Obstacle Request := api.request .get "config/limits"

/-- Asks for the broker's address. -/
def broker (api : Api) : Except Obstacle Request := api.request .get "devices/config"

/-- Hands over an installation's packed event. -/
def event (api : Api) (installation : String) (payload : Bytes) : Except Obstacle Request :=
  api.request .post s!"devices/{installation}/events" (some "application/x-msgpack") payload

end Api

namespace Reply

open Json

/-- The reply to a request, which `send` sends; without a response it is unanswered. -/
def exchange (request : Except Obstacle Request) (send : Request → Option Response) : Reply := do
  let request ← request
  match send request with
  | some response => return response
  | none => throw (.unanswered request.url)

/-- The response of an exchange that went well. -/
def success (r : Reply) : Except Failure Response :=
  match r with
  | .error o => .error (.remoteApi o.message)
  | .ok r => if r.isSuccess then .ok r else .error (.remoteApi s!"server returned {r.status}: {r.text}")

/-- The reason why an exchange did not go well: an obstacle's own text, or the failure's. -/
def reason (r : Reply) (f : Failure) : String :=
  match r with
  | .error o => o.message
  | .ok _ => f.message

/-- The document of a response. -/
def document {β : Type} (shape : Shape β) (r : Response) : Except Obstacle β :=
  (shape.ofText r.content).mapError fun _ => .undecodable

/-- The credentials that a registration brought. -/
def credentials (r : Reply) : Except Failure Credentials := do
  let response ← r.success.mapError fun f => .registrationFailed (r.reason f)
  (document Credentials.record.shape response).mapError fun o =>
    .registrationFailed ("unparsable response: " ++ o.message)

/-- The policy that a response brought. -/
def policy (r : Reply) : Except Failure Policy := do
  let v ← (document .any (← r.success)).mapError fun o => .remoteApi o.message
  Policy.ofRemote v

/-- The broker that a response named. -/
def broker (r : Reply) : Except Failure Broker := do
  (document Broker.record.shape (← r.success)).mapError fun o => .remoteApi o.message

/-- Whether an event was taken. -/
def acceptance (r : Reply) : Except Failure Unit :=
  (r.success.map fun _ => ()).mapError fun f => .transport (r.reason f)

end Reply

end CrashReporter
