import MarkerScan.Delivery.Retry
import MarkerScan.Http.Exchange
import MarkerScan.Slack.Message
import MarkerScan.Text.Character
/-
  MarkerScan.Slack.Webhook — posting messages to a webhook.

  A digest goes out message by message: each one is tried as the policy says until it is
  accepted, and only then comes the next one. The first message that is given up ends it.
-/

namespace MarkerScan.Slack

structure Webhook where
  url : String
  deriving DecidableEq, Repr

def serviceName : String := "Slack"

namespace Webhook

/-- A webhook for a URL that is not blank. -/
def ofUrl (url : String) : Except DeliveryError Webhook :=
  if (Text.trim url.toList).isEmpty then .error (.permanent "Slack webhook URL is empty") else .ok ⟨url⟩

variable [Http.HostNames] {σ : Type}

/-- The request that posts a message. -/
def request (w : Webhook) (message : Json) : Except DeliveryError Http.Request :=
  Http.Request.build .post w.url [("content-type", "application/json")] (some message)

/-- Posts a message once. -/
def post (w : Webhook) (server : Http.Server σ) (message : Json) (s : σ) : Except DeliveryError Unit × σ :=
  let (answer, s) := Http.exchange server serviceName (w.request message) s
  (answer.map fun _ => (), s)

/-- Whether the webhook takes the test message. -/
def test (w : Webhook) (server : Http.Server σ) (s : σ) : Bool × σ :=
  let (result, s) := w.post server testMessage s
  (result.isOk, s)

def deliver (w : Webhook) (server : Http.Server σ) (i : Item) (s : σ) : Except DeliveryError Unit × σ :=
  w.post server (itemMessage i) s

/-- Posts messages one after the other, up to the first one that is given up. -/
def postAll (w : Webhook) (server : Http.Server σ) (policy : RetryPolicy) :
    List (List Json) → σ → Except DeliveryError Unit × σ
  | [], s => (.ok (), s)
  | blocks :: rest, s =>
    let run := policy.run (w.post server (digestMessage blocks)) s
    match run.result with
    | .ok _ => postAll w server policy rest run.state
    | .error e => (.error e, run.state)

/-- Sends a digest of the items, nothing if there are none: the number of messages. -/
def sendDigest (w : Webhook) (server : Http.Server σ) (policy : RetryPolicy) (time : String) (items : List Item)
    (s : σ) : Except DeliveryError Nat × σ :=
  if items.isEmpty then (.ok 0, s)
  else
    let messages := digestMessages time items
    let (result, s) := w.postAll server policy messages s
    (result.map fun _ => messages.length, s)

end Webhook

end MarkerScan.Slack
