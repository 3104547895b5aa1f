import MarkerScan.Http.Exchange
import MarkerScan.Notion.Page
import MarkerScan.Text.Character
/-
  MarkerScan.Notion.Database — items as pages of a database.

  The schema of the database is fetched when it is first needed and kept from then on; a
  fetch that fails keeps nothing, so the next delivery fetches again. A test of the
  connection always fetches and neither looks at the schema kept nor keeps the new one.
-/

namespace MarkerScan.Notion

structure Database where
  /-- Where the service is, without a slash at the end. -/
  base : String
  key : String
  id : String
  deriving DecidableEq, Repr

def serviceName : String := "Notion"

def standardBase : String := "https://api.notion.com/v1"

/-- The version of the service that requests ask for. -/
def version : String := "2022-06-28"

/-- The schema kept, beside the state of the server. -/
structure Session (σ : Type) where
  schema : Option Schema := none
  server : σ

namespace Database

/-- A database whose key and id are not blank. -/
def ofKey (key id : String) : Except DeliveryError Database :=
  if (Text.trim key.toList).isEmpty || (Text.trim id.toList).isEmpty then
    .error (.permanent "Notion API key and database ID are both required")
  else .ok ⟨standardBase, key, id⟩

def withBase (d : Database) (base : String) : Database :=
  { d with base := String.ofList (base.toList.reverse.dropWhile (· == '/')).reverse }

def headers (d : Database) : List (String × String) :=
  [("authorization", "Bearer " ++ d.key), ("notion-version", version)]

variable [Http.HostNames] {σ : Type}

/-- The request for the schema. -/
def schemaRequest (d : Database) : Except DeliveryError Http.Request :=
  Http.Request.build .get (d.base ++ "/databases/" ++ d.id) d.headers none

/-- The request that adds a page. -/
def pageRequest (d : Database) (properties : Json) : Except DeliveryError Http.Request :=
  Http.Request.build .post (d.base ++ "/pages") (d.headers ++ [("content-type", "application/json")])
    (some (.object [("parent", .object [("database_id", .string d.id)]), ("properties", properties)]))

/-- The schema that the body of an answer holds. -/
def schemaOf (body : Http.Body) : Except DeliveryError Schema :=
  let unexpected (reason : String) : DeliveryError := .permanent ("unexpected Notion database response: " ++ reason)
  match body with
  | .error reason => .error (unexpected reason)
  | .ok text =>
    match Schema.ofText? text with
    | some schema => .ok schema
    | none => .error (unexpected "error decoding response body")

/-- Fetches the schema once. -/
def fetch (d : Database) (server : Http.Server σ) (s : σ) : Except DeliveryError Schema × σ :=
  let (answer, s) := Http.exchange server serviceName d.schemaRequest s
  (answer.bind schemaOf, s)

/-- The schema kept, or else the one fetched, which is kept then. -/
def schema (d : Database) (server : Http.Server σ) (s : Session σ) : Except DeliveryError Schema × Session σ :=
  match s.schema with
  | some schema => (.ok schema, s)
  | none =>
    let (result, next) := d.fetch server s.server
    (result, { schema := result.toOption, server := next })

/-- Whether the database can be fetched. -/
def test (d : Database) (server : Http.Server σ) (s : Session σ) : Bool × Session σ :=
  let (result, next) := d.fetch server s.server
  (result.isOk, { s with server := next })

/-- Adds the page of an item. -/
def deliver (d : Database) (server : Http.Server σ) (i : Item) (s : Session σ) :
    Except DeliveryError Unit × Session σ :=
  let (schema, s) := d.schema server s
  match schema.bind fun schema => pageProperties schema i with
  | .error e => (.error e, s)
  | .ok properties =>
    let (answer, next) := Http.exchange server serviceName (d.pageRequest properties) s.server
    (answer.map fun _ => (), { s with server := next })

end Database

end MarkerScan.Notion
