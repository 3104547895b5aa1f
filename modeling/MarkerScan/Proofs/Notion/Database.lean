import MarkerScan.Notion.Database
import MarkerScan.Proofs.Http.Url
import MarkerScan.Proofs.Notion.Page
/-
  MarkerScan.Proofs.Notion.Database — the schema that a database keeps, over whole runs.

  A run is a list of calls. Each call finds a schema kept or none, exchanges requests and
  replies with the service, returns, and leaves a schema kept or none (`Does`, with one case
  for each way through a call). What is kept is the schema that the calls before have
  fetched first, other than tests of the connection (`firstFetched`): a call that finds one
  sends no request for it, and one that finds none asks for it and keeps it if the service
  answers with success and with a text that holds a schema (`fetched?`). Any other reply is
  an error that says why there is no schema (`NoSchema`).

  A request can only be made for a URL that something can be sent to, and with a key that
  can stand in a header (`AsksSchema`, `AddsPage`). With the service's own base every
  request can be made if the key is such a one.

  Proved, over every list of calls and every server:
  - `follows_of_trace`: by induction on the calls, each call follows the ones before it
    (`Entry.Follows`).
  - `schema_fetched_once`: together with what a test of the connection looks at.
-/

namespace MarkerScan.Notion.Database

inductive Call where
  | schema
  | deliver (i : Item)
  | test

inductive Answer where
  | schema (r : Except DeliveryError Schema)
  | delivered (r : Except DeliveryError Unit)
  | tested (ok : Bool)

/-- The error that is returned. -/
def Answer.error? : Answer → Option DeliveryError
  | .schema (.error e) => some e
  | .delivered (.error e) => some e
  | _ => none

/-! ## Requests -/

/-- What the headers of a request say beside the key can stand in a header. -/
theorem headers_plain_iff {d : Database} :
    (∀ h ∈ d.headers, ∀ c ∈ h.2.toList, Http.HeaderChar c) ↔ ∀ c ∈ d.key.toList, Http.HeaderChar c := by
  have bearer : ∀ c ∈ "Bearer ".toList, Http.HeaderChar c := Http.headerChars_iff.mp (by decide +kernel)
  have version : ∀ c ∈ Notion.version.toList, Http.HeaderChar c := Http.headerChars_iff.mp (by decide +kernel)
  simp only [headers, List.forall_mem_cons, String.toList_append, List.forall_mem_append, List.not_mem_nil,
    false_imp_iff, implies_true, and_true]
  exact ⟨fun h => h.1.2, fun h => ⟨⟨bearer, h⟩, version⟩⟩

section
variable [Http.HostNames] {d : Database} {properties : Json} {r r' : Http.Request}

/-- The request for the schema of a database. -/
structure AsksSchema (d : Database) (r : Http.Request) : Prop where
  url : Http.Url.parse? (d.base ++ "/databases/" ++ d.id).toList = some r.url
  sendable : r.url.Sendable
  key : ∀ c ∈ d.key.toList, Http.HeaderChar c
  method : r.method = .get
  headers : r.headers = [("authorization", "Bearer " ++ d.key), ("notion-version", "2022-06-28")]
  body : r.body = none

/-- The request that adds a page with these properties. -/
structure AddsPage (d : Database) (properties : Json) (r : Http.Request) : Prop where
  url : Http.Url.parse? (d.base ++ "/pages").toList = some r.url
  sendable : r.url.Sendable
  key : ∀ c ∈ d.key.toList, Http.HeaderChar c
  method : r.method = .post
  headers : r.headers = [("authorization", "Bearer " ++ d.key), ("notion-version", "2022-06-28"),
    ("content-type", "application/json")]
  body : r.body = some (.object [("parent", .object [("database_id", .string d.id)]), ("properties", properties)])

theorem schemaRequest_eq_ok_iff : d.schemaRequest = .ok r ↔ d.AsksSchema r := by
  unfold schemaRequest
  rw [Http.Request.build_eq_ok_iff, headers_plain_iff]
  constructor
  · intro ⟨hurl, sendable, hkey, hmethod, hheaders, hbody⟩
    exact ⟨hurl, sendable, hkey, hmethod, hheaders, hbody⟩
  · intro h
    exact ⟨h.url, h.sendable, h.key, h.method, h.headers, h.body⟩

theorem pageRequest_eq_ok_iff : d.pageRequest properties = .ok r ↔ d.AddsPage properties r := by
  have json : ∀ c ∈ "application/json".toList, Http.HeaderChar c := Http.headerChars_iff.mp (by decide +kernel)
  have plain : (∀ h ∈ d.headers ++ [("content-type", "application/json")], ∀ c ∈ h.2.toList, Http.HeaderChar c) ↔
      ∀ c ∈ d.key.toList, Http.HeaderChar c := by
    rw [List.forall_mem_append, headers_plain_iff, List.forall_mem_singleton]
    exact and_iff_left json
  unfold pageRequest
  rw [Http.Request.build_eq_ok_iff, plain]
  constructor
  · intro ⟨hurl, sendable, hkey, hmethod, hheaders, hbody⟩
    exact ⟨hurl, sendable, hkey, hmethod, hheaders, hbody⟩
  · intro h
    exact ⟨h.url, h.sendable, h.key, h.method, h.headers, h.body⟩

theorem AsksSchema.unique (h : d.AsksSchema r) (h' : d.AsksSchema r') : r = r' :=
  Except.ok.inj ((schemaRequest_eq_ok_iff.mpr h).symm.trans (schemaRequest_eq_ok_iff.mpr h'))

theorem exists_sendable_standard (rest : String) :
    ∃ u, Http.Url.parse? (standardBase ++ "/" ++ rest).toList = some u ∧ u.Sendable := by
  have text : (standardBase ++ "/" ++ rest).toList =
      "https://".toList ++ "api.notion.com".toList ++ '/' :: ("v1/".toList ++ rest.toList) := by
    simp [standardBase]
  rw [text]
  exact Http.Url.exists_sendable_https (by decide +kernel) (by decide +kernel) rfl _

/-- With the base of the service itself every request can be made, unless the key has a control. -/
theorem exists_requests_standard (hbase : d.base = standardBase) :
    ((∃ r, d.AsksSchema r) ↔ ∀ c ∈ d.key.toList, Http.HeaderChar c) ∧
      ∀ properties, (∃ r, d.AddsPage properties r) ↔ ∀ c ∈ d.key.toList, Http.HeaderChar c := by
  constructor
  · obtain ⟨u, hu, sendable⟩ := exists_sendable_standard ("databases/" ++ d.id)
    have hu : Http.Url.parse? (d.base ++ "/databases/" ++ d.id).toList = some u := by
      rw [hbase, ← hu]
      simp
    exact ⟨fun ⟨r, h⟩ => h.key, fun hkey => ⟨⟨.get, u, _, _⟩, hu, sendable, hkey, rfl, rfl, rfl⟩⟩
  · intro properties
    obtain ⟨u, hu, sendable⟩ := exists_sendable_standard "pages"
    have hu : Http.Url.parse? (d.base ++ "/pages").toList = some u := by
      rw [hbase, ← hu]
      simp
    exact ⟨fun ⟨r, h⟩ => h.key, fun hkey => ⟨⟨.post, u, _, _⟩, hu, sendable, hkey, rfl, rfl, rfl⟩⟩

end

/-! ## Replies -/

/-- The schema that an exchange fetches: a `GET` that was answered with success and with a text that holds one. -/
def fetched? (x : Http.Exchange) : Option Schema :=
  match x.request.method, x.reply with
  | .get, .answered code (.ok text) => if 200 ≤ code ∧ code < 300 then Schema.ofText? text else none
  | _, _ => none

/-- A reply without a schema, and the error for it. -/
inductive NoSchema : Http.Reply → DeliveryError → Prop
  | failed {reply : Http.Reply} {e : DeliveryError} : reply.Fails "Notion" e → NoSchema reply e
  | unreadable {code : Nat} (reason : String) : 200 ≤ code → code < 300 →
      NoSchema (.answered code (.error reason)) (.permanent ("unexpected Notion database response: " ++ reason))
  | undecodable {code : Nat} {text : List Char} : 200 ≤ code → code < 300 → Schema.ofText? text = none →
      NoSchema (.answered code (.ok text))
        (.permanent "unexpected Notion database response: error decoding response body")

theorem fetched?_eq_none_of_fails {x : Http.Exchange} {e : DeliveryError} (h : x.reply.Fails "Notion" e) :
    fetched? x = none := by
  obtain ⟨r, reply⟩ := x
  unfold fetched?
  split
  case h_1 code text hmethod hreply =>
    have hreply : reply = .answered code (.ok text) := hreply
    subst hreply
    exact if_neg fun accepted => Http.Reply.not_fails (r := .answered code (.ok text)) accepted h
  case h_2 => rfl

theorem schemaOf_result {r : Http.Request} (hr : r.method = .get) (reply : Http.Reply) :
    (∃ schema, fetched? ⟨r, reply⟩ = some schema ∧ (reply.result serviceName).bind schemaOf = .ok schema) ∨
      ∃ e, fetched? ⟨r, reply⟩ = none ∧ NoSchema reply e ∧ (reply.result serviceName).bind schemaOf = .error e := by
  rcases reply.result_spec serviceName with ⟨code, body, rfl, accepted, h⟩ | ⟨e, fails, h⟩
  · have accepted : 200 ≤ code ∧ code < 300 := accepted
    rw [h]
    unfold fetched?
    rw [hr]
    cases body with
    | error reason => exact .inr ⟨_, rfl, .unreadable reason accepted.1 accepted.2, rfl⟩
    | ok text =>
      have answered : (if 200 ≤ code ∧ code < 300 then Schema.ofText? text else none) = Schema.ofText? text :=
        if_pos accepted
      cases ht : Schema.ofText? text with
      | none =>
        exact .inr ⟨_, answered.trans ht, .undecodable accepted.1 accepted.2 ht, by simp only [Except.bind, schemaOf, ht]; rfl⟩
      | some schema => exact .inl ⟨schema, answered.trans ht, by simp only [Except.bind, schemaOf, ht]⟩
  · rw [h]
    exact .inr ⟨e, fetched?_eq_none_of_fails fails, .failed fails, rfl⟩

theorem fetched?_of_post {x : Http.Exchange} (h : x.request.method = .post) : fetched? x = none := by
  unfold fetched?
  rw [h]

/-! ## Histories -/

/-- A call of a run: what it exchanged and returned, and the schema that was kept before it and after it. -/
structure Entry where
  call : Call
  sent : List Http.Exchange
  answer : Answer
  before : Option Schema
  after : Option Schema

/-- The schema that a call fetches; a test of the connection does not fetch any for the others. -/
def Entry.fetched? (e : Entry) : Option Schema :=
  match e.call with
  | .test => none
  | _ => e.sent.findSome? Database.fetched?

/-- The schema that was fetched first. -/
def firstFetched (history : List Entry) : Option Schema := history.findSome? Entry.fetched?

theorem firstFetched_concat (earlier : List Entry) (e : Entry) :
    firstFetched (earlier ++ [e]) = (firstFetched earlier).or e.fetched? := by
  simp only [firstFetched, List.findSome?_append, List.findSome?_cons, List.findSome?_nil]
  cases e.fetched? <;> rfl

/-! ## One call -/

theorem exists_title {schema : Schema} {i : Item} {properties : Json}
    (h : pageProperties schema i = .ok properties) : ∃ q ∈ schema.properties, q.2.kind = "title" := by
  unfold pageProperties at h
  split at h
  · cases h
  · rename_i q p ht
    exact ⟨(q, p), mem_of_ofKind? ht⟩

section
variable [Http.HostNames] {σ : Type} {d : Database} {server : Http.Server σ}

def call (d : Database) (server : Http.Server σ) (c : Call) (s : Session σ) : Answer × Session σ :=
  match c with
  | .schema => let (r, s) := d.schema server s; (.schema r, s)
  | .deliver i => let (r, s) := d.deliver server i s; (.delivered r, s)
  | .test => let (ok, s) := d.test server s; (.tested ok, s)

/-- Looking for the schema when this one is kept, or none: what is exchanged, and the schema or why there is none. -/
inductive Looks (d : Database) : Option Schema → List Http.Exchange → Except DeliveryError Schema → Prop
  | kept (schema : Schema) : Looks d (some schema) [] (.ok schema)
  | unmade {e : DeliveryError} : d.schemaRequest = .error e → Looks d none [] (.error e)
  | fetched {r : Http.Request} {reply : Http.Reply} {schema : Schema} : d.AsksSchema r →
      fetched? ⟨r, reply⟩ = some schema → Looks d none [⟨r, reply⟩] (.ok schema)
  | failed {r : Http.Request} {reply : Http.Reply} {e : DeliveryError} : d.AsksSchema r →
      fetched? ⟨r, reply⟩ = none → NoSchema reply e → Looks d none [⟨r, reply⟩] (.error e)

/-- What a call does when this schema is kept, or none: what it exchanges and returns, and what is kept then. -/
inductive Does (d : Database) : Option Schema → Call → List Http.Exchange → Answer → Option Schema → Prop
  | schema {kept : Option Schema} {sent : List Http.Exchange} {found : Except DeliveryError Schema} :
      Looks d kept sent found → Does d kept .schema sent (.schema found) found.toOption
  /-- There is no schema, or it has no title, or the request for the page cannot be made. -/
  | unposted {kept : Option Schema} {sent : List Http.Exchange} {found : Except DeliveryError Schema} {i : Item}
      {e : DeliveryError} : Looks d kept sent found →
      ((found.bind fun schema => pageProperties schema i).bind d.pageRequest) = .error e →
      Does d kept (.deliver i) sent (.delivered (.error e)) found.toOption
  | posted {kept : Option Schema} {sent : List Http.Exchange} {schema : Schema} {i : Item} {properties : Json}
      {r : Http.Request} (reply : Http.Reply) : Looks d kept sent (.ok schema) →
      pageProperties schema i = .ok properties → d.AddsPage properties r →
      Does d kept (.deliver i) (sent ++ [⟨r, reply⟩])
        (.delivered ((reply.result serviceName).map fun _ => ())) (some schema)
  | test (kept : Option Schema) {sent : List Http.Exchange} {found : Except DeliveryError Schema} :
      Looks d none sent found → Does d kept .test sent (.tested found.isOk) kept

theorem fetch_looks (d : Database) (server : Http.Server σ) (s : σ × List Http.Exchange) :
    ∃ sent, Looks d none sent (d.fetch server.logged s).1 ∧ (d.fetch server.logged s).2.2 = s.2 ++ sent := by
  obtain ⟨sent, sends, hlog⟩ := Http.exchange_sends server serviceName d.schemaRequest s
  unfold fetch
  generalize Http.exchange server.logged serviceName d.schemaRequest s = made at *
  obtain ⟨result, t⟩ := made
  refine ⟨sent, ?_, hlog⟩
  generalize hr : d.schemaRequest = request at *
  cases sends with
  | unmade e => exact .unmade hr
  | made r reply =>
    have asks := schemaRequest_eq_ok_iff.mp hr
    show Looks d none [⟨r, reply⟩] ((reply.result serviceName).bind schemaOf)
    rcases schemaOf_result asks.method reply with ⟨schema, hf, h⟩ | ⟨e, hf, no, h⟩
    · rw [h]
      exact .fetched asks hf
    · rw [h]
      exact .failed asks hf no

theorem schema_looks (d : Database) (server : Http.Server σ) (s : Session (σ × List Http.Exchange)) :
    ∃ sent, Looks d s.schema sent (d.schema server.logged s).1 ∧
      (d.schema server.logged s).2.server.2 = s.server.2 ++ sent ∧
      (d.schema server.logged s).2.schema = (d.schema server.logged s).1.toOption := by
  unfold schema
  cases hs : s.schema with
  | some schema => exact ⟨[], .kept schema, (List.append_nil _).symm, hs⟩
  | none =>
    obtain ⟨sent, looks, hlog⟩ := fetch_looks d server s.server
    dsimp only
    generalize d.fetch server.logged s.server = made at *
    exact ⟨sent, looks, hlog, rfl⟩

/-- One call, whatever it is. -/
theorem call_does (d : Database) (server : Http.Server σ) (c : Call) (s : Session (σ × List Http.Exchange)) :
    ∃ sent, Does d s.schema c sent (d.call server.logged c s).1 (d.call server.logged c s).2.schema ∧
      (d.call server.logged c s).2.server.2 = s.server.2 ++ sent := by
  cases c with
  | schema =>
    obtain ⟨sent, looks, hlog, hkept⟩ := schema_looks d server s
    have does := Does.schema looks
    rw [← hkept] at does
    exact ⟨sent, does, hlog⟩
  | deliver i =>
    obtain ⟨sent, looks, hlog, hkept⟩ := schema_looks d server s
    unfold call deliver
    generalize d.schema server.logged s = made at *
    obtain ⟨found, mid⟩ := made
    cases hp : found.bind fun schema => pageProperties schema i with
    | error e =>
      have does : Does d s.schema (.deliver i) sent _ _ := Does.unposted looks (congrArg (Except.bind · d.pageRequest) hp)
      rw [← hkept] at does
      simp only [hp]
      exact ⟨sent, does, hlog⟩
    | ok properties =>
      obtain ⟨more, sends, hmore⟩ := Http.exchange_sends server serviceName (d.pageRequest properties) mid.server
      simp only [hp]
      generalize Http.exchange server.logged serviceName (d.pageRequest properties) mid.server = last at *
      obtain ⟨result, t⟩ := last
      generalize hr : d.pageRequest properties = request at *
      cases sends with
      | unmade e =>
        have does : Does d s.schema (.deliver i) sent _ _ := Does.unposted looks (by rw [hp]; exact hr)
        rw [← hkept] at does
        exact ⟨sent, does, by rw [hmore, hlog, List.append_nil]⟩
      | made r reply =>
        cases found with
        | error e => cases hp
        | ok schema =>
          have does := Does.posted reply looks hp (pageRequest_eq_ok_iff.mp hr)
          refine ⟨sent ++ [⟨r, reply⟩], ?_, by rw [hmore, hlog, List.append_assoc]⟩
          rw [hkept]
          exact does
  | test =>
    obtain ⟨sent, looks, hlog⟩ := fetch_looks d server s.server
    unfold call test
    dsimp only
    generalize d.fetch server.logged s.server = made at *
    exact ⟨sent, .test s.schema looks, hlog⟩

/-! ## Runs -/

/-- The calls of a run, one after the other. -/
def trace (d : Database) (server : Http.Server σ) : List Call → Session σ → List Entry
  | [], _ => []
  | c :: calls, s =>
    let (answer, next) := d.call server.logged c ⟨s.schema, (s.server, [])⟩
    ⟨c, next.server.2, answer, s.schema, next.schema⟩ :: trace d server calls ⟨next.schema, next.server.1⟩

/-- What holds of a call with these ones before it. -/
structure Entry.Follows (d : Database) (earlier : List Entry) (e : Entry) : Prop where
  before : e.before = firstFetched earlier
  after : e.after = firstFetched (earlier ++ [e])
  stays : ∀ schema, e.before = some schema → e.after = some schema
  /-- A schema that was fetched is not asked for again. -/
  kept : e.call ≠ .test → firstFetched earlier ≠ none → ∀ x ∈ e.sent, x.request.method = .post
  /-- Otherwise it is asked for once, before anything else. -/
  asks : e.call ≠ .test → firstFetched earlier = none → ∀ r, d.AsksSchema r →
    ∃ reply pages, e.sent = ⟨r, reply⟩ :: pages ∧ ∀ x ∈ pages, x.request.method = .post
  unasked : e.call ≠ .test → firstFetched earlier = none → (∀ r, ¬ d.AsksSchema r) →
    e.sent = [] ∧ e.after = none ∧ ∃ reason, e.answer.error? = some (.permanent reason)
  /-- Why it was not fetched is returned, and then no page is sent and no schema kept. -/
  fails : e.call ≠ .test → ∀ x ∈ e.sent, x.request.method = .get → Database.fetched? x = none →
    e.sent = [x] ∧ e.after = none ∧ ∃ err, NoSchema x.reply err ∧ e.answer.error? = some err
  returns : ∀ schema, e.call = .schema → e.after = some schema → e.answer = .schema (.ok schema)
  /-- A page has the properties that the schema fetched first asks for, which has a title. What is returned is
      what the service says to it. -/
  pages : ∀ x ∈ e.sent, x.request.method = .post → ∃ i schema properties, e.call = .deliver i ∧
    firstFetched (earlier ++ [e]) = some schema ∧ (∃ q ∈ schema.properties, q.2.kind = "title") ∧
    pageProperties schema i = .ok properties ∧ d.AddsPage properties x.request ∧
    (x.reply.Accepted → e.answer = .delivered (.ok ())) ∧
    ∀ err, x.reply.Fails "Notion" err → e.answer = .delivered (.error err)
  /-- A page that the schema allows for is sent if that can be done. -/
  sends : ∀ i schema properties r, e.call = .deliver i → firstFetched (earlier ++ [e]) = some schema →
    pageProperties schema i = .ok properties → d.AddsPage properties r → ∃ reply, ⟨r, reply⟩ ∈ e.sent
  onePage : e.sent.countP (·.request.method = .post) ≤ 1
  /-- A test of the connection asks for the schema once, whatever is kept, and keeps nothing. -/
  tests : e.call = .test → e.after = e.before ∧
    (∀ r, d.AsksSchema r → ∃ reply, e.sent = [⟨r, reply⟩] ∧ e.answer = .tested (Database.fetched? ⟨r, reply⟩).isSome) ∧
    ((∀ r, ¬ d.AsksSchema r) → e.sent = [] ∧ e.answer = .tested false)

section
variable {kept next : Option Schema} {c : Call} {sent : List Http.Exchange} {answer : Answer}
  {found : Except DeliveryError Schema} {r : Http.Request}

theorem Looks.keeps (h : Looks d kept sent found) : found.toOption = kept.or (sent.findSome? Database.fetched?) := by
  cases h with
  | kept schema => rfl
  | unmade => rfl
  | fetched _ hf => simp [hf, Except.toOption]
  | failed _ hf => simp [hf, Except.toOption]

theorem Looks.gets (h : Looks d kept sent found) : ∀ x ∈ sent, x.request.method = .get := by
  cases h with
  | kept schema => exact fun x hx => absurd hx List.not_mem_nil
  | unmade => exact fun x hx => absurd hx List.not_mem_nil
  | fetched asks => exact List.forall_mem_singleton.mpr asks.method
  | failed asks => exact List.forall_mem_singleton.mpr asks.method

theorem Looks.nothing {schema : Schema} (h : Looks d (some schema) sent found) : sent = [] := by
  cases h with
  | kept => rfl

theorem Looks.asks (h : Looks d none sent found) (hr : d.AsksSchema r) :
    ∃ reply, sent = [⟨r, reply⟩] ∧ found.isOk = (Database.fetched? ⟨r, reply⟩).isSome := by
  cases h with
  | unmade he => cases he.symm.trans (schemaRequest_eq_ok_iff.mpr hr)
  | @fetched _ reply schema asks hf =>
    obtain rfl := asks.unique hr
    exact ⟨reply, rfl, by rw [hf]; rfl⟩
  | @failed _ reply e asks hf =>
    obtain rfl := asks.unique hr
    exact ⟨reply, rfl, by rw [hf]; rfl⟩

theorem Looks.unasked (h : Looks d none sent found) (hr : ∀ r, ¬ d.AsksSchema r) :
    sent = [] ∧ ∃ reason, found = .error (.permanent reason) := by
  cases h with
  | unmade he =>
    obtain ⟨reason, rfl⟩ := Http.Request.permanent_of_build he
    exact ⟨rfl, reason, rfl⟩
  | fetched asks => exact absurd asks (hr _)
  | failed asks => exact absurd asks (hr _)

/-- A schema that was asked for in vain is not there. -/
theorem Looks.fails (h : Looks d kept sent found) {x : Http.Exchange} (hx : x ∈ sent) (hf : Database.fetched? x = none) :
    sent = [x] ∧ ∃ e, NoSchema x.reply e ∧ found = .error e := by
  cases h with
  | kept => cases hx
  | unmade => cases hx
  | fetched _ hsome =>
    obtain rfl := List.mem_singleton.mp hx
    cases hf.symm.trans hsome
  | failed _ _ no =>
    obtain rfl := List.mem_singleton.mp hx
    exact ⟨rfl, _, no, rfl⟩

/-- Before anything else a call looks for the schema, and what it finds is kept; without one it does nothing more. -/
theorem Does.looks (h : Does d kept c sent answer next) (hc : c ≠ .test) :
    ∃ asked pages found, sent = asked ++ pages ∧ Looks d kept asked found ∧ next = found.toOption ∧
      (pages.length ≤ 1 ∧ ∀ x ∈ pages, x.request.method = .post) ∧
      ∀ e, found = .error e → pages = [] ∧ answer.error? = some e := by
  cases h with
  | schema looks =>
    refine ⟨sent, [], _, (List.append_nil _).symm, looks, rfl, ⟨Nat.zero_le 1, fun x hx => absurd hx List.not_mem_nil⟩,
      fun e he => ⟨rfl, by rw [he]; rfl⟩⟩
  | unposted looks he =>
    refine ⟨sent, [], _, (List.append_nil _).symm, looks, rfl, ⟨Nat.zero_le 1, fun x hx => absurd hx List.not_mem_nil⟩,
      fun e' he' => ⟨rfl, ?_⟩⟩
    rw [he'] at he
    exact congrArg some (Except.error.inj he).symm
  | @posted sent schema i properties r reply looks _ adds =>
    exact ⟨sent, [⟨r, reply⟩], _, rfl, looks, rfl, ⟨Nat.le_refl 1, List.forall_mem_singleton.mpr adds.method⟩,
      fun e he => by cases he⟩
  | test _ => exact absurd rfl hc

/-- What is kept after a call is what was kept before it, or else what it fetched. -/
theorem Does.after_eq (h : Does d kept c sent answer next) :
    next = kept.or (Entry.fetched? ⟨c, sent, answer, kept, next⟩) := by
  by_cases hc : c = .test
  · subst hc
    cases h with
    | test => exact (Option.or_none ..).symm
  · obtain ⟨asked, pages, found, rfl, looks, rfl, ⟨-, hpages⟩, -⟩ := h.looks hc
    have none : pages.findSome? Database.fetched? = none :=
      List.findSome?_eq_none_iff.mpr fun x hx => fetched?_of_post (hpages x hx)
    have fetched : Entry.fetched? ⟨c, asked ++ pages, answer, kept, found.toOption⟩ =
        asked.findSome? Database.fetched? := by
      cases c with
      | test => exact absurd rfl hc
      | _ => simp only [Entry.fetched?, List.findSome?_append, none, Option.or_none]
    rw [fetched]
    exact looks.keeps

/-- A page is made with the schema that is kept then. -/
theorem Does.pages (h : Does d kept c sent answer next) {x : Http.Exchange} (hx : x ∈ sent)
    (hpost : x.request.method = .post) :
    ∃ i schema properties, c = .deliver i ∧ next = some schema ∧ pageProperties schema i = .ok properties ∧
      d.AddsPage properties x.request ∧ answer = .delivered ((x.reply.result serviceName).map fun _ => ()) := by
  have none_of : ∀ {kept sent found}, Looks d kept sent found → x ∉ sent := fun looks hx => by
    cases (looks.gets x hx).symm.trans hpost
  cases h with
  | schema looks => exact absurd hx (none_of looks)
  | unposted looks => exact absurd hx (none_of looks)
  | posted reply looks hp adds =>
    rcases List.mem_append.mp hx with hx | hx
    · exact absurd hx (none_of looks)
    · obtain rfl := List.mem_singleton.mp hx
      exact ⟨_, _, _, rfl, rfl, hp, adds, rfl⟩
  | test looks => exact absurd hx (none_of looks)

theorem Does.sends {i : Item} (h : Does d kept (.deliver i) sent answer next) {schema : Schema} {properties : Json}
    (hs : next = some schema) (hp : pageProperties schema i = .ok properties) (hr : d.AddsPage properties r) :
    ∃ reply, ⟨r, reply⟩ ∈ sent := by
  cases h with
  | @unposted _ found _ _ looks he =>
    cases found with
    | error e => cases hs
    | ok schema =>
      obtain rfl := Option.some.inj hs
      have he : (pageProperties schema i).bind d.pageRequest = .error _ := he
      rw [hp] at he
      cases (pageRequest_eq_ok_iff.mpr hr).symm.trans he
  | posted reply looks hp' adds =>
    obtain rfl := Option.some.inj hs
    obtain rfl := Except.ok.inj (hp'.symm.trans hp)
    have same := (pageRequest_eq_ok_iff.mpr adds).symm.trans (pageRequest_eq_ok_iff.mpr hr)
    rw [Except.ok.inj same]
    exact ⟨reply, List.mem_append_right _ (List.mem_singleton_self _)⟩

theorem Does.onePage (h : Does d kept c sent answer next) : sent.countP (·.request.method = .post) ≤ 1 := by
  have none_of : ∀ {kept sent found}, Looks d kept sent found → sent.countP (·.request.method = .post) = 0 :=
    fun looks => List.countP_eq_zero.mpr fun x hx => by simp [looks.gets x hx]
  by_cases hc : c = .test
  · subst hc
    cases h with
    | test looks => exact (none_of looks).le.trans (Nat.zero_le 1)
  · obtain ⟨asked, pages, found, rfl, looks, -, ⟨hone, -⟩, -⟩ := h.looks hc
    rw [List.countP_append, none_of looks, Nat.zero_add]
    exact List.countP_le_length.trans hone

/-- What one call does follows the calls before it when what is kept comes from them. -/
theorem Does.follows {earlier : List Entry} (h : Does d kept c sent answer next) (hk : kept = firstFetched earlier) :
    Entry.Follows d earlier ⟨c, sent, answer, kept, next⟩ := by
  have after : next = firstFetched (earlier ++ [⟨c, sent, answer, kept, next⟩]) := by
    rw [firstFetched_concat, ← hk]
    exact h.after_eq
  refine ⟨hk, after, fun schema hs => ?_, fun hc hsome x hx => ?_, fun hc hnone r hr => ?_, fun hc hnone hr => ?_,
    fun hc x hx hget hf => ?_, fun schema hc hs => ?_, fun x hx hpost => ?_, fun i schema properties r hc hs hp hr => ?_,
    h.onePage, fun hc => ?_⟩
  · have hs : kept = some schema := hs
    show next = some schema
    rw [h.after_eq, hs, Option.some_or]
  · obtain ⟨asked, pages, found, rfl, looks, -, ⟨-, hpages⟩, -⟩ := h.looks hc
    obtain ⟨schema, hsome⟩ := Option.ne_none_iff_exists'.mp (hk ▸ hsome)
    subst hsome
    rw [looks.nothing, List.nil_append] at hx
    exact hpages x hx
  · obtain ⟨asked, pages, found, rfl, looks, -, ⟨-, hpages⟩, -⟩ := h.looks hc
    rw [hk, hnone] at looks
    obtain ⟨reply, rfl, -⟩ := looks.asks hr
    exact ⟨reply, pages, rfl, hpages⟩
  · obtain ⟨asked, pages, found, rfl, looks, rfl, -, hfound⟩ := h.looks hc
    rw [hk, hnone] at looks
    obtain ⟨rfl, reason, rfl⟩ := looks.unasked hr
    obtain ⟨rfl, herror⟩ := hfound _ rfl
    exact ⟨rfl, rfl, reason, herror⟩
  · obtain ⟨asked, pages, found, rfl, looks, rfl, ⟨-, hpages⟩, hfound⟩ := h.looks hc
    rcases List.mem_append.mp hx with hx | hx
    · obtain ⟨rfl, e, no, rfl⟩ := looks.fails hx hf
      obtain ⟨rfl, herror⟩ := hfound _ rfl
      exact ⟨rfl, rfl, e, no, herror⟩
    · cases hget.symm.trans (hpages x hx)
  · obtain rfl : c = .schema := hc
    cases h with
    | @schema _ found looks =>
      cases found with
      | error e => cases hs
      | ok schema' => rw [Option.some.inj hs]
  · obtain ⟨i, schema, properties, hc, hs, hp, adds, hanswer⟩ := h.pages hx hpost
    refine ⟨i, schema, properties, hc, after.symm.trans hs, exists_title hp, hp, adds, fun accepted => ?_,
      fun err fails => ?_⟩
    · obtain ⟨body, hbody⟩ := Http.Reply.isOk_result_iff.mpr accepted
      rw [hbody] at hanswer
      exact hanswer
    · have fails : x.reply.Fails serviceName err := fails
      rw [Http.Reply.result_eq_error_iff.mpr fails] at hanswer
      exact hanswer
  · obtain rfl : c = .deliver i := hc
    exact h.sends (after.trans hs) hp hr
  · obtain rfl : c = .test := hc
    cases h with
    | test looks =>
      refine ⟨rfl, fun r hr => ?_, fun hr => ?_⟩
      · obtain ⟨reply, rfl, hok⟩ := looks.asks hr
        exact ⟨reply, rfl, congrArg Answer.tested hok⟩
      · obtain ⟨rfl, reason, rfl⟩ := looks.unasked hr
        exact ⟨rfl, rfl⟩

end

/-- From what one call does, what all of them do: each finds kept what the ones before it have left. -/
theorem follows_of_trace (d : Database) (server : Http.Server σ) (calls : List Call) (s : Session σ)
    (earlier : List Entry) (hs : s.schema = firstFetched earlier) :
    ∀ front e back, trace d server calls s = front ++ e :: back → Entry.Follows d (earlier ++ front) e := by
  induction calls generalizing s earlier with
  | nil =>
    intro front e back h
    simp [trace] at h
  | cons c calls ih =>
    intro front e back h
    obtain ⟨sent, does, hlog⟩ := call_does d server c ⟨s.schema, (s.server, [])⟩
    unfold trace at h
    generalize d.call server.logged c ⟨s.schema, (s.server, [])⟩ = made at *
    obtain ⟨answer, next⟩ := made
    obtain rfl : next.server.2 = sent := hlog
    have follows := does.follows hs
    cases front with
    | nil =>
      obtain ⟨rfl, -⟩ := List.cons.inj h
      rw [List.append_nil]
      exact follows
    | cons first front =>
      obtain ⟨rfl, hrest⟩ := List.cons.inj h
      have := ih ⟨next.schema, next.server.1⟩ _ follows.after front e back hrest
      rwa [List.append_assoc] at this

theorem map_call_trace (d : Database) (server : Http.Server σ) (calls : List Call) (s : Session σ) :
    (trace d server calls s).map Entry.call = calls := by
  induction calls generalizing s with
  | nil => rfl
  | cons c calls ih =>
    unfold trace
    exact congrArg (c :: ·) (ih _)

/-- A test does not look at the schema that is kept. -/
theorem test_eq (d : Database) (server : Http.Server σ) (kept : Option Schema) (s : σ) :
    d.test server ⟨kept, s⟩ = ((d.fetch server s).1.isOk, ⟨kept, (d.fetch server s).2⟩) := by
  rw [test]

end

/-- Whatever is asked of a database and whatever the service replies, the calls follow each other: a call that needs
    the schema asks for it once as long as no call before has fetched it, fails as that fails, and what was fetched
    first is kept and makes every page. A test of the connection asks once too, and neither keeps anything nor looks at
    what is kept. With the base of the service itself every request can be made, unless the key has a control. -/
theorem schema_fetched_once [Http.HostNames] {σ : Type} (d : Database) (server : Http.Server σ) (calls : List Call)
    (s : σ) :
    let history := trace d server calls ⟨none, s⟩
    history.map Entry.call = calls ∧
    (∀ earlier e later, history = earlier ++ e :: later → Entry.Follows d earlier e) ∧
    (∀ kept kept' : Option Schema,
      (d.test server ⟨kept, s⟩).1 = (d.test server ⟨kept', s⟩).1 ∧
      (d.test server ⟨kept, s⟩).2.server = (d.test server ⟨kept', s⟩).2.server) ∧
    (d.base = "https://api.notion.com/v1" →
      ((∃ r, d.AsksSchema r) ↔ ∀ c ∈ d.key.toList, (32 ≤ c.toNat ∨ c = '\t') ∧ c.toNat ≠ 127) ∧
      ∀ properties, (∃ r, d.AddsPage properties r) ↔ ∀ c ∈ d.key.toList, (32 ≤ c.toNat ∨ c = '\t') ∧ c.toNat ≠ 127) := by
  intro history
  refine ⟨map_call_trace d server calls _, fun earlier e later h => ?_, fun kept kept' => ?_,
    fun hbase => exists_requests_standard hbase⟩
  · have follows := follows_of_trace d server calls ⟨none, s⟩ [] rfl earlier e later h
    rwa [List.nil_append] at follows
  · simp only [test_eq, and_self]

/-- The connection breaks, then the service is down, then it answers with something else, and only then with a schema;
    the page is made with that one, though the test of the connection has seen another. -/
theorem schema_fetched_once_outage :
    let d : Database := ⟨"https://api.notion.com/v1", "key", "db"⟩
    let i : Item := ⟨"src/a.rs", 7, "[TODO] x", none, none, none⟩
    let calls : List Call := [.schema, .deliver i, .schema, .test, .schema, .deliver i, .deliver i]
    let history := trace d Http.scripted calls ⟨none,
      [.failed { text := "error sending request", underway := true, causes := [none, some .reset] },
        .answered 503 (.ok []), .answered 200 (.ok "<html>".toList), .answered 200 (.ok "\x7b\x7d".toList),
        .answered 200 (.ok "\x7b\"properties\":\x7b\"Name\":\x7b\"type\":\"title\"\x7d\x7d\x7d".toList),
        .answered 200 (.ok []), .answered 400 (.ok [])]⟩
    history.map (fun e => e.sent.map fun x => (x.request.method, x.request.url.text)) =
      [[(.get, "https://api.notion.com/v1/databases/db")], [(.get, "https://api.notion.com/v1/databases/db")],
        [(.get, "https://api.notion.com/v1/databases/db")], [(.get, "https://api.notion.com/v1/databases/db")],
        [(.get, "https://api.notion.com/v1/databases/db")], [(.post, "https://api.notion.com/v1/pages")],
        [(.post, "https://api.notion.com/v1/pages")]] ∧
    history.map (·.answer.error?) =
      [some (.transient "error sending request"), some (.transient "Notion returned 503 Service Unavailable"),
        some (.permanent "unexpected Notion database response: error decoding response body"), none, none, none,
        some (.permanent "Notion returned 400 Bad Request")] ∧
    history.map (fun e => e.after.map Schema.properties) =
      [none, none, none, none, some [("Name", ⟨"title", none, none⟩)], some [("Name", ⟨"title", none, none⟩)],
        some [("Name", ⟨"title", none, none⟩)]] ∧
    ∀ e ∈ history, ∀ x ∈ e.sent, x.request.method = .post → x.request.body =
      some (.object [("parent", .object [("database_id", .string "db")]),
        ("properties", .object
          [("Name", .object [("title", .array [.object [("text", .object [("content", .string "[TODO] x")])]])])])]) := by
  intro d i calls history
  have kept : history.map (fun e => e.after.map Schema.properties) =
      [none, none, none, none, some [("Name", ⟨"title", none, none⟩)], some [("Name", ⟨"title", none, none⟩)],
        some [("Name", ⟨"title", none, none⟩)]] := by decide +kernel
  refine ⟨by decide +kernel, by decide +kernel, kept, fun e he x hx hpost => ?_⟩
  obtain ⟨hcalls, follows, -⟩ := schema_fetched_once d Http.scripted calls _
  obtain ⟨earlier, later, hall⟩ := List.append_of_mem he
  have follows := follows earlier e later hall
  obtain ⟨i', schema, properties, hcall, hfirst, -, hp, adds, -⟩ := follows.pages x hx hpost
  have same : i' = i := by
    have : e.call ∈ calls := hcalls ▸ List.mem_map_of_mem he
    rw [hcall] at this
    simpa [calls] using this
  have named : schema.properties = [("Name", ⟨"title", none, none⟩)] := by
    have : e.after.map Schema.properties ∈ history.map (fun e => e.after.map Schema.properties) := List.mem_map_of_mem he
    rw [kept, follows.after, hfirst] at this
    simpa using this
  obtain ⟨_, ordered⟩ := schema
  obtain rfl := named
  rw [same] at hp
  obtain rfl := Except.ok.inj hp
  exact adds.body

end MarkerScan.Notion.Database
