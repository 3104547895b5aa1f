import MarkerScan.Proofs.Http.Url
import MarkerScan.Slack.Webhook
/-
  MarkerScan.Proofs.Slack.Webhook — what is posted of a digest.

  The messages of a digest are posted round by round: a round is one message with what the
  service replied to each of its tries, as many as the policy asks for (`Round.Tried`). A
  round whose last reply accepts the message makes place for the next one, and a round that
  ends with any other reply is the last one (`Rounds`).

  A message can only be posted to a URL that something can be sent to
  (`request_eq_ok_iff`), which every URL of the service is (`exists_sendable_hooks`); for any
  other URL nothing is posted at all.

  Proved, over every list of items, every policy and every server:
  - `postAll_rounds`: by induction on the messages, posting them makes such rounds.
  - `sendDigest_rounds`: what the rounds of a digest are, and what is returned.
-/

namespace MarkerScan.Slack.Webhook

/-! ## Rounds -/

/-- One message that is posted, and the replies to its tries, the first one first. -/
structure Round where
  chunk : List Json
  replies : List Http.Reply

/-- The policy asks for so many tries: all but the last one fail in a way that may pass, and so does the last one only
    if no other is allowed. -/
structure Round.Tried (policy : RetryPolicy) (r : Round) : Prop where
  pos : 1 ≤ r.replies.length
  le : r.replies.length ≤ max 1 policy.maxAttempts.toNat
  before : ∀ reply ∈ r.replies.dropLast, reply.Passing
  last : ∀ reply, r.replies.getLast? = some reply → reply.Passing → r.replies.length = max 1 policy.maxAttempts.toNat

/-- The message was taken in the end. -/
def Round.Accepted (r : Round) : Prop := ∃ reply, r.replies.getLast? = some reply ∧ reply.Accepted

/-- The rounds of messages that are posted one after the other, and what comes of them. -/
inductive Rounds (policy : RetryPolicy) : List (List Json) → List Round → Except DeliveryError Unit → Prop
  | done : Rounds policy [] [] (.ok ())
  | accepted {r : Round} {chunks : List (List Json)} {rest : List Round} {result : Except DeliveryError Unit} :
      r.Tried policy → r.Accepted → Rounds policy chunks rest result →
      Rounds policy (r.chunk :: chunks) (r :: rest) result
  | givenUp {r : Round} {reply : Http.Reply} {e : DeliveryError} (chunks : List (List Json)) : r.Tried policy →
      r.replies.getLast? = some reply → reply.Fails "Slack" e → Rounds policy (r.chunk :: chunks) [r] (.error e)

namespace Rounds

variable {policy : RetryPolicy} {chunks : List (List Json)} {rounds : List Round} {result : Except DeliveryError Unit}

theorem not_accepted {r : Round} {reply : Http.Reply} {e : DeliveryError} (hl : r.replies.getLast? = some reply)
    (fails : reply.Fails "Slack" e) : ¬ r.Accepted := by
  rintro ⟨reply', hl', accepted⟩
  obtain rfl := Option.some.inj (hl.symm.trans hl')
  exact Http.Reply.not_fails accepted fails

/-- The messages are taken in order, and none is left out or taken twice. -/
theorem inOrder (h : Rounds policy chunks rounds result) : rounds.map Round.chunk <+: chunks := by
  induction h with
  | done => exact List.prefix_rfl
  | accepted _ _ _ ih => exact (List.prefix_cons_inj _).mpr ih
  | givenUp chunks => exact (List.prefix_cons_inj _).mpr (List.nil_prefix)

theorem tried (h : Rounds policy chunks rounds result) : ∀ r ∈ rounds, r.Tried policy := by
  induction h with
  | done => exact fun r hr => absurd hr List.not_mem_nil
  | accepted ht _ _ ih => exact List.forall_mem_cons.mpr ⟨ht, ih⟩
  | givenUp chunks ht => exact List.forall_mem_singleton.mpr ht

/-- A message comes after one that was taken. -/
theorem before_next (h : Rounds policy chunks rounds result) : ∀ r ∈ rounds.dropLast, r.Accepted := by
  induction h with
  | done => exact fun r hr => absurd hr List.not_mem_nil
  | @accepted first chunks rest result _ ha _ ih =>
    cases rest with
    | nil => exact fun r hr => absurd hr List.not_mem_nil
    | cons next rest => exact List.forall_mem_cons.mpr ⟨ha, ih⟩
  | givenUp chunks => exact fun r hr => absurd hr List.not_mem_nil

theorem ok_iff (h : Rounds policy chunks rounds result) :
    result = .ok () ↔ rounds.map Round.chunk = chunks ∧ ∀ r ∈ rounds, r.Accepted := by
  induction h with
  | done => exact iff_of_true rfl ⟨rfl, fun r hr => absurd hr List.not_mem_nil⟩
  | accepted _ ha _ ih =>
    rw [ih, List.map_cons, List.cons_inj_right, List.forall_mem_cons]
    exact and_congr_right fun _ => (and_iff_right ha).symm
  | givenUp chunks _ hl fails =>
    exact iff_of_false (fun h => by cases h) fun h =>
      not_accepted hl fails (h.2 _ (List.mem_singleton_self _))

theorem error_iff (h : Rounds policy chunks rounds result) (e : DeliveryError) :
    result = .error e ↔
      ∃ r reply, rounds.getLast? = some r ∧ r.replies.getLast? = some reply ∧ reply.Fails "Slack" e := by
  induction h with
  | done =>
    refine iff_of_false (fun h => by cases h) ?_
    rintro ⟨r, reply, hr, -⟩
    cases hr
  | @accepted first chunks rest result _ ha _ ih =>
    rw [ih]
    cases rest with
    | nil =>
      refine iff_of_false ?_ ?_
      · rintro ⟨r, reply, hr, -⟩
        cases hr
      · rintro ⟨r, reply, hr, hl, fails⟩
        obtain rfl := Option.some.inj hr
        exact not_accepted hl fails ha
    | cons next rest => rw [List.getLast?_cons_cons]
  | @givenUp r reply e' chunks _ hl fails =>
    constructor
    · intro he
      obtain rfl := Except.error.inj he
      exact ⟨r, reply, rfl, hl, fails⟩
    · rintro ⟨r', reply', hr, hl', fails'⟩
      obtain rfl := Option.some.inj hr
      obtain rfl := Option.some.inj (hl.symm.trans hl')
      have same := (Http.Reply.result_eq_error_iff.mpr fails).symm.trans (Http.Reply.result_eq_error_iff.mpr fails')
      rw [Except.error.inj same]

end Rounds

/-! ## Posting -/

theorem passing_of_map {reply : Http.Reply} {reason : String}
    (h : ((reply.result serviceName).map fun _ => ()) = .error (.transient reason)) : reply.Passing := by
  cases hr : reply.result serviceName with
  | ok body =>
    rw [hr] at h
    cases h
  | error e =>
    rw [hr] at h
    obtain rfl := Except.error.inj h
    cases Http.Reply.result_eq_error_iff.mp hr with
    | passing hp => exact hp

section
variable [Http.HostNames] {σ : Type} {w : Webhook} {server : Http.Server σ} {policy : RetryPolicy} {request : Http.Request}
  {message : Json} {chunk : List Json} {e : DeliveryError}

theorem request_eq_ok_iff :
    w.request message = .ok request ↔ Http.Url.parse? w.url.toList = some request.url ∧ request.url.Sendable ∧
      request.method = .post ∧ request.headers = [("content-type", "application/json")] ∧
      request.body = some message := by
  have json : ∀ c ∈ "application/json".toList, Http.HeaderChar c := Http.headerChars_iff.mp (by decide +kernel)
  unfold Webhook.request
  rw [Http.Request.build_eq_ok_iff, List.forall_mem_singleton]
  exact and_congr_right fun _ => and_congr_right fun _ => and_iff_right json

theorem exists_sendable_hooks (path : String) :
    ∃ url, Http.Url.parse? ("https://hooks.slack.com/" ++ path).toList = some url ∧ url.Sendable := by
  have text : ("https://hooks.slack.com/" ++ path).toList =
      "https://".toList ++ "hooks.slack.com".toList ++ '/' :: path.toList := by
    simp
  rw [text]
  exact Http.Url.exists_sendable_https (by decide +kernel) (by decide +kernel) rfl _

theorem post_logged (hr : w.request message = .ok request) (s : σ × List Http.Exchange) :
    w.post server.logged message s =
      (((server request s.1).1.result serviceName).map fun _ => (),
        ((server request s.1).2, s.2 ++ [⟨request, (server request s.1).1⟩])) := by
  unfold post
  rw [hr]
  rfl

/-- By induction on the tries. -/
theorem log_after (hr : w.request message = .ok request) (s : σ × List Http.Exchange) (n : Nat) :
    (RetryPolicy.after (w.post server.logged message) s n).2 = s.2 ++ (List.range n).map fun k =>
      ⟨request, (server request (RetryPolicy.after (w.post server.logged message) s k).1).1⟩ := by
  induction n with
  | zero => exact (List.append_nil _).symm
  | succ n ih =>
    rw [RetryPolicy.after, post_logged hr, ih, List.range_succ, List.map_append, ← List.append_assoc]
    rfl

/-- The tries of one message are a round. -/
theorem run_post (hr : w.request (digestMessage chunk) = .ok request) (server : Http.Server σ) (policy : RetryPolicy)
    (s : σ × List Http.Exchange) :
    ∃ (round : Round) (reply : Http.Reply), round.chunk = chunk ∧ round.Tried policy ∧
      round.replies.getLast? = some reply ∧
      (policy.run (w.post server.logged (digestMessage chunk)) s).result =
        ((reply.result serviceName).map fun _ => ()) ∧
      (policy.run (w.post server.logged (digestMessage chunk)) s).state.2 =
        s.2 ++ round.replies.map fun reply => ⟨request, reply⟩ := by
  obtain ⟨tried, hresult, hstate⟩ := policy.tried_run (w.post server.logged (digestMessage chunk)) s
  generalize policy.run (w.post server.logged (digestMessage chunk)) s = run at *
  obtain ⟨k, hk⟩ : ∃ k, run.attempts = k + 1 := ⟨run.attempts - 1, by have := tried.pos; omega⟩
  let reply (n : Nat) : Http.Reply :=
    (server request (RetryPolicy.after (w.post server.logged (digestMessage chunk)) s n).1).1
  have outcome : ∀ n, RetryPolicy.outcome (w.post server.logged (digestMessage chunk)) s n =
      ((reply n).result serviceName).map fun _ => () := by
    intro n
    rw [RetryPolicy.outcome, post_logged hr]
  have hlength : ((List.range (k + 1)).map reply).length = k + 1 := by simp
  rw [hk] at tried hresult hstate
  refine ⟨⟨chunk, (List.range (k + 1)).map reply⟩, reply k, rfl, ⟨?_, ?_, ?_, ?_⟩, ?_, ?_, ?_⟩
  · exact Nat.le_trans tried.pos (Nat.le_of_eq hlength.symm)
  · exact Nat.le_trans (Nat.le_of_eq hlength) tried.le
  · intro x hx
    rw [List.range_succ, List.map_append, List.map_singleton, List.dropLast_concat] at hx
    obtain ⟨n, hn, rfl⟩ := List.mem_map.mp hx
    obtain ⟨reason, again⟩ := tried.before n (Nat.succ_lt_succ (List.mem_range.mp hn))
    exact passing_of_map ((outcome n).symm.trans again)
  · intro x hx hpass
    rw [List.range_succ, List.map_append, List.map_singleton, List.getLast?_concat] at hx
    obtain rfl := Option.some.inj hx
    have again : RetryPolicy.outcome (w.post server.logged (digestMessage chunk)) s k =
        .error (.transient ((reply k).reason serviceName)) := by
      rw [outcome, Http.Reply.result_eq_error_iff.mpr (.passing hpass)]
      rfl
    exact hlength.trans (tried.last _ again)
  · rw [List.range_succ, List.map_append, List.map_singleton, List.getLast?_concat]
  · rw [hresult]
    exact outcome k
  · rw [hstate, log_after hr, List.map_map]
    rfl

theorem postAll_rounds {url : Http.Url} (hurl : Http.Url.parse? w.url.toList = some url) (sendable : url.Sendable)
    (server : Http.Server σ) (policy : RetryPolicy) (chunks : List (List Json)) (s : σ × List Http.Exchange) :
    ∃ rounds, Rounds policy chunks rounds (w.postAll server.logged policy chunks s).1 ∧
      (w.postAll server.logged policy chunks s).2.2 = s.2 ++ rounds.flatMap fun round => round.replies.map fun reply =>
        ⟨⟨.post, url, [("content-type", "application/json")], some (digestMessage round.chunk)⟩, reply⟩ := by
  induction chunks generalizing s with
  | nil => exact ⟨[], .done, (List.append_nil _).symm⟩
  | cons chunk chunks ih =>
    have hr : w.request (digestMessage chunk) =
        .ok ⟨.post, url, [("content-type", "application/json")], some (digestMessage chunk)⟩ :=
      request_eq_ok_iff.mpr ⟨hurl, sendable, rfl, rfl, rfl⟩
    obtain ⟨round, reply, rfl, tried, hlast, hresult, hlog⟩ := run_post hr server policy s
    unfold postAll
    generalize policy.run (w.post server.logged (digestMessage round.chunk)) s = run at *
    cases hreply : reply.result serviceName with
    | error e =>
      have given : run.result = .error e := by rw [hresult, hreply]; rfl
      simp only [given]
      refine ⟨[round], .givenUp chunks tried hlast (Http.Reply.result_eq_error_iff.mp hreply), ?_⟩
      rw [List.flatMap_singleton]
      exact hlog
    | ok body =>
      have taken : run.result = .ok () := by rw [hresult, hreply]; rfl
      obtain ⟨rest, rounds, hfurther⟩ := ih run.state
      simp only [taken]
      refine ⟨round :: rest, .accepted tried ⟨reply, hlast, Http.Reply.isOk_result_iff.mp ⟨body, hreply⟩⟩ rounds, ?_⟩
      rw [hfurther, hlog, List.flatMap_cons, List.append_assoc]

/-- Nothing is posted where nothing can be sent. -/
theorem postAll_unmade (hr : w.request (digestMessage chunk) = .error e) (server : Http.Server σ) (policy : RetryPolicy)
    (chunks : List (List Json)) (s : σ) : w.postAll server policy (chunk :: chunks) s = (.error e, s) := by
  obtain ⟨reason, rfl⟩ := Http.Request.permanent_of_build hr
  have hpost : w.post server (digestMessage chunk) s = (.error (.permanent reason), s) := by
    unfold post
    rw [hr]
    rfl
  have run : policy.run (w.post server (digestMessage chunk)) s = ⟨.error (.permanent reason), 1, [], s⟩ :=
    RetryPolicy.runFrom_last hpost policy.allowed_pos rfl
  unfold postAll
  rw [run]

end

/-! ## Digests -/

theorem digestMessages_ne_nil (time : String) (items : List Item) : ∃ chunk chunks,
    digestMessages time items = chunk :: chunks :=
  ⟨_, _, rfl⟩

section
variable [Http.HostNames] {σ : Type} {items : List Item}

theorem sendDigest_eq (w : Webhook) (server : Http.Server σ) (policy : RetryPolicy) (time : String) (hi : items ≠ [])
    (s : σ) :
    w.sendDigest server policy time items s =
      ((w.postAll server policy (digestMessages time items) s).1.map fun _ => (digestMessages time items).length,
        (w.postAll server policy (digestMessages time items) s).2) := by
  rw [sendDigest, if_neg (by simpa using hi)]

/-- A digest of items fails at once where nothing can be sent. -/
theorem sendDigest_unmade {w : Webhook} (none : ∀ url, Http.Url.parse? w.url.toList = some url → ¬ url.Sendable)
    (server : Http.Server σ) (policy : RetryPolicy) (time : String) (hi : items ≠ []) (s : σ) :
    ∃ reason, w.sendDigest server policy time items s = (.error (.permanent reason), s) := by
  obtain ⟨chunk, chunks, hchunks⟩ := digestMessages_ne_nil time items
  cases hr : w.request (digestMessage chunk) with
  | ok request =>
    obtain ⟨hurl, sendable, -⟩ := request_eq_ok_iff.mp hr
    exact absurd sendable (none _ hurl)
  | error e =>
    obtain ⟨reason, rfl⟩ := Http.Request.permanent_of_build hr
    refine ⟨reason, ?_⟩
    rw [sendDigest_eq w server policy time hi, hchunks, postAll_unmade hr]
    rfl

end

/-- A digest is posted round by round to a URL that something can be sent to, and to no other. The messages of the rounds
    are the first ones of the digest, in order; each is tried as the policy asks, and only when the service took it is
    there a round for the next one. The digest is sent when there was a round for every message and each was taken;
    otherwise what is returned is the failure of the last try that was made. -/
theorem sendDigest_rounds [Http.HostNames] {σ : Type} (w : Webhook) (server : Http.Server σ) (policy : RetryPolicy)
    (time : String) (items : List Item) (s : σ) :
    let chunks := digestMessages time items
    let made := w.sendDigest server.logged policy time items (s, [])
    (items = [] → made = (.ok 0, (s, []))) ∧
    (items ≠ [] → ∀ url, Http.Url.parse? w.url.toList = some url → url.Sendable → ∃ rounds : List Round,
      made.2.2 = (rounds.flatMap fun round => round.replies.map fun reply =>
        ⟨⟨.post, url, [("content-type", "application/json")],
          some (.object [("text", .string "TODO list"), ("blocks", .array round.chunk)])⟩, reply⟩) ∧
      rounds.map Round.chunk <+: chunks ∧
      (∀ round ∈ rounds, round.Tried policy) ∧
      (∀ round ∈ rounds.dropLast, round.Accepted) ∧
      (∀ n, made.1 = .ok n ↔
        n = chunks.length ∧ rounds.map Round.chunk = chunks ∧ ∀ round ∈ rounds, round.Accepted) ∧
      ∀ e, made.1 = .error e ↔
        ∃ round reply, rounds.getLast? = some round ∧ round.replies.getLast? = some reply ∧ reply.Fails "Slack" e) ∧
    (items ≠ [] → (∀ url, Http.Url.parse? w.url.toList = some url → ¬ url.Sendable) →
      ∃ reason, made = (.error (.permanent reason), (s, []))) ∧
    ∀ path, w.url = "https://hooks.slack.com/" ++ path →
      ∃ url, Http.Url.parse? w.url.toList = some url ∧ url.Sendable := by
  intro chunks made
  refine ⟨?_, fun hi url hurl sendable => ?_, fun hi none => sendDigest_unmade none server.logged policy time hi _,
    fun path hpath => hpath ▸ exists_sendable_hooks path⟩
  · rintro rfl
    rfl
  · obtain ⟨rounds, h, hlog⟩ := postAll_rounds hurl sendable server policy chunks (s, [])
    have hmade : made = _ := sendDigest_eq w server.logged policy time hi (s, [])
    rw [hmade]
    generalize w.postAll server.logged policy (digestMessages time items) (s, []) = posted at *
    refine ⟨rounds, hlog, h.inOrder, h.tried, h.before_next, fun n => ?_, fun e => ?_⟩
    · rw [← h.ok_iff]
      cases posted.1 with
      | error e => simp [Except.map]
      | ok u => simp [Except.map, chunks, eq_comm]
    · rw [← h.error_iff]
      cases posted.1 <;> simp [Except.map]

/-- How many blocks a request posts. -/
def blocksOf (r : Http.Request) : Nat :=
  match r.body with
  | some (.object [_, (_, .array blocks)]) => blocks.length
  | _ => 0

/-- The service is down, then the connection breaks, then the first message is taken; the second one is one too many and
    then refused. -/
theorem sendDigest_rounds_refused :
    let w : Webhook := ⟨"https://hooks.slack.com/services/T"⟩
    let policy : RetryPolicy := ⟨3, .ofMillis 10⟩
    let items : List Item := (List.range 42).map fun n => ⟨"src/a.rs", n + 1, "[TODO] x", none, none, none⟩
    let broken : Http.Reply := .failed { text := "error sending request", underway := true, causes := [some .reset] }
    let made := w.sendDigest Http.scripted.logged policy "now" items
      ([.answered 503 (.ok []), broken, .answered 200 (.ok []), .answered 429 (.ok []), .answered 400 (.ok [])], [])
    (digestMessages "now" items).map List.length = [45, 1] ∧
    made.1 = .error (.permanent "Slack returned 400 Bad Request") ∧
    made.2.2.map (fun x => (x.request.method, x.request.url.text, blocksOf x.request, x.reply.reason "Slack")) =
      [(.post, "https://hooks.slack.com/services/T", 45, "Slack returned 503 Service Unavailable"),
        (.post, "https://hooks.slack.com/services/T", 45, "error sending request"),
        (.post, "https://hooks.slack.com/services/T", 45, "Slack returned 200 OK"),
        (.post, "https://hooks.slack.com/services/T", 1, "Slack returned 429 Too Many Requests"),
        (.post, "https://hooks.slack.com/services/T", 1, "Slack returned 400 Bad Request")] ∧
    ∃ rounds : List Round, rounds.map Round.chunk <+: digestMessages "now" items ∧
      (∀ round ∈ rounds, round.Tried policy) ∧
      ∃ round reply, rounds.getLast? = some round ∧ round.replies.getLast? = some reply ∧
        reply.Fails "Slack" (.permanent "Slack returned 400 Bad Request") := by
  intro w policy items broken made
  have refused : made.1 = .error (.permanent "Slack returned 400 Bad Request") := by decide +kernel
  obtain ⟨-, rounds, -, sendable⟩ := sendDigest_rounds w Http.scripted policy "now" items
    [.answered 503 (.ok []), broken, .answered 200 (.ok []), .answered 429 (.ok []), .answered 400 (.ok [])]
  obtain ⟨url, hurl, sendable⟩ := sendable "services/T" rfl
  obtain ⟨rounds, -, hchunks, tried, -, -, failed⟩ := rounds (List.cons_ne_nil _ _) url hurl sendable
  exact ⟨by decide +kernel, refused, by decide +kernel, rounds, hchunks, tried, (failed _).mp refused⟩

end MarkerScan.Slack.Webhook
