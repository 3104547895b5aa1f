import MarkerScan.Http.Exchange
import MarkerScan.Proofs.Delivery.Retry
/-
  MarkerScan.Proofs.Http.Exchange — what becomes of a request.

  A request can be made for a URL of the web whose host holds nothing that a request
  cannot, with headers that have no control in them (`Request.build_eq_ok_iff`); one that
  cannot be made fails for good (`permanent_of_build`). The reply to a request either
  accepts it, or it is a failure that may pass, or one that stays (`Reply.Accepted`,
  `Reply.Passing`, `Reply.Fails`). These are told apart by the status code of an answer
  (`failure?_eq`), and without an answer by what is known of the failure.

  A request that can be made reaches the server once, and what comes of it is what the
  reply stands for; one that cannot be made does not reach it (`Sends`, `exchange_sends`).
-/

namespace MarkerScan.Http

variable {σ : Type} {service : String} {e : DeliveryError}

/-! ## Requests -/

/-- A character that a header can hold. -/
def HeaderChar (c : Char) : Prop := (32 ≤ c.toNat ∨ c = '\t') ∧ c.toNat ≠ 127

/-- A URL that a request can be sent to. -/
structure Url.Sendable (u : Url) : Prop where
  web : u.scheme = "http".toList ∨ u.scheme = "https".toList
  host : ∃ host, u.host = some host ∧ host ≠ [] ∧ ∀ c ∈ host, c ∉ ['"', '`', '\x7b', '\x7d']

theorem headerChars_iff {s : List Char} : s.any isHeaderBreaker = false ↔ ∀ c ∈ s, HeaderChar c := by
  simp only [List.any_eq_false, isHeaderBreaker, HeaderChar, Bool.not_eq_true, Bool.or_eq_false_iff,
    Bool.and_eq_false_iff, decide_eq_false_iff_not, Nat.not_lt, bne_eq_false_iff_eq, beq_eq_false_iff_ne]

theorem headers_iff {headers : List (String × String)} :
    (headers.any fun h => h.2.toList.any isHeaderBreaker) = false ↔ ∀ h ∈ headers, ∀ c ∈ h.2.toList, HeaderChar c := by
  simp only [← headerChars_iff, List.any_eq_false, Bool.not_eq_true]

theorem Url.sendable_iff {u : Url} :
    u.Sendable ↔ u.hasHost = true ∧ u.isWeb = true ∧ (u.host.getD []).any isRequestBreaker = false := by
  have breaker : ∀ host : List Char,
      host.any isRequestBreaker = false ↔ ∀ c ∈ host, c ∉ ['"', '`', '\x7b', '\x7d'] := by
    intro host
    simp only [List.any_eq_false, isRequestBreaker, List.contains_iff_mem]
  have web : u.isWeb = true ↔ u.scheme = "http".toList ∨ u.scheme = "https".toList := by
    simp only [Url.isWeb, Bool.or_eq_true, beq_iff_eq]
  rw [web, breaker, Url.hasHost]
  constructor
  · intro ⟨hweb, host, hhost, hsome, hplain⟩
    rw [hhost]
    exact ⟨by simpa using hsome, hweb, hplain⟩
  · intro ⟨hsome, hweb, hplain⟩
    cases hhost : u.host with
    | none =>
      rw [hhost] at hsome
      cases hsome
    | some host =>
      rw [hhost] at hsome hplain
      exact ⟨hweb, host, hhost, by simpa using hsome, hplain⟩

section
variable [HostNames] {method : Method} {url : String} {headers : List (String × String)} {body : Option Json}
  {r : Request}

theorem Request.build_eq_ok_iff :
    Request.build method url headers body = .ok r ↔
      Url.parse? url.toList = some r.url ∧ r.url.Sendable ∧ (∀ h ∈ headers, ∀ c ∈ h.2.toList, HeaderChar c) ∧
        r.method = method ∧ r.headers = headers ∧ r.body = body := by
  unfold build
  rw [← headers_iff]
  cases Url.parse? url.toList with
  | none =>
    refine iff_of_false (fun h => by cases h) ?_
    rintro ⟨hu, -⟩
    cases hu
  | some u =>
    dsimp only
    constructor
    · intro h
      split at h
      · cases h
      · split at h
        · cases h
        · split at h
          · cases h
          · rename_i hhost hheaders hrest
            obtain ⟨hweb, hplain⟩ : u.isWeb = true ∧ (u.host.getD []).any isRequestBreaker = false := by
              simpa only [Bool.or_eq_true, not_or, Bool.not_eq_true', Bool.not_eq_false, Bool.not_eq_true] using hrest
            obtain rfl := Except.ok.inj h
            exact ⟨rfl, Url.sendable_iff.mpr ⟨by simpa using hhost, hweb, hplain⟩, Bool.eq_false_iff.mpr hheaders,
              rfl, rfl, rfl⟩
    · intro ⟨hu, sendable, hheaders, hmethod, hrest, hbody⟩
      obtain rfl := Option.some.inj hu
      obtain ⟨hhost, hweb, hplain⟩ := Url.sendable_iff.mp sendable
      subst hmethod hrest hbody
      simp only [hhost, hheaders, hweb, hplain, Bool.not_true, Bool.or_false, Bool.false_eq_true, if_false]

/-- A request that cannot be made fails for good. -/
theorem Request.permanent_of_build (h : Request.build method url headers body = .error e) :
    ∃ reason, e = .permanent reason := by
  unfold build at h
  split at h
  · exact ⟨_, (Except.error.inj h).symm⟩
  · split at h
    · exact ⟨_, (Except.error.inj h).symm⟩
    · split at h
      · exact ⟨_, (Except.error.inj h).symm⟩
      · split at h
        · exact ⟨_, (Except.error.inj h).symm⟩
        · cases h

end

/-! ## Replies -/

/-- The codes from 200 to 299 are no failures, 429 and those from 500 to 599 are failures that may pass, and all others
    are failures that stay. -/
theorem failure?_eq (service : String) (code : Nat) :
    failure? service code =
      if 200 ≤ code ∧ code < 300 then none
      else if code = 429 ∨ (500 ≤ code ∧ code < 600) then
        some (.transient (service ++ " returned " ++ statusText code))
      else some (.permanent (service ++ " returned " ++ statusText code)) := by
  simp only [failure?, isSuccess, isPassing, Bool.and_eq_true, Bool.or_eq_true, decide_eq_true_eq, beq_iff_eq]
  split
  · rfl
  · split <;> rfl

namespace SendFailure

/-- The first fault of a connection that caused the failure is that the connection broke. -/
def Broken (f : SendFailure) : Prop :=
  ∃ before fault behind, f.causes = before ++ some fault :: behind ∧ (∀ c ∈ before, c = none) ∧ fault ≠ .other

theorem isBroken_iff {f : SendFailure} : f.isBroken = true ↔ f.Broken := by
  unfold isBroken Broken
  constructor
  · intro h
    cases hf : f.causes.findSome? id with
    | none =>
      rw [hf] at h
      cases h
    | some fault =>
      obtain ⟨before, c, behind, hall, hc, hbefore⟩ := List.findSome?_eq_some_iff.mp hf
      obtain rfl : c = some fault := hc
      refine ⟨before, fault, behind, hall, hbefore, ?_⟩
      rintro rfl
      rw [hf] at h
      cases h
  · rintro ⟨before, fault, behind, hall, hbefore, hfault⟩
    have found : f.causes.findSome? id = some fault :=
      List.findSome?_eq_some_iff.mpr ⟨before, some fault, behind, hall, rfl, hbefore⟩
    rw [found]
    cases fault with
    | other => exact absurd rfl hfault
    | _ => rfl

end SendFailure

namespace Reply

/-- The service took the request. -/
def Accepted : Reply → Prop
  | .answered code _ => 200 ≤ code ∧ code < 300
  | .failed _ => False

/-- The failure may pass: the service is busy or has a fault of its own, or the request took too long, found no
    connection, or lost the one it had. -/
def Passing : Reply → Prop
  | .answered code _ => code = 429 ∨ (500 ≤ code ∧ code < 600)
  | .failed f =>
    f.timedOut = true ∨ f.unconnected = true ∨
      (∃ code, f.status = some code ∧ (code = 429 ∨ (500 ≤ code ∧ code < 600))) ∨ (f.underway = true ∧ f.Broken)

/-- What is said of the failure. -/
def reason (service : String) : Reply → String
  | .answered code _ => service ++ " returned " ++ statusText code
  | .failed f => f.text

/-- The error that a reply stands for which does not accept the request. -/
inductive Fails (service : String) (r : Reply) : DeliveryError → Prop
  | passing : r.Passing → Fails service r (.transient (r.reason service))
  | lasting : ¬ r.Accepted → ¬ r.Passing → Fails service r (.permanent (r.reason service))

variable {r : Reply}

theorem not_passing (h : r.Accepted) : ¬ r.Passing := by
  cases r with
  | answered code body =>
    have h : 200 ≤ code ∧ code < 300 := h
    intro hp
    have hp : code = 429 ∨ (500 ≤ code ∧ code < 600) := hp
    omega
  | failed f => exact absurd h id

theorem not_fails (h : r.Accepted) : ¬ r.Fails service e := by
  intro hf
  cases hf with
  | passing hp => exact not_passing h hp
  | lasting hr => exact hr h

theorem result_failed (f : SendFailure) : Fails service (.failed f) f.failure := by
  have passing : (f.timedOut || f.unconnected || f.status.any isPassing) = true ↔
      f.timedOut = true ∨ f.unconnected = true ∨
        ∃ code, f.status = some code ∧ (code = 429 ∨ (500 ≤ code ∧ code < 600)) := by
    simp only [Bool.or_eq_true, Option.any_eq_true, isPassing, Bool.and_eq_true, decide_eq_true_eq, beq_iff_eq, or_assoc]
  unfold SendFailure.failure
  split
  case isTrue h =>
    rcases passing.mp h with h | h | h
    · exact .passing (.inl h)
    · exact .passing (.inr (.inl h))
    · exact .passing (.inr (.inr (.inl h)))
  case isFalse h =>
    split
    case isTrue hbroken =>
      obtain ⟨hway, hbroken⟩ := Bool.and_eq_true_iff.mp hbroken
      exact .passing (.inr (.inr (.inr ⟨hway, SendFailure.isBroken_iff.mp hbroken⟩)))
    case isFalse hbroken =>
      refine .lasting id ?_
      rintro (h' | h' | h' | ⟨hway, h'⟩)
      · exact h (passing.mpr (.inl h'))
      · exact h (passing.mpr (.inr (.inl h')))
      · exact h (passing.mpr (.inr (.inr h')))
      · exact hbroken (Bool.and_eq_true_iff.mpr ⟨hway, SendFailure.isBroken_iff.mpr h'⟩)

/-- A reply accepts a request and gives the body of the answer, or it stands for an error. -/
theorem result_spec (service : String) (r : Reply) :
    (∃ code body, r = .answered code body ∧ r.Accepted ∧ r.result service = .ok body) ∨
      ∃ e, r.Fails service e ∧ r.result service = .error e := by
  cases r with
  | failed f => exact .inr ⟨f.failure, result_failed f, rfl⟩
  | answered code body =>
    by_cases hok : 200 ≤ code ∧ code < 300
    · exact .inl ⟨code, body, rfl, hok, by simp only [result, failure?_eq, if_pos hok]⟩
    · by_cases hpass : code = 429 ∨ (500 ≤ code ∧ code < 600)
      · exact .inr ⟨_, .passing hpass, by simp only [result, failure?_eq, if_neg hok, if_pos hpass]; rfl⟩
      · exact .inr ⟨_, .lasting hok hpass, by simp only [result, failure?_eq, if_neg hok, if_neg hpass]; rfl⟩

theorem result_eq_error_iff : r.result service = .error e ↔ r.Fails service e := by
  rcases result_spec service r with ⟨code, body, rfl, hr, h⟩ | ⟨e', hf, h⟩
  · rw [h]
    exact iff_of_false (fun h => by cases h) (not_fails hr)
  · rw [h]
    constructor
    · intro same
      exact Except.error.inj same ▸ hf
    · intro hf'
      cases hf with
      | passing hp =>
        cases hf' with
        | passing => rfl
        | lasting _ hp' => exact absurd hp hp'
      | lasting hr hp =>
        cases hf' with
        | passing hp' => exact absurd hp' hp
        | lasting => rfl

theorem isOk_result_iff : (∃ body, r.result service = .ok body) ↔ r.Accepted := by
  rcases result_spec service r with ⟨code, body, -, hr, h⟩ | ⟨e, hf, h⟩
  · exact iff_of_true ⟨body, h⟩ hr
  · rw [h]
    refine iff_of_false ?_ fun hr => not_fails hr hf
    rintro ⟨body, hb⟩
    cases hb

end Reply

/-! ## Exchanges -/

/-- The exchanges that a request leads to, and what comes of it. -/
inductive Sends (service : String) : Except DeliveryError Request → List Exchange → Except DeliveryError Body → Prop
  | unmade (e : DeliveryError) : Sends service (.error e) [] (.error e)
  | made (request : Request) (reply : Reply) : Sends service (.ok request) [⟨request, reply⟩] (reply.result service)

theorem exchange_sends (server : Server σ) (service : String) (request : Except DeliveryError Request)
    (s : σ × List Exchange) :
    ∃ sent, Sends service request sent (exchange server.logged service request s).1 ∧
      (exchange server.logged service request s).2.2 = s.2 ++ sent := by
  cases request with
  | error e => exact ⟨[], .unmade e, (List.append_nil _).symm⟩
  | ok request => exact ⟨[⟨request, (server request s.1).1⟩], .made request _, rfl⟩

/-- A server that has its replies written down, and is gone after the last one. -/
def scripted : Server (List Reply) := fun _ replies =>
  (replies.headD (.failed { text := "error sending request", unconnected := true }), replies.tail)

end MarkerScan.Http
