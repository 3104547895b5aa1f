import MarkerScan.CommandLine.Run
import MarkerScan.Proofs.Delivery.Workers
/-
  MarkerScan.Proofs.CommandLine.Sending — delivering a batch, and the commands that do it.

  A command that delivers its items one by one tells of the batch at its end, and its code
  is 0 unless an item was given up (`code_tell`). The batch it tells of is that of one
  worker; for outcomes that are scripted this is the report of every order in which the
  workers of the settings can make their moves (`report_eq_deliverAll`).
-/

namespace MarkerScan

namespace CommandLine

variable {τ : Type} {env : Environment τ} {done : Outcome τ} {st : Settings} {found : ScanOutput}

theorem code_tell (service : String) (r : DeliveryReport) (h : done.code = 0) :
    (tell env service r done).code = 0 ↔ r.failures = [] := by
  rw [tell, DeliveryReport.isSuccess]
  cases r.failures with
  | nil => exact iff_of_true h rfl
  | cons f failures => simp [Outcome.failed]

variable [Marker.SizeLimit] [Glob.SizeLimit]

/-- What a command does with what a scan found starts with the code 0. -/
theorem withItems_eq (h : scan env st = .ok found) (go : List Item → Outcome τ → Outcome τ) :
    ∃ done : Outcome τ, done.code = 0 ∧ done.state = env.state ∧ withItems env st go = go found.items done := by
  unfold withItems
  rw [h]
  refine ⟨_, ?_, ?_, rfl⟩
  · split <;> rfl
  · split <;> rfl

theorem code_runSlack [Http.HostNames] {o : SlackOptions} {url : String} {webhook : Slack.Webhook}
    (hurl : st.delivery.slackWebhookUrl = some url) (hwebhook : Slack.Webhook.ofUrl url = .ok webhook)
    (hitem : o.perItem = true) (htest : o.test = false) (hscan : scan env st = .ok found)
    (hne : found.items ≠ []) :
    (runSlack env st o).code = 0 ↔
      (deliverAll (.ofSettings st.delivery) (webhook.deliver env.server) found.items env.state).report.failures = [] := by
  simp only [runSlack, hurl, hwebhook, htest, hitem, Bool.false_eq_true, if_false, if_true]
  obtain ⟨done, hcode, hstate, heq⟩ := withItems_eq hscan _
  rw [heq, if_neg (by simpa using hne), hstate]
  exact code_tell _ _ hcode

theorem code_runNotion [Http.HostNames] {o : NotionOptions} {key id : String} {database : Notion.Database}
    (hkey : st.delivery.notionApiKey = some key) (hid : st.delivery.notionDatabaseId = some id)
    (hdatabase : Notion.Database.ofKey key id = .ok database) (htest : o.test = false)
    (hscan : scan env st = .ok found) (hne : found.items ≠ []) :
    (runNotion env st o).code = 0 ↔
      (deliverAll (.ofSettings st.delivery) (database.deliver env.server) found.items
        ⟨none, env.state⟩).report.failures = [] := by
  simp only [runNotion, hkey, hid, hdatabase, htest, Bool.false_eq_true, if_false]
  obtain ⟨done, hcode, hstate, heq⟩ := withItems_eq hscan _
  rw [heq, if_neg (by simpa using hne), hstate]
  exact code_tell _ _ hcode

end CommandLine

namespace Deliverer

open CommandLine (Environment SlackOptions NotionOptions runCommand scan)

variable {σ : Type}

theorem report_eq_deliverAll {deliver : Item → σ → Except DeliveryError Unit × σ} {policy : RetryPolicy}
    {workers : Workers} {items : List Item} {s : σ} {script : Nat → Nat → Except DeliveryError Unit}
    (hs : Scripted (ofItems deliver) items s script) {report : DeliveryReport} {d : Desk σ}
    (h : (ofItems deliver).Delivers policy workers items s report d) :
    report = (deliverAll policy deliver items s).report := by
  obtain ⟨d', h', -⟩ := delivers_deliverAll deliver policy workers items s
  exact (accounts_of_delivers hs h).report_eq (accounts_of_delivers hs h')

/-- However many workers there are and in whatever order they make their tries, their work goes on until it is done
    and cannot go on forever. It ends with the report that the runs of the items make, each of which has the tries that
    the policy asks for and the result of the last of them. A command that has delivered its items one by one succeeds
    exactly if none is a failure in that report. -/
theorem delivers_exact [Marker.SizeLimit] [Glob.SizeLimit] [Http.HostNames] {deliver : Deliverer σ} {items : List Item}
    {s : σ} {script : Nat → Nat → Except DeliveryError Unit} (hs : deliver.Scripted items s script) (policy : RetryPolicy)
    (workers : Workers) :
    (∃ report d, deliver.Delivers policy workers items s report d) ∧
    (∀ p, ¬ p.Done → ∃ q, Pool.Step (deliver.work policy) workers.count p q) ∧
    (¬ ∃ run : Nat → Pool Parcel (Option DeliveryFailure) (Desk σ),
      ∀ n, Pool.Step (deliver.work policy) workers.count (run n) (run (n + 1))) ∧
    (∀ i, policy.Tried (script i) (policy.runScript (script i)).attempts ∧
      (policy.runScript (script i)).result = script i ((policy.runScript (script i)).attempts - 1)) ∧
    (∀ report d, deliver.Delivers policy workers items s report d → Accounts policy items script report d) ∧
    ∀ {τ : Type} (env : Environment τ) (st : Settings) (found : ScanOutput),
      scan env st = .ok found → found.items ≠ [] →
      (∀ (o : SlackOptions) url webhook, st.delivery.slackWebhookUrl = some url →
        Slack.Webhook.ofUrl url = .ok webhook → o.perItem = true → o.test = false → ∀ script,
        Scripted (ofItems (webhook.deliver env.server)) found.items env.state script → ∀ report d,
        (ofItems (webhook.deliver env.server)).Delivers (.ofSettings st.delivery) st.delivery.concurrency found.items
          env.state report d →
        ((runCommand env st (.sendSlack o)).code = 0 ↔ report.failures = [])) ∧
      ∀ (o : NotionOptions) key id database, st.delivery.notionApiKey = some key →
        st.delivery.notionDatabaseId = some id →
        Notion.Database.ofKey key id = .ok database → o.test = false → ∀ script,
        Scripted (ofItems (database.deliver env.server)) found.items ⟨none, env.state⟩ script → ∀ report d,
        (ofItems (database.deliver env.server)).Delivers (.ofSettings st.delivery) st.delivery.concurrency found.items
          ⟨none, env.state⟩ report d →
        ((runCommand env st (.sendNotion o)).code = 0 ↔ report.failures = []) := by
  refine ⟨exists_delivers deliver policy workers items s, fun p => Pool.exists_step workers.positive _, work_ends,
    fun i => policy.tried_script (script i), fun report d h => accounts_of_delivers hs h, ?_⟩
  intro τ env st found hscan hne
  constructor
  · intro o url webhook hurl hwebhook hitem htest script hs report d h
    rw [report_eq_deliverAll hs h]
    exact CommandLine.code_runSlack hurl hwebhook hitem htest hscan hne
  · intro o key id database hkey hid hdatabase htest script hs report d h
    rw [report_eq_deliverAll hs h]
    exact CommandLine.code_runNotion hkey hid hdatabase htest hscan hne

/-- What delivers follows a script: its state is the places of the items that were tried. -/
def ofScript (script : Nat → Nat → Except DeliveryError Unit) : Deliverer (List Nat) := fun i _ calls =>
  (script i (calls.count i), calls ++ [i])

theorem scripted_ofScript (items : List Item) (script : Nat → Nat → Except DeliveryError Unit) :
    (ofScript script).Scripted items [] script := by
  intro calls i item hi
  have counted : ∀ tried : List Nat,
      (calls.foldl (fun s j => (items[j]?.map fun item => (ofScript script j item s).2).getD s) tried).count i =
        tried.count i + calls.count i := by
    induction calls with
    | nil => simp
    | cons j calls ih =>
      intro tried
      rw [List.foldl_cons, ih, List.count_cons]
      cases hj : items[j]? with
      | none =>
        have : j ≠ i := by
          rintro rfl
          rw [hi] at hj
          cases hj
        simp [this]
      | some item =>
        simp [ofScript, List.count_append, List.count_singleton]
        omega
  show script i ((stateAfter (ofScript script) items [] calls).count i) = script i (calls.count i)
  rw [stateAfter, counted, List.count_nil, Nat.zero_add]

/-- The first item goes through at its second try, the second one is refused. -/
def secondRefused (i n : Nat) : Except DeliveryError Unit :=
  if i = 0 then if n = 0 then .error (.transient "busy") else .ok () else .error (.permanent "refused")

/-- What delivers without a state follows the script of what it does with each item. -/
theorem scripted_stateless (deliver : Deliverer Unit) (items : List Item) :
    deliver.Scripted items () fun i _ => ((items[i]?.map fun item => (deliver i item ()).1).getD (.ok ())) := by
  intro calls i item hi
  show _ = (items[i]?.map fun item => (deliver i item ()).1).getD (.ok ())
  rw [hi]
  rfl

/-- One file with one marker, and a server that takes every message. -/
def oneMarker : Environment Unit where
  files := ⟨.dir [("a.rs".toList, .file "// TODO: x".toUTF8)], []⟩
  settingsDirectory := []
  time := ""
  color := false
  server _ s := (.answered 200 (.ok []), s)
  state := ()

def hooked : Settings := { Settings.forRoot "/" with delivery := { slackWebhookUrl := some "http://h/" } }

/-- Two items, in any order: one is delivered after two tries, the other is refused at once. And a command that sends
    one item to a server that takes it ends well, so there is no failure in the report. -/
theorem delivers_exact_second_refused :
    let deliver := ofScript secondRefused
    let items : List Item := [⟨"a.rs", 1, "[TODO] a", none, none, none⟩, ⟨"b.rs", 2, "[TODO] b", none, none, none⟩]
    ((∃ report d, deliver.Delivers .standard .forDelivery items [] report d) ∧
      ∀ report d, deliver.Delivers .standard .forDelivery items [] report d →
        report = ⟨1, [⟨"b.rs", 2, 1, .permanent "refused"⟩]⟩ ∧ d.calls.count 0 = 2) ∧
    ∃ found webhook, scan oneMarker hooked = .ok found ∧ Slack.Webhook.ofUrl "http://h/" = .ok webhook ∧
      ∀ report d, (ofItems (webhook.deliver oneMarker.server)).Delivers .standard .forDelivery found.items () report d →
        report.failures = [] := by
  intro deliver items
  obtain ⟨possible, -, -, -, accounts, commands⟩ :=
    delivers_exact (scripted_ofScript items secondRefused) .standard .forDelivery
  refine ⟨⟨possible, fun report d h => ?_⟩, ?_⟩
  · obtain ⟨delivered, failures, -, tries, -, -⟩ := accounts report d h
    refine ⟨?_, (tries 0 (by decide)).trans (by decide)⟩
    cases report
    rw [DeliveryReport.mk.injEq]
    exact ⟨delivered.trans (by decide), failures.trans (by decide)⟩
  · have one : (scan oneMarker hooked).toOption.map (·.items.isEmpty) = some false := by decide +kernel
    cases hscan : scan oneMarker hooked with
    | error e =>
      rw [hscan] at one
      cases one
    | ok found =>
      have hne : found.items ≠ [] := by
        rw [hscan] at one
        simpa [Except.toOption] using one
      have hwebhook : Slack.Webhook.ofUrl "http://h/" = .ok ⟨"http://h/"⟩ := by decide +kernel
      have ended : (runCommand oneMarker hooked (.sendSlack { perItem := true })).code = 0 := by decide +kernel
      have succeeds := (commands oneMarker hooked found hscan hne).1 { perItem := true } _ _ rfl hwebhook rfl rfl _
        (scripted_stateless _ _)
      exact ⟨found, _, rfl, hwebhook, fun report d h => (succeeds report d h).mp ended⟩

end Deliverer

end MarkerScan
