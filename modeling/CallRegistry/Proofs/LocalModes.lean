import CallRegistry.Proofs.Shutdown

/-!
# Local modes and credentials

In memory and behind a local endpoint nothing is done with the credentials of the
production table, whatever the settings say about tokens: the refresher has no
address, so its cycles ask for nothing and write nothing.  The placeholder keys go
with an endpoint, and in production neither is given to a client.
-/

namespace CallRegistry

open File (Tree)
open Http (Delivery Script)
open Token (Entry Loop Refresher TokenSource)

namespace Token.Refresher

variable {r : Refresher} {l : Loop} {interval : ℕ}

theorem send_of_no_url (hurl : r.source.url = none) (isOpen : Bool) :
    r.source.send isOpen = none := by
  rw [TokenSource.send, hurl, Option.map_none]

/-- A cycle without an address is over at once. -/
theorem step_of_no_url (hpause : r.pause = .lasting interval)
    (hurl : r.source.url = none) {due : ℕ} (hphase : l.phase = .resting due)
    (script : Script) (now : ℕ) :
    let next : Loop := { l with phase := .resting (now + interval) }
    r.step script now l =
      (next, r.entries now next ([.cycleFinished 0].map .logged)) := by
  simp only [step, hphase, wake, send_of_no_url hurl, rest_of_lasting hpause,
    pauseLength, hpause]
  rfl

end Token.Refresher

namespace Application

variable {a : Application} {r : Refresher} {s : Settings} {script : Script}
  {replies : List Reply} {t : Tree} {maker : ClientMaker} {limit interval : ℕ}
  {es : List Entry} {l last : Loop}

/-- Without an address a refresher asks for nothing and writes nothing, and rests
again. -/
theorem idle_of_goes (hpause : r.pause = .lasting interval)
    (hurl : r.source.url = none) (hgoes : r.Goes script limit l es last)
    (hresting : ∃ wake, l.phase = .resting wake) :
    requestsOf es = [] ∧ last.tree = l.tree ∧
      ∃ wake, last.phase = .resting wake := by
  induction hgoes with
  | stop hdue => exact ⟨rfl, rfl, hresting⟩
  | @step l last now es hdue hlt hgoes ih =>
      obtain ⟨wake, hphase⟩ := hresting
      have hstep := Refresher.step_of_no_url hpause hurl hphase script now
      rw [hstep] at ih ⊢
      obtain ⟨hsilent, hlast⟩ := ih ⟨_, rfl⟩
      refine ⟨?_, hlast⟩
      rw [requestsOf_append, requestsOf_entries, hsilent]
      rfl

/-- An application whose refresher has no address asks for nothing after its launch,
and writes nothing, and so it does after its shutdown. -/
theorem idle_after_launch
    (hlaunched : (launch s script replies t maker).application = some a)
    (hurl : a.refresher.source.url = none) (os later : List Occasion) :
    (a.after os).tokenRequests = a.tokenRequests ∧
      (a.after os).loop.tree = a.loop.tree ∧
      ((a.after os).stop.1.after later).tokenRequests = a.tokenRequests ∧
      ((a.after os).stop.1.after later).loop.tree = a.loop.tree := by
  obtain ⟨es, hcarries⟩ := carries_after_launch hlaunched os
  obtain ⟨hsilent, htree, wake, hphase⟩ := idle_of_goes
    (pause_of_launched hlaunched) hurl hcarries.goes
    ⟨_, phase_of_launched hlaunched⟩
  have hrequests : (a.after os).tokenRequests = a.tokenRequests := by
    rw [hcarries.requests_eq, hsilent, List.append_nil]
  obtain ⟨hrequests', -, htree'⟩ := still_after_stop hlaunched hcarries later
  rw [treeLeft_of_idle (by simp [hphase])] at htree'
  exact ⟨hrequests, htree, hrequests'.trans hrequests, htree'.trans htree⟩

end Application

namespace Settings

variable {s : Settings} {first : Delivery} {t : Tree} {maker : ClientMaker}
  {services : Services}

theorem deployment_of_mock (hmock : s.storageMockMode = true) :
    s.deployment = .inMemory := by
  simp [deployment, hmock]

theorem deployment_of_endpoint {url : String}
    (hmock : s.storageMockMode = false) (hendpoint : s.storageEndpoint = some url)
    (hne : url ≠ "") : s.deployment = .endpoint url := by
  simp [deployment, hmock, hendpoint, hne]

/-- The settings ask for the store in memory, or for a local service. -/
def IsLocal (s : Settings) : Prop :=
  s.storageMockMode = true ∨ ∃ url, s.storageEndpoint = some url ∧ url ≠ ""

theorem IsLocal.endpoint (h : s.IsLocal) (hmock : s.storageMockMode = false) :
    ∃ url, s.storageEndpoint = some url ∧ url ≠ "" ∧
      s.deployment = .endpoint url := by
  rcases h with hmock' | ⟨url, hendpoint, hne⟩
  · rw [hmock] at hmock'
    cases hmock'
  · exact ⟨url, hendpoint, hne, deployment_of_endpoint hmock hendpoint hne⟩

theorem IsLocal.deployment_ne (h : s.IsLocal) : s.deployment ≠ .production := by
  cases hmock : s.storageMockMode with
  | true => simp [deployment_of_mock hmock]
  | false =>
      obtain ⟨url, -, -, hdeployment⟩ := h.endpoint hmock
      simp [hdeployment]

theorem tableClient_of_endpoint {url : String} (hne : url ≠ "") :
    (s.tableClient (some url)).endpoint = some (.text url) ∧
      (s.tableClient (some url)).keys = some ("DUMMY_KEY", "DUMMY_PASSWORD") := by
  have hgiven : (Datum.text url).isVoid = false := by
    simpa [Datum.isVoid] using hne
  have hendpoint : (s.tableClient (some url)).endpoint = some (.text url) := by
    simp [tableClient, Datum.ofText?, hgiven]
  refine ⟨hendpoint, ?_⟩
  rw [TableClient.keys, hendpoint]
  rfl

theorem tableClient_of_production :
    (s.tableClient none).endpoint = none ∧
      (s.tableClient none).keys = none := ⟨rfl, rfl⟩

/-- However a startup in production ends, its clients are those of the production
table. -/
theorem tableClients_of_production (hdeployment : s.deployment = .production) :
    ∀ client ∈ (s.start first t maker).tableClients,
      client = s.tableClient none := by
  have hstarts := s.starts_start first t maker
  generalize s.start first t maker = result at hstarts ⊢
  intro client hmem
  cases hstarts with
  | refused => cases hmem
  | memory => cases hmem
  | endpoint hendpoint =>
      rw [hdeployment] at hendpoint
      cases hendpoint
  | @production file =>
      have hcontinues := s.continues_startProduction file first t maker
      obtain ⟨-, -, -, hacts⟩ :=
        hcontinues.of_tableClients (List.ne_nil_of_mem hmem)
      rw [Startup.tableClients, hacts] at hmem
      simpa [begun] using hmem

/-- What a startup in a local mode has come to. -/
theorem Provides.of_local {result : Startup}
    (h : s.Provides first t result services) (hlocal : s.IsLocal) :
    services.refresher = s.refresher noTokens ∧ result.requests = [] ∧
      result.tree = t ∧
      (s.storageMockMode = true → result.tableClients = []) ∧
      (s.storageMockMode = false → ∃ url, s.storageEndpoint = some url ∧
        url ≠ "" ∧ result.tableClients = [s.tableClient (some url)]) := by
  cases h with
  | memory hdeployment hclients hrequests htree =>
      refine ⟨rfl, hrequests, htree, fun _ => hclients, fun hmock => ?_⟩
      obtain ⟨url, -, -, hendpoint⟩ := hlocal.endpoint hmock
      rw [hendpoint] at hdeployment
      cases hdeployment
  | @endpoint url hdeployment hclients hrequests htree =>
      refine ⟨rfl, hrequests, htree, fun hmock => ?_, fun hmock => ?_⟩
      · rw [deployment_of_mock hmock] at hdeployment
        cases hdeployment
      · obtain ⟨url', hgiven, hne, hendpoint⟩ := hlocal.endpoint hmock
        rw [hendpoint] at hdeployment
        cases hdeployment
        exact ⟨url, hgiven, hne, hclients⟩
  | production hdeployment => exact absurd hdeployment hlocal.deployment_ne

end Settings

open Application

/-- In memory and behind a local endpoint an application asks for no token and
changes no file, from its launch to its shutdown and after it.  In memory it has made
no client of a table, behind an endpoint it has made one, for that endpoint and with
the placeholder keys.  In production no startup, successful or not, has made a client
with an endpoint or with these keys. -/
theorem local_modes_leave_credentials_alone (s : Settings) (script : Script)
    (replies : List Reply) (t : Tree) (maker : ClientMaker) :
    let launched := launch s script replies t maker
    let clients := launched.startup.tableClients
    ((s.storageMockMode = true ∨
        ∃ url, s.storageEndpoint = some url ∧ url ≠ "") →
      ∀ a, launched.application = some a →
        (∀ os later,
          (a.after os).tokenRequests = [] ∧ (a.after os).loop.tree = t ∧
          ((a.after os).stop.1.after later).tokenRequests = [] ∧
          ((a.after os).stop.1.after later).loop.tree = t) ∧
        (s.storageMockMode = true → clients = []) ∧
        (s.storageMockMode = false → ∃ url client,
          s.storageEndpoint = some url ∧ clients = [client] ∧
          client.endpoint = some (.text url) ∧
          client.keys = some ("DUMMY_KEY", "DUMMY_PASSWORD"))) ∧
    (s.storageMockMode = false →
      (∀ url, s.storageEndpoint = some url → url = "") →
      ∀ client ∈ clients, client.endpoint = none ∧ client.keys = none) := by
  intro launched clients
  constructor
  · intro hlocal a hlaunched
    obtain ⟨services, houtcome, ha⟩ := launch_eq_some_iff.mp hlaunched
    obtain ⟨hrefresher, hrequests, htree, hmemory, hendpoint⟩ :=
      (Settings.provides_start houtcome).of_local hlocal
    have hurl : a.refresher.source.url = none := by
      rw [ha, onServices, hrefresher]
      rfl
    have hunasked : a.tokenRequests = [] := by
      rw [ha, onServices, hrequests]
    have hbegun : a.loop.tree = t := by
      rw [ha, onServices, htree]
      rfl
    refine ⟨fun os later => ?_, hmemory, fun hmock => ?_⟩
    · rw [← hunasked, ← hbegun]
      exact idle_after_launch hlaunched hurl os later
    · obtain ⟨url, hgiven, hne, hclients⟩ := hendpoint hmock
      obtain ⟨hpassed, hkeys⟩ := Settings.tableClient_of_endpoint (s := s) hne
      exact ⟨url, _, hgiven, hclients, hpassed, hkeys⟩
  · intro hmock hendpoint client hmem
    have hdeployment := Settings.deployment_of_production hmock hendpoint
    rw [Settings.tableClients_of_production hdeployment client hmem]
    exact Settings.tableClient_of_production

/-- An endpoint keeps a registry from the token it has the address and the file of;
without the endpoint the first token is fetched, and the client has no keys. -/
theorem local_endpoint_beside_token :
    let s : Settings :=
      { storageEndpoint := some "http://localhost:8000"
        identityTokenUrl := some "http://md/t", tokenFile := some "/run/token" }
    let script : Script := [⟨.response ⟨200, [], [1, 2]⟩, some 250, {}⟩]
    let t := (Tree.empty []).addFile ["run", "token"] [7]
    let launched := launch s script [] t
    let produced := (launch { s with storageEndpoint := none } script [] t).startup
    (∃ a client, launched.application = some a ∧
      launched.startup.tableClients = [client] ∧
      client.endpoint = some (.text "http://localhost:8000") ∧
      client.keys = some ("DUMMY_KEY", "DUMMY_PASSWORD") ∧
      ∀ os, (a.after os).tokenRequests = [] ∧ (a.after os).loop.tree = t) ∧
    produced.requests = ["http://md/t"] ∧
    ∃ client, produced.tableClients = [client] ∧
      client.endpoint = none ∧ client.keys = none := by
  intro s script t launched produced
  have hlaunched : launched.application.isSome = true := by decide +kernel
  obtain ⟨a, ha⟩ := Option.isSome_iff_exists.mp hlaunched
  have hgiven : ∃ url, s.storageEndpoint = some url ∧ url ≠ "" :=
    ⟨_, rfl, by decide⟩
  obtain ⟨hstill, -, hendpoint⟩ :=
    (local_modes_leave_credentials_alone s script [] t .willing).1 (.inr hgiven) a ha
  obtain ⟨url, client, hurl, hclients, hpassed, hkeys⟩ := hendpoint rfl
  cases hurl
  have hrequests : produced.requests = ["http://md/t"] := by decide +kernel
  have hmade : produced.tableClients.length = 1 := by decide +kernel
  obtain ⟨made, hproduced⟩ := List.length_eq_one_iff.mp hmade
  have hmem : made ∈ produced.tableClients := by
    rw [hproduced]
    exact List.mem_singleton_self made
  have hbare := (local_modes_leave_credentials_alone
    { s with storageEndpoint := none } script [] t .willing).2 rfl
    (fun url hnone => by cases hnone) made hmem
  refine ⟨⟨a, client, ha, hclients, hpassed, hkeys, fun os => ?_⟩, hrequests,
    made, hproduced, hbare⟩
  obtain ⟨hnone, htree, -⟩ := hstill os []
  exact ⟨hnone, htree⟩

end CallRegistry
