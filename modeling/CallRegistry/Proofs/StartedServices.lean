import CallRegistry.Proofs.FirstToken

/-!
# The services of a startup that succeeds

Where the records are kept decides which services a startup comes to.  Only in
production does the refresher have an address, and only there has a token been
fetched by then.  The application that is launched on the services begins with
them and with the requests of the startup.
-/

namespace CallRegistry

open File (Path Tree)
open Http (Delivery)
open Token (TokenSource)

namespace Settings

variable {s : Settings} {first : Delivery} {t : Tree} {maker : ClientMaker}
  {services : Services}

/-- The services that a startup has come to, and what it did for them. -/
inductive Provides (s : Settings) (first : Delivery) (t : Tree)
    (result : Startup) : Services → Prop where
  | memory (hdeployment : s.deployment = .inMemory)
      (hclients : result.tableClients = []) (hrequests : result.requests = [])
      (htree : result.tree = t) :
      Provides s first t result ⟨.memory .empty, s.refresher noTokens⟩
  | endpoint {url : String} (hdeployment : s.deployment = .endpoint url)
      (hclients : result.tableClients = [s.tableClient (some url)])
      (hrequests : result.requests = []) (htree : result.tree = t) :
      Provides s first t result
        ⟨.table (s.tableConfig (some url)), s.refresher noTokens⟩
  | production {file : String} (hdeployment : s.deployment = .production)
      (hfile : s.tokenFile = some file) (hne : file ≠ "")
      (hclients : result.tableClients = [s.tableClient none])
      (hdone : ((⟨s.identityTokenUrl, .ofText file⟩ : TokenSource).fetch true
        first.outcome t first.writing.mishap).ending = .done) :
      Provides s first t result
        ⟨.table (s.tableConfig none),
          s.refresher ⟨s.identityTokenUrl, .ofText file⟩⟩

theorem openStore_memory (before : List Act) (refresher : Token.Refresher)
    (t : Tree) :
    openStore before refresher (.ok OpenedStore.memory) t =
      { outcome := some (.ok ⟨.memory .empty, refresher⟩)
        acts := before ++ [.logged .memoryOpened]
        tree := t } := rfl

/-- A store in a table that is opened has made one client. -/
theorem openStore_table {before : List Act} {refresher : Token.Refresher}
    {endpoint : Option String}
    (h : (openStore before refresher
      (OpenedStore.table (s.tableConfig endpoint) maker) t).outcome =
        some (.ok services)) :
    services = ⟨.table (s.tableConfig endpoint), refresher⟩ ∧
      openStore before refresher
          (OpenedStore.table (s.tableConfig endpoint) maker) t =
        { outcome := some (.ok services)
          acts := before ++ [.logged (s.tableConfig endpoint).chosen,
            .tableClientMade (s.tableClient endpoint),
            .logged (s.tableConfig endpoint).opened]
          tree := t } := by
  rcases s.table_tableConfig maker endpoint with
    ⟨-, hopened⟩ | ⟨-, refused, hopened⟩
  · rw [hopened] at h ⊢
    cases h
    exact ⟨rfl, rfl⟩
  · rw [hopened] at h
    cases h

theorem provides_of_startProduction {file : String}
    (hdeployment : s.deployment = .production)
    (hfile : s.tokenFile = some file) (hne : file ≠ "")
    (h : (s.startProduction file first t maker).outcome = some (.ok services)) :
    s.Provides first t (s.startProduction file first t maker) services := by
  have hcontinues := s.continues_startProduction file first t maker
  generalize s.startProduction file first t maker = result at h hcontinues ⊢
  cases hcontinues with
  | waits => cases h
  | opens harrived hdone =>
      obtain ⟨rfl, hopened⟩ := openStore_table h
      rw [hopened]
      refine .production hdeployment hfile hne ?_ hdone
      simp [Startup.tableClients, begun]
  | fails => cases h
  | breaks => cases h

/-- Every startup that succeeds provides its services. -/
theorem provides_start (h : (s.start first t maker).outcome = some (.ok services)) :
    s.Provides first t (s.start first t maker) services := by
  unfold start at h ⊢
  dsimp only at h ⊢
  split at h
  · cases h
  · next hinterval =>
      rw [if_neg hinterval]
      cases hdeployment : s.deployment with
      | inMemory =>
          rw [hdeployment] at h
          dsimp only at h ⊢
          rw [openStore_memory] at h ⊢
          cases h
          exact .memory hdeployment rfl rfl rfl
      | endpoint url =>
          rw [hdeployment] at h
          dsimp only at h ⊢
          obtain ⟨rfl, hopened⟩ := openStore_table h
          rw [hopened]
          exact .endpoint hdeployment rfl rfl rfl
      | production =>
          rw [hdeployment] at h
          dsimp only at h ⊢
          cases hfile : s.tokenFile with
          | none =>
              rw [hfile] at h
              cases h
          | some file =>
              rw [hfile] at h
              dsimp only at h ⊢
              split at h
              · cases h
              · next hne =>
                  rw [if_neg hne]
                  exact provides_of_startProduction hdeployment hfile hne h

end Settings

namespace Application

variable {s : Settings} {script : Http.Script} {replies : List Reply}
  {t : Tree} {maker : ClientMaker} {a : Application}

/-- The application that is launched on its services. -/
def onServices (s : Settings) (script : Http.Script) (replies : List Reply)
    (startup : Startup) (services : Services) : Application where
  settings := s
  store := services.store
  replies
  tableRequests := []
  refresher := services.refresher
  loop := services.refresher.start 0 startup.requests.length startup.tree
  returned := false
  clientOpen := true
  script
  tokenRequests := startup.requests
  now := 0

/-- An application is launched exactly if its startup succeeds. -/
theorem launch_eq_some_iff :
    (launch s script replies t maker).application = some a ↔
      ∃ services,
        (s.start (script.delivery 0) t maker).outcome = some (.ok services) ∧
        a = onServices s script replies (s.start (script.delivery 0) t maker)
          services := by
  unfold launch
  dsimp only
  split
  · next houtcome => simp [houtcome]
  · next fault houtcome => simp [houtcome]
  · next services houtcome =>
      rw [houtcome]
      constructor
      · intro h
        cases h
        exact ⟨services, rfl, rfl⟩
      · rintro ⟨services', hservices, rfl⟩
        cases hservices
        rfl

end Application

end CallRegistry
