import Mathlib.Tactic
import CallRegistry.Proofs.RefreshCycles
import CallRegistry.Startup

/-!
# What becomes of the web client of a startup

A startup makes one web client at most, and every way out of it is followed here:
the acts of a startup are those of its fetch and of its store, between which the
client is closed or is not.  It is closed when the first fetch fails.  It is left
open when the fetch is interrupted, and when a store is refused after it.
-/

namespace CallRegistry

open File (Tree)
open Http (Delivery)
open Token (TokenSource Fetched)

/-! ## Acts and web clients -/

namespace Startup

variable {acts rest : List Act}

/-- The acts leave web clients alone. -/
def Plain (acts : List Act) : Prop :=
  .webClientOpened ∉ acts ∧ .webClientClosed ∉ acts

theorem Plain.append (h : Plain acts) (h' : Plain rest) :
    Plain (acts ++ rest) := by
  simp [Plain, h.1, h.2, h'.1, h'.2]

theorem plain_logged (events : List Event) : Plain (events.map .logged) := by
  simp [Plain]

theorem plain_requested (urls : List String) : Plain (urls.map .requested) := by
  simp [Plain]

theorem closings_of_notMem (h : Act.webClientOpened ∉ acts) :
    closings acts = [] := by
  induction acts with
  | nil => rfl
  | cons act rest ih =>
      have hrest : closings rest = [] := ih (List.not_mem_of_not_mem_cons h)
      cases act with
      | webClientOpened => exact absurd List.mem_cons_self h
      | webClientClosed => exact hrest
      | requested url => exact hrest
      | tableClientMade client => exact hrest
      | logged event => exact hrest

theorem closings_opened (h : Act.webClientOpened ∉ rest) :
    closings (.webClientOpened :: rest) = [rest.contains .webClientClosed] := by
  rw [closings, closings_of_notMem h]

theorem closings_open (h : Plain rest) :
    closings (.webClientOpened :: rest) = [false] := by
  rw [closings_opened h.1, List.contains_eq_mem, decide_eq_false h.2]

theorem closings_closed (h : Plain rest) :
    closings (.webClientOpened :: (rest ++ [.webClientClosed])) = [true] := by
  have hopened : Act.webClientOpened ∉ rest ++ [.webClientClosed] := by
    simp [h.1]
  rw [closings_opened hopened]
  simp

end Startup

/-- The fault that a startup ended with. -/
def Startup.fault? (s : Startup) : Option StartupFault :=
  match s.outcome with
  | some (.error fault) => some fault
  | _ => none

theorem Startup.fault?_eq_some_iff {s : Startup} {fault : StartupFault} :
    s.fault? = some fault ↔ s.outcome = some (.error fault) := by
  unfold fault?
  split
  · next fault' h => simp [h]
  · next hother =>
      constructor
      · intro h
        cases h
      · exact fun h => absurd h (hother fault)

/-- Whether each web client of a startup is closed, by the fault it ended with. -/
def StartupFault.closings : StartupFault → List Bool
  | .interval | .noTokenFile => []
  | .firstFetch _ => [true]
  | .interrupted .. | .store _ => [false]

/-! ## Every way out of a startup -/

namespace Settings

variable {s : Settings} {file : String} {first : Delivery} {t : Tree}
  {maker : ClientMaker}

/-- What has been done when the request of a fetch is under way. -/
def begun (f : Fetched) : List Act :=
  f.announced.map .logged ++ f.requests.map .requested

theorem plain_begun (f : Fetched) : Startup.Plain (begun f) :=
  (Startup.plain_logged _).append (Startup.plain_requested _)

/-- How a startup in production goes on after its fetch. -/
inductive Continues (s : Settings) (source : TokenSource) (first : Delivery)
    (t : Tree) (maker : ClientMaker) (f : Fetched) : Startup → Prop where
  /-- The delivery never arrives. -/
  | waits (hdelay : first.delay = none) (hrequests : f.requests ≠ []) :
      Continues s source first t maker f
        { outcome := none, acts := .webClientOpened :: begun f, tree := t }
  | opens (harrived : first.delay ≠ none ∨ f.requests = [])
      (hending : f.ending = .done) :
      Continues s source first t maker f
        (openStore (.webClientOpened :: (begun f ++ f.confirmed.map .logged))
          (s.refresher source) (OpenedStore.table (s.tableConfig none) maker)
          f.tree)
  | fails {fault : Token.FetchFault}
      (harrived : first.delay ≠ none ∨ f.requests = [])
      (hending : f.ending = .failed fault) :
      Continues s source first t maker f
        { outcome := some (.error (.firstFetch fault))
          acts := .webClientOpened ::
            ((begun f ++ f.confirmed.map .logged) ++ [.webClientClosed])
          tree := f.tree }
  | breaks {sort : Http.Interruption} {message : String}
      (harrived : first.delay ≠ none ∨ f.requests = [])
      (hending : f.ending = .interrupted sort message) :
      Continues s source first t maker f
        { outcome := some (.error (.interrupted sort message))
          acts := .webClientOpened :: (begun f ++ f.confirmed.map .logged)
          tree := f.tree }

theorem continues_startProduction (s : Settings) (file : String)
    (first : Delivery) (t : Tree) (maker : ClientMaker) :
    let source : TokenSource := ⟨s.identityTokenUrl, .ofText file⟩
    s.Continues source first t maker
      (source.fetch true first.outcome t first.writing.mishap)
      (s.startProduction file first t maker) := by
  intro source
  unfold startProduction
  dsimp only
  split
  · next hwaits =>
      rw [Bool.and_eq_true, Option.isNone_iff_eq_none, Bool.not_eq_true',
        List.isEmpty_eq_false_iff] at hwaits
      exact .waits hwaits.1 hwaits.2
  · next hwaits =>
      have harrived : first.delay ≠ none ∨
          (source.fetch true first.outcome t first.writing.mishap).requests =
            [] := by
        rw [Bool.and_eq_true, Option.isNone_iff_eq_none, Bool.not_eq_true',
          List.isEmpty_eq_false_iff, not_and_or, not_not] at hwaits
        exact hwaits
      split
      · next hending => exact .opens harrived hending
      · next fault hending => exact .fails harrived hending
      · next sort message hending => exact .breaks harrived hending

/-- The client that is made for the table of the settings. -/
def tableClient (s : Settings) (endpoint : Option String) : TableClient where
  region := .text s.storageRegion
  maxAttempts := .int s.storageMaxAttempts
  endpoint :=
    if (Datum.ofText? endpoint).isVoid then none else some (.ofText? endpoint)

/-- The client for a table of the settings can be made. -/
structure MakesClient (s : Settings) (maker : ClientMaker)
    (endpoint : Option String) : Prop where
  attempts : 0 ≤ s.storageMaxAttempts
  config : maker.configFault? (s.tableConfig endpoint) = none
  client : maker.clientFault? (s.tableClient endpoint) = none

/-- Which table a startup opens, if it opens one: the one behind an endpoint, or the
one in production. -/
def tableEndpoint? (s : Settings) : Option (Option String) :=
  match s.deployment with
  | .inMemory => none
  | .endpoint url => some (some url)
  | .production => some none

theorem make_tableConfig (s : Settings) (maker : ClientMaker)
    (endpoint : Option String) :
    (s.MakesClient maker endpoint ∧ maker.make (s.tableConfig endpoint) =
        .ok ((s.tableConfig endpoint).chosen, s.tableClient endpoint)) ∨
    (¬ s.MakesClient maker endpoint ∧
      ∃ refused, maker.make (s.tableConfig endpoint) = .error refused) := by
  have hclient : (s.tableConfig endpoint).client = s.tableClient endpoint := rfl
  have hfault : attemptsFault? (s.tableConfig endpoint).maxAttempts =
      if s.storageMaxAttempts < 0 then
        some (.negative (.int s.storageMaxAttempts))
      else none := rfl
  unfold ClientMaker.make ClientMaker.earlyFault?
  rw [hfault, hclient]
  by_cases hattempts : s.storageMaxAttempts < 0
  · refine .inr ⟨fun h => absurd h.attempts (Int.not_le.mpr hattempts), ?_⟩
    simp only [hattempts, if_true]
    exact ⟨_, rfl⟩
  · simp only [hattempts, if_false]
    cases hconfig : maker.configFault? (s.tableConfig endpoint) with
    | some failure =>
        exact .inr ⟨fun h => by simp [h.config] at hconfig, _, rfl⟩
    | none =>
        cases hmade : maker.clientFault? (s.tableClient endpoint) with
        | some failure =>
            exact .inr ⟨fun h => by simp [h.client] at hmade, _, rfl⟩
        | none =>
            exact .inl ⟨⟨Int.not_lt.mp hattempts, hconfig, hmade⟩, rfl⟩

/-- A table is opened exactly if its client can be made. -/
theorem table_tableConfig (s : Settings) (maker : ClientMaker)
    (endpoint : Option String) :
    (s.MakesClient maker endpoint ∧
      OpenedStore.table (s.tableConfig endpoint) maker =
        .ok
          { store := .table (s.tableConfig endpoint)
            client := some (s.tableClient endpoint)
            events := [(s.tableConfig endpoint).chosen,
              (s.tableConfig endpoint).opened] }) ∨
    (¬ s.MakesClient maker endpoint ∧ ∃ refused,
      OpenedStore.table (s.tableConfig endpoint) maker = .error refused) := by
  unfold OpenedStore.table
  rcases s.make_tableConfig maker endpoint with
    ⟨hmakes, hmade⟩ | ⟨hmakes, refused, hmade⟩
  · rw [hmade]
    exact .inl ⟨hmakes, rfl⟩
  · rw [hmade]
    exact .inr ⟨hmakes, _, rfl⟩

/-- How a startup goes, by what the settings ask for. -/
inductive Starts (s : Settings) (first : Delivery) (t : Tree)
    (maker : ClientMaker) : Startup → Prop where
  /-- Nothing is done. -/
  | refused {fault : StartupFault}
      (hfault : fault = .interval ∨ fault = .noTokenFile) :
      Starts s first t maker
        { outcome := some (.error fault), acts := [], tree := t }
  | memory : Starts s first t maker
      (openStore [.webClientOpened] (s.refresher noTokens)
        (.ok OpenedStore.memory) t)
  | endpoint {url : String} (hdeployment : s.deployment = .endpoint url) :
      Starts s first t maker
        (openStore [.webClientOpened] (s.refresher noTokens)
          (OpenedStore.table (s.tableConfig (some url)) maker) t)
  | production {file : String} (hdeployment : s.deployment = .production) :
      Starts s first t maker (s.startProduction file first t maker)

theorem starts_start (s : Settings) (first : Delivery) (t : Tree)
    (maker : ClientMaker) : s.Starts first t maker (s.start first t maker) := by
  unfold start
  dsimp only
  split
  · exact .refused (.inl rfl)
  · split
    · exact .memory
    · next url hdeployment => exact .endpoint hdeployment
    · next hdeployment =>
        split
        · split
          · exact .refused (.inr rfl)
          · exact .production hdeployment
        · exact .refused (.inr rfl)

/-! ## Failed startups -/

/-- A startup that failed, with what its fault says about the web clients and about
the cause. -/
structure FailsWith (s : Settings) (first : Delivery) (maker : ClientMaker)
    (result : Startup) (fault : StartupFault) : Prop where
  closed_eq : result.webClientsClosed = fault.closings
  interrupted : ∀ sort message, fault = .interrupted sort message →
    s.deployment = .production ∧ first.outcome = .interruption sort message
  refused : ∀ refusal, fault = .store refusal →
    ∃ endpoint, s.tableEndpoint? = some endpoint ∧ ¬ s.MakesClient maker endpoint

variable {fault : StartupFault}

theorem failsWith_openStore {before : List Act} {refresher : Token.Refresher}
    {endpoint : Option String} (hbefore : Startup.Plain before)
    (hendpoint : s.tableEndpoint? = some endpoint)
    (h : (openStore (.webClientOpened :: before) refresher
      (OpenedStore.table (s.tableConfig endpoint) maker) t).outcome =
        some (.error fault)) :
    s.FailsWith first maker (openStore (.webClientOpened :: before) refresher
      (OpenedStore.table (s.tableConfig endpoint) maker) t) fault := by
  rcases s.table_tableConfig maker endpoint with
    ⟨-, hopened⟩ | ⟨hmakes, refused, hopened⟩
  · rw [hopened] at h
    cases h
  · rw [hopened] at h ⊢
    cases h
    exact
      { closed_eq :=
          Startup.closings_open (hbefore.append (Startup.plain_logged _))
        interrupted := fun _ _ hfault => by cases hfault
        refused := fun _ _ => ⟨endpoint, hendpoint, hmakes⟩ }

theorem interruption_of_interrupted {source : TokenSource}
    {o : Http.Outcome} {mishap : Option File.Mishap} {sort : Http.Interruption}
    {message : String}
    (h : (source.fetch true o t mishap).ending = .interrupted sort message) :
    o = .interruption sort message := by
  unfold TokenSource.fetch at h
  cases hsend : source.send true with
  | none => simp [hsend] at h
  | some dispatched =>
      rw [hsend] at h
      cases dispatched with
      | error fault => simp at h
      | ok url =>
          have hreceived : (source.receive url o t mishap).2 =
              .interrupted sort message := h
          unfold TokenSource.receive at hreceived
          split at hreceived
          · exact absurd hreceived
              (Token.Refresher.put_not_interrupted source _ _ _ sort message)
          · next ending hread =>
              obtain rfl : ending = .interrupted sort message := hreceived
              exact Token.Refresher.read_interrupted hread

theorem Continues.failsWith {source : TokenSource} {result : Startup}
    (hdeployment : s.deployment = .production)
    (hcontinues : s.Continues source first t maker
      (source.fetch true first.outcome t first.writing.mishap) result)
    (h : result.outcome = some (.error fault)) :
    s.FailsWith first maker result fault := by
  have hplain : Startup.Plain
      (begun (source.fetch true first.outcome t first.writing.mishap) ++
        (source.fetch true first.outcome t
          first.writing.mishap).confirmed.map .logged) :=
    (plain_begun _).append (Startup.plain_logged _)
  have hendpoint : s.tableEndpoint? = some none := by
    simp [tableEndpoint?, hdeployment]
  cases hcontinues with
  | waits => cases h
  | opens harrived hending => exact failsWith_openStore hplain hendpoint h
  | fails harrived hending =>
      cases h
      exact
        { closed_eq := Startup.closings_closed hplain
          interrupted := fun _ _ hfault => by cases hfault
          refused := fun _ hfault => by cases hfault }
  | breaks harrived hending =>
      cases h
      refine
        { closed_eq := Startup.closings_open hplain
          interrupted := fun sort message hfault => ?_
          refused := fun _ hfault => by cases hfault }
      cases hfault
      exact ⟨hdeployment, interruption_of_interrupted hending⟩

theorem Starts.failsWith {result : Startup}
    (hstarts : s.Starts first t maker result)
    (h : result.outcome = some (.error fault)) :
    s.FailsWith first maker result fault := by
  cases hstarts with
  | refused hfault =>
      cases h
      rcases hfault with rfl | rfl <;>
        exact
          { closed_eq := rfl
            interrupted := fun _ _ hfault => by cases hfault
            refused := fun _ hfault => by cases hfault }
  | memory => cases h
  | endpoint hdeployment =>
      have hbefore : Startup.Plain [] := by simp [Startup.Plain]
      exact failsWith_openStore hbefore (by simp [tableEndpoint?, hdeployment]) h
  | production hdeployment =>
      exact (continues_startProduction s _ first t maker).failsWith hdeployment h

end Settings

/-- What a failed startup has done with its web clients: none was made if nothing was
begun, and the one that was made is closed after a failed first fetch, but left open
after an interruption and after a refusal of the store.  So a startup that is not
interrupted, and whose client of the table can be made if it asks for one, leaves no
web client open when it fails. -/
theorem web_clients_of_failed_startup (s : Settings) (first : Delivery) (t : Tree)
    (maker : ClientMaker) {fault : StartupFault}
    (hfailed : (s.start first t maker).outcome = some (.error fault)) :
    (s.start first t maker).webClientsClosed = fault.closings ∧
    (∀ sort message, fault = .interrupted sort message →
      s.deployment = .production ∧
        first.outcome = .interruption sort message) ∧
    (∀ refusal, fault = .store refusal →
      ∃ endpoint, s.tableEndpoint? = some endpoint ∧
        ¬ s.MakesClient maker endpoint) ∧
    ((∀ sort message, first.outcome ≠ .interruption sort message) →
      (∀ endpoint, s.tableEndpoint? = some endpoint →
        s.MakesClient maker endpoint) →
      ∀ closed ∈ (s.start first t maker).webClientsClosed, closed = true) := by
  have hfails := (s.starts_start first t maker).failsWith hfailed
  refine ⟨hfails.closed_eq, hfails.interrupted, hfails.refused, ?_⟩
  intro houtcome hmakes
  rw [hfails.closed_eq]
  cases fault with
  | interval => simp [StartupFault.closings]
  | noTokenFile => simp [StartupFault.closings]
  | firstFetch fault => simp [StartupFault.closings]
  | interrupted sort message =>
      obtain ⟨-, hinterruption⟩ := hfails.interrupted sort message rfl
      exact absurd hinterruption (houtcome sort message)
  | store refusal =>
      obtain ⟨endpoint, hendpoint, hrefused⟩ := hfails.refused refusal rfl
      exact absurd (hmakes endpoint hendpoint) hrefused

/-- A first fetch that is refused closes the client it was made with. -/
theorem web_client_closed_after_refused_fetch :
    let s : Settings :=
      { tokenFile := some "/run/token", identityTokenUrl := some "http://md/t" }
    let first : Delivery := ⟨.response ⟨500, [], []⟩, some 0, {}⟩
    (s.start first (Tree.empty [])).webClientsClosed = [true] := by
  intro s first
  have hfault : (s.start first (Tree.empty [])).fault? =
      some (.firstFetch (.response (.status 500 "http://md/t" none))) := by
    decide +kernel
  obtain ⟨hclosed, -⟩ := web_clients_of_failed_startup s first (Tree.empty [])
    .willing (Startup.fault?_eq_some_iff.mp hfault)
  exact hclosed

/-- A maker that refuses an endpoint without a scheme. -/
def schemeMaker : ClientMaker where
  configFault? _ := none
  clientFault? client :=
    if client.endpoint = some (.text "localhost:8000") then
      some ⟨"ValueError", "Invalid endpoint: localhost:8000"⟩
    else none

/-- A store that is refused leaves the web client open, behind an endpoint as in
production, where the first token is in place by then. -/
theorem web_client_open_after_refused_store :
    let attempts : StartupFault :=
      .store (.client (.attempts (.negative (.int (-1)))))
    let endpoint : StartupFault :=
      .store (.client (.foreign ⟨"ValueError", "Invalid endpoint: localhost:8000"⟩))
    let nearby : Settings :=
      { storageEndpoint := some "http://localhost:8000", storageMaxAttempts := -1 }
    let production : Settings :=
      { tokenFile := some "/token", identityTokenUrl := some "http://md/t"
        storageMaxAttempts := -1 }
    let schemeless : Settings := { storageEndpoint := some "localhost:8000" }
    let first : Delivery := ⟨.response ⟨200, [], [1]⟩, some 0, {}⟩
    ∀ case ∈ [(nearby, attempts), (production, attempts), (schemeless, endpoint)],
      let startup := case.1.start first (Tree.empty []) schemeMaker
      startup.fault? = some case.2 ∧ startup.webClientsClosed = [false] := by
  decide +kernel

end CallRegistry
