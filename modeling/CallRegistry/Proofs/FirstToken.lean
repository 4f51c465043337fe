import CallRegistry.Application.Basic
import CallRegistry.Proofs.TokenReplacement
import CallRegistry.Proofs.WebClients

/-!
# The first token comes before the client of the table

A startup in production asks for one token.  Only when the token is in place does it
make the client of the table, and a fetch that fails leaves the token file as it was,
makes no such client and starts no refresher.  What a fetch has done is read off the
way it ended.
-/

namespace CallRegistry

open File (Path Tree Mishap)
open Http (Delivery Outcome Url)
open Token (TokenSource FetchFault)

namespace Token.TokenSource

variable {s : TokenSource} {isOpen : Bool} {o : Outcome} {t : Tree}
  {mishap : Option Mishap} {address : String}

theorem requests_fetch (haddress : s.url = some address) (isOpen : Bool)
    (o : Outcome) (t : Tree) (mishap : Option Mishap) :
    (s.fetch isOpen o t mishap).requests =
      (Http.dispatch isOpen address).toOption.toList.map Url.text := by
  unfold fetch
  rw [send_of_url haddress]
  cases Http.dispatch isOpen address with
  | error fault => rfl
  | ok url => rfl

theorem announced_fetch (haddress : s.url = some address) (isOpen : Bool)
    (o : Outcome) (t : Tree) (mishap : Option Mishap) :
    (s.fetch isOpen o t mishap).announced = [.tokenRequested address] := by
  have hannouncement : s.announcement = [.tokenRequested address] := by
    rw [announcement, haddress]
    rfl
  unfold fetch
  rw [send_of_url haddress, ← hannouncement]
  cases Http.dispatch isOpen address with
  | error fault => rfl
  | ok url => rfl

theorem confirmed_fetch (h : (s.fetch isOpen o t mishap).requests ≠ []) :
    (s.fetch isOpen o t mishap).confirmed =
      s.confirmation (s.fetch isOpen o t mishap).ending := by
  unfold fetch at h ⊢
  split at h
  · exact absurd rfl h
  · exact absurd rfl h
  · next url hsend => rfl

/-- Nothing is put in the place of a file without a name. -/
theorem put_unnamed (hdraft : draft? s.path = none) (body : List UInt8) :
    s.put body mishap t = (t, .failed (.replacement (.unnamed s.path))) := by
  simp [put, replace, Replacement.plan, hdraft]

theorem fetch_unnamed (hdraft : draft? s.path = none)
    (haddress : s.url = some address) :
    (s.fetch isOpen o t mishap).tree = t ∧
      (s.fetch isOpen o t mishap).ending ≠ .done := by
  cases htoken : s.token? isOpen o with
  | none =>
      obtain ⟨htree, hdone⟩ := fetch_of_no_token htoken t mishap
      refine ⟨htree, fun hending => ?_⟩
      rw [hdone, haddress] at hending
      cases hending
  | some body =>
      obtain ⟨htree, hending⟩ := fetch_eq_put htoken t mishap
      rw [htree, hending, put_unnamed hdraft]
      simp

theorem look?_fetch (haddress : s.url = some address)
    (h : (s.fetch isOpen o t mishap).ending ≠ .done) :
    (s.fetch isOpen o t mishap).tree.look? s.path = t.look? s.path := by
  -- Without a draft nothing is replaced; with one only the draft may change.
  cases hdraft : draft? s.path with
  | none => rw [(fetch_unnamed hdraft haddress).1]
  | some draft => exact look?_goal hdraft (fetch_sameBut_draft hdraft h)

/-- After a fetch that ended well the token file holds the whole body of the
response, and the system has refused nothing. -/
theorem fetch_done (haddress : s.url = some address)
    (h : (s.fetch isOpen o t mishap).ending = .done) :
    mishap = none ∧ ∃ url answer body, Http.dispatch isOpen address = .ok url ∧
      o = .response answer ∧ answer.content url = .ok body ∧
      (s.fetch isOpen o t mishap).tree.look? s.path = some (some body) := by
  cases hdraft : draft? s.path with
  | none => exact absurd h (fetch_unnamed hdraft haddress).2
  | some draft =>
      cases htoken : s.token? isOpen o with
      | none =>
          obtain ⟨-, hdone⟩ := fetch_of_no_token htoken t mishap
          rw [hdone, haddress] at h
          cases h
      | some body =>
          obtain ⟨url, answer, hsend, ho, hcontent⟩ :=
            token?_eq_some_iff.mp htoken
          have hdispatch : Http.dispatch isOpen address = .ok url := by
            rw [send_of_url haddress] at hsend
            exact Option.some.inj hsend
          obtain ⟨-, hdone⟩ :=
            fetch_of_token hdraft htoken t mishap
          obtain ⟨hreplaceable, rfl⟩ := hdone.mp h
          obtain ⟨-, hinstalled⟩ := put_installs hdraft hreplaceable
          rw [(fetch_eq_put htoken t none).1]
          exact ⟨rfl, url, answer, body, hdispatch, ho, hcontent,
            hinstalled.goal_eq⟩

/-- What a fetch that ended well has done on the way. -/
theorem acts_fetch_done {url : Url} (haddress : s.url = some address)
    (haccepted : Http.dispatch isOpen address = .ok url)
    (h : (s.fetch isOpen o t mishap).ending = .done) :
    (s.fetch isOpen o t mishap).announced = [.tokenRequested address] ∧
      (s.fetch isOpen o t mishap).requests = [url.text] ∧
      (s.fetch isOpen o t mishap).confirmed = [.tokenWritten s.path.text] := by
  have hone : (s.fetch isOpen o t mishap).requests = [url.text] := by
    rw [requests_fetch haddress, haccepted]
    rfl
  have hsent : (s.fetch isOpen o t mishap).requests ≠ [] := by simp [hone]
  refine ⟨announced_fetch haddress isOpen o t mishap, hone, ?_⟩
  rw [confirmed_fetch hsent, h]
  rfl

end Token.TokenSource

namespace Settings

variable {s : Settings} {first : Delivery} {t : Tree} {file address : String}
  {maker : ClientMaker}

theorem deployment_of_production (hmock : s.storageMockMode = false)
    (hendpoint : ∀ url, s.storageEndpoint = some url → url = "") :
    s.deployment = .production := by
  unfold deployment
  rw [hmock]
  cases hgiven : s.storageEndpoint with
  | none => rfl
  | some url =>
      rw [hendpoint url hgiven]
      rfl

/-- The token file is missing from the settings in production exactly if it is not
set, or set to nothing. -/
theorem tokenFile_mem_missing_iff (hdeployment : s.deployment = .production) :
    Requirement.tokenFile ∈ s.missing ↔
      s.tokenFile = none ∨ s.tokenFile = some "" := by
  unfold missing
  rw [List.mem_append]
  cases hfile : s.tokenFile with
  | none => simp [hdeployment, isGiven]
  | some file => by_cases hempty : file = "" <;> simp [hdeployment, isGiven, hempty]

theorem start_without_tokenFile (hinterval : s.intervalSeconds?.isSome)
    (hdeployment : s.deployment = .production)
    (hfile : s.tokenFile = none ∨ s.tokenFile = some "") (first : Delivery)
    (t : Tree) (maker : ClientMaker) :
    s.start first t maker =
      { outcome := some (.error .noTokenFile), acts := [], tree := t } := by
  have hlong : s.intervalSeconds?.isNone = false := by
    simpa using hinterval
  unfold start
  rcases hfile with hfile | hfile <;> simp [hlong, hdeployment, hfile]

theorem start_of_tokenFile (hinterval : s.intervalSeconds?.isSome)
    (hdeployment : s.deployment = .production)
    (hfile : s.tokenFile = some file) (hne : file ≠ "") (first : Delivery)
    (t : Tree) (maker : ClientMaker) :
    s.start first t maker = s.startProduction file first t maker := by
  have hlong : s.intervalSeconds?.isNone = false := by
    simpa using hinterval
  unfold start
  simp [hlong, hdeployment, hfile, hne]

namespace Continues

variable {source : TokenSource} {f : Token.Fetched} {result : Startup}

theorem requests_eq (h : s.Continues source first t maker f result) :
    result.requests = f.requests := by
  cases h with
  | waits => simp [Startup.requests, begun]
  | opens harrived hending =>
      rcases s.table_tableConfig maker none with
        ⟨-, hopened⟩ | ⟨-, refused, hopened⟩
      · rw [hopened]
        simp [Startup.requests, begun, openStore, OpenedStore.acts]
      · rw [hopened]
        simp [Startup.requests, begun, openStore]
  | fails => simp [Startup.requests, begun]
  | breaks => simp [Startup.requests, begun]

/-- A client of the table is made after a fetch that ended well, and nothing but
the store comes behind the fetch. -/
theorem of_tableClients (h : s.Continues source first t maker f result)
    (hclients : result.tableClients ≠ []) :
    (first.delay ≠ none ∨ f.requests = []) ∧ f.ending = .done ∧
      result.tree = f.tree ∧
      result.acts = .webClientOpened :: (begun f ++ f.confirmed.map .logged) ++
        [.logged (.regionChosen (.text s.storageRegion)),
          .tableClientMade (s.tableClient none),
          .logged (s.tableConfig none).opened] := by
  cases h with
  | waits => simp [Startup.tableClients, begun] at hclients
  | opens harrived hending =>
      rcases s.table_tableConfig maker none with
        ⟨-, hopened⟩ | ⟨-, refused, hopened⟩
      · rw [hopened]
        exact ⟨harrived, hending, rfl, rfl⟩
      · rw [hopened] at hclients
        simp [Startup.tableClients, begun, openStore] at hclients
  | fails => simp [Startup.tableClients, begun] at hclients
  | breaks => simp [Startup.tableClients, begun] at hclients

theorem of_done (h : s.Continues source first t maker f result)
    (hdone : f.ending = .done) (hdelay : first.delay ≠ none)
    (hmakes : s.MakesClient maker none) :
    result.tableClients = [s.tableClient none] := by
  cases h with
  | waits hdelay' => exact absurd hdelay' hdelay
  | opens =>
      rcases s.table_tableConfig maker none with ⟨-, hopened⟩ | ⟨hrefused, -⟩
      · rw [hopened]
        simp [Startup.tableClients, begun, openStore, OpenedStore.acts]
      · exact absurd hmakes hrefused
  | fails _ hending =>
      rw [hdone] at hending
      cases hending
  | breaks _ hending =>
      rw [hdone] at hending
      cases hending

theorem of_failed {fault : FetchFault}
    (h : s.Continues source first t maker f result)
    (hending : f.ending = .failed fault)
    (harrived : first.delay ≠ none ∨ result.requests = []) :
    result.outcome = some (.error (.firstFetch fault)) ∧
      result.tableClients = [] ∧ result.webClientsClosed = [true] ∧
      result.tree = f.tree := by
  rw [h.requests_eq] at harrived
  cases h with
  | waits hdelay hrequests =>
      rcases harrived with harrived | harrived
      · exact absurd hdelay harrived
      · exact absurd harrived hrequests
  | opens _ hdone =>
      rw [hending] at hdone
      cases hdone
  | fails _ hfailed =>
      rw [hending] at hfailed
      cases hfailed
      have hplain : Startup.Plain (begun f ++ f.confirmed.map .logged) :=
        (plain_begun f).append (Startup.plain_logged _)
      refine ⟨rfl, ?_, Startup.closings_closed hplain, rfl⟩
      simp [Startup.tableClients, begun]
  | breaks _ hbroken =>
      rw [hending] at hbroken
      cases hbroken

theorem of_awaited (h : s.Continues source first t maker f result)
    (hdelay : first.delay = none) (hasked : result.requests ≠ []) :
    result.outcome = none ∧ result.tableClients = [] ∧ result.tree = t := by
  rw [h.requests_eq] at hasked
  have hwaiting : ¬ (first.delay ≠ none ∨ f.requests = []) := by
    simp [hdelay, hasked]
  cases h with
  | waits =>
      refine ⟨rfl, ?_, rfl⟩
      simp [Startup.tableClients, begun]
  | opens harrived hending => exact absurd harrived hwaiting
  | fails harrived hending => exact absurd harrived hwaiting
  | breaks harrived hending => exact absurd harrived hwaiting

end Continues

end Settings

namespace Application

theorem application_eq_none {s : Settings} {script : Http.Script} {t : Tree}
    {maker : ClientMaker} (h : ∀ services,
      (s.start (script.delivery 0) t maker).outcome ≠ some (.ok services))
    (replies : List Reply) :
    (launch s script replies t maker).application = none := by
  unfold launch
  dsimp only
  split
  · rfl
  · rfl
  · next services hservices => exact absurd hservices (h services)

end Application

/-- A startup in production.  Without a token file nothing is done at all.  Otherwise
one request goes out, if its address is accepted, and the client of the table is made
only behind a success whose whole body the token file holds by then.  A fetch that
fails, by its reply or because the system refuses any part of the replacement, makes the
startup fail; it leaves the token file as it was, closes the web client, makes no client
of the table, and no application with a refresher comes of it.  While the delivery to
the request is awaited nothing more is done.  The trees have no hard or symbolic
links. -/
theorem first_token_before_table_client (s : Settings) (script : Http.Script)
    (replies : List Reply) (t : Tree) (maker : ClientMaker)
    (hmock : s.storageMockMode = false)
    (hendpoint : ∀ url, s.storageEndpoint = some url → url = "")
    (hinterval : s.intervalSeconds?.isSome) :
    let first := script.delivery 0
    let startup := s.start first t maker
    let application := (Application.launch s script replies t maker).application
    (Requirement.tokenFile ∈ s.missing ↔
      s.tokenFile = none ∨ s.tokenFile = some "") ∧
    (s.tokenFile = none ∨ s.tokenFile = some "" →
      startup.outcome = some (.error .noTokenFile) ∧ startup.acts = [] ∧
        startup.tree = t ∧ application = none) ∧
    ∀ file address, s.tokenFile = some file → file ≠ "" →
      s.identityTokenUrl = some address →
      let source : TokenSource := ⟨some address, .ofText file⟩
      let fetched := source.fetch true first.outcome t first.writing.mishap
      startup.requests =
        (Http.dispatch true address).toOption.toList.map Url.text ∧
      (startup.tableClients ≠ [] → ∃ url answer body,
        Http.dispatch true address = .ok url ∧ first.delay ≠ none ∧
        first.outcome = .response answer ∧
        200 ≤ answer.status ∧ answer.status ≤ 299 ∧
        answer.content url = .ok body ∧
        (answer.header? "content-encoding" = none → body = answer.body) ∧
        startup.tree.look? source.path = some (some body) ∧
        startup.acts =
          [.webClientOpened, .logged (.tokenRequested address),
            .requested url.text, .logged (.tokenWritten source.path.text),
            .logged (.regionChosen (.text s.storageRegion)),
            .tableClientMade (s.tableClient none),
            .logged (s.tableConfig none).opened]) ∧
      (fetched.ending = .done → first.delay ≠ none → s.MakesClient maker none →
        startup.tableClients = [s.tableClient none]) ∧
      (fetched.ending = .done → first.writing.mishap = none) ∧
      (∀ fault, fetched.ending = .failed fault →
        first.delay ≠ none ∨ startup.requests = [] →
        startup.outcome = some (.error (.firstFetch fault)) ∧
          startup.tableClients = [] ∧ startup.webClientsClosed = [true] ∧
          startup.tree.look? source.path = t.look? source.path ∧
          application = none) ∧
      (first.delay = none → startup.requests ≠ [] →
        startup.outcome = none ∧ startup.tableClients = [] ∧
          startup.tree = t ∧ application = none) := by
  intro first startup application
  have hdeployment := Settings.deployment_of_production hmock hendpoint
  have hunlaunched (h : ∀ services, startup.outcome ≠ some (.ok services)) :
      application = none := Application.application_eq_none h replies
  refine ⟨Settings.tokenFile_mem_missing_iff hdeployment, ?_, ?_⟩
  · intro hfile
    have hstart : startup =
        { outcome := some (.error .noTokenFile), acts := [], tree := t } :=
      Settings.start_without_tokenFile hinterval hdeployment hfile first t maker
    have happlication : application = none := hunlaunched (by simp [hstart])
    rw [hstart]
    exact ⟨rfl, rfl, rfl, happlication⟩
  · intro file address hfile hne haddress source fetched
    have hcontinues : s.Continues source first t maker fetched startup := by
      have h := s.continues_startProduction file first t maker
      rw [← Settings.start_of_tokenFile hinterval hdeployment hfile hne,
        haddress] at h
      exact h
    have hasked : fetched.requests =
        (Http.dispatch true address).toOption.toList.map Url.text :=
      TokenSource.requests_fetch rfl true first.outcome t first.writing.mishap
    have hrefused (hdone : fetched.ending = .done) :
        first.writing.mishap = none :=
      (TokenSource.fetch_done (s := source) rfl hdone).1
    refine ⟨hcontinues.requests_eq.trans hasked, ?_, hcontinues.of_done, hrefused,
      ?_, ?_⟩
    · intro hclients
      obtain ⟨harrived, hdone, htree, hacts⟩ :=
        hcontinues.of_tableClients hclients
      obtain ⟨-, url, answer, body, haccepted, houtcome, hcontent, hlook⟩ :=
        TokenSource.fetch_done (s := source) rfl hdone
      obtain ⟨hlow, hhigh, -⟩ := Token.of_content_eq_ok hcontent
      obtain ⟨hannounced, hsent, hconfirmed⟩ :=
        TokenSource.acts_fetch_done (s := source) rfl haccepted hdone
      have hdelay : first.delay ≠ none := by
        apply harrived.resolve_right
        simp [fetched, hsent]
      rw [← htree] at hlook
      refine ⟨url, answer, body, haccepted, hdelay, houtcome, hlow, hhigh,
        hcontent, Token.body_of_plain hcontent, hlook, ?_⟩
      rw [hacts, Settings.begun, hannounced, hsent, hconfirmed]
      rfl
    · intro fault hending harrived
      obtain ⟨houtcome, hclients, hclosed, htree⟩ :=
        hcontinues.of_failed hending harrived
      have hundone : fetched.ending ≠ .done := by simp [hending]
      have hlook : startup.tree.look? source.path = t.look? source.path := by
        rw [htree]
        exact TokenSource.look?_fetch rfl hundone
      exact ⟨houtcome, hclients, hclosed, hlook,
        hunlaunched (by simp [houtcome])⟩
    · intro hdelay hsent
      obtain ⟨houtcome, hclients, htree⟩ := hcontinues.of_awaited hdelay hsent
      exact ⟨houtcome, hclients, htree, hunlaunched (by simp [houtcome])⟩

/-- A startup replaces an old token before it makes the client of the table. -/
theorem first_token_over_old_one :
    let s : Settings :=
      { tokenFile := some "/run/token", identityTokenUrl := some "http://md/t" }
    let script : Http.Script :=
      [⟨.response ⟨200, [], [1, 2]⟩, some 250, {}⟩,
        ⟨.response ⟨500, [], []⟩, none, {}⟩]
    let t := (Tree.empty []).addFile ["run", "token"] [7]
    let startup := s.start (script.delivery 0) t
    startup.tableClients = [s.tableClient none] ∧
      startup.tree.look? (.ofText "/run/token") = some (some [1, 2]) ∧
      startup.acts =
        [.webClientOpened, .logged (.tokenRequested "http://md/t"),
          .requested "http://md/t", .logged (.tokenWritten "/run/token"),
          .logged (.regionChosen (.text "us-west-1")),
          .tableClientMade (s.tableClient none),
          .logged (s.tableConfig none).opened] := by
  intro s script t startup
  obtain ⟨-, -, hfetched⟩ := first_token_before_table_client s script [] t .willing
    rfl (by simp [s]) (by decide +kernel)
  obtain ⟨-, hmade, hclient, -⟩ :=
    hfetched "/run/token" "http://md/t" rfl (by decide) rfl
  have hdone : ((⟨some "http://md/t", .ofText "/run/token"⟩ :
      TokenSource).fetch true (script.delivery 0).outcome t).ending = .done := by
    decide +kernel
  have hclients : startup.tableClients = [s.tableClient none] :=
    hclient hdone (by decide) ⟨by decide, rfl, rfl⟩
  obtain ⟨url, answer, body, haccepted, -, hanswer, -, -, -, hplain, hlook,
    hacts⟩ := hmade (by rw [show s.start _ t = startup from rfl, hclients]; simp)
  cases hanswer
  have hurl : url.text = "http://md/t" := by
    have hparsed : Http.dispatch true "http://md/t" =
        .ok ⟨"http", "", "md", none, "/t", none, none⟩ := by
      decide +kernel
    rw [hparsed] at haccepted
    cases haccepted
    decide +kernel
  rw [hplain rfl] at hlook
  rw [hurl] at hacts
  exact ⟨hclients, hlook, hacts⟩

/-- A disk without room makes the startup fail, and the old token stays. -/
example :
    let s : Settings :=
      { tokenFile := some "/run/token", identityTokenUrl := some "http://md/t" }
    let refused : Mishap := ⟨.writing 1, ⟨"OSError", "disk full"⟩⟩
    let script : Http.Script :=
      [⟨.response ⟨200, [], [1, 2]⟩, some 250, ⟨0, some refused⟩⟩]
    let t := (Tree.empty []).addFile ["run", "token"] [7]
    let startup := s.start (script.delivery 0) t
    startup.fault? = some (.firstFetch (.replacement (.system refused.failure))) ∧
      startup.tableClients = [] ∧ startup.webClientsClosed = [true] ∧
      startup.tree.look? (.ofText "/run/token") = some (some [7]) := by
  decide +kernel

end CallRegistry
