import CallRegistry.Proofs.LocalModes

/-!
# What the answer about liveness says of the refresher

The answer says that tokens are refreshed whenever the settings have an address for
them.  The refresher has an address in production only, and asks for tokens exactly
if it has one.  So in memory and behind an endpoint the answer may say what the
refresher does not do, and nowhere else.
-/

namespace CallRegistry

open File (Tree)
open Http (Script Url)
open Token (Entry Loop Refresher TokenSource)

namespace Settings

variable {s : Settings} {first : Http.Delivery} {t : Tree} {result : Startup}
  {services : Services}

/-- Only in production does a refresher get the address of the settings. -/
theorem Provides.url_eq (h : s.Provides first t result services) :
    services.refresher.source.url =
      if s.deployment = .production then s.identityTokenUrl else none := by
  cases h with
  | memory hdeployment => simp [hdeployment, refresher, noTokens]
  | endpoint hdeployment => simp [hdeployment, refresher, noTokens]
  | production hdeployment => simp [hdeployment, refresher]

/-- The first token came from the address that the refresher goes on to ask. -/
theorem Provides.accepted (h : s.Provides first t result services)
    (hgiven : services.refresher.source.url ≠ none) :
    ∃ url, services.refresher.source.send true = some (.ok url) := by
  cases h with
  | memory => exact absurd rfl hgiven
  | endpoint => exact absurd rfl hgiven
  | @production file hdeployment hfile hne hclients hdone =>
      obtain ⟨address, haddress⟩ := Option.ne_none_iff_exists'.mp hgiven
      obtain ⟨-, url, answer, body, haccepted, -, -, -⟩ :=
        TokenSource.fetch_done haddress hdone
      refine ⟨url, ?_⟩
      rw [TokenSource.send_of_url haddress, haccepted]

end Settings

namespace Application

variable {a : Application} {r : Refresher} {s : Settings} {script : Script}
  {replies : List Reply} {t : Tree} {maker : ClientMaker} {limit : ℕ}
  {es : List Entry} {url : Url} {l last : Loop}

/-! ## Whether tokens are asked for -/

/-- At some time after its launch an application asks for a token. -/
def Refreshes (a : Application) : Prop :=
  ∃ os, (a.after os).tokenRequests ≠ a.tokenRequests

theorem step_of_url {wake : ℕ} (hsend : r.source.send true = some (.ok url))
    (hphase : l.phase = .resting wake) (script : Script) (now : ℕ) :
    requestsOf (r.step script now l).2 = [url.text] := by
  simp only [Refresher.step, hphase, Refresher.wake, hsend]
  simp [requestsOf, Refresher.entries, List.filterMap_append,
    List.filterMap_map, Function.comp_def]

/-- Once its pause is over, a refresher has asked. -/
theorem asked_of_goes {wake : ℕ}
    (hsend : r.source.send true = some (.ok url))
    (hphase : l.phase = .resting wake)
    (hgoes : r.Goes script limit l es last) (hlate : wake < limit) :
    requestsOf es ≠ [] := by
  have hdue : l.due = some wake := by
    rw [Loop.due, hphase]
  cases hgoes with
  | stop hstop =>
      have hle := hstop wake hdue
      omega
  | @step _ _ now later hnow hlt hgoes =>
      rw [requestsOf_append, step_of_url hsend hphase]
      exact List.cons_ne_nil _ _

theorem asked_after_launch
    (hlaunched : (launch s script replies t maker).application = some a)
    (hgiven : a.refresher.source.url ≠ none) {os : List Occasion}
    (hlate : s.intervalMs < elapsed os) :
    (a.after os).tokenRequests ≠ a.tokenRequests := by
  obtain ⟨es, hcarries⟩ := carries_after_launch hlaunched os
  have hnow : (a.after os).now = elapsed os := by
    rw [now_after, (loop_of_launched hlaunched).2.1, Nat.zero_add]
  have hpause : a.refresher.pauseLength = s.intervalMs := by
    rw [Refresher.pauseLength, pause_of_launched hlaunched]
  have haccepted : ∃ url, a.refresher.source.send true = some (.ok url) := by
    obtain ⟨services, houtcome, rfl⟩ := launch_eq_some_iff.mp hlaunched
    exact (Settings.provides_start houtcome).accepted hgiven
  obtain ⟨url, hsend⟩ := haccepted
  have hasked : requestsOf es ≠ [] := by
    apply asked_of_goes hsend (phase_of_launched hlaunched) hcarries.goes
    omega
  rw [hcarries.requests_eq]
  simpa using hasked

/-- Tokens are asked for exactly if the refresher has an address. -/
theorem refreshes_iff
    (hlaunched : (launch s script replies t maker).application = some a) :
    a.Refreshes ↔ a.refresher.source.url ≠ none := by
  constructor
  · rintro ⟨os, hasked⟩ hurl
    exact hasked (idle_after_launch hlaunched hurl os []).1
  · intro hgiven
    have hlate : s.intervalMs < elapsed [.time (s.intervalMs + 1)] := by
      simp [elapsed, Occasion.duration]
    exact ⟨_, asked_after_launch hlaunched hgiven hlate⟩

theorem url_of_launched
    (hlaunched : (launch s script replies t maker).application = some a) :
    a.refresher.source.url ≠ none ↔
      s.deployment = .production ∧ s.identityTokenUrl ≠ none := by
  obtain ⟨services, houtcome, rfl⟩ := launch_eq_some_iff.mp hlaunched
  have hurl := (Settings.provides_start houtcome).url_eq
  change services.refresher.source.url ≠ none ↔ _
  rw [hurl]
  by_cases hdeployment : s.deployment = .production
  · simp [hdeployment]
  · simp [hdeployment]

/-! ## What is answered -/

theorem settings_of_launched
    (hlaunched : (launch s script replies t maker).application = some a) :
    a.settings = s := by
  obtain ⟨services, houtcome, rfl⟩ := launch_eq_some_iff.mp hlaunched
  rfl

theorem settings_after_launch
    (hlaunched : (launch s script replies t maker).application = some a)
    (os : List Occasion) : (a.after os).settings = s := by
  obtain ⟨es, hcarries⟩ := carries_after_launch hlaunched os
  exact hcarries.settings_eq.trans (settings_of_launched hlaunched)

theorem answer_health (a : Application) (origin query : String) :
    a.answer origin "GET" ⟨"/health", query⟩ =
      (a, Health.liveness a.settings) := by
  have hroute : Route.ofPath? "/health" = some .liveness := by decide
  have hdestination : WebTarget.destination ⟨"/health", query⟩ "GET" =
      .route .liveness := by
    simp [WebTarget.destination, hroute, answeredMethod]
  rw [answer, hdestination]

end Application

open Application

/-- What an application that was launched answers about its liveness at any moment,
and what its refresher does.  The answer changes nothing; it says that tokens are
refreshed if the settings have an address for them.  The refresher asks for tokens
exactly if it was given an address, and then as soon as its first pause is over; it
is given the one of the settings in production and none elsewhere.  So the answer is
right exactly in production and where there is no address. -/
theorem liveness_reports_given_address (s : Settings) (script : Script)
    (replies : List Reply) (t : Tree) (maker : ClientMaker) {a : Application}
    (hlaunched : (launch s script replies t maker).application = some a) :
    let reported := s.identityTokenUrl.isSome
    (∀ os origin query,
      (a.after os).answer origin "GET" ⟨"/health", query⟩ =
        (a.after os,
          { status := 200
            body := some (.map
              [("status", .text "ok"), ("version", .text "0.1.0"),
                ("details", .map
                  [("mock_mode", .bool s.storageMockMode),
                    ("identity_refresh", .bool reported)])]) })) ∧
    (a.Refreshes ↔ a.refresher.source.url ≠ none) ∧
    (a.refresher.source.url ≠ none →
      ∀ os, s.intervalMs < elapsed os →
        (a.after os).tokenRequests ≠ a.tokenRequests) ∧
    (a.Refreshes ↔ s.deployment = .production ∧ s.identityTokenUrl ≠ none) ∧
    ((reported = true ↔ a.Refreshes) ↔
      s.deployment = .production ∨ s.identityTokenUrl = none) := by
  intro reported
  have hrefreshes := refreshes_iff hlaunched
  have hproduction :
      a.Refreshes ↔ s.deployment = .production ∧ s.identityTokenUrl ≠ none :=
    hrefreshes.trans (url_of_launched hlaunched)
  have hreported : reported = true ↔ s.identityTokenUrl ≠ none :=
    Option.isSome_iff_ne_none
  refine ⟨fun os origin query => ?_, hrefreshes, fun hgiven os hlate =>
    asked_after_launch hlaunched hgiven hlate, hproduction, ?_⟩
  · rw [answer_health, settings_after_launch hlaunched os]
    rfl
  · rw [hreported, hproduction]
    tauto

/-- In production the answer is right: the refresher asks for a second token. -/
theorem liveness_of_refreshing :
    let s : Settings :=
      { tokenFile := some "/run/token", identityTokenUrl := some "http://md/t"
        intervalMs := ⟨1000, by decide⟩ }
    let script : Script := [⟨.response ⟨200, [], [1, 2]⟩, some 250, {}⟩]
    let t := (Tree.empty []).addFile ["run", "token"] [7]
    ∃ a, (launch s script [] t).application = some a ∧
      (a.answer "http://test" "GET" ⟨"/health", ""⟩).2.body =
        some (.map
          [("status", .text "ok"), ("version", .text "0.1.0"),
            ("details", .map
              [("mock_mode", .bool false), ("identity_refresh", .bool true)])]) ∧
      (a.after [.time 1200]).tokenRequests ≠ ["http://md/t"] := by
  intro s script t
  have hlaunch : (launch s script [] t).application.map (fun a =>
      (a.tokenRequests, a.refresher.source.url)) =
        some (["http://md/t"], some "http://md/t") := by
    decide +kernel
  obtain ⟨a, hlaunched, hstarted⟩ := Option.map_eq_some_iff.mp hlaunch
  rw [Prod.mk.injEq] at hstarted
  obtain ⟨hfirst, hurl⟩ := hstarted
  obtain ⟨hanswer, -, hasked, -, -⟩ :=
    liveness_reports_given_address s script [] t .willing hlaunched
  have hgiven : a.refresher.source.url ≠ none := by
    rw [hurl]
    exact Option.some_ne_none _
  have hsecond := hasked hgiven [.time 1200] (by decide)
  rw [hfirst] at hsecond
  exact ⟨a, hlaunched, congrArg (·.2.body) (hanswer [] "http://test" ""),
    hsecond⟩

/-- In memory the answer says that tokens are refreshed if an address is set, while
the refresher has none and never asks. -/
theorem refresh_reported_in_memory :
    let s : Settings :=
      { storageMockMode := true
        identityTokenUrl :=
          some "http://metadata.test/computeMetadata/v1/identity" }
    ∃ a, (launch s [] [] (Tree.empty [])).application = some a ∧
      (a.answer "http://test" "GET" ⟨"/health", ""⟩).2.body =
        some (.map
          [("status", .text "ok"), ("version", .text "0.1.0"),
            ("details", .map
              [("mock_mode", .bool true), ("identity_refresh", .bool true)])]) ∧
      a.refresher.source.url = none ∧ ¬ a.Refreshes := by
  intro s
  have hlaunch : (launch s [] [] (Tree.empty [])).application.map
      (·.refresher.source.url) = some none := by
    decide +kernel
  obtain ⟨a, hlaunched, hurl⟩ := Option.map_eq_some_iff.mp hlaunch
  refine ⟨a, hlaunched, ?_, hurl, ?_⟩
  · rw [answer_health, settings_of_launched hlaunched]
    rfl
  · rw [refreshes_iff hlaunched, hurl]
    exact fun hne => hne rfl

end CallRegistry
