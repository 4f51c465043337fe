import CallRegistry.Proofs.Pages
import CallRegistry.Proofs.StorageFailure

/-!
# A region is scanned from page to page

A scan asks for page after page until a response names no key, and gives the
records of all the pages in order.  Each query but the first carries the key that
the response before it named, and the queries are otherwise the same.  The first
page that is lost, or that holds an item which is no record, ends the scan without
any records.

`Shelf` is a service that goes through a list of entries, cuts it where it likes,
and goes on after the key that it is given.  A scan of a shelf ends, since every
page that is not the last goes at least one entry further.
-/

namespace CallRegistry

open TableService

namespace Reply

/-- The reply names the key after which the next page begins. -/
def Names (reply : Reply) (key : Datum) : Prop :=
  ∃ fields, reply = .ok (.map fields) ∧
    fields.lookup "LastEvaluatedKey" = some key ∧ key.isVoid = false

/-- The reply names no key: there is none, or it is null or empty. -/
def NamesNone (reply : Reply) : Prop :=
  ∃ fields, reply = .ok (.map fields) ∧
    ∀ key, fields.lookup "LastEvaluatedKey" = some key → key.isVoid = true

/-- The call has failed, or an item of the page is no record. -/
def Breaks (reply : Reply) : Prop :=
  (∃ failure, reply = .error failure) ∨
    ∃ fields items, reply = .ok (.map fields) ∧
      itemsOffered? fields = some items ∧
      ∃ item ∈ items, ∃ fault, CallRecord.ofItem item = .error fault

theorem Breaks.not_pages {reply : Reply} (hbreaks : reply.Breaks)
    (page : List CallRecord) : ¬ reply.Pages page := by
  rintro ⟨fields, items, rfl, hoffered, hread⟩
  rcases hbreaks with ⟨failure, hfailure⟩ |
    ⟨fields', items', hfields, hoffered', item, hitem, fault, hfault⟩
  · cases hfailure
  · cases hfields
    obtain rfl : items = items' := by simpa [hoffered] using hoffered'
    obtain ⟨r, hr⟩ := exists_of_forall₂ hread hitem
    rw [hfault] at hr
    cases hr

theorem pages_of_shows {fields : Form} {items : List Datum}
    {page : List CallRecord} (hshows : Catalog.Shows fields items)
    (hread : List.Forall₂ (fun item r => CallRecord.ofItem item = .ok r) items
      page) :
    Pages (.ok (.map fields)) page := by
  refine ⟨fields, items, rfl, ?_, hread⟩
  rcases hshows with hitems | ⟨hnone, hempty⟩
  · simp [itemsOffered?, hitems, Datum.members?]
  · simp [itemsOffered?, hnone, hempty]

end Reply

namespace Pending

variable {region : String} {found page : List CallRecord} {after : Option Datum}
  {reply last : Reply} {key : Datum} {firsts : List Reply}
  {pages : List (List CallRecord)} {keys : List Datum}

/-! ## One page -/

theorem resume_named (hpage : reply.Pages page) (hkey : reply.Names key)
    (region : String) (found : List CallRecord) (after : Option Datum) :
    ((scanning region found after).resume reply).2 =
      .waiting (.scanning region (found ++ page) (some key)) := by
  obtain ⟨fields, rfl, hlookup, hvoid⟩ := hkey
  have hread : readPage fields = .ok page := readPage_eq_ok_iff.mpr hpage
  have hnext : nextKey? fields = some key := by
    simp [nextKey?, hlookup, hvoid]
  simp [resume, readScan, hread, hnext]

theorem resume_last (hpage : reply.Pages page) (hlast : reply.NamesNone)
    (region : String) (found : List CallRecord) (after : Option Datum) :
    ((scanning region found after).resume reply).2 =
      .finished (.ok (.records (found ++ page))) := by
  obtain ⟨fields, rfl, hvoid⟩ := hlast
  have hread : readPage fields = .ok page := readPage_eq_ok_iff.mpr hpage
  have hnext : nextKey? fields = none := by
    unfold nextKey?
    split
    next key hlookup => simp [hvoid key hlookup]
    next => rfl
  simp [resume, readScan, hread, hnext]

theorem resume_broken (hbreaks : reply.Breaks) (region : String)
    (found : List CallRecord) (after : Option Datum) :
    ∃ failure, ((scanning region found after).resume reply).2 =
      .finished (.error failure) := by
  rcases resume_scanning region found after reply with
    ⟨hfailed, -⟩ | ⟨page, hpage, -⟩
  · exact hfailed
  · exact absurd hpage (hbreaks.not_pages page)

/-! ## Page after page -/

/-- A scan goes through the pages that name a key and ends at the reply behind
them. -/
theorem play_pages (Ends : List CallRecord → StoreOutcome → Prop)
    (hpages : List.Forall₂ Reply.Pages firsts pages)
    (hkeys : List.Forall₂ Reply.Names firsts keys)
    (hlast : ∀ found after, ∃ outcome,
      ((scanning region found after).resume last).2 = .finished outcome ∧
        Ends found outcome)
    (rest : List Reply) :
    ((scanning region found after).play (firsts ++ last :: rest)).requests =
        (after :: keys.map some).map (Request.query region) ∧
      Ends (found ++ pages.flatten)
        ((scanning region found after).play
          (firsts ++ last :: rest)).outcome := by
  induction hpages generalizing found after keys with
  | nil =>
      cases hkeys
      obtain ⟨outcome, hresume, hends⟩ := hlast found after
      obtain ⟨hrequests, houtcome⟩ := play_finished hresume rest
      rw [List.nil_append, hrequests, houtcome, List.flatten_nil,
        List.append_nil]
      exact ⟨rfl, hends⟩
  | @cons reply page firsts pages hpage hpages ih =>
      cases hkeys with
      | @cons _ key _ keys hkey hkeys =>
          have hresume := resume_named hpage hkey region found after
          obtain ⟨hrequests, houtcome⟩ :=
            play_waiting hresume (firsts ++ last :: rest)
          rw [List.cons_append, hrequests, houtcome, List.flatten_cons,
            ← List.append_assoc]
          obtain ⟨hlater, hends⟩ := ih hkeys
          exact ⟨congrArg _ hlater, hends⟩

theorem play_whole (hkeys : List.Forall₂ Reply.Names firsts keys)
    (hpages : List.Forall₂ Reply.Pages firsts pages) (hlast : last.NamesNone)
    (hpage : last.Pages page) (region : String) (rest : List Reply) :
    ((StoreCall.inRegion region).begin.play (firsts ++ last :: rest)).requests =
        (none :: keys.map some).map (Request.query region) ∧
      ((StoreCall.inRegion region).begin.play
        (firsts ++ last :: rest)).outcome =
          .ok (.records (pages.flatten ++ page)) := by
  refine play_pages
    (fun found outcome => outcome = .ok (.records (found ++ page)))
    hpages hkeys ?_ rest
  intro found after
  exact ⟨_, resume_last hpage hlast region found after, rfl⟩

theorem play_broken (hkeys : List.Forall₂ Reply.Names firsts keys)
    (hpages : List.Forall₂ Reply.Pages firsts pages) (hbreaks : last.Breaks)
    (region : String) (rest : List Reply) :
    ((StoreCall.inRegion region).begin.play (firsts ++ last :: rest)).requests =
        (none :: keys.map some).map (Request.query region) ∧
      ∃ failure, ((StoreCall.inRegion region).begin.play
        (firsts ++ last :: rest)).outcome = .error failure := by
  refine play_pages (fun _ outcome => ∃ failure, outcome = .error failure)
    hpages hkeys ?_ rest
  intro found after
  obtain ⟨failure, hresume⟩ := resume_broken hbreaks region found after
  exact ⟨_, hresume, failure, rfl⟩

end Pending

/-! ## A service that goes through a list -/

/-- What the service goes through for a query: keys, and the items under those of
them that match. -/
structure Shelf where
  entries : List (Datum × Option Datum)
  distinct : (entries.map Prod.fst).Nodup
  keyed : ∀ e ∈ entries, e.1.isVoid = false

namespace Shelf

/-- The entries strictly after a key. -/
def beyond (s : Shelf) : Option Datum → List (Datum × Option Datum)
  | none => s.entries
  | some key => (s.entries.dropWhile fun e => e.1 != key).tail

def items (entries : List (Datum × Option Datum)) : List Datum :=
  entries.filterMap Prod.snd

/-- A page of the entries that are left: all of them, and no key, or some of them
and the key of the last one. -/
inductive Turns : List (Datum × Option Datum) → Reply → Prop
  | last {rest : List (Datum × Option Datum)} {fields : Form}
      (hshows : Catalog.Shows fields (items rest))
      (hlast : Reply.NamesNone (.ok (.map fields))) :
      Turns rest (.ok (.map fields))
  | more {gone later : List (Datum × Option Datum)}
      {e : Datum × Option Datum} {fields : Form}
      (hshows : Catalog.Shows fields (items (gone ++ [e])))
      (hkey : fields.lookup "LastEvaluatedKey" = some e.1) :
      Turns (gone ++ e :: later) (.ok (.map fields))

/-- What the service may answer to a query of a region, cutting the entries after
the key wherever it likes. -/
def Serves (s : Shelf) (config : TableConfig) (region : String) (q : Request)
    (reply : Reply) : Prop :=
  ∃ after, commandOf? config q = some (.query config.regionIndex "region"
      (Attribute.ofText region) after) ∧
    Turns (s.beyond after) reply

variable {s : Shelf} {config : TableConfig} {region : String}
  {after : Option Datum} {reply : Reply} {e : Datum × Option Datum}
  {gone later rest : List (Datum × Option Datum)}

theorem serves_query_iff :
    s.Serves config region (.query region after) reply ↔
      Turns (s.beyond after) reply := by
  simp [Serves, commandOf?_query]

theorem beyond_suffix (s : Shelf) (after : Option Datum) :
    s.beyond after <:+ s.entries := by
  cases after with
  | none => exact List.suffix_rfl
  | some key => exact (List.tail_suffix _).trans (List.dropWhile_suffix _)

/-- After the key of an entry come the entries behind it. -/
theorem beyond_key (hrest : s.beyond after = gone ++ e :: later) :
    s.beyond (some e.1) = later := by
  obtain ⟨before, hentries⟩ := s.beyond_suffix after
  rw [hrest, ← List.append_assoc] at hentries
  have hdistinct := s.distinct
  rw [← hentries, List.map_append, List.map_cons, List.nodup_append]
    at hdistinct
  have hothers : ∀ other ∈ before ++ gone, (other.1 != e.1) = true := by
    intro other hother
    rw [bne_iff_ne]
    exact hdistinct.2.2 _ (List.mem_map_of_mem hother) _ List.mem_cons_self
  rw [beyond, ← hentries, List.dropWhile_append_of_pos hothers]
  simp

theorem void_key (hrest : s.beyond after = gone ++ e :: later) :
    e.1.isVoid = false := by
  apply s.keyed
  apply (s.beyond_suffix after).subset
  simp [hrest]

/-- What a page leads to: the records of all that was left, or those of a part of
it and the key of the last entry, with fewer entries left behind it. -/
theorem resume_turns {records : List CallRecord}
    (hturns : Turns (s.beyond after) reply)
    (hread : List.Forall₂ (fun item r => CallRecord.ofItem item = .ok r)
      (items (s.beyond after)) records)
    (region : String) (found : List CallRecord) :
    ((Pending.scanning region found after).resume reply).2 =
        .finished (.ok (.records (found ++ records))) ∨
      ∃ here there key, records = here ++ there ∧
        ((Pending.scanning region found after).resume reply).2 =
          .waiting (.scanning region (found ++ here) (some key)) ∧
        List.Forall₂ (fun item r => CallRecord.ofItem item = .ok r)
          (items (s.beyond (some key))) there ∧
        (s.beyond (some key)).length < (s.beyond after).length := by
  generalize hrest : s.beyond after = rest at hturns hread ⊢
  cases hturns with
  | last hshows hlast =>
      left
      have hpage := Reply.pages_of_shows hshows hread
      exact Pending.resume_last hpage hlast region found after
  | @more gone later e fields hshows hkey =>
      right
      have hitems : items (gone ++ e :: later) =
          items (gone ++ [e]) ++ items later := by
        simp [items, ← List.filterMap_append]
      rw [hitems] at hread
      have hhere := (List.forall₂_take_append _ _ _ hread.flip).flip
      have hthere := (List.forall₂_drop_append _ _ _ hread.flip).flip
      have hpage := Reply.pages_of_shows hshows hhere
      have hnames : Reply.Names (.ok (.map fields)) e.1 :=
        ⟨fields, rfl, hkey, void_key hrest⟩
      refine ⟨_, _, e.1, (List.take_append_drop _ _).symm,
        Pending.resume_named hpage hnames region found after, ?_, ?_⟩
      · rw [beyond_key hrest]
        exact hthere
      · rw [beyond_key hrest, List.length_append, List.length_cons]
        omega

/-- However the service cuts its list, a scan ends with the records of all the
entries that were left. -/
theorem ends_scanning {records : List CallRecord}
    (hread : List.Forall₂ (fun item r => CallRecord.ofItem item = .ok r)
      (items (s.beyond after)) records) (found : List CallRecord) :
    Pending.Ends (fun (_ : Unit) q reply _ => s.Serves config region q reply)
      (fun outcome _ => outcome = .ok (.records (found ++ records))) ()
      (.scanning region found after) := by
  -- The entries that are left get fewer with each page.
  induction hleft : (s.beyond after).length using Nat.strong_induction_on
    generalizing after found records with
  | _ left ih =>
  refine .intro ?_ ?_ ?_
  · have hturns : Turns (s.beyond after)
        (.ok (.map [("Items", .list (items (s.beyond after)))])) := by
      refine .last (Or.inl rfl) ⟨_, rfl, ?_⟩
      intro key hkey
      contradiction
    exact ⟨_, (), serves_query_iff.mpr hturns⟩
  · intro reply _ outcome hserved hresume
    have hturns := serves_query_iff.mp hserved
    rcases resume_turns hturns hread region found with
      hfinished | ⟨_, _, _, -, hwaiting, -⟩
    · rw [hfinished, Progress.finished.injEq] at hresume
      exact hresume.symm
    · rw [hwaiting] at hresume
      contradiction
  · intro reply _ next hserved hresume
    have hturns := serves_query_iff.mp hserved
    rcases resume_turns hturns hread region found with
      hfinished | ⟨here, there, key, rfl, hwaiting, hthere, hfewer⟩
    · rw [hfinished] at hresume
      contradiction
    · rw [hwaiting, Progress.waiting.injEq] at hresume
      subst next
      rw [← List.append_assoc]
      exact ih _ (hleft ▸ hfewer) hthere (found ++ here) rfl

end Shelf

open Pending in
/-- A scan asks for the pages one after the other, each after the key that the page
before it named, and by queries that are otherwise the same.  It gives the records
of all the pages, or none when a page is broken, and asks for no page behind that
one.  Over a service that goes through a list it ends with the records of the
list. -/
theorem region_scan (config : TableConfig) (region : String) :
    (((Request.query region none).parameters config).lookup
        "ExclusiveStartKey" = none ∧
      ∀ key, (Request.query region (some key)).parameters config =
        (Request.query region none).parameters config ++
          [("ExclusiveStartKey", key)]) ∧
    (∀ (firsts : List Reply) (last : Reply) (keys : List Datum)
        (pages : List (List CallRecord)) (page : List CallRecord)
        (rest : List Reply),
      List.Forall₂ Reply.Names firsts keys → last.NamesNone →
      List.Forall₂ Reply.Pages firsts pages → last.Pages page →
      let played := (StoreCall.inRegion region).begin.play
        (firsts ++ last :: rest)
      played.requests = (none :: keys.map some).map (Request.query region) ∧
        played.outcome = .ok (.records (pages.flatten ++ page))) ∧
    (∀ (firsts : List Reply) (broken : Reply) (keys : List Datum)
        (pages : List (List CallRecord)) (rest : List Reply),
      List.Forall₂ Reply.Names firsts keys →
      List.Forall₂ Reply.Pages firsts pages → broken.Breaks →
      let played := (StoreCall.inRegion region).begin.play
        (firsts ++ broken :: rest)
      played.requests = (none :: keys.map some).map (Request.query region) ∧
        ∃ failure, played.outcome = .error failure) ∧
    ∀ (s : Shelf) (records : List CallRecord),
      List.Forall₂ (fun item r => CallRecord.ofItem item = .ok r)
        (Shelf.items s.entries) records →
      Pending.Ends (fun (_ : Unit) q reply _ => s.Serves config region q reply)
        (fun outcome _ => outcome = .ok (.records records)) ()
        (StoreCall.inRegion region).begin := by
  refine ⟨⟨?_, ?_⟩, ?_, ?_, ?_⟩
  · simp [Request.parameters, List.lookup_cons]
  · intro key
    simp [Request.parameters]
  · intro firsts last keys pages page rest hkeys hlast hpages hpage
    exact play_whole hkeys hpages hlast hpage region rest
  · intro firsts broken keys pages rest hkeys hpages hbreaks
    exact play_broken hkeys hpages hbreaks region rest
  · intro s records hread
    have hread : List.Forall₂ (fun item r => CallRecord.ofItem item = .ok r)
        (Shelf.items (s.beyond none)) records := hread
    exact Shelf.ends_scanning hread []

def CallRecord.neighbourRecord : CallRecord :=
  { CallRecord.sampleRecord with groupId := CallRecord.sampleRecord.callId }

/-- The entries of two calls of a region, and between them one that does not
match. -/
def sampleShelf : Shelf where
  entries :=
    [(Request.key "g", some CallRecord.sampleRecord.toItem),
      (Request.key "h", none),
      (Request.key "c", some CallRecord.neighbourRecord.toItem)]
  distinct := by decide
  keyed := by decide

/-- A shelf is scanned in three pages, one entry each: the second page holds no
items, and the third names an empty key. -/
theorem three_pages_scanned :
    let records := [CallRecord.sampleRecord, CallRecord.neighbourRecord]
    let played := (StoreCall.inRegion "r").begin.play
      [.ok (.map [("Items", .list [CallRecord.sampleRecord.toItem]),
          ("LastEvaluatedKey", Request.key "g")]),
        .ok (.map [("LastEvaluatedKey", Request.key "h")]),
        .ok (.map [("Items", .list [CallRecord.neighbourRecord.toItem]),
          ("LastEvaluatedKey", .map [])])]
    played.requests = [.query "r" none, .query "r" (some (Request.key "g")),
        .query "r" (some (Request.key "h"))] ∧
      played.outcome = .ok (.records records) ∧
      Pending.Ends
        (fun (_ : Unit) q reply _ => sampleShelf.Serves sampleTable "r" q reply)
        (fun outcome _ => outcome = .ok (.records records)) ()
        (StoreCall.inRegion "r").begin := by
  obtain ⟨-, hwhole, -, hserver⟩ := region_scan sampleTable "r"
  intro records played
  have hread : ∀ r : CallRecord, List.Forall₂
      (fun item r => CallRecord.ofItem item = .ok r) [r.toItem] [r] :=
    fun r => .cons r.ofItem_toItem .nil
  have hkeys : List.Forall₂ Reply.Names
      [.ok (.map [("Items", .list [CallRecord.sampleRecord.toItem]),
          ("LastEvaluatedKey", Request.key "g")]),
        .ok (.map [("LastEvaluatedKey", Request.key "h")])]
      [Request.key "g", Request.key "h"] :=
    .cons ⟨_, rfl, rfl, rfl⟩ (.cons ⟨_, rfl, rfl, rfl⟩ .nil)
  have hlast : Reply.NamesNone
      (.ok (.map [("Items", .list [CallRecord.neighbourRecord.toItem]),
        ("LastEvaluatedKey", .map [])])) := by
    refine ⟨_, rfl, ?_⟩
    rintro key ⟨⟩
    rfl
  obtain ⟨hrequests, houtcome⟩ := hwhole _ _ _
    [[CallRecord.sampleRecord], []] _ [] hkeys hlast
    (.cons ⟨_, _, rfl, rfl, hread _⟩ (.cons ⟨_, _, rfl, rfl, .nil⟩ .nil))
    ⟨_, _, rfl, rfl, hread _⟩
  refine ⟨hrequests, houtcome, hserver sampleShelf records ?_⟩
  exact .cons (CallRecord.ofItem_toItem _)
    (.cons (CallRecord.ofItem_toItem _) .nil)

end CallRegistry
