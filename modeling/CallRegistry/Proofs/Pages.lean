import CallRegistry.Proofs.OneGroup

/-!
# Queries that come in pages

A query of the region index lists each item whose region is the value asked for,
once.  The list is cut into pages in any way, empty pages included.  A page that
is not the last comes with a key, of any shape but not void, and a query that
gives the key back gets the page after it.
-/

namespace CallRegistry

open TableService

/-- The items that have this value under this name, each once. -/
def Table.Lists (t : Table) (name : String) (value : Datum)
    (items : List Datum) : Prop :=
  ∃ keys : List String, keys.Nodup ∧
    (∀ key, key ∈ keys ↔ (t key).bind (·.get? name) = some value) ∧
    items = keys.filterMap t

/-- A table, and the pages that are to come after each key handed out. -/
structure Catalog where
  table : Table
  upcoming : Datum → List (List Datum)

namespace Catalog

/-- The pages that a query of the region index starts. -/
def Asks (c : Catalog) (value : Datum) : Option Datum → List (List Datum) → Prop
  | none, pages => c.table.Lists "region" value pages.flatten
  | some key, pages => pages = c.upcoming key

/-- The fields of a response hold a page. -/
def Shows (fields : Form) (page : List Datum) : Prop :=
  fields.lookup "Items" = some (.list page) ∨
    fields.lookup "Items" = none ∧ page = []

/-- The response with the first of some pages, and what is then to come. -/
inductive Turns (c : Catalog) : List (List Datum) → Form → Catalog → Prop
  | last {page : List Datum} {fields : Form} (hpage : Shows fields page)
      (hlast : ∀ key, fields.lookup "LastEvaluatedKey" = some key →
        key.isVoid = true) :
      Turns c [page] fields c
  | more {page next : List Datum} {more : List (List Datum)} {key : Datum}
      {fields : Form} (hpage : Shows fields page)
      (hkey : fields.lookup "LastEvaluatedKey" = some key)
      (hvoid : key.isVoid = false) :
      Turns c (page :: next :: more) fields
        { c with upcoming := Function.update c.upcoming key (next :: more) }

theorem exists_turns (c : Catalog) (page : List Datum)
    (more : List (List Datum)) :
    ∃ fields c', c.Turns (page :: more) fields c' := by
  cases more with
  | nil =>
      refine ⟨[("Items", .list page)], c, .last (Or.inl rfl) ?_⟩
      intro key hkey
      contradiction
  | cons next more =>
      exact ⟨[("Items", .list page), ("LastEvaluatedKey", .bool true)], _,
        .more (Or.inl rfl) rfl rfl⟩

end Catalog

namespace TableService

/-- A service that loses no reply and answers queries page by page. -/
inductive Paged (config : TableConfig) (c : Catalog) (q : Request) :
    Reply → Catalog → Prop
  | ofTable {reply : Reply} {t' : Table}
      (hother : ∀ value after, commandOf? config q ≠
        some (.query config.regionIndex "region" value after))
      (hreliable : Reliable config c.table q reply t') :
      Paged config c q reply { c with table := t' }
  | page {value : Datum} {after : Option Datum} {pages : List (List Datum)}
      {fields : Form} {c' : Catalog}
      (hquery : commandOf? config q =
        some (.query config.regionIndex "region" value after))
      (hasks : c.Asks value after pages) (hturns : c.Turns pages fields c') :
      Paged config c q (.ok (.map fields)) c'

theorem commandOf?_ne_query {q : Request} {group : String}
    (hq : q.group? = some group) (config : TableConfig) (index : Datum)
    (name : String) (value : Datum) (after : Option Datum) :
    commandOf? config q ≠ some (.query index name value after) := by
  cases q with
  | getItem other => simp [commandOf?_getItem]
  | putItem record => simp [commandOf?_putItem]
  | deleteItem other call => simp [commandOf?_deleteItem]
  | query region after => simp [Request.group?] at hq

theorem paged_of_group {config : TableConfig} {c c' : Catalog} {q : Request}
    {group : String} {reply : Reply} (hq : q.group? = some group) :
    Paged config c q reply c' ↔
      Reliable config c.table q reply c'.table ∧ c'.upcoming = c.upcoming := by
  constructor
  · intro h
    cases h with
    | ofTable _ hreliable => exact ⟨hreliable, rfl⟩
    | page hquery => exact absurd hquery (commandOf?_ne_query hq _ _ _ _ _)
  · rintro ⟨hreliable, hupcoming⟩
    have hother := fun value after =>
      commandOf?_ne_query hq config config.regionIndex "region" value after
    obtain ⟨t', upcoming⟩ := c'
    obtain rfl : upcoming = c.upcoming := hupcoming
    exact .ofTable hother hreliable

theorem paged_query_iff {config : TableConfig} {c c' : Catalog}
    {region : String} {after : Option Datum} {reply : Reply} :
    Paged config c (.query region after) reply c' ↔
      ∃ pages fields, c.Asks (Attribute.ofText region) after pages ∧
        c.Turns pages fields c' ∧ reply = .ok (.map fields) := by
  constructor
  · intro h
    cases h with
    | ofTable hother => exact absurd (commandOf?_query ..) (hother _ _)
    | page hquery hasks hturns =>
        rw [commandOf?_query] at hquery
        simp only [Option.some.injEq, Command.query.injEq, true_and] at hquery
        obtain ⟨rfl, rfl⟩ := hquery
        exact ⟨_, _, hasks, hturns, rfl⟩
  · rintro ⟨pages, fields, hasks, hturns, rfl⟩
    exact .page (commandOf?_query ..) hasks hturns

end TableService

namespace Pending

theorem paged_keeper (config : TableConfig) (t : Table) (group : String) :
    Keeper (Paged config) group fun held c =>
      c.table = Function.update t group (held.map CallRecord.toItem) where
  answers := by
    intro held c q hc hq
    obtain ⟨reply, t', hreliable⟩ :=
      (reliable_keeper config t group).answers hc hq
    exact ⟨reply, ⟨t', c.upcoming⟩, (paged_of_group hq).mpr ⟨hreliable, rfl⟩⟩
  acts := by
    intro held c q reply c' hc hq hserved
    have hreliable := ((paged_of_group hq).mp hserved).1
    exact (reliable_keeper config t group).acts hc hq hreliable

/-! ## A scan -/

variable {config : TableConfig} {region : String} {c c' : Catalog}
  {fields : Form} {found records : List CallRecord}

theorem mapM_ofItem_toItem (records : List CallRecord) :
    (records.map CallRecord.toItem).mapM (fun item =>
      (CallRecord.ofItem item).mapError StoreFailure.ofItem) = .ok records := by
  induction records with
  | nil => rfl
  | cons r records ih =>
      rw [List.map_cons, List.mapM_cons, r.ofItem_toItem, ih]
      rfl

theorem readPage_of_shows
    (hpage : Catalog.Shows fields (records.map CallRecord.toItem)) :
    readPage fields = .ok records := by
  rcases hpage with hitems | ⟨hnone, hempty⟩
  · simp only [readPage, hitems, Datum.members?]
    exact mapM_ofItem_toItem records
  · rw [List.map_eq_nil_iff] at hempty
    simp [readPage, hnone, hempty]

theorem readScan_last
    (hpage : Catalog.Shows fields (records.map CallRecord.toItem))
    (hlast : ∀ key, fields.lookup "LastEvaluatedKey" = some key →
      key.isVoid = true) :
    readScan region found (.map fields) =
      .finished (.ok (.records (found ++ records))) := by
  have hkey : nextKey? fields = none := by
    unfold nextKey?
    split
    next key hlookup => simp [hlast key hlookup]
    next => rfl
  simp [readScan, readPage_of_shows hpage, hkey]

theorem readScan_more {key : Datum}
    (hpage : Catalog.Shows fields (records.map CallRecord.toItem))
    (hkey : fields.lookup "LastEvaluatedKey" = some key)
    (hvoid : key.isVoid = false) :
    readScan region found (.map fields) =
      .waiting (.scanning region (found ++ records) (some key)) := by
  have hnext : nextKey? fields = some key := by
    simp [nextKey?, hkey, hvoid]
  simp [readScan, readPage_of_shows hpage, hnext]

/-- What a page leads to is as wanted. -/
def GoesOn (config : TableConfig) (post : StoreOutcome → Catalog → Prop)
    (c : Catalog) : Progress → Prop
  | .finished outcome => post outcome c
  | .waiting next => Ends (Paged config) post c next

theorem GoesOn.mono {post post' : StoreOutcome → Catalog → Prop}
    {progress : Progress} (h : GoesOn config post c progress)
    (hpost : ∀ outcome c', post outcome c' → post' outcome c') :
    GoesOn config post' c progress := by
  cases progress with
  | waiting next => exact Ends.mono h hpost
  | finished outcome => exact hpost _ _ h

theorem ends_scanning {post : StoreOutcome → Catalog → Prop}
    {after : Option Datum}
    (hasked : ∃ page more,
      c.Asks (Attribute.ofText region) after (page :: more))
    (hturned : ∀ pages fields c', c.Asks (Attribute.ofText region) after pages →
      c.Turns pages fields c' →
      GoesOn config post c' (readScan region found (.map fields))) :
    Ends (Paged config) post c (.scanning region found after) := by
  refine .intro ?_ ?_ ?_
  · obtain ⟨page, more, hasks⟩ := hasked
    obtain ⟨fields, c', hturns⟩ := c.exists_turns page more
    exact ⟨_, c', paged_query_iff.mpr ⟨_, _, hasks, hturns, rfl⟩⟩
  · intro reply c' outcome hserved hresume
    obtain ⟨pages, fields, hasks, hturns, rfl⟩ := paged_query_iff.mp hserved
    have hgoes := hturned pages fields c' hasks hturns
    change readScan region found (.map fields) = _ at hresume
    rwa [hresume] at hgoes
  · intro reply c' next hserved hresume
    obtain ⟨pages, fields, hasks, hturns, rfl⟩ := paged_query_iff.mp hserved
    have hgoes := hturned pages fields c' hasks hturns
    change readScan region found (.map fields) = _ at hresume
    rwa [hresume] at hgoes

/-- Pages that hold these records are read to the last. -/
theorem goesOn_of_turns {pages : List (List Datum)} {t : Table}
    (hturns : c.Turns pages fields c') (htable : c.table = t)
    (hrecords : pages.flatten = records.map CallRecord.toItem) :
    GoesOn config
      (fun outcome c₁ =>
        outcome = .ok (.records (found ++ records)) ∧ c₁.table = t)
      c' (readScan region found (.map fields)) := by
  induction pages generalizing c c' fields found records with
  | nil => cases hturns
  | cons page pages ih =>
      rw [List.flatten_cons, eq_comm, List.map_eq_append_iff] at hrecords
      obtain ⟨here, rest, rfl, rfl, hrest⟩ := hrecords
      cases hturns with
      | last hpage hlast =>
          rw [List.flatten_nil, List.map_eq_nil_iff] at hrest
          subst rest
          rw [readScan_last hpage hlast, List.append_nil]
          exact ⟨rfl, htable⟩
      | @more _ next more key _ hpage hkey hvoid =>
          rw [readScan_more hpage hkey hvoid, ← List.append_assoc]
          refine ends_scanning ?_ ?_
          · exact ⟨next, more, by simp [Catalog.Asks]⟩
          · intro pages fields c₁ hasks hturns
            obtain rfl : pages = next :: more := by
              simpa [Catalog.Asks] using hasks
            exact ih hturns htable hrest.symm

theorem lists_table_iff {reg : Registry} {items : List Datum} :
    reg.table.Lists "region" (Attribute.ofText region) items ↔
      ∃ keys : List String, keys.Nodup ∧
        (∀ key, key ∈ keys ↔
          ∃ r, reg key = some r ∧ r.backendRegion.val = region) ∧
        items = (keys.filterMap reg).map CallRecord.toItem := by
  have hregion : ∀ key, (reg.table key).bind (·.get? "region") =
      some (Attribute.ofText region) ↔
        ∃ r, reg key = some r ∧ r.backendRegion.val = region := by
    intro key
    cases hheld : reg key <;>
      simp [Registry.table, hheld, Attribute.ofText_injective.eq_iff]
  simp only [Table.Lists, hregion, List.map_filterMap]
  rfl

/-- A scan gives the records of its region, each once. -/
theorem ends_inRegion {reg : Registry} (hc : c.table = reg.table)
    (hlists : ∃ items, c.table.Lists "region" (Attribute.ofText region) items) :
    Ends (Paged config)
      (fun outcome c' =>
        (∃ keys : List String, keys.Nodup ∧
          (∀ key, key ∈ keys ↔
            ∃ r, reg key = some r ∧ r.backendRegion.val = region) ∧
          outcome = .ok (.records (keys.filterMap reg))) ∧
        c'.table = c.table)
      c (StoreCall.inRegion region).begin := by
  refine ends_scanning ?_ ?_
  · obtain ⟨items, hlists⟩ := hlists
    exact ⟨items, [], by simpa [Catalog.Asks] using hlists⟩
  · intro pages fields c' hasks hturns
    rw [Catalog.Asks, hc, lists_table_iff] at hasks
    obtain ⟨keys, hnodup, hkeys, hrecords⟩ := hasks
    refine GoesOn.mono (goesOn_of_turns hturns rfl hrecords) ?_
    rintro outcome c₁ ⟨houtcome, htable⟩
    exact ⟨⟨keys, hnodup, hkeys, houtcome⟩, htable⟩

end Pending

end CallRegistry
